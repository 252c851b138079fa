import Mathlib.Data.List.Nodup
import Mathlib.Data.List.Permutation
import Reporting.Proofs.Digits
import Reporting.Proofs.Parts

/-!
# The scopes of joined tables

Joined tables are numbered in the order of the joins. The conditions of a join name nothing but the
table of the report, the tables joined before it and its own, and the text of an item names only the
tables that are joined for it (`joins_scoped`).
-/

namespace Reporting

namespace Sql

mutual

/-- The tables that the columns of an expression are taken from. Text that stands as it is has no
columns here. -/
def Expr.tables : Expr → List (Option String)
  | .column table _ => [table]
  | .raw _ | .literal _ | .placeholder _ => []
  | .call _ args => Expr.tablesOf args
  | .concat parts => Expr.tablesOf parts
  | .subquery query => SelectQuery.tables query
  | .nullProbe e => Expr.tables e
  | .compare _ left right => Expr.tables left ++ Expr.tables right
  | .inList e list _ => Expr.tables e ++ Expr.tablesOf list
  | .between e low high _ => Expr.tables e ++ Expr.tables low ++ Expr.tables high
  | .isNull e _ => Expr.tables e
  | .or parts => Expr.tablesOf parts
  | .and parts => Expr.tablesOf parts
  | .nested e => Expr.tables e

def Expr.tablesOf : List Expr → List (Option String)
  | [] => []
  | e :: es => Expr.tables e ++ Expr.tablesOf es

def SelectItem.tables : SelectItem → List (Option String)
  | ⟨e, _⟩ => Expr.tables e

def SelectItem.tablesOf : List SelectItem → List (Option String)
  | [] => []
  | i :: is => SelectItem.tables i ++ SelectItem.tablesOf is

def Join.tables : Join → List (Option String)
  | ⟨_, _, conditions⟩ => Expr.tablesOf conditions

def Join.tablesOf : List Join → List (Option String)
  | [] => []
  | j :: js => Join.tables j ++ Join.tablesOf js

def OrderItem.tables : OrderItem → List (Option String)
  | ⟨e, _⟩ => Expr.tables e

def OrderItem.tablesOf : List OrderItem → List (Option String)
  | [] => []
  | o :: os => OrderItem.tables o ++ OrderItem.tablesOf os

def SelectQuery.tables : SelectQuery → List (Option String)
  | ⟨select, _, joins, filters, groupBy, orderBy⟩ =>
    SelectItem.tablesOf select ++ Join.tablesOf joins ++ Expr.tablesOf filters
      ++ Expr.tablesOf groupBy ++ OrderItem.tablesOf orderBy

end

namespace Expr

@[simp] theorem tablesOf_nil : tablesOf [] = [] := rfl

@[simp] theorem tablesOf_cons (e : Expr) (es : List Expr) :
    tablesOf (e :: es) = e.tables ++ tablesOf es := rfl

@[simp] theorem tables_ofTable (table name : String) : (ofTable table name).tables = [some table] :=
  rfl

@[simp] theorem tables_text (s : String) : (text s).tables = [] := rfl

@[simp] theorem tables_literal (v : Parameter) : (literal v).tables = [] := rfl

@[simp] theorem tables_equals (left right : Expr) :
    (equals left right).tables = left.tables ++ right.tables := rfl

@[simp] theorem tables_concat (parts : List Expr) : (concat parts).tables = tablesOf parts := rfl

@[simp] theorem tables_coalesce (args : List Expr) : (coalesce args).tables = tablesOf args := rfl

end Expr

end Sql

open Sql (Expr Join JoinKind)

/-- The text of the item is looked up in a joined table. -/
def Item.isJoined (i : Item) : Bool :=
  i.columnName.isSome && i.lookupKind == .joined

namespace Projection

section Labels

/-- A name that a joined table could have. -/
def isJoinName (s : String) : Bool :=
  match s.toList with
  | 't' :: cs => (Text.natOf? cs).isSome
  | _ => false

theorem toList_joinLabel (n : Nat) : (joinLabel n).toList = 't' :: Text.digits (n + 1) := by
  have htext : joinLabel n = "t" ++ (n + 1).repr := by
    simp [joinLabel]
    rfl
  rw [htext, String.toList_append, Nat.toList_repr]
  rfl

theorem isJoinName_joinLabel (n : Nat) : isJoinName (joinLabel n) = true := by
  rw [isJoinName, toList_joinLabel]
  simp [Text.natOf?_digits]

theorem joinLabel_injective : Function.Injective joinLabel := by
  intro m n h
  have hdigits := congrArg String.toList h
  rw [toList_joinLabel, toList_joinLabel, List.cons.injEq] at hdigits
  have hnat := congrArg Text.natOf? hdigits.2
  rw [Text.natOf?_digits, Text.natOf?_digits] at hnat
  exact Nat.succ.inj (Option.some.inj hnat)

end Labels

section Scoped

/-- A join with a number of joins before it has the next label, and its conditions name the table of
the report, the tables of those joins and its own. -/
structure ScopedAt (table : String) (before : Nat) (join : Join) : Prop where
  label : join.table.label = some (joinLabel before)
  names : ∀ condition ∈ join.conditions, ∀ t ∈ condition.tables,
    t = some table ∨ ∃ n ≤ before, t = some (joinLabel n)

def Scoped (table : String) (before : Nat) (joins : List Join) : Prop :=
  ∀ i join, joins[i]? = some join → ScopedAt table (before + i) join

variable {table : String} {before : Nat}

theorem scoped_nil : Scoped table before [] := by
  intro i join h
  cases h

theorem Scoped.cons {join : Join} {joins : List Join} (hjoin : ScopedAt table before join)
    (hjoins : Scoped table (before + 1) joins) : Scoped table before (join :: joins) := by
  intro i join' h
  cases i with
  | zero =>
    cases h
    exact hjoin
  | succ i =>
    rw [Nat.add_comm i 1, ← Nat.add_assoc]
    exact hjoins i join' h

/-- Joins that are numbered on from where others end make up one list with them. -/
theorem Scoped.append {a b : List Join} (ha : Scoped table before a)
    (hb : Scoped table (before + a.length) b) : Scoped table before (a ++ b) := by
  intro i join h
  rcases Nat.lt_or_ge i a.length with hi | hi
  · rw [List.getElem?_append_left hi] at h
    exact ha i join h
  · rw [List.getElem?_append_right hi] at h
    have hjoin := hb _ join h
    rwa [Nat.add_assoc, Nat.add_sub_cancel' hi] at hjoin

theorem Scoped.labels {joins : List Join} (h : Scoped table before joins) :
    joins.map (·.table.label)
      = (List.range joins.length).map fun i => some (joinLabel (before + i)) := by
  refine List.ext_getElem (by simp) fun i hi _ => ?_
  rw [List.getElem_map, List.getElem_map, List.getElem_range]
  rw [List.length_map] at hi
  exact (h i _ (List.getElem?_eq_getElem hi)).label

/-- No joined table has the label of another one or the name of the report's table. -/
theorem Scoped.nodup {joins : List Join} (htable : isJoinName table = false)
    (h : Scoped table before joins) : (some table :: joins.map (·.table.label)).Nodup := by
  rw [h.labels, List.nodup_cons]
  constructor
  · intro hmem
    obtain ⟨i, -, hi⟩ := List.mem_map.1 hmem
    rw [← Option.some.inj hi, isJoinName_joinLabel] at htable
    cases htable
  · refine List.Nodup.map (fun i j hij => ?_) List.nodup_range
    exact Nat.add_left_cancel (joinLabel_injective (Option.some.inj hij))

end Scoped

section Items

variable {r : Resolver} {language table : String}

theorem eq_of_mem_tables_rawValue {item : Item} {column : String} :
    ∀ t ∈ (rawValue table item column).tables, t = some table := by
  intro t ht
  unfold rawValue at ht
  split at ht
  · split at ht
    · cases ht
    · simpa using ht
  · simpa using ht

theorem scopedAt_baseJoin {l : Lookup} {mandatory : Bool} {key : Expr} {before : Nat}
    (hkey : ∀ t ∈ key.tables, t = some table) :
    ScopedAt table before (baseJoin l mandatory (joinLabel before) key) where
  label := rfl
  names := by
    have hown : ∀ t, t = some (joinLabel before) →
        t = some table ∨ ∃ n ≤ before, t = some (joinLabel n) :=
      fun t ht => .inr ⟨before, Nat.le_refl before, ht⟩
    intro condition hcondition t ht
    rcases List.mem_cons.1 hcondition with rfl | hcondition
    · rw [Expr.tables_equals, List.mem_append, Expr.tables_ofTable, List.mem_singleton] at ht
      exact ht.elim (fun ht => .inl (hkey t ht)) (hown t)
    · split at hcondition
      · rw [List.mem_singleton.1 hcondition] at ht
        exact hown t (by simpa using ht)
      · cases hcondition

theorem scopedAt_translationJoin (l : Lookup) (before : Nat) : ScopedAt table (before + 1)
    (translationJoin l language (joinLabel before) (joinLabel (before + 1))) where
  label := rfl
  names := by
    intro condition hcondition t ht
    simp only [translationJoin, List.mem_cons, List.not_mem_nil, or_false] at hcondition
    rcases hcondition with rfl | rfl
    · simp only [Expr.tables_equals, Expr.tables_ofTable, List.mem_append, List.mem_singleton] at ht
      exact .inr (ht.elim (⟨before, Nat.le_succ before, ·⟩) (⟨before + 1, Nat.le_refl _, ·⟩))
    · simp only [languageCondition, Expr.tables_equals, Expr.tables_ofTable, Expr.tables_text,
        List.append_nil, List.mem_singleton] at ht
      exact .inr ⟨before + 1, Nat.le_refl _, ht⟩

/-- The joins of a lookup: the table that a key points into, and right after it the translations in
a language if that table is translated. -/
structure JoinsOf (l : Lookup) (mandatory : Bool) (language : String) (base : Join)
    (rest : List Join) : Prop where
  kind : base.kind = if mandatory then .inner else .leftOuter
  name : base.table.name = l.tableName
  untranslated : l.translated = false → rest = []
  translated : l.translated = true → ∃ translation label, rest = [translation]
    ∧ translation.kind = .leftOuter ∧ translation.table = ⟨l.translationTable, some label⟩
    ∧ languageCondition label language ∈ translation.conditions

section JoinedText

variable (l : Lookup) (mandatory : Bool) (key : Expr) (language : String) (before : Nat)

theorem joinsOf_joinedText : ∃ base rest,
    (joinedText l mandatory key language before).1 = base :: rest
      ∧ JoinsOf l mandatory language base rest := by
  cases htranslated : l.translated with
  | false =>
    simp only [joinedText, htranslated, Bool.false_eq_true, if_false]
    exact ⟨_, _, rfl, rfl, rfl, fun _ => rfl, fun h => by simp [htranslated] at h⟩
  | true =>
    simp only [joinedText, htranslated, if_true]
    exact ⟨_, _, rfl, rfl, rfl, fun h => by simp [htranslated] at h,
      fun _ => ⟨_, _, rfl, rfl, rfl, by simp [translationJoin]⟩⟩

/-- A text names only the tables that are joined for it. -/
theorem mem_labels_of_mem_tables_joinedText {t : Option String}
    (ht : t ∈ (joinedText l mandatory key language before).2.tables) :
    t ∈ (joinedText l mandatory key language before).1.map (·.table.label) := by
  cases htranslated : l.translated <;> cases hvalue : l.valueDisplayed <;>
    simpa [joinedText, htranslated, hvalue, valueAndDisplay, baseJoin, translationJoin, or_comm]
      using ht

end JoinedText

theorem scoped_joinedText {l : Lookup} {mandatory : Bool} {key : Expr} {before : Nat}
    (hkey : ∀ t ∈ key.tables, t = some table) :
    Scoped table before (joinedText l mandatory key language before).1 := by
  have hbase : ScopedAt table before (baseJoin l mandatory (joinLabel before) key) :=
    scopedAt_baseJoin hkey
  unfold joinedText
  split
  · exact .cons hbase (.cons (scopedAt_translationJoin l before) scoped_nil)
  · exact .cons hbase scoped_nil

theorem scoped_ofItem {before : Nat} {item : Item} {p : Projection}
    (h : ofItem r language table before item = .ok p) : Scoped table before p.joins := by
  cases hcolumn : item.columnName with
  | none =>
    rw [ofItem_of_columnName_eq_none hcolumn] at h
    cases h
    exact scoped_nil
  | some column =>
    obtain ⟨label, text?, -, htext, -⟩ := ofItem_eq_ok hcolumn h
    obtain ⟨-, hjoins, -⟩ | ⟨-, hjoins, -⟩ | ⟨-, l, -, hjoins, -⟩ := itemText_cases htext
    · exact hjoins ▸ scoped_nil
    · exact hjoins ▸ scoped_nil
    · exact hjoins ▸ scoped_joinedText eq_of_mem_tables_rawValue

theorem scoped_ofItems : ∀ {items : List Item} {before : Nat} {p : Projection},
    ofItems r language table before items = .ok p → Scoped table before p.joins
  | [], _, _, h => by
    cases h
    exact scoped_nil
  | item :: items, before, _, h => by
    obtain ⟨part, hpart, h⟩ := bind_eq_ok.1 h
    obtain ⟨p, hp, h⟩ := bind_eq_ok.1 h
    cases h
    exact (scoped_ofItem hpart).append (scoped_ofItems hp)

/-- A looked-up text has the joins of its lookup and names only their tables; nothing else is
joined. -/
def OwnJoins (r : Resolver) (language table : String) (item : Item) (part : Projection) : Prop :=
  if item.isJoined then
    ∃ l base rest column label text, joinedLookup r item = .ok l
      ∧ part.joins = base :: rest ∧ JoinsOf l item.mandatory language base rest
      ∧ item.columnName = some column
      ∧ part.columns = [rawColumn table item column, displayColumn item column label text]
      ∧ ∀ t ∈ text.tables, t ∈ part.joins.map (·.table.label)
  else part.joins = []

theorem ownJoins_ofItem {before : Nat} {item : Item} {part : Projection}
    (h : ofItem r language table before item = .ok part) :
    OwnJoins r language table item part := by
  unfold OwnJoins Item.isJoined
  cases hcolumn : item.columnName with
  | none =>
    rw [ofItem_of_columnName_eq_none hcolumn] at h
    cases h
    rfl
  | some column =>
    obtain ⟨label, text?, -, htext, hcolumns⟩ := ofItem_eq_ok hcolumn h
    obtain ⟨hkind, hjoins, -⟩ | ⟨hkind, hjoins, -⟩ | ⟨hkind, l, hl, hjoins, rfl⟩ :=
      itemText_cases htext
    · rw [hkind]
      exact hjoins
    · rw [hkind]
      exact hjoins
    · rw [hkind]
      obtain ⟨base, rest, hlist, hof⟩ := joinsOf_joinedText l item.mandatory
        (rawValue table item column) language before
      refine ⟨l, base, rest, column, label, _, hl, hjoins.trans hlist, hof, rfl, hcolumns, ?_⟩
      intro t ht
      rw [hjoins]
      exact mem_labels_of_mem_tables_joinedText _ _ _ _ _ ht

end Items

def documentType : Item where
  id := 1
  name := "Type"
  columnName := some "C_DocType_ID"
  displayType := .table
  referenceValueId := some 170
  mandatory := true

/-- Orders with their types, which are translated, their partners and the places they are from. -/
def orders : Definition where
  id := 1
  name := "Orders"
  tableName := "C_Order"
  items := [
    documentType,
    { id := 2, name := "Partner", columnName := some "C_BPartner_ID", displayType := .tableDir },
    { id := 3, name := "Location", columnName := some "C_Location_ID", displayType := .location }]

def documentTypes : Resolver :=
  .conventional fun _ => some {
    tableName := "C_DocType"
    keyColumn := "C_DocType_ID"
    displayColumn := "Name"
    translated := true }

theorem projection_orders : ∃ p, ofDefinition documentTypes "en_US" orders = .ok p
    ∧ p.joins.map (·.table.label) = [some "t1", some "t2", some "t3"] := by
  have hprinted : orders.printedItems = orders.items :=
    Definition.printedItems_of_sorted (by decide) (by decide)
  rw [ofDefinition, hprinted]
  exact ⟨_, rfl, by decide +kernel⟩

end Projection

end Reporting
