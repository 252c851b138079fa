import Reporting.Proofs.Scopes

/-!
# Names in subqueries

The subquery for a directory lookup calls its table by the table's own name. So its own columns are
always taken from that table, but the key is taken from the row of the report only as long as the
table of the report has another name: otherwise the key is captured, and the table is compared with
itself (`directory_resolves`).
-/

namespace Reporting

namespace Sql

/-- The name that the columns of a table are taken by. -/
def TableRef.calledAs (t : TableRef) : String := t.label.getD t.name

/-- The names of the tables that a query reads. -/
def SelectQuery.scope (q : SelectQuery) : List String :=
  q.source.calledAs :: q.joins.map (·.table.calledAs)

section Resolve

/-- The table that a name stands for in nested queries, the innermost of which comes first: the
number of its query and its place there. The innermost query with a table of that name decides, and
has to have only one. `alike` tells which names are one to the database. -/
def resolve (alike : String → String → Bool) (name : String) :
    List (List String) → Option (Nat × Nat)
  | [] => none
  | scope :: outer =>
    match scope.findIdxs (alike name) with
    | [] => (resolve alike name outer).map fun (depth, place) => (depth + 1, place)
    | [place] => some (0, place)
    | _ => none

variable {alike : String → String → Bool} {name : String} {scope : List String}
  {outer : List (List String)}

theorem resolve_of_unlike (h : ∀ other ∈ scope, alike name other = false) :
    resolve alike name (scope :: outer)
      = (resolve alike name outer).map fun (depth, place) => (depth + 1, place) := by
  have hnone : scope.findIdxs (alike name) = [] := by
    rw [List.findIdxs_eq_nil_iff]
    exact h
  rw [resolve, hnone]

/-- The name of the first table of a query is that table's if no other one there is called so. -/
theorem resolve_first {first : String} (hfirst : alike name first = true) :
    resolve alike name ((first :: scope) :: outer)
      = if scope.any (alike name) then none else some (0, 0) := by
  have hnil : scope.findIdxs (alike name) (0 + 1) = [] ↔ scope.any (alike name) = false := by
    rw [List.findIdxs_eq_nil_iff, List.any_eq_false]
    simp
  rw [resolve, List.findIdxs_cons, if_pos hfirst]
  cases hothers : scope.findIdxs (alike name) (0 + 1) with
  | nil =>
    rw [hnil.1 hothers]
    rfl
  | cons i others =>
    rw [Bool.eq_true_of_not_eq_false (mt hnil.2 (by simp [hothers]))]
    rfl

/-- A subquery with one table takes the name of the outer query's first table for its own if the
two are called alike. -/
theorem resolve_outer_first {inner : String} (hself : alike name name = true) :
    resolve alike name [[inner], name :: scope]
      = if alike name inner then some (0, 0)
        else if scope.any (alike name) then none else some (1, 0) := by
  cases hinner : alike name inner with
  | true =>
    rw [resolve_first hinner]
    rfl
  | false =>
    rw [resolve_of_unlike (by simpa using hinner), resolve_first hself, apply_ite (Option.map _)]
    rfl

end Resolve

end Sql

open Sql (Expr SelectItem SelectQuery resolve resolve_first resolve_outer_first)

/-- The table that the text of a directory lookup is taken from. -/
def Lookup.directoryTable (l : Lookup) : String :=
  if l.translated then l.translationTable else l.tableName

namespace Projection

theorem tables_languageCondition (table language : String) :
    (languageCondition table language).tables = [some table] := rfl

theorem tables_valueAndDisplay (table : String) (display : Expr) :
    (valueAndDisplay table display).tables = some table :: display.tables := by
  simp [valueAndDisplay]

theorem tables_lookup (table column : String) (display key : Expr) (conditions : List Expr) :
    SelectQuery.tables {
      select := [⟨display, none⟩]
      source := { name := table }
      filters := .equals (.ofTable table column) key :: conditions }
      = (display.tables ++ [some table]) ++ key.tables ++ Expr.tablesOf conditions := by
  simp [SelectQuery.tables, SelectItem.tablesOf, SelectItem.tables, Sql.Join.tablesOf,
    Sql.OrderItem.tablesOf]

/-- A text is looked up in a subquery of one table, whose columns stand around those of the key. -/
theorem exists_subquery (l : Lookup) (key : Expr) (language : String) :
    ∃ q before after, directoryText l key language = .subquery q
      ∧ q.scope = [l.directoryTable]
      ∧ q.tables = before ++ key.tables ++ after
      ∧ ∀ t ∈ before ++ after, t = some l.directoryTable := by
  refine ⟨_, _, _, rfl, rfl, tables_lookup _ _ _ _ _, ?_⟩
  change ∀ t ∈ _, t = some (if l.translated then l.translationTable else l.tableName)
  generalize (if l.translated then l.translationTable else l.tableName) = table
  intro t ht
  simp only [List.mem_append, List.mem_singleton] at ht
  obtain (ht | ht) | ht := ht
  · split at ht
    · simpa [tables_valueAndDisplay] using ht
    · simpa using ht
  · exact ht
  · split at ht
    · simpa [tables_languageCondition] using ht
    · cases ht

section Report

variable {r : Resolver} {language : String} {d : Definition} {p : Projection}

/-- What a name stands for in a query of one table within the query of a report. -/
abbrev resolveIn (alike : String → String → Bool) (d : Definition) (p : Projection)
    (q : SelectQuery) (name : String) : Option (Nat × Nat) :=
  resolve alike name [q.scope,
    { select := p.selected, source := { name := d.tableName }, joins := p.joins : SelectQuery }.scope]

/-- The columns of a looked-up text are those of its own table in the subquery. Its key is the one
of the row of the report if and only if the report's table is not called like that table and no
joined table is called like the report's; it is a column of the subquery's table in the first
case. -/
theorem directory_resolves (h : ofDefinition r language d = .ok p)
    (alike : String → String → Bool) (hself : ∀ name, alike name name = true)
    {item : Item} (hitem : item ∈ d.printedItems) {column : String}
    (hcolumn : item.columnName = some column) (hkind : item.lookupKind = .directory) :
    ∃ l q label before after, r.directory column = some l
      ∧ directoryText l (rawValue d.tableName item column) language = .subquery q
      ∧ displayColumn item column label (.subquery q) ∈ p.columns
      ∧ q.scope = [l.directoryTable]
      ∧ q.tables = before ++ (rawValue d.tableName item column).tables ++ after
      ∧ (∀ t ∈ before ++ after, ∃ name, t = some name
        ∧ resolveIn alike d p q name = some (0, 0))
      ∧ ∀ t ∈ (rawValue d.tableName item column).tables, ∃ name, t = some name
        ∧ resolveIn alike d p q name
          = if alike d.tableName l.directoryTable then some (0, 0)
            else if (p.joins.map (·.table.calledAs)).any (alike d.tableName) then none
            else some (1, 0) := by
  obtain ⟨parts, hparts, hcolumns, -⟩ := exists_parts (ofItems_of_ofDefinition h)
  obtain ⟨part, hpart, n, hof⟩ := exists_part_of_mem hparts hitem
  obtain ⟨label, text?, -, htext, hpcolumns⟩ := ofItem_eq_ok hcolumn hof
  obtain ⟨hplain, -⟩ | ⟨-, -, l, hl, rfl⟩ | ⟨hjoined, -⟩ := itemText_cases htext
  · rw [hkind] at hplain
    cases hplain
  · obtain ⟨q, before, after, hq, hscope, htables, hown⟩ :=
      exists_subquery l (rawValue d.tableName item column) language
    refine ⟨l, q, label, before, after, hl, hq, ?_, hscope, htables, ?_, ?_⟩
    · rw [hcolumns, List.mem_flatMap]
      exact ⟨part, hpart, by simp [hpcolumns, hq]⟩
    · intro t ht
      refine ⟨l.directoryTable, hown t ht, ?_⟩
      rw [resolveIn, hscope, resolve_first (hself _)]
      rfl
    · intro t ht
      refine ⟨d.tableName, eq_of_mem_tables_rawValue t ht, ?_⟩
      rw [resolveIn, hscope]
      exact resolve_outer_first (hself _)
  · rw [hkind] at hjoined
    cases hjoined

end Report

def orderPartner : Item where
  id := 2
  name := "Partner"
  columnName := some "C_BPartner_ID"
  displayType := .tableDir

theorem directory_resolves_partner :
    orderPartner ∈ orders.printedItems ∧ orderPartner.columnName = some "C_BPartner_ID"
      ∧ orderPartner.lookupKind = .directory
      ∧ ∃ p q label, ofDefinition documentTypes "en_US" orders = .ok p
        ∧ displayColumn orderPartner "C_BPartner_ID" label (.subquery q) ∈ p.columns
        ∧ q.scope = ["C_BPartner"]
        ∧ resolveIn (· == ·) orders p q "C_Order" = some (1, 0) := by
  have hprinted : orders.printedItems = orders.items :=
    Definition.printedItems_of_sorted (by decide) (by decide)
  have hitem : orderPartner ∈ orders.printedItems := by
    rw [hprinted]
    decide
  obtain ⟨p, hp, hjoins⟩ : ∃ p, ofDefinition documentTypes "en_US" orders = .ok p
      ∧ p.joins.map (·.table.calledAs) = ["t1", "t2", "t3"] := by
    rw [ofDefinition, hprinted]
    exact ⟨_, rfl, by decide +kernel⟩
  obtain ⟨l, q, label, before, after, hl, -, hc, hscope, htables, -, hkey⟩ :=
    directory_resolves hp (· == ·) (fun _ => beq_self_eq_true _) hitem rfl rfl
  obtain rfl := Option.some.inj hl
  obtain ⟨name, hname, hkey⟩ := hkey (some "C_Order") List.mem_cons_self
  obtain rfl := Option.some.inj hname
  refine ⟨hitem, rfl, rfl, p, q, label, hp, hc, hscope.trans (by decide +kernel), hkey.trans ?_⟩
  rw [hjoins]
  decide +kernel

def ownOrder : Item where
  id := 1
  name := "Order"
  columnName := some "C_Order_ID"
  displayType := .tableDir

/-- Orders that are looked up in the table of orders. -/
def ownOrders : Definition where
  id := 1
  name := "Orders"
  tableName := "C_Order"
  items := [ownOrder]

/-- By convention the subquery has the same table, which captures the key. -/
theorem directory_captured : ∃ p q label,
    ofDefinition (.conventional fun _ => none) "en_US" ownOrders = .ok p
      ∧ displayColumn ownOrder "C_Order_ID" label (.subquery q) ∈ p.columns
      ∧ q.filters = [.equals (.ofTable "C_Order" "C_Order_ID")
        (rawValue ownOrders.tableName ownOrder "C_Order_ID")]
      ∧ (rawValue ownOrders.tableName ownOrder "C_Order_ID").tables = [some "C_Order"]
      ∧ resolveIn (· == ·) ownOrders p q "C_Order" = some (0, 0) := by
  have hprinted : ownOrders.printedItems = ownOrders.items :=
    Definition.printedItems_of_sorted (by decide) (by decide)
  rw [ofDefinition, hprinted]
  refine ⟨_, _, _, rfl, List.mem_cons_of_mem _ List.mem_cons_self, ?_, rfl, ?_⟩
  · cbv
  · decide +kernel

end Projection

end Reporting
