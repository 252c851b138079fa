import Mathlib.Data.List.Forall2
import Reporting.Proofs.Except
import Reporting.Query.Build

/-!
# What each item selects

A selection is put together from the parts that its items select, in their order (`exists_parts`).
-/

namespace Reporting

open Sql (Expr Join)

/-- Where the text shown for an item comes from. -/
abbrev Item.lookupKind (i : Item) : LookupKind :=
  i.displayType.lookupKind i.referenceValueId.isSome

theorem Item.displayAlias_of_columnName {i : Item} {column : String}
    (h : i.columnName = some column) :
    i.displayAlias = some s!"{column}_{i.id}_DisplayValue" := by
  rw [Item.displayAlias, h, Option.map_some]

/-- Items that are printed and in order already. -/
theorem Definition.printedItems_of_sorted {d : Definition}
    (hprinted : ∀ i ∈ d.items, i.active && i.printed)
    (hsorted : d.items.Pairwise (·.sequence ≤ ·.sequence)) : d.printedItems = d.items := by
  rw [printedItems, sortedBy, List.filter_eq_self.2 hprinted]
  exact List.mergeSort_of_pairwise (hsorted.imp decide_eq_true)

namespace Projection

variable {r : Resolver} {language table : String}

/-- The text of an item and its joins, by where the text comes from. -/
theorem itemText_cases {before : Nat} {item : Item} {column : String} {key : Expr}
    {joins : List Join} {text? : Option Expr}
    (h : itemText r language before item column key = .ok (joins, text?)) :
    (item.lookupKind = .plain ∧ joins = [] ∧ text? = none)
      ∨ (item.lookupKind = .directory ∧ joins = []
        ∧ ∃ l, r.directory column = some l ∧ text? = some (directoryText l key language))
      ∨ item.lookupKind = .joined
        ∧ ∃ l, joinedLookup r item = .ok l
          ∧ joins = (joinedText l item.mandatory key language before).1
          ∧ text? = some (joinedText l item.mandatory key language before).2 := by
  unfold itemText at h
  split at h
  · cases h
    exact .inl ⟨‹_›, rfl, rfl⟩
  · obtain ⟨l, hl, h⟩ := bind_eq_ok.1 h
    cases h
    exact .inr (.inl ⟨‹_›, rfl, l, elim_eq_ok.1 hl, rfl⟩)
  · obtain ⟨l, hl, h⟩ := bind_eq_ok.1 h
    cases h
    exact .inr (.inr ⟨‹_›, l, hl, rfl, rfl⟩)

/-- Every item has a text but those that show the value itself. -/
theorem itemText_eq_none_iff {before : Nat} {item : Item} {column : String} {key : Expr}
    {joins : List Join} {text? : Option Expr}
    (h : itemText r language before item column key = .ok (joins, text?)) :
    text? = none ↔ item.lookupKind = .plain := by
  obtain ⟨hkind, -, rfl⟩ | ⟨hkind, -, l, -, rfl⟩ | ⟨hkind, l, -, -, rfl⟩ := itemText_cases h
  · simp [hkind]
  · simp [hkind]
  · simp [hkind]

/-- What an item with a column selects. -/
theorem ofItem_eq_ok {before : Nat} {item : Item} {column : String}
    (hcolumn : item.columnName = some column) {p : Projection}
    (h : ofItem r language table before item = .ok p) :
    ∃ label text?, item.displayAlias = some label
      ∧ itemText r language before item column (rawValue table item column) = .ok (p.joins, text?)
      ∧ p.columns = rawColumn table item column
          :: (text?.map (displayColumn item column label)).toList := by
  have hlabel := Item.displayAlias_of_columnName hcolumn
  rw [ofItem, hcolumn, hlabel] at h
  obtain ⟨⟨joins, text?⟩, htext, h⟩ := bind_eq_ok.1 h
  cases h
  exact ⟨_, text?, hlabel, htext, rfl⟩

theorem ofItem_of_columnName_eq_none {before : Nat} {item : Item}
    (hcolumn : item.columnName = none) : ofItem r language table before item = .ok {} := by
  rw [ofItem, hcolumn]
  rfl

variable (r language table) in
/-- What items select, one by one. -/
abbrev PartsOf : List Item → List Projection → Prop :=
  List.Forall₂ fun item part => ∃ n, ofItem r language table n item = .ok part

/-- Items select one after another. -/
theorem exists_parts : ∀ {items : List Item} {before : Nat} {p : Projection},
    ofItems r language table before items = .ok p →
      ∃ parts, PartsOf r language table items parts
        ∧ p.columns = parts.flatMap columns ∧ p.joins = parts.flatMap joins
  | [], _, _, h => by
    cases h
    exact ⟨[], .nil, rfl, rfl⟩
  | item :: items, before, _, h => by
    obtain ⟨part, hpart, h⟩ := bind_eq_ok.1 h
    obtain ⟨p, hp, h⟩ := bind_eq_ok.1 h
    cases h
    obtain ⟨parts, hparts, hcolumns, hjoins⟩ := exists_parts hp
    exact ⟨part :: parts, .cons ⟨before, hpart⟩ hparts, congrArg (part.columns ++ ·) hcolumns,
      congrArg (part.joins ++ ·) hjoins⟩

theorem ofItems_of_ofDefinition {d : Definition} {p : Projection}
    (h : ofDefinition r language d = .ok p) :
    ofItems r language d.tableName 0 d.printedItems = .ok p := by
  obtain ⟨p', hp, h⟩ := bind_eq_ok.1 h
  split at h
  · cases h
  · cases h
    exact hp

theorem exists_ofItem_of_mem {items : List Item} {parts : List Projection}
    (h : PartsOf r language table items parts) {c : QueryColumn} (hc : c ∈ parts.flatMap columns) :
    ∃ item ∈ items, ∃ part ∈ parts, c ∈ part.columns
      ∧ ∃ n, ofItem r language table n item = .ok part := by
  induction h with
  | nil => cases hc
  | @cons item part items parts hpart _ ih =>
    rw [List.flatMap_cons, List.mem_append] at hc
    rcases hc with hc | hc
    · exact ⟨item, List.mem_cons_self, part, List.mem_cons_self, hc, hpart⟩
    · obtain ⟨item', hitem', part', hpart', hc⟩ := ih hc
      exact ⟨item', List.mem_cons_of_mem item hitem', part', List.mem_cons_of_mem part hpart', hc⟩

/-- Each item has its part. -/
theorem exists_part_of_mem {items : List Item} {parts : List Projection}
    (h : PartsOf r language table items parts) {item : Item} (hitem : item ∈ items) :
    ∃ part ∈ parts, ∃ n, ofItem r language table n item = .ok part := by
  induction h with
  | nil => cases hitem
  | @cons first part items parts hpart _ ih =>
    rcases List.mem_cons.1 hitem with rfl | hitem
    · exact ⟨part, List.mem_cons_self, hpart⟩
    · obtain ⟨part', hpart', hof⟩ := ih hitem
      exact ⟨part', List.mem_cons_of_mem part hpart', hof⟩

end Projection

end Reporting
