import Mathlib.Data.List.Basic
import Reporting.Proofs.Parts

/-!
# The columns that filters find

A looked-up text stands behind the raw value of its item, so a filter always finds a raw value
(`column?_eq_rawColumn`). It is the first one that the filter names, by its own name or as the end
of its range (`column?_exact_iff`), so no condition of a query is about a looked-up text
(`filters_restrict_raw`).
-/

namespace Reporting

namespace Projection

/-- Every column is the raw value of an item or a text behind such a value of the same name. -/
def Paired (table : String) (items : List Item) (columns : List QueryColumn) : Prop :=
  ∀ c ∈ columns, ∃ item ∈ items, rawColumn table item c.columnName ∈ columns
    ∧ (c = rawColumn table item c.columnName ∨ c.isDisplay)

theorem paired_ofItem {r : Resolver} {language table : String} {before : Nat} {item : Item}
    {p : Projection} (h : ofItem r language table before item = .ok p) :
    Paired table [item] p.columns := by
  cases hcolumn : item.columnName with
  | none =>
    rw [ofItem_of_columnName_eq_none hcolumn] at h
    cases h
    intro c hc
    cases hc
  | some column =>
    obtain ⟨label, text?, -, -, hcolumns⟩ := ofItem_eq_ok hcolumn h
    rw [hcolumns]
    intro c hc
    refine ⟨item, List.mem_singleton_self item, ?_⟩
    rcases List.mem_cons.1 hc with rfl | hc
    · exact ⟨List.mem_cons_self, .inl rfl⟩
    · obtain ⟨text, -, rfl⟩ := Option.map_eq_some_iff.1 (Option.mem_toList.1 hc)
      exact ⟨List.mem_cons_self, .inr rfl⟩

theorem paired_ofDefinition {r : Resolver} {language : String} {d : Definition} {p : Projection}
    (h : ofDefinition r language d = .ok p) : Paired d.tableName d.printedItems p.columns := by
  obtain ⟨parts, hparts, hcolumns, -⟩ := exists_parts (ofItems_of_ofDefinition h)
  rw [hcolumns]
  intro c hc
  obtain ⟨item, hitem, part, hpart, hc, n, hof⟩ := exists_ofItem_of_mem hparts hc
  obtain ⟨item', hitem', hraw, hc⟩ := paired_ofItem hof c hc
  obtain rfl := List.mem_singleton.1 hitem'
  exact ⟨item', hitem, List.mem_flatMap.2 ⟨part, hpart, hraw⟩, hc⟩

end Projection

theorem rangeBase?_eq_some_iff {name base : String} :
    rangeBase? name = some base ↔ base ++ "_To" = name := by
  have hending : "_To".toList = ['_', 'T', 'o'] := rfl
  rw [rangeBase?]
  constructor
  · intro h
    split at h
    · rename_i hsuffix
      obtain ⟨front, hfront⟩ := List.isSuffixOf_iff_suffix.1 hsuffix
      obtain rfl := Option.some.inj h
      rw [← String.toList_inj, String.toList_append, hending, ← hfront]
      simp
    · cases h
  · rintro rfl
    rw [String.toList_append, hending, if_pos (by simp)]
    simp

/-- The first element with one of two properties, and which of them it has. -/
theorem exists_find?_or {α : Type} {p q : α → Bool} (hne : ∀ a, p a = true → q a = false) :
    ∀ {l : List α}, (∃ a ∈ l, p a) →
      ∃ a ∈ l, l.find? (fun a => p a || q a) = some a ∧ (p a ∨ q a)
        ∧ (p a = true ↔ l.findIdx p < l.findIdx q)
  | [], h => by simp at h
  | a :: l, h => by
    cases hp : p a with
    | true =>
      exact ⟨a, List.mem_cons_self, by simp [hp], .inl hp,
        by simp [List.findIdx_cons, hp, hne a hp]⟩
    | false =>
      cases hq : q a with
      | true =>
        exact ⟨a, List.mem_cons_self, by simp [hp, hq], .inr hq,
          by simp [List.findIdx_cons, hp, hq]⟩
      | false =>
        obtain ⟨b, hb, hpb⟩ : ∃ b ∈ l, p b := by simpa [hp] using h
        obtain ⟨c, hc, hfind, hpq, hiff⟩ := exists_find?_or hne ⟨b, hb, hpb⟩
        refine ⟨c, List.mem_cons_of_mem a hc, by simpa [List.find?_cons, hp, hq] using hfind, hpq,
          ?_⟩
        simpa [List.findIdx_cons, hp, hq] using hiff

namespace Filter

open Projection (Paired rawColumn)

variable {table : String} {items : List Item} {columns : List QueryColumn}

/-- The raw values among the columns, in their order. -/
def rawColumns (columns : List QueryColumn) : List QueryColumn := columns.filter (!·.isDisplay)

/-- A filter finds the first raw value that it names. -/
theorem column?_eq_find? (h : Paired table items columns) {f : Filter}
    (hname : (Text.trim f.columnName).isEmpty = false) :
    f.column? columns = (rawColumns columns).find? (names (Text.trim f.columnName)) := by
  have hfind : (columns.filter (names (Text.trim f.columnName))).find? (!·.isDisplay)
      = (rawColumns columns).find? (names (Text.trim f.columnName)) := by
    rw [rawColumns, List.find?_filter, List.find?_filter]
    simp [Bool.and_comm]
  simp only [column?, hname, Bool.false_eq_true, if_false, hfind]
  cases hraw : (rawColumns columns).find? (names (Text.trim f.columnName)) with
  | some c => rfl
  | none =>
    -- A text that the filter names has the raw value before it.
    rw [Option.none_or, List.head?_eq_none_iff, List.filter_eq_nil_iff]
    intro c hc hnames
    obtain ⟨item, -, hpair, -⟩ := h c hc
    have hmem : rawColumn table item c.columnName ∈ rawColumns columns :=
      List.mem_filter.2 ⟨hpair, rfl⟩
    exact List.find?_eq_none.1 hraw _ hmem hnames

theorem names_eq (name : String) :
    names name = fun c => c.columnName == name || c.columnName ++ "_To" == name := by
  funext c
  rw [Bool.eq_iff_iff]
  simp [names, rangeBase?_eq_some_iff, eq_comm (a := name)]

theorem mem_rawColumns_of_column? (h : Paired table items columns) {f : Filter} {c : QueryColumn}
    (hc : f.column? columns = some c) : c ∈ rawColumns columns := by
  have hname : (Text.trim f.columnName).isEmpty = false := by
    by_contra hempty
    rw [Bool.not_eq_false] at hempty
    simp [column?, hempty] at hc
  rw [column?_eq_find? h hname] at hc
  exact List.mem_of_find?_eq_some hc

theorem column?_eq_rawColumn (h : Paired table items columns) {f : Filter} {c : QueryColumn}
    (hc : f.column? columns = some c) : ∃ item ∈ items, c = rawColumn table item c.columnName := by
  obtain ⟨hmem, hraw⟩ := List.mem_filter.1 (mem_rawColumns_of_column? h hc)
  obtain ⟨item, hitem, -, hc | hdisplay⟩ := h c hmem
  · exact ⟨item, hitem, hc⟩
  · simp [hdisplay] at hraw

theorem names_iff {name : String} {c : QueryColumn} :
    names name c ↔ name = c.columnName ∨ name = c.columnName ++ "_To" := by
  rw [names_eq]
  simp [eq_comm (a := name)]

theorem exists_column?_iff (h : Paired table items columns) {f : Filter} :
    (∃ c, f.column? columns = some c) ↔ Text.trim f.columnName ≠ ""
      ∧ ∃ c ∈ columns, Text.trim f.columnName = c.columnName
        ∨ Text.trim f.columnName = c.columnName ++ "_To" := by
  by_cases hempty : Text.trim f.columnName = ""
  · simp [column?, hempty]
  rw [column?_eq_find? h (by simpa using hempty), ← Option.isSome_iff_exists, List.find?_isSome]
  simp only [names_iff]
  constructor
  · rintro ⟨c, hc, hnames⟩
    exact ⟨hempty, c, List.mem_of_mem_filter hc, hnames⟩
  · rintro ⟨-, c, hc, hnames⟩
    obtain ⟨item, -, hraw, -⟩ := h c hc
    exact ⟨_, List.mem_filter.2 ⟨hraw, rfl⟩, hnames⟩

end Filter

/-- Every condition is that of a filter on the column that it finds. -/
theorem Restriction.exists_of?_of_mem_all {columns : List QueryColumn} :
    ∀ (filters : List Filter) (bound : Nat), ∀ r ∈ all columns bound filters,
      ∃ f ∈ filters, ∃ c n, f.column? columns = some c ∧ of? f c n = some r
  | [], _, r, hr => by cases hr
  | f :: filters, bound, r, hr => by
    have hrest (n : Nat) (hr : r ∈ all columns n filters) :
        ∃ f' ∈ f :: filters, ∃ c n, f'.column? columns = some c ∧ of? f' c n = some r := by
      obtain ⟨f', hf', hc⟩ := exists_of?_of_mem_all filters n r hr
      exact ⟨f', List.mem_cons_of_mem f hf', hc⟩
    rw [all] at hr
    cases hown : (f.column? columns).bind (of? f · bound) with
    | none =>
      rw [hown] at hr
      exact hrest bound hr
    | some own =>
      rw [hown] at hr
      rcases List.mem_cons.1 hr with rfl | hr
      · obtain ⟨c, hc, hof⟩ := Option.bind_eq_some_iff.1 hown
        exact ⟨f, List.mem_cons_self, c, bound, hc, hof⟩
      · exact hrest _ hr

theorem ReportQuery.paired_build {dialect : Sql.Dialect} {access : AccessControl}
    {options : QueryOptions} {d : Definition} {resolver : Resolver} {filters : List Filter}
    {page : Page} {q : ReportQuery}
    (h : build dialect access options d resolver filters page = .ok q) :
    Projection.Paired d.tableName d.printedItems q.columns := by
  obtain ⟨p, hp, h⟩ := bind_eq_ok.1 h
  cases h
  exact Projection.paired_ofDefinition hp

namespace Projection

variable {r : Resolver} {language : String} {d : Definition} {p : Projection}

open Reporting.Filter (rawColumns)

/-- A filter that has the name of a column finds a raw value, the first one of that name or of the
range that the name ends. So it finds a column of its own name exactly if the first one stands
before all columns whose range its name ends. -/
theorem column?_exact_iff (h : ofDefinition r language d = .ok p) {f : Filter}
    (hname : ∃ c ∈ p.columns, c.columnName = Text.trim f.columnName) :
    (Text.trim f.columnName = "" → f.column? p.columns = none)
      ∧ (Text.trim f.columnName ≠ "" → ∃ c ∈ p.columns, f.column? p.columns = some c
        ∧ c.isDisplay = false
        ∧ (c.columnName = Text.trim f.columnName ∨ c.columnName ++ "_To" = Text.trim f.columnName)
        ∧ (c.columnName = Text.trim f.columnName
          ↔ (rawColumns p.columns).findIdx (·.columnName == Text.trim f.columnName)
            < (rawColumns p.columns).findIdx
              (·.columnName ++ "_To" == Text.trim f.columnName))) := by
  have hpaired := paired_ofDefinition h
  refine ⟨fun hempty => by simp [Filter.column?, hempty], fun hne => ?_⟩
  rw [Filter.column?_eq_find? hpaired (by simpa using hne), Filter.names_eq]
  have hraw : ∃ c ∈ rawColumns p.columns, c.columnName == Text.trim f.columnName := by
    obtain ⟨c, hc, hcolumn⟩ := hname
    obtain ⟨item, -, hmem, -⟩ := hpaired c hc
    exact ⟨_, List.mem_filter.2 ⟨hmem, rfl⟩, beq_iff_eq.2 hcolumn⟩
  have hdistinct (c : QueryColumn) (hc : (c.columnName == Text.trim f.columnName) = true) :
      (c.columnName ++ "_To" == Text.trim f.columnName) = false := by
    rw [← beq_iff_eq.1 hc, beq_eq_false_iff_ne]
    simp
  obtain ⟨c, hc, hfind, hnames, hexact⟩ := exists_find?_or hdistinct hraw
  obtain ⟨hmem, hdisplay⟩ := List.mem_filter.1 hc
  exact ⟨c, hmem, hfind, by simpa using hdisplay, by simpa using hnames, by simpa using hexact⟩

section Amounts

def amountItem (id : Int) (column : String) : Item where
  id := id
  name := column
  columnName := some column
  displayType := .amount

/-- A report on amounts and on columns of their own for the ends of their ranges. -/
def amountRanges (columns : List String) : Definition where
  id := 1
  name := "Sales"
  tableName := "Sale"
  items := columns.zipIdx.map fun c => amountItem c.2 c.1

abbrev amountProjection (columns : List String) : Except ReportError Projection :=
  ofDefinition (.conventional fun _ => none) "en_US" (amountRanges columns)

def upTo : Filter where
  columnName := "Amount_To "
  operator := .lessEqual
  value := .ofInt 20

theorem printedItems_amountRanges (columns : List String) :
    (amountRanges columns).printedItems = (amountRanges columns).items := by
  refine Definition.printedItems_of_sorted ?_ ?_
  · rw [amountRanges, List.forall_mem_map]
    exact fun _ _ => rfl
  · rw [amountRanges, List.pairwise_map]
    exact List.pairwise_of_forall fun _ _ => Int.le_refl _

theorem trim_upTo : Text.trim upTo.columnName = "Amount_To" := by
  decide +kernel

theorem column?_exact_amount : ∃ p, amountProjection ["Amount_To", "Amount"] = .ok p
    ∧ (∃ c ∈ p.columns, c.columnName = Text.trim upTo.columnName)
    ∧ ∃ c, upTo.column? p.columns = some c ∧ c.columnName = "Amount_To" := by
  obtain ⟨p, hp, hname, hfirst⟩ : ∃ p, amountProjection ["Amount_To", "Amount"] = .ok p
      ∧ (∃ c ∈ p.columns, c.columnName = Text.trim upTo.columnName)
      ∧ (rawColumns p.columns).findIdx (·.columnName == Text.trim upTo.columnName)
        < (rawColumns p.columns).findIdx
          (·.columnName ++ "_To" == Text.trim upTo.columnName) := by
    rw [amountProjection, ofDefinition, printedItems_amountRanges, trim_upTo]
    exact ⟨_, rfl, ⟨_, List.mem_cons_self, rfl⟩, by decide +kernel⟩
  have hne : Text.trim upTo.columnName ≠ "" := by
    rw [trim_upTo]
    decide
  obtain ⟨c, -, hc, -, -, hexact⟩ := (column?_exact_iff hp hname).2 hne
  exact ⟨p, hp, hname, c, hc, trim_upTo ▸ hexact.2 hfirst⟩

/-- Behind the column whose range its name ends, a column is not found. -/
theorem column?_exact_twin : ∃ p, amountProjection ["Amount", "Amount_To"] = .ok p
    ∧ (∃ c ∈ p.columns, c.columnName = Text.trim upTo.columnName)
    ∧ (upTo.column? p.columns).map (·.columnName) = some "Amount" := by
  rw [amountProjection, ofDefinition, printedItems_amountRanges, trim_upTo]
  exact ⟨_, rfl, ⟨_, List.mem_cons_of_mem _ List.mem_cons_self, rfl⟩, by decide +kernel⟩

end Amounts

/-- No looked-up text is restricted: a filter finds the raw value of an item if it is not blank and
names a column or the end of its range, and nothing otherwise. Every condition of a query is that of
a filter on the value that it finds. -/
theorem filters_restrict_raw (h : ofDefinition r language d = .ok p) :
    (∀ f : Filter,
        (∀ c, f.column? p.columns = some c → c ∈ p.columns ∧ c.isDisplay = false
          ∧ ∃ item ∈ d.printedItems, c = rawColumn d.tableName item c.columnName)
        ∧ ((∃ c, f.column? p.columns = some c) ↔ Text.trim f.columnName ≠ ""
          ∧ ∃ c ∈ p.columns, Text.trim f.columnName = c.columnName
            ∨ Text.trim f.columnName = c.columnName ++ "_To"))
      ∧ ∀ filters, ∀ restriction ∈ Restriction.all p.columns 0 filters,
        ∃ f ∈ filters, ∃ c n, f.column? p.columns = some c
          ∧ Restriction.of? f c n = some restriction := by
  have hpaired := paired_ofDefinition h
  refine ⟨fun f => ⟨fun c hc => ?_, Filter.exists_column?_iff hpaired⟩,
    fun filters => Restriction.exists_of?_of_mem_all filters 0⟩
  obtain ⟨hmem, hraw⟩ := List.mem_filter.1 (Filter.mem_rawColumns_of_column? hpaired hc)
  exact ⟨hmem, by simpa using hraw, Filter.column?_eq_rawColumn hpaired hc⟩

section Partners

/-- Orders with their partners, whose names are looked up. -/
def partnerOrders : Definition where
  id := 1
  name := "Orders"
  tableName := "C_Order"
  items := [{
    id := 1, name := "Partner", columnName := some "C_BPartner_ID", displayType := .tableDir }]

def upToPartner : Filter where
  columnName := " C_BPartner_ID_To"
  operator := .lessEqual
  value := .ofInt 20

/-- The end of the range of partners restricts their ids and not their names. -/
theorem filters_restrict_raw_partner :
    ∃ p, ofDefinition (.conventional fun _ => none) "en_US" partnerOrders = .ok p
      ∧ p.columns.map (fun c => (c.columnName, c.isDisplay))
        = [("C_BPartner_ID", false), ("C_BPartner_ID", true)]
      ∧ (∃ c, upToPartner.column? p.columns = some c ∧ c.isDisplay = false)
      ∧ (Restriction.all p.columns 0 [upToPartner]).length = 1 := by
  obtain ⟨p, hp, hcolumns, hlength⟩ :
      ∃ p, ofDefinition (.conventional fun _ => none) "en_US" partnerOrders = .ok p
        ∧ p.columns.map (fun c => (c.columnName, c.isDisplay))
          = [("C_BPartner_ID", false), ("C_BPartner_ID", true)]
        ∧ (Restriction.all p.columns 0 [upToPartner]).length = 1 := by
    rw [ofDefinition, Definition.printedItems_of_sorted (by decide) (by decide)]
    exact ⟨_, rfl, rfl, by decide +kernel⟩
  have hname : Text.trim upToPartner.columnName = "C_BPartner_ID_To" := by decide +kernel
  obtain ⟨⟨hraw, hfinds⟩, -⟩ := (filters_restrict_raw hp).imp_left (· upToPartner)
  have hmem : ("C_BPartner_ID", false) ∈ p.columns.map (fun c => (c.columnName, c.isDisplay)) :=
    hcolumns ▸ List.mem_cons_self
  obtain ⟨c, hc, hcolumn⟩ := List.mem_map.1 hmem
  have hends : Text.trim upToPartner.columnName = c.columnName ++ "_To" := by
    rw [hname, (Prod.mk.inj hcolumn).1]
    rfl
  obtain ⟨c', hc'⟩ := hfinds.2 ⟨by rw [hname]; decide, c, hc, .inr hends⟩
  exact ⟨p, hp, hcolumns, ⟨c', hc', (hraw c' hc').2.1⟩, hlength⟩

end Partners

end Projection

end Reporting
