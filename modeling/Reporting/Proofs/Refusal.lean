import Reporting.Proofs.Plan

/-!
# What keeps a request from the data source

A query cannot be built when it selects nothing or when the text of an item cannot be looked up
(`ReportQuery.build_eq_error_iff`). This and what is wrong with the request itself is found before
anything is asked of the source, and the first thing found is the error (`calls_eq_nil_iff`).
-/

namespace Reporting

namespace Projection

variable {r : Resolver} {language table : String} {item : Item} {e : ReportError}

theorem found_eq_error_iff {lookup : Option Lookup} :
    found lookup = .error e ↔ lookup = none ∧ e = .referenceNotFound :=
  elim_eq_error

/-- A joined lookup of the item has no target. Tables and lists need a reference value id. -/
inductive Unjoined (r : Resolver) (item : Item) : ReportError → Prop
  | unnamed (htype : item.displayType = .table ∨ item.displayType = .list)
      (hid : item.referenceValueId = none) : Unjoined r item .referenceValueMissing
  | table {id : Int} (htype : item.displayType = .table ∨ item.displayType = .search)
      (hid : item.referenceValueId = some id) (h : r.table id = none) :
      Unjoined r item .referenceNotFound
  | list {id : Int} (htype : item.displayType = .list) (hid : item.referenceValueId = some id)
      (h : r.list id = none) : Unjoined r item .referenceNotFound
  | special (htype : item.displayType ∈ [DisplayType.location, .account, .locator, .pAttribute])
      (h : r.special item.displayType = none) : Unjoined r item .referenceNotFound

/-- The text of an item with a column cannot be looked up. -/
inductive Unresolved (r : Resolver) (item : Item) : ReportError → Prop
  /-- Its column points to no table. Search items without a reference value are looked up so. -/
  | directory {column : String} (hcolumn : item.columnName = some column)
      (htype : item.displayType = .tableDir
        ∨ item.displayType = .search ∧ item.referenceValueId = none)
      (h : r.directory column = none) : Unresolved r item .referenceNotFound
  | joined {e : ReportError} (hcolumn : item.columnName ≠ none) (h : Unjoined r item e) :
      Unresolved r item e

theorem lookupKind_eq_directory_iff : item.lookupKind = .directory ↔ item.displayType = .tableDir
    ∨ item.displayType = .search ∧ item.referenceValueId = none := by
  cases hid : item.referenceValueId <;> cases htype : item.displayType <;>
    simp [Item.lookupKind, DisplayType.lookupKind, hid, htype]

theorem Unjoined.lookupKind_eq (h : Unjoined r item e) : item.lookupKind = .joined := by
  unfold Item.lookupKind
  rcases h with ⟨htype | htype, -⟩ | ⟨htype | htype, hid, -⟩ | ⟨htype, -, -⟩ | ⟨htype, -⟩
  · rw [htype, DisplayType.lookupKind]
  · rw [htype, DisplayType.lookupKind]
  · rw [htype, DisplayType.lookupKind]
  · rw [htype, hid, DisplayType.lookupKind, Option.isSome_some, if_pos rfl]
  · rw [htype, DisplayType.lookupKind]
  · simp only [List.mem_cons, List.not_mem_nil, or_false] at htype
    rcases htype with htype | htype | htype | htype <;> rw [htype, DisplayType.lookupKind]

/-- A joined lookup finds its target unless that is missing. -/
theorem joinedLookup_eq_error_iff (hkind : item.lookupKind = .joined) :
    joinedLookup r item = .error e ↔ Unjoined r item e := by
  constructor
  · intro h
    unfold joinedLookup at h
    split at h
    · rename_i id htype hid
      obtain ⟨hnone, rfl⟩ := found_eq_error_iff.1 h
      exact .table (.inl htype) hid hnone
    · rename_i id htype hid
      obtain ⟨hnone, rfl⟩ := found_eq_error_iff.1 h
      exact .table (.inr htype) hid hnone
    · rename_i id htype hid
      obtain ⟨hnone, rfl⟩ := found_eq_error_iff.1 h
      exact .list htype hid hnone
    · rename_i htype hid
      cases h
      exact .unnamed (.inl htype) hid
    · -- A search without a reference value is a directory lookup.
      rename_i htype hid
      rw [lookupKind_eq_directory_iff.2 (.inr ⟨htype, hid⟩)] at hkind
      cases hkind
    · rename_i htype hid
      cases h
      exact .unnamed (.inr htype) hid
    · obtain ⟨hnone, rfl⟩ := found_eq_error_iff.1 h
      refine .special ?_ hnone
      cases htype : item.displayType <;> cases hid : item.referenceValueId <;>
        simp_all [Item.lookupKind, DisplayType.lookupKind]
  · rintro (⟨htype | htype, hid⟩ | ⟨htype | htype, hid, h⟩ | ⟨htype, hid, h⟩ | ⟨htype, h⟩)
    · simp [joinedLookup, htype, hid]
    · simp [joinedLookup, htype, hid]
    · simp [joinedLookup, htype, hid, h, found]
    · simp [joinedLookup, htype, hid, h, found]
    · simp [joinedLookup, htype, hid, h, found]
    · simp only [List.mem_cons, List.not_mem_nil, or_false] at htype
      rcases htype with htype | htype | htype | htype <;>
        simp [joinedLookup, htype, htype ▸ h, found]

theorem unresolved_of_plain (hkind : item.lookupKind = .plain) : ¬Unresolved r item e := by
  rintro (⟨-, htype, -⟩ | ⟨-, h⟩)
  · rw [lookupKind_eq_directory_iff.2 htype] at hkind
    cases hkind
  · rw [h.lookupKind_eq] at hkind
    cases hkind

theorem unresolved_of_directory {column : String} (hcolumn : item.columnName = some column)
    (hkind : item.lookupKind = .directory) :
    Unresolved r item e ↔ r.directory column = none ∧ e = .referenceNotFound := by
  constructor
  · rintro (⟨hcolumn', -, h⟩ | ⟨-, h⟩)
    · cases hcolumn.symm.trans hcolumn'
      exact ⟨h, rfl⟩
    · rw [h.lookupKind_eq] at hkind
      cases hkind
  · rintro ⟨h, rfl⟩
    exact .directory hcolumn (lookupKind_eq_directory_iff.1 hkind) h

theorem unresolved_of_joined (hcolumn : item.columnName ≠ none)
    (hkind : item.lookupKind = .joined) : Unresolved r item e ↔ Unjoined r item e := by
  constructor
  · rintro (⟨-, htype, -⟩ | ⟨-, h⟩)
    · rw [lookupKind_eq_directory_iff.2 htype] at hkind
      cases hkind
    · exact h
  · exact .joined hcolumn

theorem itemText_eq_error_iff {before : Nat} {column : String} {key : Sql.Expr}
    (hcolumn : item.columnName = some column) :
    itemText r language before item column key = .error e ↔ Unresolved r item e := by
  unfold itemText
  split
  · rename_i hkind
    constructor
    · intro h
      cases h
    · intro h
      exact absurd h (unresolved_of_plain hkind)
  · rename_i hkind
    rw [bind_eq_error, found_eq_error_iff, unresolved_of_directory hcolumn hkind, or_iff_left]
    rintro ⟨l, -, h⟩
    cases h
  · rename_i hkind
    rw [bind_eq_error, joinedLookup_eq_error_iff hkind,
      unresolved_of_joined (by simp [hcolumn]) hkind, or_iff_left]
    rintro ⟨l, -, h⟩
    cases h

/-- An item without a column fails as little as one whose text is found. -/
theorem ofItem_eq_error_iff {before : Nat} :
    ofItem r language table before item = .error e ↔ Unresolved r item e := by
  cases hcolumn : item.columnName with
  | none =>
    rw [ofItem_of_columnName_eq_none hcolumn]
    constructor
    · intro h
      cases h
    · rintro (⟨hsome, -, -⟩ | ⟨hne, -⟩)
      · cases hcolumn.symm.trans hsome
      · exact absurd hcolumn hne
  | some column =>
    rw [ofItem, hcolumn, Item.displayAlias_of_columnName hcolumn]
    dsimp only
    rw [bind_eq_error, itemText_eq_error_iff hcolumn, or_iff_left]
    rintro ⟨⟨joins, text?⟩, -, h⟩
    cases h

/-- Items are looked up one after another. -/
theorem checks_ofItems (r : Resolver) (language table : String) (before : Nat)
    (items : List Item) :
    Checks (Unresolved r) items (ofItems r language table before items) := by
  induction items generalizing before with
  | nil => exact checks_nil _
  | cons item items ih =>
    unfold ofItems
    have hitem : Checks (Unresolved r) [item] (ofItem r language table before item) :=
      checks_singleton fun e => ofItem_eq_error_iff
    exact hitem.bind fun p _ => (ih _).map (p ++ ·)

theorem columns_eq_nil_iff {before : Nat} {items : List Item} {p : Projection}
    (h : ofItems r language table before items = .ok p) :
    p.columns = [] ↔ ∀ item ∈ items, item.columnName = none := by
  induction items generalizing before p with
  | nil =>
    cases h
    simp
  | cons item items ih =>
    rcases bind_eq_ok.1 h with ⟨part, hpart, h⟩
    rcases bind_eq_ok.1 h with ⟨rest, hrest, h⟩
    cases h
    change part.columns ++ rest.columns = [] ↔ _
    rw [List.append_eq_nil_iff, ih hrest, List.forall_mem_cons]
    refine and_congr_left fun _ => ?_
    cases hcolumn : item.columnName with
    | none =>
      rw [ofItem_of_columnName_eq_none hcolumn] at hpart
      cases hpart
      simp
    | some column =>
      rcases ofItem_eq_ok hcolumn hpart with ⟨label, text?, -, -, hcolumns⟩
      simp [hcolumns]

/-- The report selects nothing, or the text of one of its items cannot be looked up; then it is the
first such item that tells what is wrong. -/
def Unselectable (r : Resolver) (d : Definition) (e : ReportError) : Prop :=
  FirstFailure (Unresolved r) d.printedItems e
    ∨ (∀ item ∈ d.printedItems, item.columnName = none) ∧ e = .itemsNotFound

theorem ofDefinition_eq_error_iff {d : Definition} :
    ofDefinition r language d = .error e ↔ Unselectable r d e := by
  unfold ofDefinition
  rw [bind_eq_error, checks_ofItems]
  refine or_congr Iff.rfl ⟨?_, ?_⟩
  · rintro ⟨p, hp, h⟩
    split at h
    · rename_i hempty
      cases h
      exact ⟨(columns_eq_nil_iff hp).1 (List.isEmpty_iff.1 hempty), rfl⟩
    · cases h
  · rintro ⟨hnone, rfl⟩
    -- No item has a text to look up, so the selection is there and empty.
    cases hp : ofItems r language d.tableName 0 d.printedItems with
    | error e =>
      rcases exists_firstFailure_iff.1 ⟨e, (checks_ofItems _ _ _ _ _ e).1 hp⟩
        with ⟨item, hitem, e', ⟨hcolumn, -, -⟩ | ⟨hcolumn, -⟩⟩
      · cases (hnone item hitem).symm.trans hcolumn
      · exact absurd (hnone item hitem) hcolumn
    | ok p => exact ⟨p, rfl, by rw [(columns_eq_nil_iff hp).2 hnone]; rfl⟩

end Projection

theorem ReportQuery.build_eq_error_iff {dialect : Sql.Dialect} {access : AccessControl}
    {options : QueryOptions} {d : Definition} {resolver : Resolver} {filters : List Filter}
    {page : Page} {e : ReportError} :
    build dialect access options d resolver filters page = .error e
      ↔ Projection.Unselectable resolver d e := by
  unfold build
  rw [bind_eq_error, Projection.ofDefinition_eq_error_iff, or_iff_left]
  rintro ⟨p, -, h⟩
  cases h

/-- What is looked at before the source is asked. -/
inductive Check
  | reportId
  | report
  | source
  | token
  | tokenHash
  | query
  | flag
deriving DecidableEq, Repr

namespace Check

def order : List Check := [.reportId, .report, .source, .token, .tokenHash, .query, .flag]

theorem mem_order (c : Check) : c ∈ order := by
  cases c <;> decide

variable (registry : Registry) (sources : Sources) (r : Request) (cancelled : Option Nat) in
/-- A request fails a check, whether or not it fails others. -/
inductive Fails : Check → ReportError → Prop
  | reportId (h : ∀ id, r.reportId = some id → id ≤ 0) : Fails .reportId .formatMissing
  | report {id : Int} (hid : r.reportId = some id) (h : registry.report? id = none) :
      Fails .report .formatNotFound
  | source {d : Definition} (hd : r.reportId.bind registry.report? = some d)
      (h : sources.source? d.dataSource = none) :
      Fails .source (.dataSourceNotFound d.dataSource)
  | token {s : String} {e : ReportError} (hs : r.pageToken = some s)
      (h : PageToken.decode s = .error e) : Fails .token e
  | tokenHash {s : String} {t : PageToken} (hs : r.pageToken = some s)
      (ht : PageToken.decode s = .ok t) (h : t.requestHash ≠ r.hash) :
      Fails .tokenHash PageToken.mismatch
  | query {d : Definition} {e : ReportError} (hd : r.reportId.bind registry.report? = some d)
      (h : Projection.Unselectable registry.resolver d e) : Fails .query e
  /-- The run is cancelled before its first query. -/
  | flag (h : isCancelled cancelled 0) : Fails .flag .cancelled

variable {registry : Registry} {sources : Sources} {access : AccessControl} {r : Request}
  {cancelled : Option Nat}

/-- The id of the report that a request asks for. -/
def idOf (r : Request) : Except ReportError Int :=
  match r.reportId with
  | none => .error .formatMissing
  | some id => if id ≤ 0 then .error .formatMissing else .ok id

theorem reportOf_eq : RunPlan.reportOf registry r
    = idOf r >>= fun id => (registry.report? id).elim (.error .formatNotFound) .ok := by
  unfold RunPlan.reportOf idOf
  cases r.reportId with
  | none => rfl
  | some id =>
    dsimp only
    split
    · rfl
    · rfl

theorem reportId_of_idOf {id : Int} (h : idOf r = .ok id) : r.reportId = some id := by
  unfold idOf at h
  split at h
  · cases h
  · rename_i id' hid
    split at h
    · cases h
    · cases h
      exact hid

theorem checks_idOf : Checks (Fails registry sources r cancelled) [.reportId] (idOf r) := by
  refine checks_singleton fun e => ?_
  unfold idOf
  constructor
  · intro h
    split at h
    · rename_i hid
      cases h
      exact .reportId fun id hid' => by cases hid.symm.trans hid'
    · rename_i id hid
      split at h
      · rename_i hle
        cases h
        refine .reportId fun id' hid' => ?_
        cases hid.symm.trans hid'
        exact hle
      · cases h
  · intro h
    cases h with
    | reportId hmissing =>
      split
      · rfl
      · rename_i id hid
        rw [if_pos (hmissing id hid)]

theorem report?_of_reportOf {d : Definition} (h : RunPlan.reportOf registry r = .ok d) :
    r.reportId.bind registry.report? = some d := by
  rw [reportOf_eq] at h
  rcases bind_eq_ok.1 h with ⟨id, hid, hd⟩
  rw [reportId_of_idOf hid]
  exact elim_eq_ok.1 hd

theorem checks_reportOf : Checks (Fails registry sources r cancelled) [.reportId, .report]
    (RunPlan.reportOf registry r) := by
  rw [reportOf_eq]
  refine checks_idOf.bind fun id hid => checks_singleton fun e => ?_
  have hid := reportId_of_idOf hid
  rw [elim_eq_error]
  constructor
  · rintro ⟨hnone, rfl⟩
    exact .report hid hnone
  · intro h
    cases h with
    | report hid' hnone =>
      cases hid.symm.trans hid'
      exact ⟨hnone, rfl⟩

theorem checks_sourceOf {d : Definition} (h : RunPlan.reportOf registry r = .ok d) :
    Checks (Fails registry sources r cancelled) [.source] (RunPlan.sourceOf sources d) := by
  refine checks_singleton fun e => ?_
  have hd := report?_of_reportOf h
  unfold RunPlan.sourceOf
  rw [elim_eq_error]
  constructor
  · rintro ⟨hnone, rfl⟩
    exact .source hd hnone
  · intro h
    cases h with
    | source hd' hnone =>
      cases hd.symm.trans hd'
      exact ⟨hnone, rfl⟩

theorem checks_offsetOf : Checks (Fails registry sources r cancelled) [.token, .tokenHash]
    (RunPlan.offsetOf r r.hash) := by
  unfold RunPlan.offsetOf
  cases hs : r.pageToken with
  | none =>
    refine checks_ok (fun c hc e hfails => ?_) r.offset
    cases hfails with
    | token hs' _ => cases hs.symm.trans hs'
    | tokenHash hs' _ _ => cases hs.symm.trans hs'
    | _ => simp at hc
  | some s =>
    have hdecode : Checks (Fails registry sources r cancelled) [.token] (PageToken.decode s) := by
      refine checks_singleton fun e => ⟨.token hs, fun hfails => ?_⟩
      cases hfails with
      | token hs' h =>
        cases hs.symm.trans hs'
        exact h
    refine hdecode.bind fun t ht => ?_
    have hcheck : Checks (Fails registry sources r cancelled) [.tokenHash] (t.check r.hash) := by
      refine checks_singleton fun e => ?_
      rw [PageToken.check, ← ite_not, guard_eq_error]
      constructor
      · rintro ⟨hhash, rfl⟩
        exact .tokenHash hs ht hhash
      · intro hfails
        cases hfails with
        | tokenHash hs' ht' hhash =>
          cases hs.symm.trans hs'
          cases ht.symm.trans ht'
          exact ⟨hhash, rfl⟩
    exact hcheck.map fun _ => t.offset

theorem checks_build {d : Definition} (h : RunPlan.reportOf registry r = .ok d)
    (dialect : Sql.Dialect) (options : QueryOptions) (page : Page) :
    Checks (Fails registry sources r cancelled) [.query]
      (ReportQuery.build dialect access options d registry.resolver r.filters page) := by
  refine checks_singleton fun e => ?_
  have hd := report?_of_reportOf h
  rw [ReportQuery.build_eq_error_iff]
  constructor
  · exact .query hd
  · intro hfails
    cases hfails with
    | query hd' h =>
      cases hd.symm.trans hd'
      exact h

/-- Everything before the first query. -/
def admitted (registry : Registry) (sources : Sources) (access : AccessControl) (r : Request)
    (cancelled : Option Nat) : Except ReportError RunPlan := do
  let p ← RunPlan.of registry sources access r
  if isCancelled cancelled 0 then .error .cancelled else return p

theorem checks_flag (p : RunPlan) : Checks (Fails registry sources r cancelled) [.flag]
    (if isCancelled cancelled 0 then .error .cancelled else .ok p) := by
  refine checks_singleton fun e => ?_
  rw [guard_eq_error]
  constructor
  · rintro ⟨hflag, rfl⟩
    exact .flag hflag
  · intro h
    cases h with
    | flag hflag => exact ⟨hflag, rfl⟩

theorem checks_admitted : Checks (Fails registry sources r cancelled) order
    (admitted registry sources access r cancelled) := by
  have hplan : Checks (Fails registry sources r cancelled)
      [.reportId, .report, .source, .token, .tokenHash, .query]
      (RunPlan.of registry sources access r) :=
    checks_reportOf.bind fun _ hd => (checks_sourceOf hd).bind fun _ _ =>
      checks_offsetOf.bind fun _ _ => (checks_build hd _ _ _).map _
  exact hplan.bind fun p _ => checks_flag p

end Check

open Check (admitted Fails)

section Run

variable {registry : Registry} {sources : Sources} {access : AccessControl} {r : Request}
  {cancelled : Option Nat}

theorem runReport_of_admitted_eq_error (mappings : MappingRegistry) {e : ReportError}
    (h : admitted registry sources access r cancelled = .error e) :
    runReport registry sources mappings access r cancelled = ⟨[], .error e⟩ := by
  unfold runReport
  rcases bind_eq_error.1 h with h | ⟨p, hp, h⟩
  · rw [h]
  · rw [hp]
    dsimp only
    unfold RunPlan.execute
    split at h
    · rename_i hflag
      cases h
      rw [if_pos hflag]
    · cases h

/-- Past the checks the rows are counted. -/
theorem count_mem_calls (mappings : MappingRegistry) {p : RunPlan}
    (h : admitted registry sources access r cancelled = .ok p) :
    Call.count p.query.count p.query.params
      ∈ (runReport registry sources mappings access r cancelled).calls := by
  unfold runReport
  rcases bind_eq_ok.1 h with ⟨p', hp, h⟩
  rw [hp]
  dsimp only
  unfold RunPlan.execute
  split at h
  · cases h
  · rename_i hflag
    cases h
    rw [if_neg hflag]
    repeat' split
    all_goals exact List.mem_cons_self

end Run

/-- A request that fails a check gets the error of the first check that it fails, and the source is
asked for nothing; every other request is counted. The query fails its check by the first printed
item whose text cannot be looked up, or for want of a column. -/
theorem calls_eq_nil_iff (registry : Registry) (sources : Sources) (mappings : MappingRegistry)
    (access : AccessControl) (r : Request) (cancelled : Option Nat) :
    ((runReport registry sources mappings access r cancelled).calls = []
        ↔ ∃ check e, Fails registry sources r cancelled check e)
      ∧ (∀ e, runReport registry sources mappings access r cancelled = ⟨[], .error e⟩
        ↔ FirstFailure (Fails registry sources r cancelled) Check.order e)
      ∧ ∀ dialect options d resolver filters page e,
        ReportQuery.build dialect access options d resolver filters page = .error e
          ↔ Projection.Unselectable resolver d e := by
  have hchecks : Checks (Fails registry sources r cancelled) Check.order
    (admitted registry sources access r cancelled) := Check.checks_admitted
  have hfails : (∃ check e, Fails registry sources r cancelled check e)
      ↔ ∃ e, FirstFailure (Fails registry sources r cancelled) Check.order e := by
    rw [exists_firstFailure_iff]
    exact exists_congr fun check => (and_iff_right check.mem_order).symm
  refine ⟨?_, fun e => ?_, fun _ _ _ _ _ _ _ => ReportQuery.build_eq_error_iff⟩
  · rw [hfails]
    cases h : admitted registry sources access r cancelled with
    | error e =>
      rw [runReport_of_admitted_eq_error mappings h]
      exact iff_of_true rfl ⟨e, (hchecks e).1 h⟩
    | ok p =>
      refine iff_of_false (List.ne_nil_of_mem (count_mem_calls mappings h)) ?_
      rintro ⟨e, he⟩
      cases h.symm.trans ((hchecks e).2 he)
  · rw [← hchecks e]
    cases h : admitted registry sources access r cancelled with
    | error e' => simp [runReport_of_admitted_eq_error mappings h]
    | ok p =>
      refine iff_of_false (fun hrun => ?_) (by simp)
      have hmem := count_mem_calls mappings h
      rw [hrun] at hmem
      cases hmem

end Reporting
