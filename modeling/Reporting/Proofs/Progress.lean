import Mathlib.Data.Nat.Find
import Reporting.Proofs.Fields
import Reporting.Proofs.Settings
import Reporting.Proofs.Walk

/-!
# Getting to the last page

A token leads to a later page exactly if pages have room for a row, and following tokens then ends
with a page that has none. Settings may say that pages are empty, though; a request that leaves the
size of its pages to them gets a token for the page that it has just seen (`tokens_advance`).
-/

namespace Reporting

variable {registry : Registry} {sources : Sources} {mappings : MappingRegistry}
  {access : AccessControl} {r r' : Request} {p : RunPlan} {limit offset total : UInt64}

theorem Page.offset_nextToken? {hash : UInt64} {t : PageToken}
    (h : (window limit offset).nextToken? total hash = some t) :
    t.offset.toNat = offset.toNat + limit.toNat := by
  obtain ⟨hlt, rfl⟩ := nextToken?_window.1 h
  have htotal := total.toNat_lt
  rw [UInt64.toNat_add, Nat.mod_eq_of_lt (by omega)]

namespace RunPlan

/-- The request leaves the size of its pages to settings by which they are empty. -/
def PagesEmpty (p : RunPlan) (r : Request) : Prop :=
  r.limit = 0 ∧ p.settings.pages.pageSize = 0

/-- The rows on a page, unless a request asks for all rows at once. -/
def pageLimit (p : RunPlan) (r : Request) : UInt64 :=
  if r.limit = 0 then p.settings.pages.pageSize else .ofNat r.limit.toNat

theorem ofRequest_eq (p : RunPlan) (hlimit : 0 ≤ r.limit) (offset : UInt64) :
    Page.ofRequest r.limit offset p.settings.pages.pageSize = .window (p.pageLimit r) offset :=
  if_neg (Int.not_lt.2 hlimit)

theorem pageLimit_eq_zero_iff (p : RunPlan) (hrange : Wire.IsInt64 r.limit)
    (hlimit : 0 ≤ r.limit) : (p.pageLimit r).toNat = 0 ↔ p.PagesEmpty r := by
  rw [pageLimit, PagesEmpty]
  split
  · rename_i hzero
    rw [← UInt64.toNat_zero, UInt64.toNat_inj]
    exact (and_iff_right hzero).symm
  · rename_i hne
    have hlt : r.limit.toNat < UInt64.size := by
      have := hrange.2
      have : UInt64.size = 2 ^ 64 := rfl
      omega
    rw [UInt64.toNat_ofNat_of_lt' hlt]
    exact iff_of_false (by omega) fun hempty => hne hempty.1

/-- A token leads to a later page unless pages are empty. -/
theorem advances_iff (hplan : RunPlan.of registry sources access r = .ok p)
    (hrange : Wire.IsInt64 r.limit) {t : PageToken}
    (ht : p.query.page.nextToken? total p.requestHash = some t) :
    p.query.page.offset < t.offset ↔ ¬p.PagesEmpty r := by
  obtain ⟨offset, -, hpage⟩ := exists_offset hplan
  by_cases hlimit : 0 ≤ r.limit
  · rw [hpage, ofRequest_eq p hlimit] at ht ⊢
    have hnext := Page.offset_nextToken? ht
    rw [← pageLimit_eq_zero_iff p hrange hlimit, UInt64.lt_iff_toNat_lt, hnext, Page.offset]
    omega
  · rw [hpage, Page.ofRequest, if_pos (Int.not_le.1 hlimit)] at ht
    cases ht

theorem of_outcome_eq_ok (hplan : RunPlan.of registry sources access r = .ok p)
    {cancelled : Option Nat} {out : ReportOutput}
    (hout : (runReport registry sources mappings access r cancelled).outcome = .ok out) :
    p.source.count p.query.count p.query.params = .ok out.total
      ∧ out.nextToken = p.query.page.nextToken? out.total p.requestHash := by
  rw [runReport, hplan] at hout
  exact of_execute_eq_ok hout

end RunPlan

section Walk

/-- A request is led away from only if a run of it has a token. -/
theorem exists_token_of_visited {i : Nat} (h : Visited registry sources mappings access r i r') :
    (i = 0 ∧ r' = r) ∨ ∃ cancelled out,
      (runReport registry sources mappings access r cancelled).outcome = .ok out
        ∧ out.nextToken ≠ none := by
  induction h with
  | first => exact .inl ⟨rfl, rfl⟩
  | @next i r' cancelled out t h hout ht ih =>
    right
    rcases ih with ⟨-, rfl⟩ | hfirst
    · exact ⟨cancelled, out, hout, by rw [ht]; exact Option.some_ne_none t⟩
    · exact hfirst

theorem exists_bound_visited (hplan : RunPlan.of registry sources access r = .ok p)
    (hrange : Wire.IsInt64 r.limit) (hempty : ¬p.PagesEmpty r) :
    ∃ bound, ∀ i r', Visited registry sources mappings access r i r' → i ≤ bound := by
  by_cases hfirst : ∃ cancelled out,
      (runReport registry sources mappings access r cancelled).outcome = .ok out
        ∧ out.nextToken ≠ none
  · obtain ⟨cancelled, out, hout, hsome⟩ := hfirst
    obtain ⟨hcount, htoken⟩ := RunPlan.of_outcome_eq_ok hplan hout
    have hlimit : 0 ≤ r.limit := by
      by_contra hnegative
      obtain ⟨offset, -, hpage⟩ := RunPlan.exists_offset hplan
      rw [hpage, Page.ofRequest, if_pos (Int.not_le.1 hnegative)] at htoken
      exact hsome htoken
    have hpos : 0 < (p.pageLimit r).toNat :=
      Nat.pos_of_ne_zero (mt (p.pageLimit_eq_zero_iff hrange hlimit).1 hempty)
    refine ⟨out.total.toNat, fun i r' h => ?_⟩
    obtain ⟨-, -, hreached, -⟩ := asks_of_visited hplan (p.ofRequest_eq hlimit) hcount h
    have hle := Nat.le_mul_of_pos_right i hpos
    omega
  · refine ⟨0, fun i r' h => ?_⟩
    exact ((exists_token_of_visited h).resolve_right hfirst).1.le

/-- A walk that cannot go on for ever gets to a request of which no run has a token. -/
theorem exists_last_visited
    (hbound : ∃ bound, ∀ i r', Visited registry sources mappings access r i r' → i ≤ bound) :
    ∃ last r', Visited registry sources mappings access r last r'
      ∧ (∀ i r'', Visited registry sources mappings access r i r'' → i ≤ last)
      ∧ ∀ cancelled out,
        (runReport registry sources mappings access r' cancelled).outcome = .ok out →
        out.nextToken = none := by
  classical
  obtain ⟨bound, hbound⟩ := hbound
  let reached i := ∃ r', Visited registry sources mappings access r i r'
  have hmost i (h : reached i) : i ≤ Nat.findGreatest reached bound := by
    obtain ⟨r', h'⟩ := h
    exact Nat.le_findGreatest (hbound i r' h') ⟨r', h'⟩
  obtain ⟨r', h⟩ : reached (Nat.findGreatest reached bound) :=
    Nat.findGreatest_spec (Nat.zero_le bound) ⟨r, .first⟩
  refine ⟨_, r', h, fun i r'' h' => hmost i ⟨r'', h'⟩, fun cancelled out hout => ?_⟩
  by_contra hsome
  obtain ⟨t, ht⟩ := Option.ne_none_iff_exists'.1 hsome
  exact absurd (hmost _ ⟨_, .next h hout ht⟩) (Nat.not_succ_le_self _)

/-- With empty pages every request on the way asks for the first page again. -/
theorem stays_of_visited (hplan : RunPlan.of registry sources access r = .ok p)
    (hrange : Wire.IsInt64 r.limit) (hempty : p.PagesEmpty r) {i : Nat}
    (h : Visited registry sources mappings access r i r') {cancelled : Option Nat}
    {out : ReportOutput}
    (hout : (runReport registry sources mappings access r' cancelled).outcome = .ok out) :
    (out.nextToken ≠ none ↔ p.query.page.offset < out.total)
      ∧ ∀ t, out.nextToken = some t → t.offset = p.query.page.offset := by
  have hlimit : 0 ≤ r.limit := hempty.1.ge
  have hzero := (p.pageLimit_eq_zero_iff hrange hlimit).2 hempty
  obtain ⟨total, hcount⟩ : ∃ total, p.source.count p.query.count p.query.params = .ok total := by
    rcases exists_token_of_visited h with ⟨-, rfl⟩ | ⟨_, first, hfirst, -⟩
    · exact ⟨_, (RunPlan.of_outcome_eq_ok hplan hout).1⟩
    · exact ⟨_, (RunPlan.of_outcome_eq_ok hplan hfirst).1⟩
  obtain ⟨offset, hoffset, -, q, hof, -, -, hpage⟩ :=
    asks_of_visited hplan (p.ofRequest_eq hlimit) hcount h
  obtain rfl : offset = p.query.page.offset := UInt64.toNat_inj.1 (by rw [hoffset, hzero]; omega)
  have htoken := (RunPlan.of_outcome_eq_ok hof hout).2
  rw [hpage] at htoken
  refine ⟨?_, fun t ht => ?_⟩
  · rw [htoken, Option.ne_none_iff_exists', UInt64.lt_iff_toNat_lt]
    simp [Page.nextToken?_window, hzero]
  · have hnext := Page.offset_nextToken? (htoken.symm.trans ht)
    exact UInt64.toNat_inj.1 (by omega)

/-- A token leads to a later page exactly if pages are not empty. Then following tokens leads to a
last request, of which no run has a token; with empty pages every run has one as long as there are
rows behind the first page. -/
theorem tokens_advance (hplan : RunPlan.of registry sources access r = .ok p)
    (hrange : Wire.IsInt64 r.limit) :
    (∀ total t, p.query.page.nextToken? total p.requestHash = some t →
        (p.query.page.offset < t.offset ↔ ¬p.PagesEmpty r))
      ∧ (¬p.PagesEmpty r → ∃ last r', Visited registry sources mappings access r last r'
        ∧ (∀ i r'', Visited registry sources mappings access r i r'' → i ≤ last)
        ∧ ∀ cancelled out,
          (runReport registry sources mappings access r' cancelled).outcome = .ok out →
            out.nextToken = none)
      ∧ (p.PagesEmpty r → ∀ i r', Visited registry sources mappings access r i r' →
        ∀ cancelled out,
          (runReport registry sources mappings access r' cancelled).outcome = .ok out →
            (out.nextToken ≠ none ↔ p.query.page.offset < out.total)
              ∧ ∀ t, out.nextToken = some t → t.offset = p.query.page.offset) := by
  refine ⟨fun total t => RunPlan.advances_iff hplan hrange, fun hempty => ?_,
    fun hempty i r' h cancelled out => stays_of_visited hplan hrange hempty h⟩
  exact exists_last_visited (exists_bound_visited hplan hrange hempty)

end Walk

/-- With one shipment on a page the token of the first page leads on, to a last page. -/
theorem tokens_advance_shipments : ∃ p, RunPlan.of (.ofParts [shipments "%Y-%m-%d"] [])
      (shipmentSources [.ok shipped]) .unrestricted shipmentRequest = .ok p
    ∧ Wire.IsInt64 shipmentRequest.limit
    ∧ (∃ t, p.query.page.nextToken? 2 p.requestHash = some t ∧ p.query.page.offset < t.offset)
    ∧ ∃ last r', Visited (.ofParts [shipments "%Y-%m-%d"] []) (shipmentSources [.ok shipped])
        formattingOnly .unrestricted shipmentRequest last r'
      ∧ ∀ cancelled out, (runReport (.ofParts [shipments "%Y-%m-%d"] [])
          (shipmentSources [.ok shipped]) formattingOnly .unrestricted r' cancelled).outcome
        = .ok out → out.nextToken = none := by
  obtain ⟨q, hplan, -⟩ := of_shipments "%Y-%m-%d" [.ok shipped]
  have hrange : Wire.IsInt64 shipmentRequest.limit := by decide
  have hsized : ¬(shipmentPlan "%Y-%m-%d" [.ok shipped] q).PagesEmpty shipmentRequest :=
    fun hempty => absurd hempty.1 (by decide)
  obtain ⟨hadvance, hlast, -⟩ := @tokens_advance _ _ formattingOnly _ _ _ hplan hrange
  obtain ⟨last, r', h, -, hdone⟩ := hlast hsized
  obtain ⟨offset, hoffset, hpage⟩ := RunPlan.exists_offset hplan
  have htoken : (shipmentPlan "%Y-%m-%d" [.ok shipped] q).query.page.nextToken? 2
      shipmentRequest.hash = some ⟨1, shipmentRequest.hash⟩ := by
    rw [hpage, ← Except.ok.inj hoffset]
    rfl
  exact ⟨_, hplan, hrange, ⟨_, htoken, (hadvance 2 _ htoken).2 hsized⟩, last, r', h, hdone⟩

section Unsized

/-- Settings by which pages are empty. -/
def emptyPages : String := "[defaults.pagination]\npage_size = 0"

def emptyPageSettings : Settings := { general := { pages := { pageSize := 0 } } }

theorem ofToml_emptyPages : Settings.ofToml emptyPages = .ok emptyPageSettings := by
  rfl

/-- A request for shipments that leaves the size of its pages to the settings. -/
def unsizedRequest : Request := { shipmentRequest with limit := 0 }

def unsizedSources : Sources :=
  { shipmentSources [.ok shipped] with settings := emptyPageSettings }

def unsizedPlan (q : ReportQuery) : RunPlan :=
  { shipmentPlan "%Y-%m-%d" [.ok shipped] q with
    settings := emptyPageSettings.forReport "Shipments"
    requestHash := unsizedRequest.hash }

theorem of_unsized : ∃ q, RunPlan.of (.ofParts [shipments "%Y-%m-%d"] []) unsizedSources
      .unrestricted unsizedRequest = .ok (unsizedPlan q) ∧ q.page = .window 0 0 := by
  have hp : Projection.ofDefinition (Registry.ofParts [shipments "%Y-%m-%d"] []).resolver "en_US"
      (shipments "%Y-%m-%d") = .ok { columns :=
        [Projection.rawColumn "Shipment" (shippedItem "%Y-%m-%d") "Shipped"] } := by
    rw [Projection.ofDefinition, printedItems_shipments]
    rfl
  obtain ⟨q, hq⟩ : ∃ q, ReportQuery.build .ansi .unrestricted
      (.ofSettings (emptyPageSettings.forReport "Shipments")) (shipments "%Y-%m-%d")
      (Registry.ofParts [shipments "%Y-%m-%d"] []).resolver [] (.window 0 0) = .ok q :=
    ⟨_, bind_eq_ok.2 ⟨_, hp, rfl⟩⟩
  exact ⟨q, RunPlan.of_eq_ok_iff.2 ⟨rfl, rfl, rfl, rfl, 0, rfl, hq⟩, ReportQuery.page_build hq⟩

theorem count_unsized (q : ReportQuery) :
    (unsizedPlan q).source.count (unsizedPlan q).query.count (unsizedPlan q).query.params
      = .ok 2 := rfl

/-- All runs on the way succeed. -/
theorem exists_output_unsized {q : ReportQuery}
    (hplan : RunPlan.of (.ofParts [shipments "%Y-%m-%d"] []) unsizedSources .unrestricted
      unsizedRequest = .ok (unsizedPlan q)) {i : Nat} {r' : Request}
    (h : Visited (.ofParts [shipments "%Y-%m-%d"] []) unsizedSources formattingOnly .unrestricted
      unsizedRequest i r') :
    ∃ out, (runReport (.ofParts [shipments "%Y-%m-%d"] []) unsizedSources formattingOnly
      .unrestricted r' none).outcome = .ok out := by
  obtain ⟨-, -, -, q', hof, -, -, -⟩ :=
    asks_of_visited hplan (RunPlan.ofRequest_eq _ le_rfl) (count_unsized q) h
  have hshows : RunPlan.Shows { unsizedPlan q with query := q' } formattingOnly :=
    shows_shipments [.ok shipped] q'
  have hflag : ∀ check < RecordStream.checks [.ok shipped], ¬isCancelled none check :=
    fun _ _ => Bool.false_ne_true
  obtain ⟨out, hout⟩ := RunPlan.exists_finish hshows (RunPlan.exists_columnsOf hof) [shipped]
  exact ⟨out, (outcome_of_not_isCancelled hof rfl rfl hshows hflag).trans hout⟩

/-- Following tokens from the first page of two shipments never ends if pages are empty. -/
theorem tokens_stay_unsized : Settings.ofToml emptyPages = .ok emptyPageSettings
    ∧ unsizedSources.settings = emptyPageSettings
    ∧ ∃ p t, RunPlan.of (.ofParts [shipments "%Y-%m-%d"] []) unsizedSources .unrestricted
        unsizedRequest = .ok p
      ∧ p.query.page.nextToken? 2 p.requestHash = some t
      ∧ ¬p.query.page.offset < t.offset
      ∧ ∀ i, ∃ r', Visited (.ofParts [shipments "%Y-%m-%d"] []) unsizedSources formattingOnly
        .unrestricted unsizedRequest i r' := by
  obtain ⟨q, hplan, hpage⟩ := of_unsized
  have hfirst : (unsizedPlan q).query.page = .window 0 0 := hpage
  refine ⟨ofToml_emptyPages, rfl, _, ⟨0, unsizedRequest.hash⟩, hplan, ?_, ?_, fun i => ?_⟩
  · rw [hfirst]
    rfl
  · rw [hfirst]
    decide
  · induction i with
    | zero => exact ⟨_, .first⟩
    | succ i ih =>
      obtain ⟨r', h⟩ := ih
      obtain ⟨out, hout⟩ := exists_output_unsized hplan h
      obtain ⟨hmore, -⟩ := stays_of_visited hplan (by decide) ⟨rfl, rfl⟩ h hout
      have htotal : out.total = 2 := by
        obtain ⟨_, -, -, hasks⟩ :=
          asks_of_visited hplan (RunPlan.ofRequest_eq _ le_rfl) (count_unsized q) h
        exact (RunPlan.asks_resumed hplan (RunPlan.ofRequest_eq _ le_rfl) rfl hasks hout).1
      obtain ⟨t, ht⟩ := Option.ne_none_iff_exists'.1 (hmore.2 (by rw [hfirst, htotal]; decide))
      exact ⟨_, .next h hout ht⟩

end Unsized

end Reporting
