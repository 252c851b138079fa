import Mathlib.Order.Bounds.Defs
import Reporting.Proofs.Paging
import Reporting.Proofs.Stream
import Reporting.Proofs.TokenText

/-!
# Walking through the pages

A request with the token of a page asks for the rows right behind that page (`asks_resumed`). So the
pages that one request leads to are windows of one size, as many as it takes to show every row once
(`pages_cover`).
-/

namespace Reporting

/-- The request sent again with a token. -/
def Request.resumed (r : Request) (t : PageToken) : Request :=
  { r with pageToken := some t.encode }

namespace RunPlan

variable {registry : Registry} {sources : Sources} {mappings : MappingRegistry}
  {access : AccessControl} {r : Request} {p : RunPlan} {cancelled : Option Nat}

/-- A token that was given out for the request is good, and it only moves the page. -/
theorem of_resumed (h : RunPlan.of registry sources access r = .ok p) {t : PageToken}
    (ht : t.requestHash = r.hash) :
    ∃ q, RunPlan.of registry sources access (r.resumed t) = .ok { p with query := q }
      ∧ q.count = p.query.count ∧ q.params = p.query.params
      ∧ q.page = .ofRequest r.limit t.offset p.settings.pages.pageSize := by
  obtain ⟨hreport, hsettings, hsource, hhash, offset, -, hq⟩ := of_eq_ok_iff.1 h
  obtain ⟨q, hq', hcount, hparams, hpage⟩ := ReportQuery.exists_build_page hq
    (.ofRequest r.limit t.offset p.settings.pages.pageSize)
  have hoffset : offsetOf (r.resumed t) (r.resumed t).hash = .ok t.offset := by
    refine bind_eq_ok.2 ⟨t, PageToken.decode_encode t, ?_⟩
    have hcheck : t.check (r.resumed t).hash = .ok () := if_pos ht
    rw [hcheck]
    rfl
  exact ⟨q, of_eq_ok_iff.2 ⟨hreport, hsettings, hsource, hhash, t.offset, hoffset, hq'⟩, hcount,
    hparams, hpage⟩

/-- The page of a plan is the one that its request and its token, if any, ask for. -/
theorem exists_offset (h : RunPlan.of registry sources access r = .ok p) :
    ∃ offset, offsetOf r r.hash = .ok offset
      ∧ p.query.page = .ofRequest r.limit offset p.settings.pages.pageSize := by
  obtain ⟨-, -, -, -, offset, hoffset, hq⟩ := of_eq_ok_iff.1 h
  exact ⟨offset, hoffset, ReportQuery.page_build hq⟩

theorem of_execute_eq_ok {out : ReportOutput}
    (h : (p.execute mappings cancelled).outcome = .ok out) :
    p.source.count p.query.count p.query.params = .ok out.total
      ∧ out.nextToken = p.query.page.nextToken? out.total p.requestHash := by
  rw [execute] at h
  split at h
  · cases h
  split at h
  · cases h
  rename_i total hcount
  split at h
  · cases h
  split at h
  · cases h
  obtain ⟨a, -, h⟩ := bind_eq_ok.1 h
  obtain ⟨b, -, h⟩ := bind_eq_ok.1 h
  cases h
  exact ⟨hcount, rfl⟩

end RunPlan

section Rows

variable {offset limit total last i j row : Nat}

/-- The rows of the page behind `i` full ones. -/
def pageRows (offset limit i : Nat) : Set Nat :=
  {row | offset + i * limit ≤ row ∧ row < offset + i * limit + limit}

/-- The first page that leaves no row behind. -/
abbrev IsLastPage (offset limit total : Nat) : Nat → Prop :=
  IsLeast {i | total ≤ offset + i * limit + limit}

theorem exists_isLastPage (hpos : 0 < limit) : ∃ last, IsLastPage offset limit total last := by
  have hex : ∃ i, total ≤ offset + i * limit + limit :=
    ⟨total, by have := Nat.le_mul_of_pos_right total hpos; omega⟩
  exact ⟨Nat.find hex, Nat.find_spec hex, fun i hi => Nat.find_min' hex hi⟩

theorem lt_last_iff (hlast : IsLastPage offset limit total last) :
    i < last ↔ offset + i * limit + limit < total := by
  constructor
  · intro hlt
    by_contra hle
    exact absurd (hlast.2 (Nat.le_of_not_lt hle)) (Nat.not_le.2 hlt)
  · intro hlt
    by_contra hle
    have hmul := Nat.mul_le_mul_right limit (Nat.le_of_not_lt hle)
    have hspec : total ≤ offset + last * limit + limit := hlast.1
    omega

theorem page_eq_of_mem (hi : row ∈ pageRows offset limit i) (hj : row ∈ pageRows offset limit j) :
    i = j := by
  obtain ⟨hile, hilt⟩ := hi
  obtain ⟨hjle, hjlt⟩ := hj
  rcases Nat.lt_trichotomy i j with h | h | h
  · have := Nat.mul_le_mul_right limit (Nat.succ_le_of_lt h)
    rw [Nat.succ_mul] at this
    omega
  · exact h
  · have := Nat.mul_le_mul_right limit (Nat.succ_le_of_lt h)
    rw [Nat.succ_mul] at this
    omega

theorem exists_page (hpos : 0 < limit) (hlast : IsLastPage offset limit total last)
    (hle : offset ≤ row) (hlt : row < total) : ∃ i ≤ last, row ∈ pageRows offset limit i := by
  have hdiv := Nat.div_add_mod (row - offset) limit
  have hmod := Nat.mod_lt (row - offset) hpos
  have hspec : total ≤ offset + last * limit + limit := hlast.1
  rw [Nat.mul_comm] at hdiv
  refine ⟨(row - offset) / limit, ?_, ?_⟩
  · refine Nat.le_of_lt_succ (Nat.lt_of_mul_lt_mul_right (a := limit) ?_)
    rw [Nat.succ_mul]
    omega
  · constructor <;> omega

end Rows

section Walk

variable (registry : Registry) (sources : Sources) (mappings : MappingRegistry)
  (access : AccessControl) (r : Request)

/-- The requests to which following tokens leads, by the number of tokens followed. Each run has a
flag of its own. -/
inductive Visited : Nat → Request → Prop
  | first : Visited 0 r
  | next {i : Nat} {r' : Request} {cancelled : Option Nat} {out : ReportOutput} {t : PageToken} :
      Visited i r' → (runReport registry sources mappings access r' cancelled).outcome = .ok out →
      out.nextToken = some t → Visited (i + 1) (r.resumed t)

/-- The request is good for the page behind `offset`, and it counts the rows that `p` counts. -/
def RunPlan.Asks (p : RunPlan) (limit offset : UInt64) (r' : Request) : Prop :=
  ∃ q, RunPlan.of registry sources access r' = .ok { p with query := q }
    ∧ q.count = p.query.count ∧ q.params = p.query.params ∧ q.page = .window limit offset

variable {registry sources mappings access r} {p : RunPlan} {limit offset total : UInt64}
  {r' : Request}

/-- A run that is done tells the total, and its token, if any, leads to the page right behind. -/
theorem RunPlan.asks_resumed (hplan : RunPlan.of registry sources access r = .ok p)
    (hlimit : ∀ offset, Page.ofRequest r.limit offset p.settings.pages.pageSize
      = .window limit offset)
    (hcount : p.source.count p.query.count p.query.params = .ok total)
    (hasks : p.Asks registry sources access limit offset r') {cancelled : Option Nat}
    {out : ReportOutput}
    (hout : (runReport registry sources mappings access r' cancelled).outcome = .ok out) :
    out.total = total
      ∧ (out.nextToken.isSome ↔ offset.toNat + limit.toNat < total.toNat)
      ∧ ∀ t, out.nextToken = some t →
        p.Asks registry sources access limit (offset + limit) (r.resumed t) := by
  obtain ⟨q, hof, hqcount, hqparams, hpage⟩ := hasks
  rw [runReport, hof] at hout
  obtain ⟨htotal, htoken⟩ := RunPlan.of_execute_eq_ok hout
  rw [hqcount, hqparams, hcount] at htotal
  cases htotal
  rw [hpage] at htoken
  refine ⟨rfl, ?_, fun t ht => ?_⟩
  · rw [htoken, Option.isSome_iff_exists]
    simp [Page.nextToken?_window]
  · obtain ⟨-, rfl⟩ := Page.nextToken?_window.1 (htoken.symm.trans ht)
    obtain ⟨q', hof', hcount', hparams', hpage'⟩ := RunPlan.of_resumed hplan
      (t := ⟨offset + limit, p.requestHash⟩) (RunPlan.of_eq_ok_iff.1 hplan).2.2.2.1
    exact ⟨q', hof', hcount', hparams', hpage'.trans (hlimit _)⟩

/-- Every request on the way asks for a window behind as many full pages as tokens were followed. -/
theorem asks_of_visited (hplan : RunPlan.of registry sources access r = .ok p)
    (hlimit : ∀ offset, Page.ofRequest r.limit offset p.settings.pages.pageSize
      = .window limit offset)
    (hcount : p.source.count p.query.count p.query.params = .ok total) {i : Nat}
    (h : Visited registry sources mappings access r i r') :
    ∃ offset : UInt64, offset.toNat = p.query.page.offset.toNat + i * limit.toNat
      ∧ (i = 0 ∨ p.query.page.offset.toNat + i * limit.toNat < total.toNat)
      ∧ p.Asks registry sources access limit offset r' := by
  induction h with
  | first =>
    obtain ⟨offset, -, hpage⟩ := RunPlan.exists_offset hplan
    exact ⟨p.query.page.offset, by omega, .inl rfl, p.query, hplan, rfl, rfl,
      by rw [hpage, hlimit]; rfl⟩
  | @next i r' cancelled out t _ hout ht ih =>
    obtain ⟨offset, hoffset, -, hasks⟩ := ih
    obtain ⟨-, hmore, hnext⟩ := RunPlan.asks_resumed hplan hlimit hcount hasks hout
    have hlt := hmore.1 (by rw [ht]; rfl)
    have htotal := total.toNat_lt
    have hstep : p.query.page.offset.toNat + (i + 1) * limit.toNat
        = offset.toNat + limit.toNat := by
      rw [hoffset, Nat.succ_mul]
      omega
    refine ⟨offset + limit, ?_, .inr (by omega), hnext t ht⟩
    rw [UInt64.toNat_add, Nat.mod_eq_of_lt (by omega), hstep]

/-- No request on the way is past the last page, and the last page alone gives out no token. -/
theorem of_visited (hplan : RunPlan.of registry sources access r = .ok p)
    (htoken : r.pageToken = none)
    (hlimit : ∀ offset, Page.ofRequest r.limit offset p.settings.pages.pageSize
      = .window limit offset)
    (hcount : p.source.count p.query.count p.query.params = .ok total) {last i : Nat}
    (hlast : IsLastPage r.offset.toNat limit.toNat total.toNat last)
    (h : Visited registry sources mappings access r i r') :
    i ≤ last ∧ ∃ offset : UInt64, offset.toNat = r.offset.toNat + i * limit.toNat
      ∧ p.Asks registry sources access limit offset r'
      ∧ ∀ cancelled out,
        (runReport registry sources mappings access r' cancelled).outcome = .ok out →
          out.total = total ∧ (out.nextToken.isSome ↔ i < last) := by
  obtain ⟨offset, hoffset, hreached, hasks⟩ := asks_of_visited hplan hlimit hcount h
  obtain ⟨first, hfirst, hpage⟩ := RunPlan.exists_offset hplan
  have hstart : p.query.page.offset = r.offset := by
    rw [RunPlan.offsetOf, htoken] at hfirst
    rw [hpage, hlimit, ← Except.ok.inj hfirst]
    rfl
  rw [hstart] at hoffset hreached
  refine ⟨?_, offset, hoffset, hasks, fun cancelled out hout => ?_⟩
  · rcases i with _ | i
    · exact Nat.zero_le last
    · rw [Nat.succ_mul] at hreached
      exact (lt_last_iff hlast).2 (by omega)
  · obtain ⟨htotal, hmore, -⟩ := RunPlan.asks_resumed hplan hlimit hcount hasks hout
    rw [lt_last_iff hlast, ← hoffset]
    exact ⟨htotal, hmore⟩

/-- Following tokens shows the pages one after another up to the first that leaves no row behind,
and they hold every row from the first offset on, none of them twice. -/
theorem pages_cover (hplan : RunPlan.of registry sources access r = .ok p)
    (htoken : r.pageToken = none)
    (hlimit : (limit.toNat : Int)
      = if r.limit = 0 then (p.settings.pages.pageSize.toNat : Int) else r.limit)
    (hpos : 0 < limit.toNat)
    (hcount : p.source.count p.query.count p.query.params = .ok total) :
    ∃ last, IsLastPage r.offset.toNat limit.toNat total.toNat last
      ∧ (∀ i r', Visited registry sources mappings access r i r' → i ≤ last
        ∧ ∃ offset : UInt64, offset.toNat = r.offset.toNat + i * limit.toNat
          ∧ p.Asks registry sources access limit offset r'
          ∧ ∀ cancelled out,
            (runReport registry sources mappings access r' cancelled).outcome = .ok out →
              out.total = total ∧ (out.nextToken.isSome ↔ i < last))
      ∧ ((∀ i r', Visited registry sources mappings access r i r' → ∃ cancelled out,
          (runReport registry sources mappings access r' cancelled).outcome = .ok out) →
        ∀ i ≤ last, ∃ r', Visited registry sources mappings access r i r')
      ∧ (∀ i j row, row ∈ pageRows r.offset.toNat limit.toNat i →
          row ∈ pageRows r.offset.toNat limit.toNat j → i = j)
      ∧ (∀ row, r.offset.toNat ≤ row → row < total.toNat →
          ∃ i ≤ last, row ∈ pageRows r.offset.toNat limit.toNat i) := by
  obtain ⟨last, hlast⟩ : ∃ last, IsLastPage r.offset.toNat limit.toNat total.toNat last :=
    exists_isLastPage hpos
  have hvisited (i r') (h : Visited registry sources mappings access r i r') :=
    of_visited hplan htoken (Page.ofRequest_eq_window hlimit) hcount hlast h
  refine ⟨last, hlast, hvisited, fun hanswered i => ?_, fun i j row => page_eq_of_mem,
    fun row => exists_page hpos hlast⟩
  -- the page before has a token, since it is not the last one
  induction i with
  | zero => exact fun _ => ⟨r, .first⟩
  | succ i ih =>
    intro hle
    obtain ⟨r', h⟩ := ih (by omega)
    obtain ⟨cancelled, out, hout⟩ := hanswered i r' h
    obtain ⟨-, _, -, -, hrun⟩ := hvisited i r' h
    obtain ⟨t, ht⟩ := Option.isSome_iff_exists.1 ((hrun cancelled out hout).2.2 (by omega))
    exact ⟨_, .next h hout ht⟩

end Walk

/-- The second of two shipments is on a page of its own. -/
theorem pages_cover_shipments : ∃ r', Visited (.ofParts [shipments "%Y-%m-%d"] [])
    (shipmentSources [.ok shipped]) formattingOnly .unrestricted shipmentRequest 1 r' := by
  obtain ⟨q, hplan, -⟩ := of_shipments "%Y-%m-%d" [.ok shipped]
  obtain ⟨last, hlast, hvisited, hwalk, -, -⟩ :=
    @pages_cover _ _ formattingOnly _ _ _ 1 2 hplan rfl rfl (by decide) rfl
  refine hwalk (fun i r' h => ?_) 1 ((lt_last_iff hlast).2 (by decide))
  obtain ⟨-, offset, -, ⟨q', hof, -, -, -⟩, -⟩ := hvisited i r' h
  have hflag : ∀ check < RecordStream.checks [.ok shipped], ¬isCancelled none check :=
    fun _ _ => Bool.false_ne_true
  obtain ⟨out, hout⟩ := RunPlan.exists_finish (shows_shipments [.ok shipped] q')
    (RunPlan.exists_columnsOf hof) [shipped]
  exact ⟨none, out,
    (outcome_of_not_isCancelled hof rfl rfl (shows_shipments [.ok shipped] q') hflag).trans hout⟩

end Reporting
