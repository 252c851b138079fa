import Reporting.Proofs.Staging

/-!
# What a run makes of its stream

A run that goes through has a detail row for every record of its stream, in order. A run that does
not ends with the raised flag or with the first error that is fatal, and no report
(`outcome_runReport`).
-/

namespace Reporting

/-- What a data source streams: records and, in their places, the errors of those that could not be
read. -/
abbrev RecordStream := List (Except ReportError Record)

namespace RecordStream

/-- The error by which an item ends the stream. -/
def fatal? : Except ReportError Record → Option ReportError
  | .ok _ => none
  | .error e => if e.isFatal then some e else none

/-- The item is passed over. -/
def isUnreadable : Except ReportError Record → Bool
  | .ok _ => false
  | .error e => !e.isFatal

def firstFatal? (s : RecordStream) : Option ReportError := s.findSome? fatal?

/-- The items up to the first that ends the stream, that one included. -/
def handled : RecordStream → Nat
  | [] => 0
  | item :: rest => if (fatal? item).isSome then 1 else handled rest + 1

/-- The checks of the flag in a run: one before each query and one before each item. -/
def checks (s : RecordStream) : Nat := 2 + s.handled

/-- The stream without the records that could not be read. -/
def readable (s : RecordStream) : RecordStream := s.filter (!isUnreadable ·)

def records (s : RecordStream) : List Record := s.filterMap Except.toOption

theorem fatal?_of_firstFatal? {item : Except ReportError Record} {rest : RecordStream}
    (h : firstFatal? (item :: rest) = none) : fatal? item = none ∧ rest.firstFatal? = none := by
  simpa [firstFatal?] using h

theorem handled_cons_of_fatal? {item : Except ReportError Record} (h : (fatal? item).isSome)
    (rest : RecordStream) : handled (item :: rest) = 1 := by
  rw [handled, if_pos h]

theorem handled_cons {item : Except ReportError Record} (h : fatal? item = none)
    (rest : RecordStream) : handled (item :: rest) = rest.handled + 1 := by
  rw [handled, h]
  rfl

theorem handled_of_firstFatal? : ∀ {s : RecordStream}, s.firstFatal? = none → s.handled = s.length
  | [], _ => rfl
  | item :: rest, h => by
    obtain ⟨hitem, hrest⟩ := fatal?_of_firstFatal? h
    rw [handled_cons hitem, handled_of_firstFatal? hrest, List.length_cons]

/-- The flag is down at the checks of the stream, which are counted from `first` on. -/
def Quiet (cancelled : Option Nat) (first : Nat) (s : RecordStream) : Prop :=
  ∀ check, first ≤ check → check < first + s.handled → ¬isCancelled cancelled check

section Quiet

variable {cancelled : Option Nat} {first : Nat} {item : Except ReportError Record}
  {rest : RecordStream}

theorem quiet_cons (h : fatal? item = none) : Quiet cancelled first (item :: rest)
    ↔ ¬isCancelled cancelled first ∧ Quiet cancelled (first + 1) rest := by
  rw [Quiet, Quiet, handled_cons h]
  constructor
  · exact fun hq =>
      ⟨hq first le_rfl (by omega), fun check hle hlt => hq check (by omega) (by omega)⟩
  · rintro ⟨hfirst, hq⟩ check hle hlt
    rcases hle.eq_or_lt with rfl | hle
    · exact hfirst
    · exact hq check hle (by omega)

theorem quiet_cons_of_fatal? (h : (fatal? item).isSome) :
    Quiet cancelled first (item :: rest) ↔ ¬isCancelled cancelled first := by
  rw [Quiet, handled_cons_of_fatal? h]
  constructor
  · exact fun hq => hq first le_rfl (by omega)
  · intro hfirst check hle hlt
    rwa [show check = first by omega]

theorem not_isCancelled_of_quiet (h : Quiet cancelled first (item :: rest)) :
    ¬isCancelled cancelled first := by
  cases hfatal : fatal? item with
  | none => exact ((quiet_cons hfatal).1 h).1
  | some e => exact (quiet_cons_of_fatal? (by rw [hfatal]; rfl)).1 h

/-- A run looks at the flag twice before it reads its stream. -/
theorem quiet_two_iff {s : RecordStream} :
    (∀ check < s.checks, ¬isCancelled cancelled check)
      ↔ ¬(isCancelled cancelled 0 ∨ isCancelled cancelled 1) ∧ s.Quiet cancelled 2 := by
  rw [not_or, checks, Quiet]
  constructor
  · exact fun h => ⟨⟨h 0 (by omega), h 1 (by omega)⟩, fun check _ hlt => h check hlt⟩
  · rintro ⟨⟨h0, h1⟩, h⟩ check hlt
    rcases check with _ | _ | check
    · exact h0
    · exact h1
    · exact h _ (by omega) hlt

end Quiet

/-- Without a fatal error the readable items are the records. -/
theorem readable_eq_map : ∀ {s : RecordStream}, s.firstFatal? = none →
    s.readable = s.records.map .ok
  | [], _ => rfl
  | .ok r :: rest, h => by
    have ih := readable_eq_map (fatal?_of_firstFatal? h).2
    rw [readable] at ih
    rw [readable, List.filter_cons_of_pos rfl, ih]
    rfl
  | .error e :: rest, h => by
    obtain ⟨hitem, hrest⟩ := fatal?_of_firstFatal? h
    have he : e.isFatal = false := by simpa [fatal?] using hitem
    rw [readable, List.filter_cons_of_neg (by simp [isUnreadable, he])]
    exact readable_eq_map hrest

theorem firstFatal?_map_ok (rs : List Record) : firstFatal? (rs.map .ok) = none := by
  simp [firstFatal?, fatal?]

theorem records_map_ok (rs : List Record) : records (rs.map .ok) = rs := by
  simp [records, List.filterMap_map, Function.comp_def, Except.toOption]

end RecordStream

section Items

variable {q : ReportQuery} {financial : FinancialSettings}

theorem readRecords_cons {cancelled : Option Nat} {check : Nat}
    {a : Assembly} (item : Except ReportError Record) (rest : RecordStream) :
    readRecords q financial cancelled check a (item :: rest)
      = if isCancelled cancelled check then .error .cancelled
        else match item with
          | .ok r => addRecord q financial a r >>= fun a =>
              readRecords q financial cancelled (check + 1) a rest
          | .error e =>
            if e.isFatal then .error e
            else readRecords q financial cancelled (check + 1) a rest := by
  cases item <;> rfl

theorem readRecords_map_ok :
    ∀ (records : List Record) (first : Nat) (a : Assembly),
      readRecords q financial none first a (records.map .ok)
        = records.foldlM (addRecord q financial) a
  | [], _, _ => rfl
  | r :: records, first, a => by
    have hdown : ¬isCancelled none first := Bool.false_ne_true
    rw [List.map_cons, readRecords_cons, if_neg hdown, List.foldlM_cons]
    exact bind_congr fun b => readRecords_map_ok records (first + 1) b

end Items

namespace RunPlan

variable {p : RunPlan} {mappings : MappingRegistry} {cancelled : Option Nat}

section Stream

theorem readRecords_of_not_quiet (hshows : p.Shows mappings)
    (hcolumns : ∃ item ∈ p.definition.printedItems, p.query.columnsOf item.id ≠ []) :
    ∀ {s : RecordStream} {first : Nat} {a : Assembly}, p.Between mappings a →
      ¬s.Quiet cancelled first →
      readRecords p.query p.settings.financial cancelled first a s = .error .cancelled
  | [], first, a, _, h => absurd (fun _ hle hlt => absurd hlt (Nat.not_lt.2 hle)) h
  | item :: rest, first, a, ha, h => by
    rw [readRecords_cons]
    split
    · rfl
    · rename_i hnot
      -- The flag is not up yet, so the item does not end the stream and the check is a later one.
      have hfatal : RecordStream.fatal? item = none := by
        by_contra hfatal
        exact h ((RecordStream.quiet_cons_of_fatal? (Option.isSome_iff_ne_none.2 hfatal)).2 hnot)
      have hrest : ¬RecordStream.Quiet cancelled (first + 1) rest :=
        fun hq => h ((RecordStream.quiet_cons hfatal).2 ⟨hnot, hq⟩)
      cases item with
      | ok r =>
        obtain ⟨b, hb⟩ := exists_addRecord hshows hcolumns ha r
        simp only [hb]
        exact readRecords_of_not_quiet hshows hcolumns (between_addRecord hcolumns ha hb).1 hrest
      | error e =>
        have he : e.isFatal = false := by simpa [RecordStream.fatal?] using hfatal
        simp only [he]
        exact readRecords_of_not_quiet hshows hcolumns ha hrest

theorem readRecords_of_quiet (hshows : p.Shows mappings)
    (hcolumns : ∃ item ∈ p.definition.printedItems, p.query.columnsOf item.id ≠ []) :
    ∀ {s : RecordStream} {first : Nat} {a : Assembly}, p.Between mappings a →
      s.Quiet cancelled first →
      readRecords p.query p.settings.financial cancelled first a s
        = s.firstFatal?.elim (s.records.foldlM (addRecord p.query p.settings.financial) a) .error
  | [], first, a, _, _ => rfl
  | item :: rest, first, a, ha, h => by
    rw [readRecords_cons, if_neg (RecordStream.not_isCancelled_of_quiet h)]
    cases item with
    | ok r =>
      obtain ⟨b, hb⟩ := exists_addRecord hshows hcolumns ha r
      have ih := readRecords_of_quiet hshows hcolumns (between_addRecord hcolumns ha hb).1
        ((RecordStream.quiet_cons rfl).1 h).2
      have hrecords : RecordStream.records (.ok r :: rest) = r :: RecordStream.records rest := rfl
      rw [hrecords, List.foldlM_cons]
      simp only [hb]
      exact ih
    | error e =>
      cases he : e.isFatal with
      | true => simp [he, RecordStream.firstFatal?, RecordStream.fatal?]
      | false =>
        have hfatal : RecordStream.fatal? (.error e) = none := by simp [RecordStream.fatal?, he]
        have hfirst : RecordStream.firstFatal? (.error e :: rest)
            = RecordStream.firstFatal? rest := by
          simp [RecordStream.firstFatal?, hfatal]
        simp only [he, hfirst]
        exact readRecords_of_quiet hshows hcolumns ha ((RecordStream.quiet_cons hfatal).1 h).2

/-- A stream that was read to its end held no fatal error and met no raised flag. -/
theorem of_readRecords_eq_ok {q : ReportQuery} {financial : FinancialSettings} :
    ∀ {s : RecordStream} {first : Nat} {a b : Assembly},
      readRecords q financial cancelled first a s = .ok b →
      s.Quiet cancelled first ∧ s.firstFatal? = none
        ∧ s.records.foldlM (addRecord q financial) a = .ok b
  | [], first, a, b, h => ⟨fun check hle hlt => absurd hlt (Nat.not_lt.2 hle), rfl, h⟩
  | item :: rest, first, a, b, h => by
    rw [readRecords_cons] at h
    split at h
    · cases h
    rename_i hnot
    cases item with
    | ok r =>
      obtain ⟨next, hnext, h⟩ := bind_eq_ok.1 h
      obtain ⟨hquiet, hfirst, hrecords⟩ := of_readRecords_eq_ok h
      exact ⟨(RecordStream.quiet_cons rfl).2 ⟨hnot, hquiet⟩, hfirst,
        bind_eq_ok.2 ⟨next, hnext, hrecords⟩⟩
    | error e =>
      simp only at h
      split at h
      · cases h
      · rename_i he
        obtain ⟨hquiet, hfirst, hrecords⟩ := of_readRecords_eq_ok h
        have hfatal : RecordStream.fatal? (.error e) = none := by simp [RecordStream.fatal?, he]
        refine ⟨(RecordStream.quiet_cons hfatal).2 ⟨hnot, hquiet⟩, ?_, hrecords⟩
        simpa [RecordStream.firstFatal?, hfatal] using hfirst

end Stream

section Outcome

variable {total : UInt64} {s : RecordStream}

theorem finish_of_not_quiet (hshows : p.Shows mappings)
    (hcolumns : ∃ item ∈ p.definition.printedItems, p.query.columnsOf item.id ≠ [])
    (h : ¬s.Quiet cancelled 2) : p.finish mappings cancelled total s = .error .cancelled := by
  rw [finish]
  change readRecords _ _ cancelled 2 (p.fresh mappings) s >>= _ = _
  rw [readRecords_of_not_quiet hshows hcolumns (p.between_fresh mappings) h]
  rfl

/-- While the flag is down a run is decided by the records and the first fatal error. -/
theorem finish_of_quiet (hshows : p.Shows mappings)
    (hcolumns : ∃ item ∈ p.definition.printedItems, p.query.columnsOf item.id ≠ [])
    (h : s.Quiet cancelled 2) : p.finish mappings cancelled total s
      = s.firstFatal?.elim (p.finish mappings none total (s.records.map .ok)) .error := by
  have hread := readRecords_of_quiet hshows hcolumns (p.between_fresh mappings) h
  rw [finish, finish]
  change readRecords _ _ cancelled 2 (p.fresh mappings) s >>= _
    = s.firstFatal?.elim (readRecords _ _ none 2 (p.fresh mappings) _ >>= _) _
  rw [hread, readRecords_map_ok]
  cases s.firstFatal? <;> rfl

theorem exists_finish (hshows : p.Shows mappings)
    (hcolumns : ∃ item ∈ p.definition.printedItems, p.query.columnsOf item.id ≠ [])
    (records : List Record) :
    ∃ out, p.finish mappings none total (records.map .ok) = .ok out := by
  obtain ⟨a, ha⟩ := exists_foldlM_addRecord hshows hcolumns records (p.between_fresh mappings)
  obtain ⟨b, hb⟩ := exists_complete hshows
    (between_foldlM_addRecord hcolumns (p.between_fresh mappings) ha).1
  exact ⟨_, bind_eq_ok.2 ⟨a, (readRecords_map_ok records 2 _).trans ha, bind_eq_ok.2 ⟨b, hb, rfl⟩⟩⟩

/-- A report has a row for every record of the stream. -/
theorem of_finish_eq_ok {out : ReportOutput}
    (hcolumns : ∃ item ∈ p.definition.printedItems, p.query.columnsOf item.id ≠ [])
    (h : p.finish mappings cancelled total s = .ok out) :
    s.Quiet cancelled 2 ∧ s.firstFatal? = none
      ∧ List.Forall₂ (p.GivesRow mappings) s.records out.report.details := by
  obtain ⟨a, hread, h⟩ := bind_eq_ok.1 h
  obtain ⟨b, hcomplete, h⟩ := bind_eq_ok.1 h
  cases h
  obtain ⟨hquiet, hfirst, hrecords⟩ := of_readRecords_eq_ok hread
  obtain ⟨-, rows, hdetails, hrows⟩ :=
    between_foldlM_addRecord hcolumns (p.between_fresh mappings) hrecords
  obtain ⟨-, -, completion, rfl⟩ := Assembly.rows_complete hcomplete
  have hnil : (p.fresh mappings).details = [] := rfl
  rw [hnil, List.nil_append] at hdetails
  exact ⟨hquiet, hfirst, hdetails ▸ hrows⟩

/-- Once the source answers, the flag and the stream decide. -/
theorem outcome_execute (hcount : p.source.count p.query.count p.query.params = .ok total)
    (hrecords : p.source.records p.query.complete p.query.params = .ok s) :
    (p.execute mappings cancelled).outcome
      = if isCancelled cancelled 0 ∨ isCancelled cancelled 1 then .error .cancelled
        else p.finish mappings cancelled total s := by
  rw [execute, hcount]
  by_cases h0 : isCancelled cancelled 0
  · simp [h0]
  · by_cases h1 : isCancelled cancelled 1
    · simp [h0, h1]
    · simp [h0, h1, hrecords]

end Outcome

end RunPlan

/-- The source without the records that it could not read. -/
def Source.readable (source : Source) : Source :=
  { source with
    records := fun sql params => (source.records sql params).map RecordStream.readable }

def Sources.readable (sources : Sources) : Sources :=
  { sources with source? := fun name => (sources.source? name).map Source.readable }

theorem RunPlan.of_readable {registry : Registry} {sources : Sources} {access : AccessControl}
    {r : Request} {p : RunPlan} (h : RunPlan.of registry sources access r = .ok p) :
    RunPlan.of registry sources.readable access r
      = .ok { p with source := p.source.readable } := by
  obtain ⟨hd, hsettings, hsource, hrest⟩ := RunPlan.of_eq_ok_iff.1 h
  refine RunPlan.of_eq_ok_iff.2 ⟨hd, hsettings, ?_, hrest⟩
  rw [RunPlan.sourceOf] at hsource ⊢
  cases hfound : sources.source? p.definition.dataSource with
  | none => simp [hfound] at hsource
  | some source =>
    rw [hfound] at hsource
    cases hsource
    simp [Sources.readable, hfound]

section Run

variable {registry : Registry} {sources : Sources} {mappings : MappingRegistry}
  {access : AccessControl} {r : Request} {cancelled : Option Nat} {p : RunPlan} {total : UInt64}
  {s : RecordStream}

theorem outcome_eq (hplan : RunPlan.of registry sources access r = .ok p)
    (hcount : p.source.count p.query.count p.query.params = .ok total)
    (hrecords : p.source.records p.query.complete p.query.params = .ok s) :
    (runReport registry sources mappings access r cancelled).outcome
      = if isCancelled cancelled 0 ∨ isCancelled cancelled 1 then .error .cancelled
        else p.finish mappings cancelled total s := by
  rw [runReport, hplan]
  exact RunPlan.outcome_execute hcount hrecords

theorem of_outcome_eq_ok (hplan : RunPlan.of registry sources access r = .ok p)
    (hcount : p.source.count p.query.count p.query.params = .ok total)
    (hrecords : p.source.records p.query.complete p.query.params = .ok s) {out : ReportOutput}
    (hout : (runReport registry sources mappings access r cancelled).outcome = .ok out) :
    (∀ check < s.checks, ¬isCancelled cancelled check) ∧ s.firstFatal? = none
      ∧ List.Forall₂ (p.GivesRow mappings) s.records out.report.details := by
  rw [outcome_eq hplan hcount hrecords] at hout
  split at hout
  · cases hout
  rename_i hearly
  obtain ⟨hquiet, hfirst, hrows⟩ := RunPlan.of_finish_eq_ok (RunPlan.exists_columnsOf hplan) hout
  exact ⟨RecordStream.quiet_two_iff.2 ⟨hearly, hquiet⟩, hfirst, hrows⟩

theorem outcome_of_isCancelled (hplan : RunPlan.of registry sources access r = .ok p)
    (hcount : p.source.count p.query.count p.query.params = .ok total)
    (hrecords : p.source.records p.query.complete p.query.params = .ok s)
    (hshows : p.Shows mappings) (hflag : ¬∀ check < s.checks, ¬isCancelled cancelled check) :
    (runReport registry sources mappings access r cancelled).outcome = .error .cancelled := by
  rw [outcome_eq hplan hcount hrecords]
  split
  · rfl
  · rename_i hearly
    exact RunPlan.finish_of_not_quiet hshows (RunPlan.exists_columnsOf hplan)
      fun hquiet => hflag (RecordStream.quiet_two_iff.2 ⟨hearly, hquiet⟩)

/-- While the flag is down the records and the first fatal error decide. -/
theorem outcome_of_not_isCancelled (hplan : RunPlan.of registry sources access r = .ok p)
    (hcount : p.source.count p.query.count p.query.params = .ok total)
    (hrecords : p.source.records p.query.complete p.query.params = .ok s)
    (hshows : p.Shows mappings) (hflag : ∀ check < s.checks, ¬isCancelled cancelled check) :
    (runReport registry sources mappings access r cancelled).outcome
      = s.firstFatal?.elim (p.finish mappings none total (s.records.map .ok)) .error := by
  obtain ⟨hearly, hquiet⟩ := RecordStream.quiet_two_iff.1 hflag
  rw [outcome_eq hplan hcount hrecords, if_neg hearly]
  exact RunPlan.finish_of_quiet hshows (RunPlan.exists_columnsOf hplan) hquiet

/-- A run is all or nothing. Its flag, looked at once for each of the queries and once for each item
up to the first fatal error, comes before that error. -/
theorem outcome_runReport (hplan : RunPlan.of registry sources access r = .ok p)
    (hcount : p.source.count p.query.count p.query.params = .ok total)
    (hrecords : p.source.records p.query.complete p.query.params = .ok s) :
    (∀ out, (runReport registry sources mappings access r cancelled).outcome = .ok out →
        (∀ check < s.checks, ¬isCancelled cancelled check) ∧ s.firstFatal? = none
          ∧ out.report.recordCount = s.records.length
          ∧ List.Forall₂ (p.GivesRow mappings) s.records out.report.details)
      ∧ (p.Shows mappings →
        ((∃ check < s.checks, isCancelled cancelled check) →
            (runReport registry sources mappings access r cancelled).outcome = .error .cancelled)
          ∧ ((∀ check < s.checks, ¬isCancelled cancelled check) →
            (∀ e, s.firstFatal? = some e →
                (runReport registry sources mappings access r cancelled).outcome = .error e)
              ∧ (s.firstFatal? = none → ∃ out,
                (runReport registry sources mappings access r cancelled).outcome = .ok out
                  ∧ (runReport registry sources.readable mappings access r cancelled).outcome
                    = .ok out))) := by
  refine ⟨fun out hout => ?_, fun hshows => ⟨fun ⟨check, hlt, hflag⟩ => ?_, fun hflag => ?_⟩⟩
  · obtain ⟨hflag, hfirst, hrows⟩ := of_outcome_eq_ok hplan hcount hrecords hout
    exact ⟨hflag, hfirst, hrows.length_eq.symm, hrows⟩
  · exact outcome_of_isCancelled hplan hcount hrecords hshows fun hdown => hdown check hlt hflag
  · rw [outcome_of_not_isCancelled hplan hcount hrecords hshows hflag]
    refine ⟨fun e he => by rw [he]; rfl, fun hfirst => ?_⟩
    obtain ⟨out, hout⟩ : ∃ out, p.finish mappings none total (s.records.map .ok) = .ok out :=
      RunPlan.exists_finish hshows (RunPlan.exists_columnsOf hplan) s.records
    have hreadable : (p.source.readable).records p.query.complete p.query.params
        = .ok (s.records.map .ok) := by
      rw [← RecordStream.readable_eq_map hfirst]
      simp [Source.readable, hrecords, Except.map]
    have hchecks : RecordStream.checks (s.records.map .ok) ≤ s.checks := by
      rw [RecordStream.checks, RecordStream.checks, RecordStream.handled_of_firstFatal? hfirst,
        RecordStream.handled_of_firstFatal? (RecordStream.firstFatal?_map_ok _), List.length_map]
      exact Nat.add_le_add_left (List.length_filterMap_le _ _) 2
    refine ⟨out, by rw [hfirst]; exact hout, ?_⟩
    rw [outcome_of_not_isCancelled (RunPlan.of_readable hplan) hcount hreadable hshows
      fun check hlt => hflag check (hlt.trans_le hchecks), RecordStream.firstFatal?_map_ok,
      RecordStream.records_map_ok]
    exact hout

end Run

section Shipments

/-- The day of a shipment in a pattern. -/
def shippedItem (pattern : String) : Item where
  id := 1
  name := "Shipped"
  columnName := some "Shipped"
  displayType := .date
  formatPattern := some pattern

def shipments (pattern : String) : Definition where
  id := 1
  name := "Shipments"
  tableName := "Shipment"
  items := [shippedItem pattern]

/-- A shipment on the first of March. -/
def shipped : Record := .ofPairs [("Shipped", .timestamp (.midnight ⟨2024, 3, 1, by decide⟩))]

def shipmentSource (s : RecordStream) : Source where
  dialect := .ansi
  count _ _ := .ok 2
  records _ _ := .ok s

def shipmentSources (s : RecordStream) : Sources where
  source? _ := some (shipmentSource s)

/-- One shipment a page. -/
def shipmentRequest : Request where
  reportId := some 1
  limit := 1

def formattingOnly : MappingRegistry := ⟨.empty, Formatting.mapping⟩

def shipmentPlan (pattern : String) (s : RecordStream) (q : ReportQuery) : RunPlan where
  definition := shipments pattern
  settings := {}
  source := shipmentSource s
  requestHash := shipmentRequest.hash
  query := q

theorem printedItems_shipments (pattern : String) :
    (shipments pattern).printedItems = [shippedItem pattern] :=
  List.mergeSort_singleton _

theorem of_shipments (pattern : String) (s : RecordStream) :
    ∃ q, RunPlan.of (.ofParts [shipments pattern] []) (shipmentSources s) .unrestricted
        shipmentRequest = .ok (shipmentPlan pattern s q)
      ∧ q.columns = [Projection.rawColumn "Shipment" (shippedItem pattern) "Shipped"] := by
  have hp : Projection.ofDefinition (Registry.ofParts [shipments pattern] []).resolver "en_US"
      (shipments pattern) = .ok { columns :=
        [Projection.rawColumn "Shipment" (shippedItem pattern) "Shipped"] } := by
    rw [Projection.ofDefinition, printedItems_shipments]
    rfl
  have hreport : RunPlan.reportOf (.ofParts [shipments pattern] []) shipmentRequest
      = .ok (shipments pattern) := rfl
  obtain ⟨q, hq, hcolumns⟩ : ∃ q, ReportQuery.build .ansi .unrestricted
      (.ofSettings {}) (shipments pattern) (Registry.ofParts [shipments pattern] []).resolver []
      (.ofRequest 1 0 (ResolvedSettings.pages {}).pageSize) = .ok q
        ∧ q.columns = [Projection.rawColumn "Shipment" (shippedItem pattern) "Shipped"] :=
    ⟨_, bind_eq_ok.2 ⟨_, hp, rfl⟩, rfl⟩
  exact ⟨q, RunPlan.of_eq_ok_iff.2 ⟨hreport, rfl, rfl, rfl, 0, rfl, hq⟩, hcolumns⟩

theorem get_formattingOnly (d : Definition) (item : Int) :
    (formattingOnly.bind d).get item = Formatting.mapping := by
  have hresolve (name : Option String) : formattingOnly.resolve name = Formatting.mapping := by
    cases name with
    | none => rfl
    | some name =>
      simp only [MappingRegistry.resolve, Option.map_some, Option.bind_some]
      split <;> rfl
  rw [ItemMappings.get]
  cases h : (formattingOnly.bind d).byItem.get? item with
  | none => rfl
  | some m =>
    rw [MappingRegistry.bind, SortedMap.get?_ofList, Option.map_eq_some_iff] at h
    obtain ⟨e, he, rfl⟩ := h
    obtain ⟨i, -, rfl⟩ := List.mem_map.1 (List.mem_reverse.1 (List.mem_of_find?_eq_some he))
    exact hresolve i.mapping

theorem shows_shipments (s : RecordStream) (q : ReportQuery) :
    (shipmentPlan "%Y-%m-%d" s q).Shows formattingOnly := by
  refine RunPlan.shows_of_formatting (get_formattingOnly _) fun item hitem _ => ?_
  rw [shipmentPlan, printedItems_shipments, List.mem_singleton] at hitem
  have hdirectives : Locale.timestampDirectives {} .date (some "%Y-%m-%d")
      = [.number .year .zero, .literal '-', .number .month .zero, .literal '-',
        .number .day .zero] :=
    Locale.timestampDirectives_of_percent (by decide) (by decide) rfl _ _
  rw [hitem]
  change _ ∉ Locale.timestampDirectives {} .date (some "%Y-%m-%d")
  rw [hdirectives]
  decide

/-- Two shipments around a record that could not be read. -/
def shipmentsAndGap : RecordStream := [.ok shipped, .error (.dataAccess "no row"), .ok shipped]

theorem outcome_runReport_shipments :
    ∃ out, (runReport (.ofParts [shipments "%Y-%m-%d"] []) (shipmentSources shipmentsAndGap)
        formattingOnly .unrestricted shipmentRequest none).outcome = .ok out
      ∧ out.report.recordCount = 2 := by
  obtain ⟨q, hplan, -⟩ := of_shipments "%Y-%m-%d" shipmentsAndGap
  obtain ⟨hok, hdone⟩ :=
    @outcome_runReport _ _ formattingOnly _ _ none _ 2 shipmentsAndGap hplan rfl rfl
  obtain ⟨out, hout, -⟩ :=
    ((hdone (shows_shipments _ _)).2 fun _ _ => Bool.false_ne_true).2 rfl
  exact ⟨out, hout, (hok out hout).2.2.1⟩

theorem readColumn_zoned (s : RecordStream) (q : ReportQuery) (c : Cell) :
    readColumn ((shipmentPlan "%Z" s q).fresh formattingOnly) (shippedItem "%Z") shipped c
      (Projection.rawColumn "Shipment" (shippedItem "%Z") "Shipped") = .error .zoneNeeded := by
  have hzoned : ({} : Locale).formatTimestamp .date (some "%Z")
      (.midnight ⟨2024, 3, 1, by decide⟩) = .error .zoneNeeded := by
    rw [Locale.formatTimestamp,
      Locale.timestampDirectives_of_percent (p := [.zone]) (by decide) (by decide) rfl]
    rfl
  have hcolumn : shipped.columns.findIdx? (Text.sameAsciiCase · "Shipped") = some 0 := by
    decide +kernel
  have hvalue : rawCellValue (shippedItem "%Z")
      (Projection.rawColumn "Shipment" (shippedItem "%Z") "Shipped") shipped
        = .timestamp (.midnight ⟨2024, 3, 1, by decide⟩) :=
    congrArg (fun i => (i.bind (shipped.values[·]?)).getD .null) hcolumn
  have hget : ((shipmentPlan "%Z" s q).fresh formattingOnly).options.mappings.get
      (shippedItem "%Z").id = Formatting.mapping := get_formattingOnly _ _
  have hformat : Formatting.format (shippedItem "%Z") {}
      { c with value := .timestamp (.midnight ⟨2024, 3, 1, by decide⟩) } = .error .zoneNeeded :=
    congrArg (· >>= _) (congrArg (some <$> ·) hzoned)
  have hraw : (Projection.rawColumn "Shipment" (shippedItem "%Z") "Shipped").isDisplay = false :=
    rfl
  rw [readColumn, hraw, if_neg Bool.false_ne_true, hget, hvalue]
  exact hformat

/-- A day is not shown by a time zone, and there is no report then. -/
theorem outcome_runReport_zoned :
    ∃ p, RunPlan.of (.ofParts [shipments "%Z"] []) (shipmentSources [.ok shipped]) .unrestricted
        shipmentRequest = .ok p
      ∧ p.source.count p.query.count p.query.params = .ok 2
      ∧ p.source.records p.query.complete p.query.params = .ok [.ok shipped]
      ∧ (runReport (.ofParts [shipments "%Z"] []) (shipmentSources [.ok shipped]) formattingOnly
          .unrestricted shipmentRequest none).outcome = .error .zoneNeeded := by
  obtain ⟨q, hplan, hcolumns⟩ := of_shipments "%Z" [.ok shipped]
  refine ⟨_, hplan, rfl, rfl, ?_⟩
  have hcolumnsOf : q.columnsOf (shippedItem "%Z").id
      = [Projection.rawColumn "Shipment" (shippedItem "%Z") "Shipped"] := by
    rw [ReportQuery.columnsOf, hcolumns]
    rfl
  have hread : readItem q shipped ((shipmentPlan "%Z" [.ok shipped] q).fresh formattingOnly)
      (shippedItem "%Z") = .error .zoneNeeded := by
    rw [readItem, hcolumnsOf]
    simp only [List.foldlM_cons, readColumn_zoned]
    rfl
  have hrecord : addRecord q {} ((shipmentPlan "%Z" [.ok shipped] q).fresh formattingOnly) shipped
      = .error .zoneNeeded := by
    have hitems : ((shipmentPlan "%Z" [.ok shipped] q).fresh formattingOnly).items
        = [shippedItem "%Z"] := printedItems_shipments _
    rw [addRecord, hitems, List.foldlM_cons, hread]
    rfl
  rw [runReport, hplan]
  refine (RunPlan.outcome_execute rfl rfl).trans ?_
  have hstream : readRecords q {} none 2
      ((shipmentPlan "%Z" [.ok shipped] q).fresh formattingOnly) [.ok shipped]
      = .error .zoneNeeded := by
    refine (readRecords_map_ok [shipped] 2 _).trans ?_
    rw [List.foldlM_cons, hrecord]
    rfl
  exact congrArg (· >>= _) hstream

end Shipments

end Reporting
