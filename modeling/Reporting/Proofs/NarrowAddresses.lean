import Reporting.Proofs.Addresses
import Reporting.Proofs.BoundValues
import Reporting.Proofs.DecimalValue
import Reporting.Proofs.Digits
import Reporting.Proofs.Stream

/-!
# Addresses of financial rows in 32 bits

A record of a financial report gives the numbers of its address exactly (`CellValue.Holds.int64?`),
but its row stands at their low 32 bits. So the row is at the address only if both numbers have room
there, addresses that differ by multiples of `2 ^ 32` are one, and every level that is such a
multiple is taken for that of a root (`addresses_narrowed`).
-/

namespace Reporting

section Narrow

theorem narrow_eq (i : Int64) : narrow i = i.toInt.bmod (2 ^ 32) := Int64.toInt_toInt32 i

/-- The number has room in 32 bits. -/
def HasRoom (i : Int64) : Prop := -2 ^ 31 ≤ i.toInt ∧ i.toInt < 2 ^ 31

theorem narrow_eq_toInt_iff {i : Int64} : narrow i = i.toInt ↔ HasRoom i := by
  rw [narrow_eq, Int.bmod_def, HasRoom]
  split <;> omega

theorem narrow_eq_narrow_iff {i j : Int64} :
    narrow i = narrow j ↔ (2 ^ 32 : Int) ∣ i.toInt - j.toInt := by
  rw [narrow_eq, narrow_eq, Int.bmod_def, Int.bmod_def]
  split <;> split <;> omega

theorem narrow_eq_zero_iff {i : Int64} : narrow i = 0 ↔ (2 ^ 32 : Int) ∣ i.toInt := by
  rw [narrow_eq, Int.bmod_def]
  split <;> omega

end Narrow

section Integers

theorem int64OfInt?_toInt (i : Int64) : int64OfInt? i.toInt = some i := by
  rw [int64OfInt?, if_pos ⟨i.le_toInt, i.toInt_lt⟩, Int64.ofInt_toInt]

/-- The value is the integer: a number of any number of places, an identifier, or digits that may
have a sign and blanks around them. -/
inductive CellValue.Holds : CellValue → Int64 → Prop
  | number {d : Decimal} {i : Int64} (h : d.value = i.toInt) : Holds (.number d) i
  | reference (i : Int64) : Holds (.reference i) i
  | digits {s : String} {i : Int64} {sign ds : List Char} (hs : (Text.trim s).toList = sign ++ ds)
      (hne : ds ≠ []) (hds : ∀ c ∈ ds, Text.isDigit c)
      (h : (sign = [] ∨ sign = ['+']) ∧ i.toInt = Text.digitsValue ds
        ∨ sign = ['-'] ∧ i.toInt = -Text.digitsValue ds) : Holds (.text s) i

theorem CellValue.Holds.int64? {c : CellValue} {i : Int64} (h : c.Holds i) :
    c.int64? = some i := by
  cases h with
  | number h => rw [CellValue.int64?, Decimal.toInt64?, Decimal.trunc_of_value h, int64OfInt?_toInt]
  | reference => rfl
  | @digits s _ sign ds hs hne hds h =>
    have hnat := Text.natOf?_of_isDigit hne hds
    have hread : Text.intOf? (Text.trim s).toList = some i.toInt := by
      rw [hs]
      obtain ⟨rfl | rfl, hi⟩ | ⟨rfl, hi⟩ := h
      · rw [List.nil_append, Text.intOf?_digits hne hds, hi]
      · rw [List.singleton_append, Text.intOf?, hnat, hi]
        rfl
      · rw [List.singleton_append, Text.intOf?, hnat, hi]
        rfl
    rw [CellValue.int64?, hread]
    exact int64OfInt?_toInt i

end Integers

/-- The columns of the address hold its level and its sequence. -/
structure Record.StandsAt (f : FinancialSettings) (level sequence : Int64) (r : Record) :
    Prop where
  level : ∃ c, r.get? f.levelColumn = some c ∧ c.Holds level
  sequence : ∃ c, r.get? f.sequenceColumn = some c ∧ c.Holds sequence

theorem addressOf_eq {r : Record} {column : String} {i : Int64}
    (h : ∃ c, r.get? column = some c ∧ c.Holds i) : addressOf r column = narrow i := by
  obtain ⟨c, hget, hc⟩ := h
  rw [addressOf, Record.int64?, hget, Option.bind_some, hc.int64?, Option.getD_some]

namespace Assembly

variable {a b : Assembly}

theorem consistent_readItem {q : ReportQuery} {r : Record} {item : Item} (h : Consistent a)
    (hread : readItem q r a item = .ok b) : Consistent b := by
  unfold readItem at hread
  split at hread
  · cases hread
    exact h
  · obtain ⟨c, -, hread⟩ := bind_eq_ok.1 hread
    cases hread
    exact consistent_addCell h item.id c

theorem consistent_addRecord {q : ReportQuery} {f : FinancialSettings} {r : Record}
    (h : Consistent a) (hadd : addRecord q f a r = .ok b) : Consistent b := by
  obtain ⟨c, hread, hclose⟩ := bind_eq_ok.1 hadd
  have hc : Consistent c :=
    foldlM_invariant (fun _ _ _ h hread => consistent_readItem h hread) h hread
  split at hclose
  · cases hclose
    exact consistent_closeRow hc _ _
  · cases hclose
    exact consistent_closeRow hc _ _

theorem isSummary_of_mem_rows {t : Totals} {r : Row} (h : r ∈ t.rows) : r.isSummary = true := by
  obtain ⟨⟨rank, i⟩, -, hr⟩ := List.mem_flatMap.1 h
  obtain ⟨g, -, rfl⟩ := List.mem_map.1 hr
  rfl

/-- The roots of a financial report that are no totals are its details of level zero. -/
theorem roots_complete (h : Consistent a) (hfinancial : a.isFinancial)
    (hsummary : a.definition.isSummary = false) (hcomplete : a.complete = .ok b) :
    ((b.tree.map RowTree.row).filter (!·.isSummary)).Perm
      ((a.details.filter (·.level = 0)).map a.shown) := by
  obtain ⟨hrows, -, completion, rfl⟩ := rows_complete hcomplete
  have htree : Assembly.tree { a with completion := completion }
      = RowTree.financial completion.rows := if_pos hfinancial
  have hroots : (RowTree.financial completion.rows).map RowTree.row
      = completion.rows.filter (·.level = 0) := by
    rw [RowTree.financial, List.map_map]
    exact List.map_id'' (fun r => RowTree.row_financialFrom _ r) _
  have hsources : a.sources.filter (fun r => !r.isSummary && r.level = 0)
      = a.details.filter (·.level = 0) := by
    have hdetails : a.details.filter (fun r => !r.isSummary && r.level = 0)
        = a.details.filter (·.level = 0) :=
      List.filter_congr fun r hr => by rw [h.details r hr]; rfl
    have htotals : a.totals.rows.filter (fun r => !r.isSummary && r.level = 0) = [] :=
      List.filter_eq_nil_iff.2 fun r hr => by simp [isSummary_of_mem_rows hr]
    rw [sources, hsummary, List.filter_append, htotals, List.append_nil]
    exact hdetails
  rw [htree, hroots, List.filter_filter, hrows, List.filter_map, ← hsources]
  exact ((List.mergeSort_perm _ _).filter _).map _

end Assembly

namespace RunPlan

variable {p : RunPlan} {mappings : MappingRegistry} {cancelled : Option Nat} {total : UInt64}
  {s : RecordStream} {out : ReportOutput}

theorem isFinancial_fresh_iff : (p.fresh mappings).isFinancial
    ↔ p.definition.tableName = p.settings.financial.tableName :=
  decide_eq_true_iff

/-- The row of a record in a financial report is narrowed to 32 bits. -/
theorem GivesRow.narrowed {r : Record} {row : Row} {level sequence : Int64}
    (h : p.GivesRow mappings r row)
    (hfinancial : p.definition.tableName = p.settings.financial.tableName)
    (hr : r.StandsAt p.settings.financial level sequence) :
    row.level = narrow level ∧ row.sequence = narrow sequence := by
  obtain ⟨a, hadd, hdetails⟩ := h
  obtain ⟨b, hread, hclose⟩ := bind_eq_ok.1 hadd
  rw [foldlM_readItem] at hread
  obtain ⟨staged, -, rfl⟩ := map_eq_ok.1 hread
  have hfresh : Assembly.isFinancial { p.fresh mappings with staged := staged } :=
    isFinancial_fresh_iff.2 hfinancial
  rw [if_pos hfresh, addressOf_eq hr.level, addressOf_eq hr.sequence] at hclose
  cases hclose
  cases staged with
  | none => cases hdetails
  | some row' =>
    obtain rfl := (List.cons.inj hdetails).1
    exact ⟨rfl, rfl⟩

/-- The report of a run is its records read one after another and then completed. -/
theorem exists_read_of_finish (h : p.finish mappings cancelled total s = .ok out) :
    ∃ a, s.records.foldlM (addRecord p.query p.settings.financial) (p.fresh mappings) = .ok a
      ∧ a.complete = .ok out.report := by
  obtain ⟨a, hread, h⟩ := bind_eq_ok.1 h
  obtain ⟨b, hcomplete, h⟩ := bind_eq_ok.1 h
  cases h
  exact ⟨a, (of_readRecords_eq_ok hread).2.2, hcomplete⟩

/-- Each record of a financial run with its row, which is narrowed to 32 bits. -/
theorem exists_rows_of_finish (hfinancial : p.definition.tableName = p.settings.financial.tableName)
    (hcolumns : ∃ item ∈ p.definition.printedItems, p.query.columnsOf item.id ≠ [])
    {address : Record → Int64 × Int64}
    (haddress : ∀ r ∈ s.records, r.StandsAt p.settings.financial (address r).1 (address r).2)
    (h : p.finish mappings cancelled total s = .ok out) :
    s.records.length = out.report.details.length
      ∧ ∀ e ∈ s.records.zip out.report.details,
        e.2.level = narrow (address e.1).1 ∧ e.2.sequence = narrow (address e.1).2 := by
  obtain ⟨-, -, hrows⟩ := of_finish_eq_ok hcolumns h
  obtain ⟨hlength, hgives⟩ := List.forall₂_iff_zip.1 hrows
  exact ⟨hlength, fun e he => (hgives he).narrowed hfinancial (haddress _ (List.of_mem_zip he).1)⟩

/-- The roots of a financial report that are no totals are the rows of its records at level zero. -/
theorem roots_of_finish (hfinancial : p.definition.tableName = p.settings.financial.tableName)
    (hcolumns : ∃ item ∈ p.definition.printedItems, p.query.columnsOf item.id ≠ [])
    (hsummary : p.definition.isSummary = false)
    (h : p.finish mappings cancelled total s = .ok out) :
    ((out.report.tree.map RowTree.row).filter (!·.isSummary)).Perm
      ((out.report.details.filter (·.level = 0)).map out.report.shown) := by
  obtain ⟨a, hread, hcomplete⟩ := exists_read_of_finish h
  obtain ⟨hbetween, -⟩ := between_foldlM_addRecord hcolumns (p.between_fresh mappings) hread
  have hconsistent : a.Consistent := foldlM_invariant
    (fun _ _ _ hb hadd => Assembly.consistent_addRecord hb hadd)
    (Assembly.consistent_start p.definition (p.options mappings)) hread
  have hfinancial' : a.isFinancial := by
    rw [Assembly.isFinancial, hbetween.definition, hbetween.options]
    exact decide_eq_true hfinancial
  rw [← hbetween.definition] at hsummary
  have hroots := Assembly.roots_complete hconsistent hfinancial' hsummary hcomplete
  obtain ⟨-, -, completion, hreport⟩ := Assembly.rows_complete hcomplete
  rw [hreport] at hroots ⊢
  exact hroots

end RunPlan

section Ledger

def accountItem : Item where
  id := 1
  name := "Account"
  columnName := some "Account"
  displayType := .string

def ledger : Definition where
  id := 1
  name := "Balances"
  tableName := "T_Report"
  items := [accountItem]

def entry (account : String) (level sequence : Int64) : Record :=
  .ofPairs [("Account", .text account), ("LevelNo", .number (.ofInt64 level)),
    ("SeqNo", .number (.ofInt64 sequence))]

theorem standsAt_entry (account : String) (level sequence : Int64) :
    (entry account level sequence).StandsAt {} level sequence := by
  have hlevel : ["Account", "LevelNo", "SeqNo"].findIdx? (Text.sameAsciiCase · "LevelNo")
      = some 1 := by decide +kernel
  have hsequence : ["Account", "LevelNo", "SeqNo"].findIdx? (Text.sameAsciiCase · "SeqNo")
      = some 2 := by decide +kernel
  exact ⟨⟨_, (congrArg (Option.bind · _) hlevel).trans rfl,
      .number (Decimal.value_ofInt64 level)⟩,
    ⟨_, (congrArg (Option.bind · _) hsequence).trans rfl,
      .number (Decimal.value_ofInt64 sequence)⟩⟩

def addressOfEntry (r : Record) : Int64 × Int64 :=
  ((r.int64? "LevelNo").getD 0, (r.int64? "SeqNo").getD 0)

theorem addressOfEntry_of_standsAt {r : Record} {level sequence : Int64}
    (h : r.StandsAt {} level sequence) : addressOfEntry r = (level, sequence) := by
  obtain ⟨⟨c, hget, hc⟩, ⟨c', hget', hc'⟩⟩ := h
  have hlevel : r.int64? "LevelNo" = some level := by
    rw [Record.int64?, hget, Option.bind_some, hc.int64?]
  have hsequence : r.int64? "SeqNo" = some sequence := by
    rw [Record.int64?, hget', Option.bind_some, hc'.int64?]
  rw [addressOfEntry, hlevel, hsequence]
  rfl

/-- A root and a row far below it, both of one sequence. -/
def entries : RecordStream := [.ok (entry "Assets" 0 10), .ok (entry "Cash" 4294967296 10)]

theorem standsAt_addressOfEntry : ∀ r ∈ entries.records,
    r.StandsAt {} (addressOfEntry r).1 (addressOfEntry r).2 := by
  intro r hr
  obtain rfl | rfl : r = entry "Assets" 0 10 ∨ r = entry "Cash" 4294967296 10 := by
    simpa [entries, RecordStream.records, Except.toOption] using hr
  all_goals
    rw [addressOfEntry_of_standsAt (standsAt_entry _ _ _)]
    exact standsAt_entry _ _ _

theorem exists_run_entries :
    ∃ p out, RunPlan.of (.ofParts [ledger] []) (shipmentSources entries) .unrestricted
        shipmentRequest = .ok p
      ∧ p.definition = ledger ∧ p.settings = {}
      ∧ p.source.count p.query.count p.query.params = .ok 2
      ∧ p.source.records p.query.complete p.query.params = .ok entries
      ∧ (runReport (.ofParts [ledger] []) (shipmentSources entries) formattingOnly .unrestricted
          shipmentRequest none).outcome = .ok out := by
  have hprinted : ledger.printedItems = [accountItem] := List.mergeSort_singleton _
  have hp : Projection.ofDefinition (Registry.ofParts [ledger] []).resolver "en_US" ledger
      = .ok { columns := [Projection.rawColumn "T_Report" accountItem "Account"] } := by
    rw [Projection.ofDefinition, hprinted]
    rfl
  obtain ⟨q, hq⟩ : ∃ q, ReportQuery.build .ansi .unrestricted (.ofSettings {}) ledger
      (Registry.ofParts [ledger] []).resolver []
      (.ofRequest 1 0 (ResolvedSettings.pages {}).pageSize) = .ok q :=
    ⟨_, bind_eq_ok.2 ⟨_, hp, rfl⟩⟩
  let p : RunPlan := {
    definition := ledger
    settings := {}
    source := shipmentSource entries
    requestHash := shipmentRequest.hash
    query := q }
  have hplan : RunPlan.of (.ofParts [ledger] []) (shipmentSources entries) .unrestricted
      shipmentRequest = .ok p :=
    RunPlan.of_eq_ok_iff.2 ⟨rfl, rfl, rfl, rfl, 0, rfl, hq⟩
  have hshows : p.Shows formattingOnly := by
    refine RunPlan.shows_of_formatting (get_formattingOnly _) fun item hitem hdate => ?_
    obtain rfl := List.mem_singleton.1 (hprinted ▸ hitem)
    cases hdate
  obtain ⟨out, hout⟩ : ∃ out, p.finish formattingOnly none 2 entries = .ok out :=
    RunPlan.exists_finish hshows (RunPlan.exists_columnsOf hplan)
      [entry "Assets" 0 10, entry "Cash" 4294967296 10]
  exact ⟨p, out, hplan, rfl, rfl, rfl, rfl, (outcome_eq hplan rfl rfl).trans hout⟩

end Ledger

section Run

variable {registry : Registry} {sources : Sources} {mappings : MappingRegistry}
  {access : AccessControl} {r : Request} {cancelled : Option Nat} {p : RunPlan} {total : UInt64}
  {s : RecordStream} {out : ReportOutput}

theorem finish_of_outcome (hplan : RunPlan.of registry sources access r = .ok p)
    (hcount : p.source.count p.query.count p.query.params = .ok total)
    (hrecords : p.source.records p.query.complete p.query.params = .ok s)
    (hout : (runReport registry sources mappings access r cancelled).outcome = .ok out) :
    p.finish mappings cancelled total s = .ok out := by
  rw [outcome_eq hplan hcount hrecords] at hout
  split at hout
  · cases hout
  · exact hout

/-- Every record of a financial report has a row, which stands at the low 32 bits of the numbers of
its address. The row is at the address itself only if both numbers have room; two records share an
address exactly if their levels and their sequences differ by multiples of `2 ^ 32`; and the roots
of the tree, totals apart, are the rows of the records whose level is such a multiple. -/
theorem addresses_narrowed (hplan : RunPlan.of registry sources access r = .ok p)
    (hcount : p.source.count p.query.count p.query.params = .ok total)
    (hrecords : p.source.records p.query.complete p.query.params = .ok s)
    (hfinancial : p.definition.tableName = p.settings.financial.tableName)
    {address : Record → Int64 × Int64}
    (haddress : ∀ r ∈ s.records, r.StandsAt p.settings.financial (address r).1 (address r).2)
    (hout : (runReport registry sources mappings access r cancelled).outcome = .ok out) :
    s.records.length = out.report.details.length
      ∧ (∀ e ∈ s.records.zip out.report.details,
        e.2.level = (address e.1).1.toInt.bmod (2 ^ 32)
          ∧ e.2.sequence = (address e.1).2.toInt.bmod (2 ^ 32)
          ∧ (e.2.isAt (address e.1).1.toInt (address e.1).2.toInt
            ↔ HasRoom (address e.1).1 ∧ HasRoom (address e.1).2))
      ∧ (∀ e ∈ s.records.zip out.report.details, ∀ e' ∈ s.records.zip out.report.details,
        (e.2.level = e'.2.level ∧ e.2.sequence = e'.2.sequence
          ↔ (2 ^ 32 : Int) ∣ (address e.1).1.toInt - (address e'.1).1.toInt
            ∧ (2 ^ 32 : Int) ∣ (address e.1).2.toInt - (address e'.1).2.toInt))
      ∧ (p.definition.isSummary = false →
        ((out.report.tree.map RowTree.row).filter (!·.isSummary)).Perm
          (((s.records.zip out.report.details).filter
              fun e => (2 ^ 32 : Int) ∣ (address e.1).1.toInt).map
            fun e => out.report.shown e.2)) := by
  have hfinish := finish_of_outcome hplan hcount hrecords hout
  have hcolumns := RunPlan.exists_columnsOf hplan
  obtain ⟨hlength, hrows⟩ :=
    RunPlan.exists_rows_of_finish hfinancial hcolumns haddress hfinish
  refine ⟨hlength, fun e he => ?_, fun e he e' he' => ?_, fun hsummary => ?_⟩
  · obtain ⟨hlevel, hsequence⟩ := hrows e he
    rw [Row.isAt_iff, hlevel, hsequence, narrow_eq_toInt_iff, narrow_eq_toInt_iff]
    exact ⟨narrow_eq _, narrow_eq _, Iff.rfl⟩
  · obtain ⟨hlevel, hsequence⟩ := hrows e he
    obtain ⟨hlevel', hsequence'⟩ := hrows e' he'
    rw [hlevel, hsequence, hlevel', hsequence', narrow_eq_narrow_iff, narrow_eq_narrow_iff]
  · have hroots := RunPlan.roots_of_finish hfinancial hcolumns hsummary hfinish
    have hdetails : out.report.details.filter (·.level = 0)
        = ((s.records.zip out.report.details).filter
            fun e => (2 ^ 32 : Int) ∣ (address e.1).1.toInt).map Prod.snd := by
      conv_lhs => rw [← List.map_snd_zip hlength.ge, List.filter_map]
      congr 1
      refine List.filter_congr fun e he => ?_
      simp only [Function.comp_apply, (hrows e he).1, narrow_eq_zero_iff]
    rw [hdetails, List.map_map] at hroots
    exact hroots

end Run

/-- Both levels are multiples of `2 ^ 32`, so both rows are roots. -/
theorem addresses_narrowed_entries :
    ∃ out, (runReport (.ofParts [ledger] []) (shipmentSources entries) formattingOnly .unrestricted
        shipmentRequest none).outcome = .ok out
      ∧ out.report.details.length = 2
      ∧ ((out.report.tree.map RowTree.row).filter (!·.isSummary)).length = 2 := by
  obtain ⟨p, out, hplan, hdefinition, hsettings, hcount, hrecords, hout⟩ := exists_run_entries
  have hfinancial : p.definition.tableName = p.settings.financial.tableName := by
    rw [hdefinition, hsettings]
    rfl
  have haddress : ∀ r ∈ entries.records,
      r.StandsAt p.settings.financial (addressOfEntry r).1 (addressOfEntry r).2 := by
    rw [hsettings]
    exact standsAt_addressOfEntry
  obtain ⟨hlength, -, -, hroots⟩ :=
    addresses_narrowed hplan hcount hrecords hfinancial haddress hout
  have htwo : out.report.details.length = 2 := hlength.symm
  have hlevel : ∀ e ∈ entries.records.zip out.report.details,
      (2 ^ 32 : Int) ∣ (addressOfEntry e.1).1.toInt := by
    intro e he
    obtain hr | hr : e.1 = entry "Assets" 0 10 ∨ e.1 = entry "Cash" 4294967296 10 := by
      simpa [entries, RecordStream.records, Except.toOption] using (List.of_mem_zip he).1
    all_goals
      rw [hr, addressOfEntry_of_standsAt (standsAt_entry _ _ _)]
      decide
  have hall : (entries.records.zip out.report.details).filter
      (fun e => (2 ^ 32 : Int) ∣ (addressOfEntry e.1).1.toInt)
        = entries.records.zip out.report.details :=
    List.filter_eq_self.2 fun e he => decide_eq_true (hlevel e he)
  refine ⟨out, hout, htwo, ?_⟩
  rw [(hroots (by rw [hdefinition]; rfl)).length_eq, hall, List.length_map, List.length_zip, htwo]
  rfl

/-- A row far below a root stands where the root does. -/
theorem exists_shared_address :
    ∃ p out, RunPlan.of (.ofParts [ledger] []) (shipmentSources entries) .unrestricted
        shipmentRequest = .ok p
      ∧ p.definition.tableName = p.settings.financial.tableName
      ∧ p.source.records p.query.complete p.query.params
        = .ok [.ok (entry "Assets" 0 10), .ok (entry "Cash" 4294967296 10)]
      ∧ (entry "Assets" 0 10).StandsAt p.settings.financial 0 10
      ∧ (entry "Cash" 4294967296 10).StandsAt p.settings.financial 4294967296 10
      ∧ (runReport (.ofParts [ledger] []) (shipmentSources entries) formattingOnly .unrestricted
          shipmentRequest none).outcome = .ok out
      ∧ out.report.details.map (fun r => (r.level, r.sequence)) = [(0, 10), (0, 10)]
      ∧ (out.report.tree.filter (!·.row.isSummary)).length = 2 := by
  obtain ⟨p, out, hplan, hdefinition, hsettings, hcount, hrecords, hout⟩ := exists_run_entries
  have hfinancial : p.definition.tableName = p.settings.financial.tableName := by
    rw [hdefinition, hsettings]
    rfl
  have hassets : (entry "Assets" 0 10).StandsAt p.settings.financial 0 10 := by
    rw [hsettings]
    exact standsAt_entry _ _ _
  have hcash : (entry "Cash" 4294967296 10).StandsAt p.settings.financial 4294967296 10 := by
    rw [hsettings]
    exact standsAt_entry _ _ _
  have hcolumns := RunPlan.exists_columnsOf hplan
  have hfinish := finish_of_outcome hplan hcount hrecords hout
  obtain ⟨-, -, hrows⟩ := RunPlan.of_finish_eq_ok hcolumns hfinish
  have hread : entries.records = [entry "Assets" 0 10, entry "Cash" 4294967296 10] := rfl
  rw [hread] at hrows
  obtain ⟨root, _, hroot, hrest, hdetails⟩ := List.forall₂_cons_left_iff.1 hrows
  obtain ⟨below, _, hbelow, hnone, rfl⟩ := List.forall₂_cons_left_iff.1 hrest
  obtain rfl := List.forall₂_nil_left_iff.1 hnone
  obtain ⟨hlevel, hsequence⟩ := hroot.narrowed hfinancial hassets
  obtain ⟨hlevel', hsequence'⟩ := hbelow.narrowed hfinancial hcash
  have hzero : out.report.details.filter (·.level = 0) = [root, below] := by
    rw [hdetails]
    exact List.filter_eq_self.2 (by simp [hlevel, hlevel', narrow])
  have hroots := RunPlan.roots_of_finish hfinancial hcolumns (by rw [hdefinition]; rfl) hfinish
  refine ⟨p, out, hplan, hfinancial, hrecords, hassets, hcash, hout, ?_, ?_⟩
  · rw [hdetails, List.map_cons, List.map_singleton, hlevel, hsequence, hlevel', hsequence']
    rfl
  · rw [hzero, List.filter_map] at hroots
    rw [← List.length_map RowTree.row]
    exact hroots.length_eq

end Reporting
