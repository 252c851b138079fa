import Reporting.Assembly
import Reporting.Page.Token
import Reporting.Query.Build
import Reporting.Registry
import Reporting.Source

/-!
# Running a report

A request names a report, filters and a page. Its query is built and, unless that fails, the rows
are counted and their records read into a report. A run can be cancelled: it looks at the flag
before each of its queries and before each record, and gives no report once the flag is up.
-/

namespace Reporting

structure ReportOutput where
  report : Assembly
  /-- The rows of all pages. -/
  total : UInt64
  nextToken : Option PageToken

inductive Call
  | count (sql : String) (params : List Parameter)
  | records (sql : String) (params : List Parameter)

structure RunResult where
  calls : List Call
  outcome : Except ReportError ReportOutput

/-- Everything that a run knows before its first query. -/
structure RunPlan where
  definition : Definition
  settings : ResolvedSettings
  source : Source
  requestHash : UInt64
  query : ReportQuery

namespace RunPlan

def reportOf (registry : Registry) (r : Request) : Except ReportError Definition :=
  match r.reportId with
  | none => .error .formatMissing
  | some id =>
    if id ≤ 0 then .error .formatMissing
    else (registry.report? id).elim (.error .formatNotFound) .ok

def sourceOf (sources : Sources) (d : Definition) : Except ReportError Source :=
  (sources.source? d.dataSource).elim (.error (.dataSourceNotFound d.dataSource)) .ok

/-- The rows before the page: those that the token says if there is one. -/
def offsetOf (r : Request) (hash : UInt64) : Except ReportError UInt64 :=
  match r.pageToken with
  | none => .ok r.offset
  | some s => do
    let t ← PageToken.decode s
    t.check hash
    return t.offset

/-- Checks a request and builds its query. -/
def of (registry : Registry) (sources : Sources) (access : AccessControl) (r : Request) :
    Except ReportError RunPlan := do
  let d ← reportOf registry r
  let settings := sources.settings.forReport d.name
  let source ← sourceOf sources d
  let hash := r.hash
  let page := Page.ofRequest r.limit (← offsetOf r hash) settings.pages.pageSize
  let query ← ReportQuery.build source.dialect access (.ofSettings settings) d registry.resolver
    r.filters page
  return ⟨d, settings, source, hash, query⟩

def options (p : RunPlan) (mappings : MappingRegistry) : ReportOptions where
  mappings := mappings.bind p.definition
  locale := p.settings.locale
  financialTable := p.settings.financial.tableName

end RunPlan

section Records

/-- The raw value of an item in a record. Values that identify rows elsewhere become references. -/
def rawCellValue (item : Item) (column : QueryColumn) (r : Record) : CellValue :=
  if item.displayType.isLookup && item.displayType != .list then
    ((r.int64? column.label).map .reference).getD .null
  else (r.get? column.label).getD .null

/-- Reads one column of an item into its cell. Only raw values pass the mapping. -/
def readColumn (a : Assembly) (item : Item) (r : Record) (c : Cell) (column : QueryColumn) :
    Except ReportError Cell :=
  if column.isDisplay then .ok { c with text := r.text? column.label }
  else
    a.options.mappings.get item.id
      { item := item, column := some column, locale := a.options.locale, record := some r }
      { c with value := rawCellValue item column r }

/-- Stages the cell of an item unless it selects nothing. -/
def readItem (q : ReportQuery) (r : Record) (a : Assembly) (item : Item) :
    Except ReportError Assembly :=
  match q.columnsOf item.id with
  | [] => .ok a
  | columns => do return a.addCell item.id (← columns.foldlM (readColumn a item r) .empty)

/-- The low 32 bits of an address. -/
def narrow (i : Int64) : Int := i.toInt32.toInt

/-- The number in an address column, zero without one. -/
def addressOf (r : Record) (column : String) : Int := narrow ((r.int64? column).getD 0)

/-- Turns a record into a row; rows of financial reports stand at the record's address. -/
def addRecord (q : ReportQuery) (financial : FinancialSettings) (a : Assembly) (r : Record) :
    Except ReportError Assembly := do
  let a ← a.items.foldlM (readItem q r) a
  if a.isFinancial then
    return a.closeRow (addressOf r financial.levelColumn) (addressOf r financial.sequenceColumn)
  else return a.addRow

/-- The checks of the cancellation flag are counted from zero; the flag is up from the check
`cancelled` on. -/
def isCancelled (cancelled : Option Nat) (check : Nat) : Bool := cancelled.any (· ≤ check)

/-- Reads a stream of records. Unreadable records are passed over. -/
def readRecords (q : ReportQuery) (financial : FinancialSettings) (cancelled : Option Nat)
    (check : Nat) (a : Assembly) :
    List (Except ReportError Record) → Except ReportError Assembly
  | [] => .ok a
  | item :: rest =>
    if isCancelled cancelled check then .error .cancelled
    else
      match item with
      | .ok r => do
        readRecords q financial cancelled (check + 1) (← addRecord q financial a r) rest
      | .error e =>
        if e.isFatal then .error e
        else readRecords q financial cancelled (check + 1) a rest

end Records

namespace RunPlan

def finish (p : RunPlan) (mappings : MappingRegistry) (cancelled : Option Nat) (total : UInt64)
    (records : List (Except ReportError Record)) : Except ReportError ReportOutput := do
  let a ← readRecords p.query p.settings.financial cancelled 2
    (.start p.definition (p.options mappings)) records
  return ⟨← a.complete, total, p.query.page.nextToken? total p.requestHash⟩

/-- Asks the source for the number of rows and for the records. -/
def execute (p : RunPlan) (mappings : MappingRegistry) (cancelled : Option Nat) : RunResult :=
  let count := Call.count p.query.count p.query.params
  let records := Call.records p.query.complete p.query.params
  if isCancelled cancelled 0 then ⟨[], .error .cancelled⟩
  else
    match p.source.count p.query.count p.query.params with
    | .error e => ⟨[count], .error e⟩
    | .ok total =>
      if isCancelled cancelled 1 then ⟨[count], .error .cancelled⟩
      else
        match p.source.records p.query.complete p.query.params with
        | .error e => ⟨[count, records], .error e⟩
        | .ok items => ⟨[count, records], p.finish mappings cancelled total items⟩

end RunPlan

def runReport (registry : Registry) (sources : Sources) (mappings : MappingRegistry)
    (access : AccessControl) (r : Request) (cancelled : Option Nat) : RunResult :=
  match RunPlan.of registry sources access r with
  | .error e => ⟨[], .error e⟩
  | .ok p => p.execute mappings cancelled

end Reporting
