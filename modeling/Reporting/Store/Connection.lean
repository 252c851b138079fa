import Reporting.Source
import Reporting.Store.Pool
import Reporting.Store.Value

/-!
# Connections to the embedded database

Queries go to a database through the pool. A column that cannot be read is null in its record; rows
that cannot be read end the stream with an error of its own. Work in which a machine integer
overflows breaks off, and its connection is lost.
-/

namespace Reporting

structure StoreRows where
  columns : List String
  rows : List (List (Except String StoreValue))
  /-- Why there are no further rows, if they did not just end. -/
  failure : Option String := none

structure Database where
  connect : Except String Unit
  count : String → List StoreValue → Except String Int64
  rows : String → List StoreValue → Except String StoreRows

structure StoreConnection where
  database : Database
  pool : Pool
  /-- The pieces of work started so far, which are numbered from 1 in this order. -/
  started : Nat := 0

/-- Why a piece of work gives nothing. -/
inductive WorkError
  | failed (text : String)
  | brokenOff (cause : Overflow)
deriving DecidableEq, Repr

namespace WorkError

/-- The work comes to an end, if only with an error. -/
def returns : WorkError → Bool
  | .failed _ => true
  | .brokenOff _ => false

def toReportError (number : Nat) : WorkError → ReportError
  | .failed text => .duckDb text
  | .brokenOff cause =>
    let message := Text.inspect cause.message
    .execution s!"task join error: task {number} panicked with message {message}"

end WorkError

namespace StoreConnection

/-- Works on a connection of the pool. A failure to open one is an error. -/
def withConnection {α : Type} (s : StoreConnection) (work : Except WorkError α) :
    Except ReportError α × StoreConnection :=
  match s.pool.idle, s.database.connect with
  | [], .error e =>
    (.error (.execution s!"open duckdb: {e}"), { s with pool := s.pool.use false true })
  | _, _ =>
    let number := s.started + 1
    match work with
    | .ok a => (.ok a, { s with pool := s.pool.use true true, started := number })
    | .error e => (.error (e.toReportError number),
      { s with pool := s.pool.use true e.returns, started := number })

def bind (params : List Parameter) : List StoreValue := params.map .ofParameter

/-- A count, of which a negative one is none at all. -/
def toCount (i : Int64) : UInt64 := .ofNat i.toInt.toNat

def count (s : StoreConnection) (sql : String) (params : List Parameter) :
    Except ReportError UInt64 × StoreConnection :=
  s.withConnection (((s.database.count sql (bind params)).map toCount).mapError .failed)

def readValue : Except String StoreValue → Except Overflow CellValue
  | .ok v => v.toCellValue
  | .error _ => .ok .null

/-- A record has a value for each of its columns. -/
def readRecord (columns : List String) (values : List (Except String StoreValue)) :
    Except Overflow Record := do
  let cells ← columns.zipIdx.mapM fun (_, i) => (values[i]?.map readValue).getD (.ok .null)
  return ⟨columns, cells⟩

/-- The records of rows and after them the error that ended them. -/
def readRows (r : StoreRows) : Except Overflow (List (Except ReportError Record)) := do
  let records ← r.rows.mapM (readRecord r.columns)
  return records.map .ok ++ (r.failure.map fun e => .error (.dataAccess e)).toList

def records (s : StoreConnection) (sql : String) (params : List Parameter) :
    Except ReportError (List (Except ReportError Record)) × StoreConnection :=
  s.withConnection do
    let rows ← (s.database.rows sql (bind params)).mapError .failed
    (readRows rows).mapError .brokenOff

end StoreConnection

end Reporting
