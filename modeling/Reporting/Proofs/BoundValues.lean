import Reporting.Proofs.DayNumbers
import Reporting.Proofs.DecimalValue
import Reporting.Store.Value

/-!
# Bound values read back

A parameter that the store gives back as it was bound is the cell value that it stands for. Of the
parameters other than decimals, this is so for all but timestamps in a leap second or with parts of
a microsecond (`toCellValue_ofParameter_iff`): the store counts microseconds, which every timestamp
of the calendar has in 64 bits.
-/

namespace Reporting

open Calendar (Timestamp)

theorem Decimal.value_ofInt64 (i : Int64) : (Decimal.ofInt64 i).value = i.toInt := by
  rw [value_eq, ofInt64, ofInt, pow_zero, div_one, sign_mul_natAbs]

/-- The cell value that a parameter stands for. -/
def Parameter.toCellValue : Parameter → CellValue
  | .null => .null
  | .text s => .text s
  | .integer i => .number (.ofInt64 i)
  | .number d => .number d
  | .boolean b => .boolean b
  | .timestamp t => .timestamp t

namespace StoreValue

theorem timestampOf?_epochMicros_iff (t : Timestamp) :
    timestampOf? .microsecond (.ofInt t.epochMicros) = some t ↔ t.Regular := by
  rw [timestampOf?, TimeUnit.micros, Timestamp.ofEpochMicros?_eq_some_iff]
  refine ⟨And.left, fun h => ⟨h, ?_⟩⟩
  have hbounds := t.epochMicros_bounds h
  rw [Int64.toInt_ofInt_of_le (by omega) (by omega)]

theorem toCellValue_timestamp_iff (t : Timestamp) :
    (ofParameter (.timestamp t)).toCellValue = .ok (.timestamp t) ↔ t.Regular := by
  rw [← timestampOf?_epochMicros_iff, ofParameter, toCellValue]
  cases timestampOf? .microsecond (.ofInt t.epochMicros) with
  | none => simp
  | some u => simp

/-- A parameter that is no decimal comes back as it was bound, a timestamp only if the store has
room for all of it. An integer comes back as the number that it is. -/
theorem toCellValue_ofParameter_iff {p : Parameter} (hp : ∀ d, p ≠ .number d) :
    ((ofParameter p).toCellValue = .ok p.toCellValue ↔ ∀ t, p = .timestamp t → t.Regular)
      ∧ ∀ i, p = .integer i →
        ∃ d, (ofParameter p).toCellValue = .ok (.number d) ∧ d.value = i.toInt := by
  constructor
  · cases p with
    | number d => exact absurd rfl (hp d)
    | timestamp t =>
      rw [Parameter.toCellValue, toCellValue_timestamp_iff]
      exact ⟨fun h u hu => Parameter.timestamp.inj hu ▸ h, fun h => h t rfl⟩
    | null | text | integer | boolean =>
      simp [ofParameter, toCellValue, Parameter.toCellValue]
  · rintro i rfl
    exact ⟨.ofInt64 i, rfl, Decimal.value_ofInt64 i⟩

/-- The last microsecond before 1970-01-01. -/
def beforeEpoch : Timestamp where
  date := ⟨1969, 12, 31, by decide⟩
  hour := 23
  minute := 59
  second := 59
  nano := 999999000

theorem toCellValue_ofParameter_beforeEpoch :
    (∀ d, Parameter.timestamp beforeEpoch ≠ .number d)
      ∧ (ofParameter (.timestamp beforeEpoch)).toCellValue = .ok (.timestamp beforeEpoch) := by
  refine ⟨fun _ => Parameter.noConfusion, ?_⟩
  refine (toCellValue_ofParameter_iff fun _ => Parameter.noConfusion).1.2 fun t ht => ?_
  rw [← Parameter.timestamp.inj ht]
  decide

end StoreValue

end Reporting
