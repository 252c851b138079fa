import Reporting.Proofs.BoundValues

/-!
# Overflow and exactness in values read from the store

The one operation that overflows when a value is read is the day offset of a date
(`toCellValue_date32`), for dates so late that the calendar has none of them. Microseconds in any
unit are exact or saturate (`TimeUnit.toInt_micros`), so a date, time or timestamp is shown as the
calendar has it or is null, and integers keep their value (`toCellValue_eq_error_iff`).
-/

namespace Reporting

open Calendar (Date Timestamp)

theorem Overflow.sum32_eq (a b : Int32) : sum32 a b
    = if a.toInt + b.toInt < -2 ^ 31 ∨ 2 ^ 31 ≤ a.toInt + b.toInt then .error .add
      else .ok (a + b) := by
  unfold sum32
  split
  · rw [if_neg (by omega)]
  · rw [if_pos (by omega)]

namespace TimeUnit

/-- The microseconds of a time, parts of one dropped. -/
def exactMicros (unit : TimeUnit) (value : Int) : Int :=
  match unit with
  | .second => value * 1000000
  | .millisecond => value * 1000
  | .microsecond => value
  | .nanosecond => value.tdiv 1000

theorem toInt_saturated (i : Int) :
    (saturated i).toInt = max (-2 ^ 63) (min i (2 ^ 63 - 1)) := by
  unfold saturated
  split
  · rw [Int64.toInt_ofInt_of_le (by decide) (by decide)]
    omega
  · split
    · rw [Int64.toInt_ofInt_of_le (by decide) (by decide)]
      omega
    · rw [Int64.toInt_ofInt_of_le (by omega) (by omega)]
      omega

theorem tdiv_thousand_bounds (i : Int64) :
    -2 ^ 63 ≤ i.toInt.tdiv 1000 ∧ i.toInt.tdiv 1000 < 2 ^ 63 := by
  have hlow := i.le_toInt
  have hhigh := i.toInt_lt
  have hquotient : (i.toInt.tdiv 1000).natAbs = i.toInt.natAbs / 1000 :=
    Int.natAbs_tdiv i.toInt 1000
  omega

theorem toInt_div_thousand (i : Int64) : (i / 1000).toInt = i.toInt.tdiv 1000 := by
  have hbounds := tdiv_thousand_bounds i
  have hthousand : (1000 : Int64).toInt = 1000 := by decide
  rw [Int64.toInt_div, hthousand, Int.bmod_eq_of_le] <;> omega

/-- The exact microseconds, or the nearest of 64 bits. -/
theorem toInt_micros (unit : TimeUnit) (value : Int64) :
    (unit.micros value).toInt
      = max (-2 ^ 63) (min (unit.exactMicros value.toInt) (2 ^ 63 - 1)) := by
  have hlow := value.le_toInt
  have hhigh := value.toInt_lt
  cases unit with
  | second => exact toInt_saturated _
  | millisecond => exact toInt_saturated _
  | microsecond =>
    simp only [micros, exactMicros]
    omega
  | nanosecond =>
    have hbounds := tdiv_thousand_bounds value
    rw [micros, toInt_div_thousand, exactMicros]
    omega

end TimeUnit

/-- The cell of the timestamp with the given microseconds since 1970-01-01, or null where the
calendar has none. -/
def CellValue.ReadsAt (c : CellValue) (cell : Timestamp → CellValue) (micros : Int) : Prop :=
  (∃ t : Timestamp, c = cell t ∧ t.Regular ∧ t.epochMicros = micros)
    ∨ c = .null ∧ ∀ t : Timestamp, t.Regular → t.epochMicros ≠ micros

theorem CellValue.readsAt_ofEpochMicros? (cell : Timestamp → CellValue) (micros : Int) :
    ReadsAt (((Timestamp.ofEpochMicros? micros).map cell).getD .null) cell micros := by
  cases h : Timestamp.ofEpochMicros? micros with
  | none => exact .inr ⟨rfl, Timestamp.ofEpochMicros?_eq_none_iff.mp h⟩
  | some t => exact .inl ⟨t, rfl, Timestamp.ofEpochMicros?_eq_some_iff.mp h⟩

namespace StoreValue

section Meaning

/-- The exact microseconds since 1970-01-01 of a date, time or timestamp, parts of one dropped, and
the cell that a timestamp makes there. -/
def instant? : StoreValue → Option (Int × (Timestamp → CellValue))
  | .timestamp unit i => some (unit.exactMicros i.toInt, .timestamp)
  | .time64 unit i => some (unit.exactMicros i.toInt, fun t => .text (clockText t))
  | .date32 days => some (days.toInt * 86400000000, .timestamp)
  | .union v => instant? v
  | _ => none

/-- The integer that a value is, if a decimal has room for it. -/
def integer? : StoreValue → Option Int
  | .tinyInt i => some i.toInt
  | .smallInt i => some i.toInt
  | .int i => some i.toInt
  | .bigInt i => some i.toInt
  | .hugeInt i => if i.natAbs < 2 ^ 96 then some i else none
  | .uTinyInt i => some i.toNat
  | .uSmallInt i => some i.toNat
  | .uInt i => some i.toNat
  | .uBigInt i => some i.toNat
  | .union v => integer? v
  | _ => none

/-- A date whose day offset has no room in 32 bits, within any number of unions. -/
def lastDays : StoreValue → Bool
  | .date32 days => 2146764484 < days.toInt
  | .union v => lastDays v
  | _ => false

end Meaning

section Dates

variable {days : Int32}

theorem toCellValue_date32 (days : Int32) : toCellValue (.date32 days)
    = if 2146764484 < days.toInt then .error .add
      else
        .ok (((Date.ofDayNumber? days.toInt).map fun d => .timestamp (.midnight d)).getD .null) := by
  have hlow := days.le_toInt
  have hhigh := days.toInt_lt
  have hoffset : epochDays.toInt = 719163 := by decide
  rw [toCellValue, Overflow.sum32_eq, hoffset]
  split
  · rw [if_pos (by omega)]
    rfl
  · have hsum : (days + epochDays).toInt - epochDays.toInt = days.toInt := by
      rw [Int32.toInt_add, hoffset, Int.bmod_eq_of_le (by omega) (by omega)]
      omega
    rw [if_neg (by omega), ← hsum]
    rfl

/-- The calendar has no dates as late as those whose day offset overflows. -/
theorem epochMicros_ne_of_lastDays (h : 2146764484 < days.toInt) (t : Timestamp) :
    t.epochMicros ≠ days.toInt * 86400000000 := by
  have hbounds := t.date.dayNumber_bounds
  have hsecond := t.second_le
  have hhour := t.hour_lt
  have hminute := t.minute_lt
  have hnano := t.nano_lt
  unfold Timestamp.epochMicros
  omega

theorem readsAt_midnight (n : Int) :
    CellValue.ReadsAt (((Date.ofDayNumber? n).map fun d => .timestamp (.midnight d)).getD .null)
      .timestamp (n * 86400000000) := by
  cases h : Date.ofDayNumber? n with
  | none =>
    refine .inr ⟨rfl, fun t ht hmicros => Date.ofDayNumber?_eq_none_iff.mp h t.date ?_⟩
    have hsecond := ht.1
    have hhour := t.hour_lt
    have hminute := t.minute_lt
    have hnano := t.nano_lt
    unfold Timestamp.epochMicros at hmicros
    omega
  | some d =>
    refine .inl ⟨.midnight d, rfl, Timestamp.midnight_regular d, ?_⟩
    rw [Timestamp.epochMicros_midnight, Date.ofDayNumber?_eq_some_iff.mp h]

end Dates

section Reading

variable {v : StoreValue} {c : CellValue}

/-- Times of any unit are read at their exact microseconds, however far they saturate. -/
theorem readsAt_timestampOf? (unit : TimeUnit) (i : Int64) (cell : Timestamp → CellValue) :
    CellValue.ReadsAt (((timestampOf? unit i).map cell).getD .null) cell
      (unit.exactMicros i.toInt) := by
  rw [timestampOf?, TimeUnit.toInt_micros, Timestamp.ofEpochMicros?_clamp]
  exact CellValue.readsAt_ofEpochMicros? cell _

theorem readsAt_of_instant? {micros : Int} {cell : Timestamp → CellValue}
    (hc : v.toCellValue = .ok c) (h : v.instant? = some (micros, cell)) :
    c.ReadsAt cell micros := by
  fun_induction instant? v with
  | case1 unit i | case2 unit i =>
    cases h
    cases hc
    exact readsAt_timestampOf? unit i _
  | case3 days =>
    cases h
    rw [toCellValue_date32] at hc
    split at hc
    · cases hc
    · cases hc
      exact readsAt_midnight _
  | case4 v ih =>
    rw [toCellValue] at hc
    exact ih hc h
  | case5 v => cases h

theorem exists_numberOf {i : Int} (h : i.natAbs < 2 ^ 96) (otherwise : CellValue) :
    ∃ d, numberOf i otherwise = .number d ∧ d.value = i := by
  obtain ⟨d, hd, -⟩ := Decimal.exists_ofParts? (decide (i < 0)) h (Nat.zero_le Decimal.maxScale)
  refine ⟨d, ?_, ?_⟩
  · rw [numberOf, Decimal.ofInt?, hd]
    rfl
  · rw [Decimal.value_ofParts? hd, pow_zero, div_one, Decimal.sign_mul_natAbs]

theorem number_of_integer? {i : Int} (hc : v.toCellValue = .ok c) (h : v.integer? = some i) :
    ∃ d, c = .number d ∧ d.value = i := by
  fun_induction integer? v with
  | case1 n | case2 n | case3 n | case4 n =>
    cases h
    cases hc
    exact ⟨_, rfl, by simp [Decimal.value_ofInt64]⟩
  | case5 n hroom =>
    cases h
    cases hc
    exact exists_numberOf hroom _
  | case7 n | case8 n | case9 n | case10 n =>
    cases h
    cases hc
    exact exists_numberOf (Nat.lt_trans n.toNat_lt (by decide)) _
  | case11 v ih =>
    rw [toCellValue] at hc
    exact ih hc h
  | case6 | case12 => cases h

theorem toCellValue_eq_error_iff_lastDays (v : StoreValue) :
    v.toCellValue = .error .add ↔ v.lastDays = true := by
  fun_induction lastDays v with
  | case1 days =>
    rw [toCellValue_date32]
    split <;> simp_all
  | case2 v ih => rwa [toCellValue]
  | case3 v hdate hunion =>
    cases v with
    | date32 days => exact absurd rfl (hdate days)
    | union w => exact absurd rfl (hunion w)
    | _ => simp only [toCellValue, reduceCtorEq, Bool.false_eq_true]

theorem exists_instant?_of_lastDays (h : v.lastDays = true) : ∃ micros cell,
    v.instant? = some (micros, cell) ∧ ∀ t : Timestamp, t.epochMicros ≠ micros := by
  fun_induction lastDays v with
  | case1 days => exact ⟨_, _, rfl, epochMicros_ne_of_lastDays (of_decide_eq_true h)⟩
  | case2 v ih => exact ih h
  | case3 v hdate hunion => cases h

end Reading

/-- Reading a value overflows at the day offset of the last days, which the calendar does not have,
and nowhere else. Any other date, time or timestamp is read at its microseconds since 1970-01-01, or
as null where the calendar has none, and any other integer as the number that it is. -/
theorem toCellValue_eq_error_iff (v : StoreValue) :
    (v.toCellValue = .error .add ↔ v.lastDays = true)
      ∧ (v.lastDays = true → ∃ micros cell,
          v.instant? = some (micros, cell) ∧ ∀ t : Timestamp, t.epochMicros ≠ micros)
      ∧ ∀ c, v.toCellValue = .ok c →
          (∀ micros cell, v.instant? = some (micros, cell) → c.ReadsAt cell micros)
            ∧ ∀ i, v.integer? = some i → ∃ d, c = .number d ∧ d.value = i :=
  ⟨toCellValue_eq_error_iff_lastDays v, exists_instant?_of_lastDays, fun _ hc =>
    ⟨fun _ _ => readsAt_of_instant? hc, fun _ => number_of_integer? hc⟩⟩

theorem toCellValue_eq_error_iff_nested :
    ∃ c, (StoreValue.union (.union (.date32 19789))).toCellValue = .ok c
      ∧ c.ReadsAt .timestamp (19789 * 86400000000) :=
  ⟨_, rfl, ((toCellValue_eq_error_iff (.union (.union (.date32 19789)))).2.2 _ rfl).1 _ _ rfl⟩

/-- The date that stands for infinity overflows. -/
theorem toCellValue_infinity : toCellValue (.date32 2147483647) = .error .add := rfl

end StoreValue

end Reporting
