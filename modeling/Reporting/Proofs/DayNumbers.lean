import Reporting.Calendar.Timestamp
import Mathlib.Tactic.Ring

/-!
# Days and microseconds of the calendar

A day number is a year and a place in it (`DayNumber.yearOrdinal_eq_iff`), and the place is a month
and a day of it (`monthDay_take`), so that `Date.ofDayNumber?` finds the date with a given number
and no other (`Date.ofDayNumber?_eq_some_iff`). `Timestamp.ofEpochMicros?` does the same for
microseconds: it finds the one timestamp at them that has no leap second and no part of a
microsecond (`Timestamp.ofEpochMicros?_eq_some_iff`), if the calendar has one.
-/

namespace Reporting.Calendar

namespace DayNumber

theorem ofYear_succ (year : Int) : ofYear (year + 1) = ofYear year + daysInYear year := by
  have hleap : isLeap year = true ↔ year % 4 = 0 ∧ (year % 100 ≠ 0 ∨ year % 400 = 0) := by
    simp [isLeap]
  unfold ofYear daysInYear
  split <;> rename_i h <;> rw [hleap] at h <;> omega

theorem ofYear_mono {year later : Int} (h : year ≤ later) : ofYear year ≤ ofYear later := by
  unfold ofYear
  omega

/-- A year is over before a later one begins. -/
theorem ofYear_add_daysInYear_le {year later : Int} (h : year < later) :
    ofYear year + daysInYear year ≤ ofYear later := by
  rw [← ofYear_succ]
  exact ofYear_mono h

/-- A day is in one year only, at one place. -/
theorem eq_of_ofYear_add_eq {year other : Int} {ordinal place : Nat}
    (hordinal : ordinal < daysInYear year) (hplace : place < daysInYear other)
    (h : ofYear year + ordinal = ofYear other + place) : year = other ∧ ordinal = place := by
  obtain hlt | rfl | hlt := Int.lt_trichotomy year other
  · have := ofYear_add_daysInYear_le hlt
    omega
  · exact ⟨rfl, by omega⟩
  · have := ofYear_add_daysInYear_le hlt
    omega

/-- The year of the day `four * 1461 + single * 365 + ordinal` of a century, which is the day
`cycle * 146097 + century * 36524` and that many of all days. -/
theorem ofYear_ofCycles (cycle : Int) {century four single : Nat} (hcentury : century ≤ 3)
    (hfour : four ≤ 24) (hsingle : single ≤ 3) :
    ofYear (400 * cycle + 100 * century + 4 * four + single + 1)
      = 146097 * cycle + 36524 * century + 1461 * four + 365 * single - epochOffset := by
  unfold ofYear
  omega

theorem isLeap_ofCycles (cycle : Int) {century four : Nat} (hfour : four ≤ 24)
    (h : four < 24 ∨ century = 3) :
    isLeap (400 * cycle + 100 * century + 4 * four + (3 : Nat) + 1) = true := by
  simp only [isLeap, Bool.and_eq_true, Bool.or_eq_true, decide_eq_true_eq, bne_iff_ne]
  omega

theorem yearOrdinal_spec (n : Int) :
    (yearOrdinal n).2 < daysInYear (yearOrdinal n).1
      ∧ ofYear (yearOrdinal n).1 + (yearOrdinal n).2 = n := by
  unfold yearOrdinal
  dsimp only
  set cycle := (n + epochOffset) / 146097 with hcycle
  set inCycle := ((n + epochOffset) % 146097).toNat with hinCycle
  set century := min 3 (inCycle / 36524) with hcentury
  set inCentury := inCycle - century * 36524 with hinCentury
  set four := inCentury / 1461 with hfour
  set inFour := inCentury % 1461 with hinFour
  set single := min 3 (inFour / 365) with hsingle
  have hyear := ofYear_ofCycles cycle (show century ≤ 3 by omega) (show four ≤ 24 by omega)
    (show single ≤ 3 by omega)
  have hn : n + epochOffset = 146097 * cycle + inCycle := by omega
  refine ⟨?_, by rw [hyear]; omega⟩
  obtain hlt | heq : inFour - single * 365 < 365 ∨ inFour - single * 365 = 365 := by omega
  · unfold daysInYear
    split <;> omega
  · -- the place 365 is the last day of the fourth year, which the last of a century may be
    have hthree : single = 3 := by omega
    rw [daysInYear, hthree, isLeap_ofCycles cycle (by omega) (by omega)]
    simp only [↓reduceIte]
    omega

theorem yearOrdinal_eq_iff {n year : Int} {ordinal : Nat} :
    yearOrdinal n = (year, ordinal) ↔ ordinal < daysInYear year ∧ ofYear year + ordinal = n := by
  obtain ⟨hlt, heq⟩ := yearOrdinal_spec n
  constructor
  · intro h
    rw [h] at hlt heq
    exact ⟨hlt, heq⟩
  · rintro ⟨hordinal, h⟩
    obtain ⟨hyear, hplace⟩ := eq_of_ofYear_add_eq hlt hordinal (heq.trans h.symm)
    exact Prod.ext hyear hplace

end DayNumber

/-- The place of day `day` of the month with number `k` from zero leads back to that day. -/
theorem monthDay_take : ∀ {lengths : List Nat} {k day : Nat} (first : Nat), 1 ≤ day →
    day ≤ lengths.getD k 0 →
      monthDay lengths first ((lengths.take k).sum + day - 1) = (first + k, day)
  | [], _, _, _, hpos, hle => by
    simp only [List.getD_nil] at hle
    omega
  | length :: rest, 0, day, first, hpos, hle => by
    simp only [List.getD_cons_zero] at hle
    rw [List.take_zero, List.sum_nil, Nat.zero_add, monthDay, if_pos (by omega)]
    exact Prod.ext rfl (by simp only; omega)
  | length :: rest, k + 1, day, first, hpos, hle => by
    rw [List.getD_cons_succ] at hle
    have ih := monthDay_take (first + 1) hpos hle
    rw [List.take_succ_cons, List.sum_cons, monthDay, if_neg (by omega),
      show length + (rest.take k).sum + day - 1 - length = (rest.take k).sum + day - 1 by omega,
      ih]
    exact Prod.ext (by simp only; omega) rfl

/-- A place among the days of the months is a day of one of them. -/
theorem exists_monthDay : ∀ {lengths : List Nat} {place : Nat}, place < lengths.sum →
    ∃ k day, k < lengths.length ∧ 1 ≤ day ∧ day ≤ lengths.getD k 0
      ∧ place = (lengths.take k).sum + day - 1
  | [], _, h => by simp at h
  | length :: rest, place, h => by
    by_cases hlt : place < length
    · exact ⟨0, place + 1, by simp, by omega, hlt, by simp⟩
    · rw [List.sum_cons] at h
      obtain ⟨k, day, hk, hpos, hle, hplace⟩ :=
        exists_monthDay (show place - length < rest.sum by omega)
      refine ⟨k + 1, day, by simpa using hk, hpos, by simpa using hle, ?_⟩
      rw [List.take_succ_cons, List.sum_cons]
      omega

theorem sum_take_add_getD_le : ∀ (lengths : List Nat) (k : Nat),
    (lengths.take k).sum + lengths.getD k 0 ≤ lengths.sum
  | [], _ => by simp
  | length :: rest, 0 => by simp
  | length :: rest, k + 1 => by
    have ih := sum_take_add_getD_le rest k
    rw [List.take_succ_cons, List.sum_cons, List.sum_cons, List.getD_cons_succ]
    omega

theorem sum_monthLengths (year : Int) : (monthLengths year).sum = daysInYear year := by
  unfold monthLengths daysInYear
  split <;> rfl

theorem daysInMonth_le (year : Int) (month : Nat) : daysInMonth year month ≤ 31 := by
  have hmax : ∀ n ∈ monthLengths year, n ≤ 31 := by
    unfold monthLengths
    split <;> simp
  unfold daysInMonth
  rw [List.getD_eq_getElem?_getD]
  cases h : (monthLengths year)[month - 1]? with
  | none => exact Nat.zero_le _
  | some n => exact hmax n (List.mem_of_getElem? h)

namespace Date

theorem month_le (d : Date) : d.month ≤ 12 := d.valid.2.2.2.1

theorem day_le (d : Date) : d.day ≤ 31 := d.valid.2.2.2.2.2.trans (daysInMonth_le d.year d.month)

theorem of?_eq_some_iff {year : Int} {month day : Nat} {d : Date} :
    of? year month day = some d ↔ d.year = year ∧ d.month = month ∧ d.day = day := by
  obtain ⟨y, m, k, hvalid⟩ := d
  unfold of?
  split
  · simp [eq_comm]
  · rename_i h
    simp only [reduceCtorEq, false_iff]
    rintro ⟨rfl, rfl, rfl⟩
    exact h hvalid

theorem ordinal_eq (d : Date) :
    d.ordinal = ((monthLengths d.year).take (d.month - 1)).sum + d.day := by
  have hfoldr : ∀ lengths : List Nat, lengths.foldr (· + ·) d.day = lengths.sum + d.day := by
    intro lengths
    induction lengths with
    | nil => simp
    | cons length rest ih => rw [List.foldr_cons, ih, List.sum_cons, Nat.add_assoc]
  exact hfoldr _

theorem monthDay_ordinal (d : Date) :
    monthDay (monthLengths d.year) 1 (d.ordinal - 1) = (d.month, d.day) := by
  obtain ⟨-, -, hmonth, -, hday, hle⟩ := d.valid
  rw [ordinal_eq, monthDay_take 1 hday hle]
  exact Prod.ext (by simp only; omega) rfl

theorem ordinal_pos (d : Date) : 1 ≤ d.ordinal := by
  have := d.valid.2.2.2.2.1
  have := d.ordinal_eq
  omega

theorem ordinal_le (d : Date) : d.ordinal ≤ daysInYear d.year := by
  calc d.ordinal
      ≤ ((monthLengths d.year).take (d.month - 1)).sum
          + (monthLengths d.year).getD (d.month - 1) 0 := by
        rw [ordinal_eq]
        exact Nat.add_le_add_left d.valid.2.2.2.2.2 _
    _ ≤ (monthLengths d.year).sum := sum_take_add_getD_le _ _
    _ = daysInYear d.year := sum_monthLengths _

theorem yearOrdinal_dayNumber (d : Date) :
    DayNumber.yearOrdinal d.dayNumber = (d.year, d.ordinal - 1) := by
  have hpos := d.ordinal_pos
  have hle := d.ordinal_le
  refine DayNumber.yearOrdinal_eq_iff.mpr ⟨by omega, ?_⟩
  unfold dayNumber
  omega

/-- The date with a day number is the date that has it. -/
theorem ofDayNumber?_eq_some_iff {n : Int} {d : Date} :
    ofDayNumber? n = some d ↔ d.dayNumber = n := by
  constructor
  · intro h
    obtain ⟨hlt, heq⟩ := DayNumber.yearOrdinal_spec n
    simp only [ofDayNumber?] at h
    obtain ⟨hyear, hmonth, hday⟩ := of?_eq_some_iff.mp h
    rw [← sum_monthLengths] at hlt
    obtain ⟨k, day, -, hpos, hle, hplace⟩ := exists_monthDay hlt
    rw [hplace, monthDay_take 1 hpos hle] at hmonth hday
    simp only at hmonth hday
    rw [← heq, dayNumber, ordinal_eq, hyear, hday, hplace,
      show d.month - 1 = k by omega]
    omega
  · rintro rfl
    simp only [ofDayNumber?, yearOrdinal_dayNumber, monthDay_ordinal]
    exact of?_eq_some_iff.mpr ⟨rfl, rfl, rfl⟩

theorem ofDayNumber?_eq_none_iff {n : Int} :
    ofDayNumber? n = none ↔ ∀ d : Date, d.dayNumber ≠ n := by
  simp only [Option.eq_none_iff_forall_ne_some, ne_eq, ofDayNumber?_eq_some_iff]

/-- The calendar goes no further than 100 million days from 1970. -/
theorem dayNumber_bounds (d : Date) : -100000000 < d.dayNumber ∧ d.dayNumber < 100000000 := by
  obtain ⟨hmin, hmax, -⟩ := d.valid
  have hlow := DayNumber.ofYear_mono hmin
  have hhigh := DayNumber.ofYear_mono hmax
  have hpos := d.ordinal_pos
  have hle := d.ordinal_le
  have hdays : daysInYear d.year ≤ 366 := by
    unfold daysInYear
    split <;> omega
  have hfirst : -100000000 < DayNumber.ofYear minYear := by decide
  have hlast : DayNumber.ofYear maxYear < 100000000 - 366 := by decide
  unfold dayNumber
  omega

end Date

namespace Timestamp

theorem of?_eq_some_iff {date : Date} {hour minute second nano : Nat} {t : Timestamp} :
    of? date hour minute second nano = some t ↔
      t.date = date ∧ t.hour = hour ∧ t.minute = minute ∧ t.second = second ∧ t.nano = nano := by
  obtain ⟨d, h, m, s, k, hh, hm, hs, hk⟩ := t
  unfold of?
  split
  · simp [eq_comm]
  · rename_i hnot
    simp only [reduceCtorEq, false_iff]
    rintro ⟨rfl, rfl, rfl, rfl, rfl⟩
    exact hnot ⟨hh, hm, hs, hk⟩

/-- No leap second and no part of a microsecond. -/
def Regular (t : Timestamp) : Prop := t.second < 60 ∧ t.nano % 1000 = 0

instance (t : Timestamp) : Decidable t.Regular := by
  unfold Regular
  infer_instance

/-- The timestamp at a number of microseconds is the regular one that has it. -/
theorem ofEpochMicros?_eq_some_iff {micros : Int} {t : Timestamp} :
    ofEpochMicros? micros = some t ↔ t.Regular ∧ t.epochMicros = micros := by
  have hhour := t.hour_lt
  have hminute := t.minute_lt
  have hnano := t.nano_lt
  unfold ofEpochMicros? Regular epochMicros
  simp only [Option.bind_eq_bind, Option.bind_eq_some_iff, Date.ofDayNumber?_eq_some_iff,
    of?_eq_some_iff]
  constructor
  · rintro ⟨date, hdate, rfl, hh, hm, hs, hk⟩
    omega
  · rintro ⟨⟨hsecond, hwhole⟩, h⟩
    exact ⟨t.date, by omega, rfl, by omega, by omega, by omega, by omega⟩

theorem ofEpochMicros?_eq_none_iff {micros : Int} :
    ofEpochMicros? micros = none ↔ ∀ t : Timestamp, t.Regular → t.epochMicros ≠ micros := by
  simp only [Option.eq_none_iff_forall_ne_some, ne_eq, ofEpochMicros?_eq_some_iff, not_and]

theorem midnight_regular (d : Date) : (midnight d).Regular := by
  simp [Regular, midnight]

theorem epochMicros_midnight (d : Date) :
    (midnight d).epochMicros = d.dayNumber * 86400000000 := by
  simp only [epochMicros, midnight]
  omega

/-- The microseconds of the calendar end before 64 bits do. -/
theorem epochMicros_bounds (t : Timestamp) (h : t.Regular) :
    -2 ^ 63 < t.epochMicros ∧ t.epochMicros < 2 ^ 63 - 1 := by
  have hdays := t.date.dayNumber_bounds
  have hsecond := h.1
  have hhour := t.hour_lt
  have hminute := t.minute_lt
  have hnano := t.nano_lt
  unfold epochMicros
  omega

/-- Microseconds cut down to 64 bits lead to the same timestamp, if to any. -/
theorem ofEpochMicros?_clamp (micros : Int) :
    ofEpochMicros? (max (-2 ^ 63) (min micros (2 ^ 63 - 1))) = ofEpochMicros? micros := by
  by_cases hin : -2 ^ 63 < micros ∧ micros < 2 ^ 63 - 1
  · congr 1
    omega
  · have hnone : ∀ m : Int, ¬ (-2 ^ 63 < m ∧ m < 2 ^ 63 - 1) → ofEpochMicros? m = none := by
      intro m hm
      refine ofEpochMicros?_eq_none_iff.mpr fun t ht h => hm ?_
      rw [← h]
      exact t.epochMicros_bounds ht
    rw [hnone _ hin, hnone _ (by omega)]

end Timestamp

end Reporting.Calendar
