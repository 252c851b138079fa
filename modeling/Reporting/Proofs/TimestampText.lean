import Reporting.Calendar.Reading
import Reporting.Proofs.DayNumbers
import Reporting.Proofs.Digits
import Reporting.Proofs.Runs
import Reporting.Value.Cell

/-!
# Timestamps and their texts

The parts of a timestamp are read back from its text one after another, whatever follows them
(`Reading.date_append`, `Reading.clock_append`). The text shown to readers leads to the timestamp
without the part of its second, and the internet form of the local time at any offset to the
timestamp itself (`Timestamp.ofText?_texts`).
-/

namespace Reporting

namespace Text

theorem isBlank_of_isDigit {c : Char} (h : isDigit c) : isBlank c = false := by
  have h : 48 ≤ c.toNat ∧ c.toNat ≤ 57 := by
    simpa [isDigit, Char.le_def, UInt32.le_iff_toNat_le] using h
  simp [isBlank, Char.le_def, UInt32.le_iff_toNat_le, ← Char.toNat_inj]
  omega

theorem length_zeroPadded {width n : Nat} (hwidth : 0 < width) (h : n < 10 ^ width) :
    (zeroPadded width n).length = width := by
  have hdigits : (digits n).length ≤ width := (Nat.length_toDigits_le_iff (by decide) hwidth).2 h
  rw [zeroPadded, length_padLeft, Nat.max_eq_left hdigits]

theorem zeroPadded_ne_nil (width n : Nat) : zeroPadded width n ≠ [] :=
  List.append_ne_nil_of_right_ne_nil _ Nat.toDigits_ne_nil

theorem trimStart_of_head? {cs : List Char} (h : ∀ c ∈ cs.head?, isBlank c = false) :
    trimStart cs = cs :=
  (@span_run isBlank [] cs (by simp) h).2

theorem toList_trim_ofList {cs : List Char} (hhead : ∀ c ∈ cs.head?, isBlank c = false)
    (hlast : ∀ c ∈ cs.getLast?, isBlank c = false) : (trim (String.ofList cs)).toList = cs := by
  have hrev : trimStart cs.reverse = cs.reverse :=
    trimStart_of_head? (by simpa [List.head?_reverse] using hlast)
  rw [trim, String.toList_ofList, String.toList_ofList, trimStart_of_head? hhead, trimEnd,
    ← trimStart, hrev, List.reverse_reverse]

section Ends

variable {p : Char → Prop} {front back : List Char}

theorem forall_head?_append (hne : front ≠ []) (h : ∀ c ∈ front, p c) :
    ∀ c ∈ (front ++ back).head?, p c := by
  rw [List.head?_append_of_ne_nil _ hne]
  exact fun c hc => h c (List.mem_of_mem_head? hc)

theorem forall_getLast?_append (hne : back ≠ []) (h : ∀ c ∈ back, p c) :
    ∀ c ∈ (front ++ back).getLast?, p c := by
  rw [List.getLast?_append_of_ne_nil _ hne]
  exact fun c hc => h c (List.mem_of_mem_getLast? hc)

end Ends

theorem isBlank_of_mem_zeroPadded (width n : Nat) : ∀ c ∈ zeroPadded width n, isBlank c = false :=
  fun c hc => isBlank_of_isDigit (isDigit_of_mem_zeroPadded width n c hc)

end Text

namespace Calendar

open Text (isDigit isBlank digitsValue trimStart zeroPadded)

/-- The run of digits in front of the text is over there. -/
def NoDigit (cs : List Char) : Prop := ∀ c ∈ cs.head?, isDigit c = false

theorem noDigit_cons {c : Char} (h : isDigit c = false) (cs : List Char) : NoDigit (c :: cs) := by
  simpa [NoDigit] using h

namespace Reading

section Number

variable {least most : Nat} {ds rest : List Char}

theorem number_append (hds : ∀ c ∈ ds, isDigit c) (hleast : least ≤ ds.length)
    (hmost : ds.length ≤ most) (hrest : ds.length = most ∨ NoDigit rest) :
    number least most (ds ++ rest) = some (digitsValue ds, rest) := by
  have hrun : ((ds ++ rest).takeWhile isDigit).take most = ds := by
    rw [List.takeWhile_append_of_pos hds]
    obtain rfl | hrest := hrest
    · exact List.take_left' rfl
    · have hnil : rest.takeWhile isDigit = [] := (@Text.span_run isDigit [] rest (by simp) hrest).1
      rw [hnil, List.append_nil, List.take_of_length_le hmost]
  rw [number, hrun, if_neg (Nat.not_lt.2 hleast), List.drop_left]

theorem number_zeroPadded {n : Nat} (hwidth : 0 < most) (hleast : least ≤ most)
    (h : n < 10 ^ most) (rest : List Char) :
    number least most (zeroPadded most n ++ rest) = some (n, rest) := by
  have hlength := Text.length_zeroPadded hwidth h
  rw [number_append (Text.isDigit_of_mem_zeroPadded _ _) (hleast.trans_eq hlength.symm) hlength.le
    (.inl hlength), Text.digitsValue_zeroPadded]

end Number

theorem number_two {n : Nat} (h : n < 100) (rest : List Char) :
    number 2 2 (zeroPadded 2 n ++ rest) = some (n, rest) :=
  number_zeroPadded (by decide) le_rfl h rest

theorem trimStart_zeroPadded (width n : Nat) (rest : List Char) :
    trimStart (zeroPadded width n ++ rest) = zeroPadded width n ++ rest :=
  Text.trimStart_of_head?
    (Text.forall_head?_append (Text.zeroPadded_ne_nil _ _) (Text.isBlank_of_mem_zeroPadded _ _))

theorem field_append {n : Nat} (h : n < 100) (rest : List Char) :
    field (zeroPadded 2 n ++ rest) = some (n, rest) := by
  rw [field, trimStart_zeroPadded, number_zeroPadded (by decide) (by decide) h]

theorem year_minus (r : List Char) :
    year ('-' :: r) = (number 1 r.length r).map fun (n, r) => (-(n : Int), r) := rfl

theorem year_plus (r : List Char) :
    year ('+' :: r) = (number 1 r.length r).map fun (n, r) => ((n : Int), r) := rfl

theorem year_of_isDigit {cs : List Char} (h : ∀ c ∈ cs.head?, isDigit c) :
    year cs = (number 1 4 cs).map fun (n, r) => ((n : Int), r) := by
  rw [year, Text.trimStart_of_head? fun c hc => Text.isBlank_of_isDigit (h c hc)]
  split
  · exact absurd (h '-' rfl) (by decide)
  · exact absurd (h '+' rfl) (by decide)
  · rfl

theorem year_append (y : Int) {rest : List Char} (hrest : NoDigit rest) :
    year (Timestamp.yearText y ++ rest) = some (y, rest) := by
  have hsigned (ds : List Char) (hne : ds ≠ []) (hds : ∀ c ∈ ds, isDigit c) :
      number 1 (ds ++ rest).length (ds ++ rest) = some (digitsValue ds, rest) :=
    number_append hds (List.length_pos_iff.2 hne) (by simp) (.inr hrest)
  have hpadded := Text.isDigit_of_mem_zeroPadded 4 y.natAbs
  have hne := Text.zeroPadded_ne_nil 4 y.natAbs
  unfold Timestamp.yearText
  split_ifs with hneg hlong
  · have hy : -(y.natAbs : Int) = y := by omega
    rw [List.cons_append, year_minus, hsigned _ hne hpadded, Text.digitsValue_zeroPadded]
    exact congrArg (fun y => some (y, rest)) hy
  · have hy : (y.natAbs : Int) = y := by omega
    have hdigits : Text.digits y.natAbs ≠ [] := Nat.toDigits_ne_nil
    rw [List.cons_append, year_plus, hsigned _ hdigits (Text.isDigit_of_mem_digits _),
      Text.digitsValue_digits]
    exact congrArg (fun y => some (y, rest)) hy
  · have hy : (y.natAbs : Int) = y := by omega
    rw [year_of_isDigit (Text.forall_head?_append hne hpadded),
      number_zeroPadded (by decide) (by decide) (by omega)]
    exact congrArg (fun y => some (y, rest)) hy

theorem bind_of_eq_some {α β : Type} {o : Option α} {a : α} {f : α → Option β} (h : o = some a) :
    (o >>= f) = f a := by
  rw [h]
  rfl

theorem char_cons (c : Char) (cs : List Char) : char c (c :: cs) = some ((), cs) :=
  if_pos rfl

end Reading

def Date.text (d : Date) : List Char :=
  Timestamp.yearText d.year ++ '-' :: zeroPadded 2 d.month ++ '-' :: zeroPadded 2 d.day

namespace Timestamp

def clockText (t : Timestamp) : List Char :=
  zeroPadded 2 t.hour ++ ':' :: zeroPadded 2 t.minute ++ ':' :: zeroPadded 2 t.second

theorem textWith_eq (separator : Char) (t : Timestamp) :
    t.textWith separator = t.date.text ++ separator :: t.clockText := by
  simp [textWith, Date.text, clockText]

/-- The timestamp without the part of its second. -/
def whole (t : Timestamp) : Timestamp :=
  { t with nano := 0, nano_lt := Nat.zero_lt_of_lt t.nano_lt }

theorem whole_eq_iff {t : Timestamp} : t.whole = t ↔ t.nano = 0 := by
  constructor
  · intro h
    rw [← h]
    rfl
  · intro h
    obtain ⟨d, hour, minute, second, nano, _, _, _, _⟩ := t
    subst h
    rfl

theorem of?_whole (t : Timestamp) : of? t.date t.hour t.minute t.second 0 = some t.whole :=
  of?_eq_some_iff.2 ⟨rfl, rfl, rfl, rfl, rfl⟩

end Timestamp

namespace Reading

theorem date_append (d : Date) (rest : List Char) : date (d.text ++ rest) = some (d, rest) := by
  have hmonth := d.month_le
  have hday := d.day_le
  have htext : d.text ++ rest = Timestamp.yearText d.year ++ '-' :: (zeroPadded 2 d.month
      ++ '-' :: (zeroPadded 2 d.day ++ rest)) := by
    simp [Date.text]
  rw [htext]
  refine (bind_of_eq_some (year_append _ (noDigit_cons (by decide) _))).trans ?_
  refine (bind_of_eq_some (char_cons _ _)).trans ?_
  refine (bind_of_eq_some (field_append (by omega) _)).trans ?_
  refine (bind_of_eq_some (char_cons _ _)).trans ?_
  refine (bind_of_eq_some (field_append (by omega) _)).trans ?_
  exact bind_of_eq_some (Date.of?_eq_some_iff.2 ⟨rfl, rfl, rfl⟩)

theorem clock_append (t : Timestamp) (rest : List Char) :
    clock (t.clockText ++ rest) = some ((t.hour, t.minute, t.second), rest) := by
  have hhour := t.hour_lt
  have hminute := t.minute_lt
  have hsecond := t.second_le
  have htext : t.clockText ++ rest = zeroPadded 2 t.hour ++ ':' :: (zeroPadded 2 t.minute
      ++ ':' :: (zeroPadded 2 t.second ++ rest)) := by
    simp [Timestamp.clockText]
  rw [htext]
  refine (bind_of_eq_some (field_append (by omega) _)).trans ?_
  refine (bind_of_eq_some (char_cons _ _)).trans ?_
  refine (bind_of_eq_some (field_append (by omega) _)).trans ?_
  refine (bind_of_eq_some (char_cons _ _)).trans ?_
  exact bind_of_eq_some (field_append (by omega) _)

theorem complete_of_eq_some {α : Type} {o : Option (α × List Char)} {a : α}
    (h : o = some (a, [])) : complete o = some a := by
  rw [h]
  rfl

theorem complete_of_eq_none {α : Type} {o : Option (α × List Char)} (h : o = none) :
    complete o = none := by
  rw [h]
  rfl

theorem complete_of_ne_nil {α : Type} (a : α) {rest : List Char} (h : rest ≠ []) :
    complete (some (a, rest)) = none := by
  obtain ⟨c, cs, rfl⟩ := List.exists_cons_of_ne_nil h
  rfl

section Separated

variable (t : Timestamp) (rest : List Char)

theorem trimStart_clockText : trimStart (t.clockText ++ rest) = t.clockText ++ rest := by
  simp only [Timestamp.clockText, List.append_assoc, trimStart_zeroPadded]

theorem blankSeparated?_textWith :
    blankSeparated? (t.textWith ' ' ++ rest) = complete (some (t.whole, rest)) := by
  have hclock : clock (trimStart (' ' :: (t.clockText ++ rest)))
      = some ((t.hour, t.minute, t.second), rest) := by
    have htrim : trimStart (' ' :: (t.clockText ++ rest)) = trimStart (t.clockText ++ rest) := rfl
    rw [htrim, trimStart_clockText, clock_append]
  rw [Timestamp.textWith_eq, List.append_assoc]
  refine congrArg complete ?_
  refine (bind_of_eq_some (date_append _ _)).trans ?_
  refine (bind_of_eq_some hclock).trans ?_
  exact bind_of_eq_some t.of?_whole

theorem letterSeparated?_textWith :
    letterSeparated? (t.textWith 'T' ++ rest) = complete (some (t.whole, rest)) := by
  rw [Timestamp.textWith_eq, List.append_assoc]
  refine congrArg complete ?_
  refine (bind_of_eq_some (date_append _ _)).trans ?_
  refine (bind_of_eq_some (char_cons _ _)).trans ?_
  refine (bind_of_eq_some (clock_append _ _)).trans ?_
  exact bind_of_eq_some t.of?_whole

variable {separator : Char}

/-- No clock begins with the separator. -/
theorem blankSeparated?_of_isBlank_eq_false (hblank : isBlank separator = false)
    (hdigit : isDigit separator = false) :
    blankSeparated? (t.textWith separator ++ rest) = none := by
  have htrim : trimStart (separator :: (t.clockText ++ rest))
      = separator :: (t.clockText ++ rest) :=
    Text.trimStart_of_head? (by simpa using hblank)
  have hfield : field (separator :: (t.clockText ++ rest)) = none := by
    simp [field, htrim, number, hdigit]
  have hclock : clock (trimStart (separator :: (t.clockText ++ rest))) = none := by
    rw [htrim, clock, hfield]
    rfl
  rw [Timestamp.textWith_eq, List.append_assoc]
  refine complete_of_eq_none ((bind_of_eq_some (date_append _ _)).trans ?_)
  exact congrArg (Option.bind · _) hclock

theorem letterSeparated?_of_ne (h : separator ≠ 'T') :
    letterSeparated? (t.textWith separator ++ rest) = none := by
  have hchar : char 'T' (separator :: (t.clockText ++ rest)) = none := if_neg h.symm
  rw [Timestamp.textWith_eq, List.append_assoc]
  refine complete_of_eq_none ((bind_of_eq_some (date_append _ _)).trans ?_)
  exact congrArg (Option.bind · _) hchar

end Separated

end Reading

/-- The exact texts of a part of a second: a point and digits, or nothing if there is no part. -/
inductive IsFraction (nano : Nat) : List Char → Prop
  | whole (h : nano = 0) : IsFraction nano []
  | digits {ds : List Char} (hne : ds ≠ []) (hds : ∀ c ∈ ds, isDigit c)
      (h : digitsValue ds * 10 ^ 9 = nano * 10 ^ ds.length) : IsFraction nano ('.' :: ds)

/-- The nanoseconds are in the first nine digits. -/
theorem digitsValue_take_nine {ds : List Char} {nano : Nat} (hds : ∀ c ∈ ds, isDigit c)
    (h : digitsValue ds * 10 ^ 9 = nano * 10 ^ ds.length) :
    digitsValue (ds.take 9) * 10 ^ (9 - (ds.take 9).length) = nano := by
  obtain hle | hlt := le_or_gt ds.length 9
  · have hpow : (10 : Nat) ^ 9 = 10 ^ (9 - ds.length) * 10 ^ ds.length := by
      rw [← pow_add, Nat.sub_add_cancel hle]
    rw [List.take_of_length_le hle]
    refine Nat.eq_of_mul_eq_mul_right (pow_pos (by decide) ds.length : 0 < 10 ^ ds.length) ?_
    rw [Nat.mul_assoc, ← hpow, h]
  · have htake : (ds.take 9).length = 9 := List.length_take_of_le hlt.le
    have hsplit : digitsValue ds
        = digitsValue (ds.take 9) * 10 ^ (ds.drop 9).length + digitsValue (ds.drop 9) := by
      rw [← Text.digitsValue_append, List.take_append_drop]
    have hrest : digitsValue (ds.drop 9) < 10 ^ (ds.drop 9).length :=
      Text.digitsValue_lt fun c hc => hds c (List.mem_of_mem_drop hc)
    have hpow : (10 : Nat) ^ ds.length = 10 ^ (ds.drop 9).length * 10 ^ 9 := by
      rw [← pow_add, List.length_drop, Nat.sub_add_cancel hlt.le]
    have hexact : digitsValue ds = nano * 10 ^ (ds.drop 9).length := by
      refine Nat.eq_of_mul_eq_mul_right (pow_pos (by decide) 9 : 0 < 10 ^ 9) ?_
      rw [h, hpow, Nat.mul_assoc]
    rw [htake, Nat.sub_self, pow_zero, Nat.mul_one]
    calc digitsValue (ds.take 9)
        = digitsValue ds / 10 ^ (ds.drop 9).length := by
          rw [hsplit, Nat.mul_comm, Nat.mul_add_div (Nat.zero_lt_of_lt hrest),
            Nat.div_eq_of_lt hrest, Nat.add_zero]
      _ = nano := by rw [hexact, Nat.mul_div_cancel _ (Nat.zero_lt_of_lt hrest)]

/-- The part of a second is shown in an exact text of it. -/
theorem isFraction_fractionText {nano : Nat} (h : nano < 10 ^ 9) :
    IsFraction nano (Timestamp.fractionText nano) := by
  have hpadded (width n : Nat) (hwidth : 0 < width) (hn : n < 10 ^ width)
      (hexact : n * 10 ^ 9 = nano * 10 ^ width) : IsFraction nano ('.' :: zeroPadded width n) := by
    refine .digits (Text.zeroPadded_ne_nil _ _) (Text.isDigit_of_mem_zeroPadded _ _) ?_
    rw [Text.digitsValue_zeroPadded, Text.length_zeroPadded hwidth hn, hexact]
  unfold Timestamp.fractionText
  split_ifs with hzero hmilli hmicro
  · exact .whole hzero
  · exact hpadded 3 _ (by decide) (by omega) (by omega)
  · exact hpadded 6 _ (by decide) (by omega) (by omega)
  · exact hpadded 9 _ (by decide) h rfl

def signedOffset (sign : Char) (minutes : Nat) : List Char :=
  sign :: (zeroPadded 2 (minutes / 60) ++ ':' :: zeroPadded 2 (minutes % 60))

/-- The texts of an offset from universal time in minutes: a sign, hours and minutes. That of
universal time itself has either sign or is a letter. -/
inductive IsOffset (minutes : Int) : List Char → Prop
  | ahead (h : 0 ≤ minutes) : IsOffset minutes (signedOffset '+' minutes.natAbs)
  | behind (h : minutes ≤ 0) : IsOffset minutes (signedOffset '-' minutes.natAbs)
  | universal {c : Char} (hc : c = 'Z' ∨ c = 'z') (h : minutes = 0) : IsOffset minutes [c]

theorem IsOffset.ne_nil {minutes : Int} {cs : List Char} (h : IsOffset minutes cs) : cs ≠ [] := by
  cases h <;> exact List.cons_ne_nil _ _

theorem IsOffset.isBlank {minutes : Int} {cs : List Char} (h : IsOffset minutes cs) :
    ∀ c ∈ cs, isBlank c = false := by
  have hsigned (sign : Char) (hsign : Text.isBlank sign = false) (n : Nat) :
      ∀ c ∈ signedOffset sign n, Text.isBlank c = false :=
    List.forall_mem_cons.2 ⟨hsign, List.forall_mem_append.2 ⟨Text.isBlank_of_mem_zeroPadded _ _,
      List.forall_mem_cons.2 ⟨rfl, Text.isBlank_of_mem_zeroPadded _ _⟩⟩⟩
  cases h with
  | ahead => exact hsigned '+' rfl _
  | behind => exact hsigned '-' rfl _
  | universal hc => obtain rfl | rfl := hc <;> simp [Text.isBlank]

/-- An offset begins with neither a digit nor a point. -/
theorem IsOffset.head? {minutes : Int} {cs : List Char} (h : IsOffset minutes cs) :
    NoDigit cs ∧ '.' ∉ cs.head? := by
  cases h with
  | ahead => exact ⟨noDigit_cons rfl _, by simp [signedOffset]⟩
  | behind => exact ⟨noDigit_cons rfl _, by simp [signedOffset]⟩
  | universal hc => obtain rfl | rfl := hc <;> exact ⟨noDigit_cons rfl _, by simp⟩

namespace Reading

theorem fraction_append {nano : Nat} {cs rest : List Char} (h : IsFraction nano cs)
    (hrest : NoDigit rest) (hpoint : '.' ∉ rest.head?) :
    fraction (cs ++ rest) = some (nano, rest) := by
  cases h with
  | whole hzero =>
    subst hzero
    rw [List.nil_append, fraction.eq_2]
    rintro r rfl
    exact hpoint rfl
  | @digits ds hne hds hexact =>
    have htake : (ds ++ rest).takeWhile isDigit = ds := (Text.span_run hds hrest).1
    rw [List.cons_append, fraction, htake, List.isEmpty_eq_false_iff.2 hne, List.drop_left,
      digitsValue_take_nine hds hexact]
    rfl

theorem offset_signedOffset {sign : Char} {minutes : Nat} (hsign : sign = '+' ∨ sign = '-')
    (h : minutes < 1440) : offset (signedOffset sign minutes)
      = some (if sign = '-' then -(minutes : Int) else minutes, []) := by
  have hhours : number 2 2 (zeroPadded 2 (minutes / 60) ++ ':' :: zeroPadded 2 (minutes % 60))
      = some (minutes / 60, ':' :: zeroPadded 2 (minutes % 60)) :=
    number_two (by omega) _
  have hminutes : number 2 2 (zeroPadded 2 (minutes % 60)) = some (minutes % 60, []) := by
    have hread := number_two (show minutes % 60 < 100 by omega) []
    rwa [List.append_nil] at hread
  have hbound : minutes / 60 ≤ 23 ∧ minutes % 60 ≤ 59 := by omega
  have htotal : ((minutes / 60 : Nat) * 60 + (minutes % 60 : Nat) : Int) = minutes := by omega
  obtain rfl | rfl := hsign
  all_goals
    refine (bind_of_eq_some rfl).trans ?_
    refine (bind_of_eq_some hhours).trans ?_
    refine (bind_of_eq_some (char_cons _ _)).trans ?_
    refine (bind_of_eq_some hminutes).trans ?_
    refine (if_pos hbound).trans ?_
    rw [htotal]
    rfl

theorem offset_of_isOffset {minutes : Int} {cs : List Char} (h : IsOffset minutes cs)
    (hlt : minutes.natAbs < 1440) : offset cs = some (minutes, []) := by
  cases h with
  | ahead h =>
    rw [offset_signedOffset (.inl rfl) hlt, if_neg (by decide), Int.natAbs_of_nonneg h]
  | behind h =>
    rw [offset_signedOffset (.inr rfl) hlt, if_pos rfl, Int.ofNat_natAbs_of_nonpos h, neg_neg]
  | universal hc h =>
    obtain rfl | rfl := hc <;> rw [h] <;> rfl

end Reading

namespace Timestamp

/-- Minutes since 1970-01-01. -/
def epochMinutes (t : Timestamp) : Int := t.date.dayNumber * 1440 + t.hour * 60 + t.minute

/-- The local time of an instant in universal time, that many minutes ahead of it. -/
structure IsLocal (there t : Timestamp) (minutes : Int) : Prop where
  epochMinutes : there.epochMinutes = t.epochMinutes + minutes
  second : there.second = t.second
  nano : there.nano = t.nano

theorem addMinutes?_eq_some_iff {t there : Timestamp} {minutes : Int} :
    t.addMinutes? minutes = some there ↔ there.IsLocal t minutes := by
  have hhour := there.hour_lt
  have hminute := there.minute_lt
  unfold addMinutes?
  simp only [Option.bind_eq_bind, Option.bind_eq_some_iff, Date.ofDayNumber?_eq_some_iff,
    of?_eq_some_iff]
  constructor
  · rintro ⟨date, hdate, rfl, hh, hm, hs, hk⟩
    refine ⟨?_, hs, hk⟩
    unfold epochMinutes
    omega
  · rintro ⟨h, hs, hk⟩
    unfold epochMinutes at h
    exact ⟨there.date, by omega, rfl, by omega, by omega, hs, hk⟩

theorem IsLocal.symm {there t : Timestamp} {minutes : Int} (h : there.IsLocal t minutes) :
    t.IsLocal there (-minutes) :=
  ⟨by have := h.epochMinutes; omega, h.second.symm, h.nano.symm⟩

end Timestamp

namespace Timestamp

theorem yearText_ne_nil (y : Int) : yearText y ≠ [] := by
  unfold yearText
  split_ifs
  · exact List.cons_ne_nil _ _
  · exact List.cons_ne_nil _ _
  · exact Text.zeroPadded_ne_nil _ _

theorem isBlank_of_mem_yearText (y : Int) : ∀ c ∈ yearText y, isBlank c = false := by
  unfold yearText
  split_ifs
  · exact List.forall_mem_cons.2 ⟨rfl, Text.isBlank_of_mem_zeroPadded _ _⟩
  · exact List.forall_mem_cons.2
      ⟨rfl, fun c hc => Text.isBlank_of_isDigit (Text.isDigit_of_mem_digits _ c hc)⟩
  · exact Text.isBlank_of_mem_zeroPadded _ _

theorem isBlank_head?_textWith (separator : Char) (t : Timestamp) (rest : List Char) :
    ∀ c ∈ (t.textWith separator ++ rest).head?, isBlank c = false := by
  simp only [textWith, List.append_assoc]
  exact Text.forall_head?_append (yearText_ne_nil _) (isBlank_of_mem_yearText _)

/-- The text shown to readers has no blanks at its ends. -/
theorem toList_trim_display (t : Timestamp) : (Text.trim t.display).toList = t.textWith ' ' := by
  have hhead := isBlank_head?_textWith ' ' t []
  rw [List.append_nil] at hhead
  exact Text.toList_trim_ofList hhead (Text.forall_getLast?_append (List.cons_ne_nil _ _)
    (List.forall_mem_cons.2 ⟨rfl, Text.isBlank_of_mem_zeroPadded _ _⟩))

theorem ofText?_display (t : Timestamp) : ofText? t.display = some t.whole := by
  have hblank : Reading.blankSeparated? (t.textWith ' ') = some t.whole := by
    have hread := Reading.blankSeparated?_textWith t []
    rwa [List.append_nil] at hread
  simp only [ofText?, toList_trim_display, hblank, Option.some_or]

end Timestamp

section Internet

variable {there t : Timestamp} {minutes : Int} {separator : Char} {part zone : List Char}
  (hlocal : there.IsLocal t minutes) (hlt : minutes.natAbs < 24 * 60)
  (hmin : 0 ≤ there.date.year) (hmax : there.date.year ≤ 9999)
  (hseparator : separator = 't' ∨ separator = 'T' ∨ separator = ' ')
  (hpart : IsFraction t.nano part) (hzone : IsOffset minutes zone)

include hlocal hlt hmin hmax hseparator hpart hzone

/-- The internet form of a local time is read as the instant in universal time. -/
theorem Reading.internet?_textWith :
    internet? (there.textWith separator ++ (part ++ zone)) = some t := by
  have hmonth := there.date.month_le
  have hday := there.date.day_le
  have hhour := there.hour_lt
  have hminute := there.minute_lt
  have hsecond := there.second_le
  have hyear : Timestamp.yearText there.date.year = zeroPadded 4 there.date.year.natAbs := by
    rw [Timestamp.yearText, if_neg (by omega), if_neg (by omega)]
  have htext : there.textWith separator ++ (part ++ zone) = zeroPadded 4 there.date.year.natAbs
      ++ '-' :: (zeroPadded 2 there.date.month ++ '-' :: (zeroPadded 2 there.date.day
        ++ separator :: (zeroPadded 2 there.hour ++ ':' :: (zeroPadded 2 there.minute
          ++ ':' :: (zeroPadded 2 there.second ++ (part ++ zone)))))) := by
    simp [Timestamp.textWith, hyear]
  have hdate : Date.of? there.date.year.natAbs there.date.month there.date.day = some there.date :=
    Date.of?_eq_some_iff.2 ⟨by omega, rfl, rfl⟩
  have htime : Timestamp.of? there.date there.hour there.minute there.second t.nano = some there :=
    Timestamp.of?_eq_some_iff.2 ⟨rfl, rfl, rfl, rfl, hlocal.nano⟩
  have hback : there.addMinutes? (-minutes) = some t :=
    Timestamp.addMinutes?_eq_some_iff.2 hlocal.symm
  obtain ⟨hdigit, hpoint⟩ := hzone.head?
  rw [htext]
  refine complete_of_eq_some ?_
  refine (bind_of_eq_some (number_zeroPadded (by decide) le_rfl (by omega) _)).trans ?_
  refine (bind_of_eq_some (char_cons _ _)).trans ?_
  refine (bind_of_eq_some (number_two (by omega) _)).trans ?_
  refine (bind_of_eq_some (char_cons _ _)).trans ?_
  refine (bind_of_eq_some (number_two (by omega) _)).trans ?_
  refine (if_neg (not_not_intro hseparator)).trans ?_
  refine (bind_of_eq_some (number_two (by omega) _)).trans ?_
  refine (bind_of_eq_some (char_cons _ _)).trans ?_
  refine (bind_of_eq_some (number_two (by omega) _)).trans ?_
  refine (bind_of_eq_some (char_cons _ _)).trans ?_
  refine (bind_of_eq_some (number_two (by omega) _)).trans ?_
  refine (bind_of_eq_some (fraction_append hpart hdigit hpoint)).trans ?_
  refine (bind_of_eq_some (offset_of_isOffset hzone hlt)).trans ?_
  refine (bind_of_eq_some hdate).trans ?_
  refine (bind_of_eq_some htime).trans ?_
  exact bind_of_eq_some hback

/-- The internet form fits none of the forms that are tried before. -/
theorem Timestamp.ofText?_internet :
    ofText? (String.ofList (there.textWith separator ++ (part ++ zone))) = some t := by
  have hne : part ++ zone ≠ [] := List.append_ne_nil_of_right_ne_nil _ hzone.ne_nil
  have hinternet := Reading.internet?_textWith hlocal hlt hmin hmax hseparator hpart hzone
  have htrim : (Text.trim (String.ofList (there.textWith separator ++ (part ++ zone)))).toList
      = there.textWith separator ++ (part ++ zone) := by
    refine Text.toList_trim_ofList (isBlank_head?_textWith _ _ _) ?_
    rw [← List.append_assoc]
    exact Text.forall_getLast?_append hzone.ne_nil hzone.isBlank
  -- A form with the same separator reads the clock as well, but then the offset is left over.
  have hblank : Reading.blankSeparated? (there.textWith separator ++ (part ++ zone)) = none := by
    obtain rfl | rfl | rfl := hseparator
    · exact Reading.blankSeparated?_of_isBlank_eq_false _ _ rfl rfl
    · exact Reading.blankSeparated?_of_isBlank_eq_false _ _ rfl rfl
    · rw [Reading.blankSeparated?_textWith, Reading.complete_of_ne_nil _ hne]
  have hletter : Reading.letterSeparated? (there.textWith separator ++ (part ++ zone)) = none := by
    obtain rfl | rfl | rfl := hseparator
    · exact Reading.letterSeparated?_of_ne _ _ (by decide)
    · rw [Reading.letterSeparated?_textWith, Reading.complete_of_ne_nil _ hne]
    · exact Reading.letterSeparated?_of_ne _ _ (by decide)
  simp only [ofText?, htrim, hblank, hletter, hinternet, Option.none_or, Option.some_or]

end Internet

namespace Timestamp

/-- The text shown to readers is read as the timestamp if its second is whole. The internet form is
read as the timestamp whatever the offset of its local time, as long as the year has four digits
there. -/
theorem ofText?_texts (t : Timestamp) :
    (ofText? (CellValue.timestamp t).display = some t ↔ t.nano = 0)
      ∧ ∀ {there : Timestamp} {minutes : Int} {separator : Char} {part zone : List Char},
        there.IsLocal t minutes → minutes.natAbs < 24 * 60 →
        0 ≤ there.date.year → there.date.year ≤ 9999 →
        (separator = 't' ∨ separator = 'T' ∨ separator = ' ') →
        IsFraction t.nano part → IsOffset minutes zone →
        ofText? (String.ofList (there.textWith separator ++ (part ++ zone))) = some t := by
  constructor
  · rw [CellValue.display, ofText?_display, Option.some_inj, whole_eq_iff]
  · intro there minutes separator part zone hlocal hlt hmin hmax hseparator hpart hzone
    exact ofText?_internet hlocal hlt hmin hmax hseparator hpart hzone

def newYearsEve : Timestamp where
  date := ⟨2023, 12, 31, by decide⟩
  hour := 22
  minute := 40
  second := 15
  nano := 250000000

def newYearsMorning : Timestamp where
  date := ⟨2024, 1, 1, by decide⟩
  hour := 4
  minute := 10
  second := 15
  nano := 250000000

theorem ofText?_newYearsMorning :
    newYearsMorning.IsLocal newYearsEve 330
      ∧ ofText? "2024-01-01T04:10:15.250+05:30" = some newYearsEve := by
  have hlocal : newYearsMorning.IsLocal newYearsEve 330 := ⟨by decide, rfl, rfl⟩
  have htext : "2024-01-01T04:10:15.250+05:30" = String.ofList (newYearsMorning.textWith 'T'
      ++ (fractionText newYearsEve.nano ++ signedOffset '+' 330)) := by cbv
  refine ⟨hlocal, ?_⟩
  rw [htext]
  exact (ofText?_texts newYearsEve).2 hlocal (by decide) (by decide) (by decide)
    (.inr (.inl rfl)) (isFraction_fractionText (by decide)) (.ahead (by decide))

end Timestamp

end Calendar

end Reporting
