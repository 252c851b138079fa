import Reporting.Locale.Format
import Reporting.Proofs.Digits
import Reporting.Proofs.NearestEven
import Reporting.Proofs.PatternText

/-!
# The digits of formatted numbers

A number is formatted as a sign, the text around the pattern, and digits with separators. The digits
fit the pattern (`Spelling.Fits`), which is what the parts of its text describe, and are read back
as the magnitude of the rounded number (`exists_spelling`, `formatNumber_reads_back`).
-/

namespace Reporting

namespace NumberPattern

open Text (isDigit digitsValue)

/-- Groups counted from the right have the given size, only the first may be shorter. -/
def Grouped (size : Nat) : List (List Char) → Prop
  | [] => False
  | first :: rest => first ≠ [] ∧ first.length ≤ size ∧ ∀ g ∈ rest, g.length = size

/-- The digits of a number without its signs: whole digits by groups, and fraction digits. -/
structure Spelling where
  groups : List (List Char)
  fraction : List Char
deriving DecidableEq, Repr

namespace Spelling

def whole (s : Spelling) : List Char := s.groups.flatten

/-- The number that the digits are read back as. -/
def value (s : Spelling) : ℚ := digitsValue (s.whole ++ s.fraction) / 10 ^ s.fraction.length

/-- Separators stand between the groups, and before a fraction if there is one. -/
def text (decimalSeparator groupingSeparator : Char) (s : Spelling) : List Char :=
  List.intercalate [groupingSeparator] s.groups
    ++ if s.fraction = [] then [] else decimalSeparator :: s.fraction

/-- What a pattern asks of the digits. -/
structure Fits (p : NumberPattern) (s : Spelling) : Prop where
  digits : ∀ c ∈ s.whole ++ s.fraction, isDigit c
  minInteger_le : p.minInteger ≤ s.whole.length
  leading : p.minInteger < s.whole.length → s.whole.head? ≠ some '0'
  grouped : ∀ size, p.grouping = some size → Grouped size s.groups
  ungrouped : p.grouping = none → s.groups = [s.whole]
  minFraction_le : p.minFraction ≤ s.fraction.length
  le_maxFraction : s.fraction.length ≤ p.maxFraction
  trailing : p.minFraction < s.fraction.length → s.fraction.getLast? ≠ some '0'

end Spelling

theorem length_of_grouped {size : Nat} {first : List Char} {rest : List (List Char)}
    (h : Grouped size (first :: rest)) :
    (first :: rest).flatten.length = first.length + rest.length * size := by
  have hlengths : rest.map List.length = List.replicate rest.length size := by
    rw [List.eq_replicate_iff]
    simpa using h.2.2
  rw [List.flatten_cons, List.length_append, List.length_flatten, hlengths, List.sum_replicate_nat]

theorem cons_intercalate (separator c : Char) (first : List Char) (rest : List (List Char)) :
    c :: List.intercalate [separator] (first :: rest)
      = List.intercalate [separator] ((c :: first) :: rest) := by
  cases rest <;> simp [List.intercalate]

/-- Grouping puts a separator before each group but the first. -/
theorem exists_groups {size : Nat} (hsize : 0 < size) (separator : Char) :
    ∀ {cs : List Char}, cs ≠ [] → ∃ groups, Grouped size groups ∧ groups.flatten = cs
      ∧ group size separator cs = List.intercalate [separator] groups
  | [], h => absurd rfl h
  | [c], _ => ⟨[[c]], ⟨by simp, hsize, by simp⟩, rfl, by simp [group]⟩
  | c :: d :: cs, _ => by
    obtain ⟨groups, hgrouped, hflatten, htext⟩ :=
      exists_groups hsize separator (List.cons_ne_nil d cs)
    cases groups with
    | nil => exact hgrouped.elim
    | cons first rest =>
      have hmod : (d :: cs).length % size = first.length % size := by
        rw [← hflatten, length_of_grouped hgrouped, Nat.add_mul_mod_self_right]
      obtain ⟨hne, hle, hrest⟩ := hgrouped
      have hpos := List.length_pos_iff.2 hne
      rw [group, hmod, htext]
      split
      · rename_i hinside
        have hlt : first.length ≠ size := by
          rintro heq
          simp [heq] at hinside
        refine ⟨(c :: first) :: rest, ⟨by simp, ?_, hrest⟩, ?_, cons_intercalate ..⟩
        · rw [List.length_cons]
          omega
        · rw [← hflatten]
          rfl
      · rename_i hedge
        have hfull : first.length = size := by
          have hzero : first.length % size = 0 := by simpa using hedge
          by_contra hlt
          rw [Nat.mod_eq_of_lt (by omega)] at hzero
          omega
        refine ⟨[c] :: first :: rest, ⟨by simp, hsize, ?_⟩, ?_, ?_⟩
        · simpa [hfull] using hrest
        · rw [← hflatten]
          rfl
        · rw [List.intercalate_cons_cons]
          rfl

section Digits

/-- Zeros after a fraction do not count. -/
theorem value_append_zeros (whole fraction : List Char) (n : Nat) :
    (digitsValue (whole ++ (fraction ++ List.replicate n '0')) : ℚ)
        / 10 ^ (fraction ++ List.replicate n '0').length
      = digitsValue (whole ++ fraction) / 10 ^ fraction.length := by
  rw [← List.append_assoc, Text.digitsValue_append, Text.digitsValue_replicate_zero,
    List.length_append, List.length_replicate, pow_add]
  push_cast
  field_simp
  ring

variable (p : NumberPattern)

theorem digitsValue_integerDigits (whole fraction : List Char) :
    digitsValue (p.integerDigits whole ++ fraction) = digitsValue (whole ++ fraction) := by
  obtain ⟨n, hn⟩ := Text.exists_run_append '0' whole
  have hstripped : digitsValue (whole.dropWhile (· == '0')) = digitsValue whole := by
    conv => rhs; rw [hn, Text.digitsValue_zeros_append]
  rw [integerDigits, Text.padLeft, List.append_assoc, Text.digitsValue_zeros_append,
    Text.digitsValue_append, Text.digitsValue_append, hstripped]

theorem leading_integerDigits {whole : List Char}
    (h : p.minInteger < (p.integerDigits whole).length) :
    (p.integerDigits whole).head? ≠ some '0' := by
  rw [integerDigits, Text.length_padLeft] at h
  have hpad : p.minInteger - (whole.dropWhile (· == '0')).length = 0 := by omega
  rw [integerDigits, Text.padLeft, hpad, List.replicate_zero, List.nil_append]
  intro hzero
  simpa [hzero] using List.head?_dropWhile_not (· == '0') whole

theorem fractionDigits_eq (fraction : List Char) :
    p.fractionDigits fraction = fraction.rdropWhile (· == '0')
      ++ List.replicate (p.minFraction - (fraction.rdropWhile (· == '0')).length) '0' := rfl

theorem value_fractionDigits (whole fraction : List Char) :
    (digitsValue (whole ++ p.fractionDigits fraction) : ℚ)
        / 10 ^ (p.fractionDigits fraction).length
      = digitsValue (whole ++ fraction) / 10 ^ fraction.length := by
  obtain ⟨n, hn⟩ := Text.exists_append_run '0' fraction
  rw [fractionDigits_eq, value_append_zeros]
  conv => rhs; rw [hn, value_append_zeros]

theorem length_fractionDigits (fraction : List Char) :
    (p.fractionDigits fraction).length
      = max p.minFraction (fraction.rdropWhile (· == '0')).length := by
  rw [fractionDigits_eq, List.length_append, List.length_replicate]
  omega

theorem trailing_fractionDigits {fraction : List Char}
    (h : p.minFraction < (p.fractionDigits fraction).length) :
    (p.fractionDigits fraction).getLast? ≠ some '0' := by
  rw [length_fractionDigits] at h
  have hpad : p.minFraction - (fraction.rdropWhile (· == '0')).length = 0 := by omega
  have hne : fraction.rdropWhile (· == '0') ≠ [] := by
    rintro hnil
    simp [hnil] at h
  rw [fractionDigits_eq, hpad, List.replicate_zero, List.append_nil,
    List.getLast?_eq_some_getLast hne]
  simpa using List.rdropWhile_last_not _ _ hne

end Digits

/-- What holds of every pattern that was read from a text. -/
structure WellFormed (p : NumberPattern) : Prop where
  grouping_pos : ∀ size, p.grouping = some size → 0 < size
  minInteger_pos : 0 < p.minInteger
  minFraction_le : p.minFraction ≤ p.maxFraction

theorem wellFormed_ofText (s : String) : (ofText s).WellFormed where
  grouping_pos := by
    intro size h
    simp only [ofText, groupSize?] at h
    split at h
    · split at h <;> cases h
      assumption
    · cases h
  minInteger_pos := by simp [ofText]
  minFraction_le := Nat.le_add_right _ _

section Split

variable (r : Decimal)

theorem append_splitDigits :
    (splitDigits r).1 ++ (splitDigits r).2 = Text.zeroPadded (r.scale + 1) r.mantissa :=
  List.take_append_drop ..

theorem length_splitDigits : (splitDigits r).2.length = r.scale := by
  have hlong : r.scale + 1 ≤ (Text.zeroPadded (r.scale + 1) r.mantissa).length := by
    rw [Text.zeroPadded, Text.length_padLeft]
    exact le_max_left _ _
  rw [splitDigits, List.length_drop]
  omega

/-- The digits of a decimal are those of its mantissa, the places of its scale after the point. -/
theorem value_splitDigits :
    (digitsValue ((splitDigits r).1 ++ (splitDigits r).2) : ℚ) / 10 ^ (splitDigits r).2.length
      = |r.value| := by
  rw [append_splitDigits, length_splitDigits, Text.digitsValue_zeroPadded, Decimal.abs_value]

end Split

theorem isDigit_of_mem_shown (p : NumberPattern) (r : Decimal) :
    ∀ c ∈ p.integerDigits (splitDigits r).1 ++ p.fractionDigits (splitDigits r).2, isDigit c := by
  have hall : ∀ c ∈ (splitDigits r).1 ++ (splitDigits r).2, isDigit c := by
    rw [append_splitDigits]
    exact Text.isDigit_of_mem_zeroPadded _ _
  simp only [List.mem_append] at hall ⊢
  rintro c (hc | hc)
  · exact Text.isDigit_of_mem_padLeft
      (fun c hc => hall c (.inl ((List.dropWhile_suffix _).subset hc))) c hc
  · rw [fractionDigits_eq, List.mem_append] at hc
    rcases hc with hc | hc
    · exact hall c (.inr ((List.rdropWhile_prefix _ _).subset hc))
    · rw [(List.mem_replicate.1 hc).2]
      rfl

/-- The whole digits with separators and, unless there are none, the fraction digits. -/
theorem body_eq (p : NumberPattern) (decimalSeparator groupingSeparator : Char) (r : Decimal) :
    p.body decimalSeparator groupingSeparator r
      = p.grouping.elim (p.integerDigits (splitDigits r).1)
          (group · groupingSeparator (p.integerDigits (splitDigits r).1))
        ++ if p.fractionDigits (splitDigits r).2 = [] then []
          else decimalSeparator :: p.fractionDigits (splitDigits r).2 := by
  unfold body
  cases p.grouping <;> exact congrArg (_ ++ ·) (if_congr List.isEmpty_iff rfl rfl)

/-- The digits of a decimal that has no more places than the pattern. -/
theorem exists_spelling {p : NumberPattern} (hp : p.WellFormed) {r : Decimal}
    (hscale : r.scale ≤ p.maxFraction) (decimalSeparator groupingSeparator : Char) :
    ∃ s : Spelling, s.Fits p ∧ s.value = |r.value|
      ∧ p.body decimalSeparator groupingSeparator r
        = s.text decimalSeparator groupingSeparator := by
  have hwhole : (p.integerDigits (splitDigits r).1).length
      = max p.minInteger ((splitDigits r).1.dropWhile (· == '0')).length := Text.length_padLeft _ _
  have hne : p.integerDigits (splitDigits r).1 ≠ [] := by
    apply List.ne_nil_of_length_pos
    have hpos := hp.minInteger_pos
    omega
  obtain ⟨groups, hflatten, hgrouped, hungrouped, htext⟩ : ∃ groups : List (List Char),
      groups.flatten = p.integerDigits (splitDigits r).1
        ∧ (∀ size, p.grouping = some size → Grouped size groups)
        ∧ (p.grouping = none → groups = [groups.flatten])
        ∧ p.grouping.elim (p.integerDigits (splitDigits r).1)
            (group · groupingSeparator (p.integerDigits (splitDigits r).1))
          = List.intercalate [groupingSeparator] groups := by
    cases hgrouping : p.grouping with
    | none => exact ⟨[p.integerDigits (splitDigits r).1], by simp⟩
    | some size =>
      obtain ⟨groups, hgrouped, hflatten, htext⟩ :=
        exists_groups (hp.grouping_pos size hgrouping) groupingSeparator hne
      exact ⟨groups, hflatten, by simpa using hgrouped, by simp, htext⟩
  refine ⟨⟨groups, p.fractionDigits (splitDigits r).2⟩, ?_, ?_, ?_⟩
  · have hfraction := p.length_fractionDigits (splitDigits r).2
    have hkept := (List.rdropWhile_prefix (· == '0') (splitDigits r).2).length_le
    rw [length_splitDigits] at hkept
    have hmin := hp.minFraction_le
    exact {
      digits := by
        rw [Spelling.whole, hflatten]
        exact p.isDigit_of_mem_shown r
      minInteger_le := by
        rw [Spelling.whole, hflatten, hwhole]
        exact le_max_left _ _
      leading := by
        rw [Spelling.whole, hflatten]
        exact p.leading_integerDigits
      grouped := hgrouped
      ungrouped := hungrouped
      minFraction_le := by
        rw [hfraction]
        exact le_max_left _ _
      le_maxFraction := by
        rw [hfraction]
        omega
      trailing := p.trailing_fractionDigits }
  · rw [Spelling.value, Spelling.whole, hflatten, digitsValue_integerDigits, value_fractionDigits,
      value_splitDigits]
  · rw [Spelling.text, ← htext, body_eq]

end NumberPattern

theorem Decimal.value_neg_iff (d : Decimal) : d.value < 0 ↔ d.negative && !d.isZero := by
  have hpow : (0 : ℚ) < 10 ^ d.scale := by positivity
  rw [value_eq, isZero]
  cases d.negative with
  | false =>
    have hnonneg : (0 : ℚ) ≤ d.mantissa / 10 ^ d.scale := by positivity
    simpa [sign] using hnonneg
  | true =>
    rcases Nat.eq_zero_or_pos d.mantissa with hm | hm
    · simp [sign, hm]
    · have hpos : (0 : ℚ) < d.mantissa / 10 ^ d.scale := by positivity
      simpa [sign, hm.ne'] using hpos

namespace Locale

/-- The pattern that a number is formatted by. -/
def usedPattern (t : DisplayType) (pattern : Option String) : NumberPattern :=
  .ofText ((given pattern).getD t.numberPattern)

end Locale

end Reporting
