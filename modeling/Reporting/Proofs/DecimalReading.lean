import Reporting.Decimal.Text
import Reporting.Json.Basic
import Reporting.Proofs.ShortestDigits

/-!
# Numbers of documents as decimals

The text of a number in a document reads as the decimal that has exactly its value, and as none if
no decimal has (`reads_toText`): digits that are written out always fit, and a power of ten behind
them fits as far as the places and the size of decimals go.
-/

namespace Reporting

open Text (digits digitsValue digitValue isDigit)

namespace Decimal

section Reading

variable {negative point : Bool} {m scale : Nat} {cs ws fs rest : List Char}

theorem readDigits_cons {c : Char} (hc : isDigit c = true)
    (hpoint : point = true → scale < 28) (hnext : m * 10 + digitValue c < 2 ^ 96) :
    readDigits negative point m scale (c :: cs)
      = readDigits negative point (m * 10 + digitValue c) (if point then scale + 1 else scale)
          cs := by
  have hunderscore : c ≠ '_' := by rintro rfl; cases hc
  have hdot : c ≠ '.' := by rintro rfl; cases hc
  have hplaces : (point && (decide (scale = maxScale) || decide (2 ^ 96 ≤ m * 10 + digitValue c)))
      = false := by
    cases point with
    | false => rfl
    | true =>
      have hscale : scale ≠ maxScale := (hpoint rfl).ne
      simp [hscale, hnext]
  rw [readDigits]
  · simp only [hc, hplaces, Bool.not_true, Bool.false_eq_true, if_false]
    rw [if_neg (Nat.not_le.2 hnext)]
  · exact hunderscore
  · exact hdot

/-- Digits that have room are added to the number. -/
theorem readDigits_append (hcs : ∀ c ∈ cs, isDigit c = true)
    (hpoint : point = true → scale + cs.length ≤ 28)
    (hroom : m * 10 ^ cs.length + digitsValue cs < 2 ^ 96) :
    readDigits negative point m scale (cs ++ rest)
      = readDigits negative point (m * 10 ^ cs.length + digitsValue cs)
          (if point then scale + cs.length else scale) rest := by
  induction cs generalizing m scale with
  | nil => cases point <;> simp [digitsValue]
  | cons c cs ih =>
    rw [List.forall_mem_cons] at hcs
    have hsplit : (m * 10 + digitValue c) * 10 ^ cs.length + digitsValue cs
        = m * 10 ^ (c :: cs).length + digitsValue (c :: cs) := by
      rw [Text.digitsValue_cons, List.length_cons, Nat.pow_succ]
      ring
    have hnext : m * 10 + digitValue c < 2 ^ 96 := by
      have hpower : 1 ≤ 10 ^ cs.length := Nat.one_le_pow _ _ (by decide)
      have hle := Nat.le_mul_of_pos_right (m * 10 + digitValue c) hpower
      omega
    rw [List.length_cons] at hpoint
    rw [List.cons_append, readDigits_cons hcs.1 (fun h => by have := hpoint h; omega) hnext,
      ih hcs.2 (fun h => by have := hpoint h; simp only [h, if_true]; omega) (by rwa [hsplit]),
      hsplit]
    cases point with
    | false => rfl
    | true =>
      simp only [if_true, List.length_cons]
      rw [Nat.add_assoc, Nat.add_comm 1]

/-- The point and the digits behind it, if there are any. -/
def pointed (fs : List Char) : List Char := if fs.isEmpty then [] else '.' :: fs

/-- A sign in front of digits, none for numbers that are not negative. -/
def withSign (negative : Bool) (cs : List Char) : List Char :=
  (if negative then ['-'] else []) ++ cs

theorem plain?_withSign {c : Char} (hc : isDigit c = true) :
    plain? (withSign negative (c :: cs)) = readDigits negative false 0 0 (c :: cs) := by
  have hminus : c ≠ '-' := by rintro rfl; cases hc
  have hplus : c ≠ '+' := by rintro rfl; cases hc
  have hdot : c ≠ '.' := by rintro rfl; cases hc
  cases negative <;> simp [plain?, withSign, hc, hminus, hplus, hdot]

theorem digitsValue_lt_bound (hcs : ∀ c ∈ cs, isDigit c = true) (hlength : cs.length ≤ 28) :
    digitsValue cs < 2 ^ 96 :=
  calc digitsValue cs < 10 ^ cs.length := Text.digitsValue_lt hcs
    _ ≤ 10 ^ 28 := Nat.pow_le_pow_right (by decide) hlength
    _ < 2 ^ 96 := by decide

/-- Up to 28 digits with a point among them are all read. -/
theorem plain?_append (hws : ∀ c ∈ ws, isDigit c = true) (hne : ws ≠ [])
    (hfs : ∀ c ∈ fs, isDigit c = true) (hlength : ws.length + fs.length ≤ 28) :
    plain? (withSign negative (ws ++ (pointed fs ++ rest)))
      = readDigits negative (!fs.isEmpty) (digitsValue (ws ++ fs)) fs.length rest := by
  have hroom : digitsValue (ws ++ fs) < 2 ^ 96 := digitsValue_lt_bound
    (fun c hc => (List.mem_append.1 hc).elim (hws c) (hfs c)) (by rwa [List.length_append])
  have hfirst : digitsValue ws < 2 ^ 96 := digitsValue_lt_bound hws (by omega)
  have hwhole : plain? (withSign negative (ws ++ (pointed fs ++ rest)))
      = readDigits negative false (digitsValue ws) 0 (pointed fs ++ rest) := by
    obtain ⟨c, cs, rfl⟩ := List.exists_cons_of_ne_nil hne
    rw [List.cons_append, plain?_withSign (hws c List.mem_cons_self), ← List.cons_append,
      readDigits_append hws ?_ ?_]
    · simp
    · exact nofun
    · rwa [Nat.zero_mul, Nat.zero_add]
  rw [hwhole]
  rcases fs with _ | ⟨c, cs⟩
  · simp [pointed]
  · have hpoint : readDigits negative false (digitsValue ws) 0 (pointed (c :: cs) ++ rest)
        = readDigits negative true (digitsValue ws) 0 (c :: cs ++ rest) := by
      rw [pointed]
      simp [readDigits]
    rw [Text.digitsValue_append] at hroom ⊢
    rw [hpoint, readDigits_append hfs (fun _ => by omega) hroom]
    simp

/-- Digits in front of a power of ten. -/
structure Mantissa (ws fs : List Char) : Prop where
  whole : ∀ c ∈ ws, isDigit c = true
  ne_nil : ws ≠ []
  fraction : ∀ c ∈ fs, isDigit c = true
  length_le : ws.length + fs.length ≤ 28

theorem plain?_mantissa (h : Mantissa ws fs) :
    plain? (withSign negative (ws ++ pointed fs))
      = ofParts? negative (digitsValue (ws ++ fs)) fs.length := by
  have hread : plain? (withSign negative (ws ++ (pointed fs ++ []))) = _ :=
    plain?_append h.whole h.ne_nil h.fraction h.length_le
  rwa [List.append_nil, readDigits] at hread

theorem plain?_mark (h : Mantissa ws fs) :
    plain? (withSign negative (ws ++ (pointed fs ++ 'e' :: rest))) = none := by
  rw [plain?_append h.whole h.ne_nil h.fraction h.length_le]
  rfl

theorem ne_mark_of_mem (h : Mantissa ws fs) :
    ∀ c ∈ withSign negative (ws ++ pointed fs), c ≠ 'e' ∧ c ≠ 'E' := by
  have hdigit : ∀ c, isDigit c = true → c ≠ 'e' ∧ c ≠ 'E' := by
    intro c hc
    constructor <;> rintro rfl <;> cases hc
  intro c hc
  rw [withSign, List.mem_append, List.mem_append] at hc
  obtain hc | hc | hc := hc
  · cases negative
    · cases hc
    · rw [List.mem_singleton.1 hc]
      decide
  · exact hdigit c (h.whole c hc)
  · unfold pointed at hc
    split at hc
    · cases hc
    · rcases List.mem_cons.1 hc with rfl | hc
      · decide
      · exact hdigit c (h.fraction c hc)

/-- The text of a power of ten. -/
def powerText (e : Int) : List Char :=
  'e' :: (if e < 0 then '-' else '+') :: digits e.natAbs

/-- A number times a power of ten. -/
def shift? (d : Decimal) (e : Int) : Option Decimal :=
  if e < 0 then d.shiftDown? e.natAbs else d.shiftUp? e.natAbs

theorem unsigned?_digits (n : Nat) : unsigned? (digits n) = some n := by
  obtain ⟨c, cs, hcs⟩ := List.exists_cons_of_ne_nil (l := digits n) Nat.toDigits_ne_nil
  have hc : isDigit c = true := Text.isDigit_of_mem_digits n c (hcs ▸ List.mem_cons_self)
  have hplus : c ≠ '+' := by rintro rfl; cases hc
  have hread : unsigned? (digits n) = Text.natOf? (digits n) := by
    rw [hcs]
    simp [unsigned?, hplus]
  rw [hread, Text.natOf?_digits]

theorem unsigned?_plus_digits (n : Nat) : unsigned? ('+' :: digits n) = some n :=
  Text.natOf?_digits n

/-- A number with a power of ten behind it reads as its mantissa, shifted. -/
theorem ofText?_power (h : Mantissa ws fs) (e : Int) :
    ofText? (String.ofList (withSign negative (ws ++ (pointed fs ++ powerText e))))
      = (ofParts? negative (digitsValue (ws ++ fs)) fs.length).bind (shift? · e) := by
  have hsplit : withSign negative (ws ++ (pointed fs ++ powerText e))
      = withSign negative (ws ++ pointed fs) ++ powerText e := by
    simp [withSign]
  have hbase : ∀ c ∈ withSign negative (ws ++ pointed fs), (!(c == 'e' || c == 'E')) = true := by
    intro c hc
    obtain ⟨h₁, h₂⟩ := ne_mark_of_mem h c hc
    simp [h₁, h₂]
  have hplain : plain? (withSign negative (ws ++ (pointed fs ++ powerText e))) = none :=
    plain?_mark h
  have hmark : (!('e' == 'e' || 'e' == 'E')) = false := by decide
  have hscientific : scientific? (withSign negative (ws ++ (pointed fs ++ powerText e)))
      = (plain? (withSign negative (ws ++ pointed fs))).bind (shift? · e) := by
    rw [hsplit, scientific?]
    by_cases he : e < 0
    · simp only [powerText, he, if_true, List.takeWhile_append_of_pos hbase,
        List.dropWhile_append_of_pos hbase, List.takeWhile_cons, List.dropWhile_cons, hmark,
        Bool.false_eq_true, if_false, List.append_nil, unsigned?_digits, shift?]
      rfl
    · simp only [powerText, he, List.takeWhile_append_of_pos hbase,
        List.dropWhile_append_of_pos hbase, List.takeWhile_cons, List.dropWhile_cons, hmark,
        Bool.false_eq_true, if_false, List.append_nil, shift?]
      change (plain? _).bind (fun d => (unsigned? ('+' :: digits e.natAbs)).bind d.shiftUp?) = _
      rw [unsigned?_plus_digits]
      rfl
  rw [ofText?, String.toList_ofList, hplain, hscientific, plain?_mantissa h]

end Reading

section Values

variable {negative : Bool} {m scale n : Nat} {x : ℚ}

/-- The decimal with a value, none only if no decimal has it. -/
def Reads (d? : Option Decimal) (x : ℚ) : Prop :=
  (∃ d, d? = some d ∧ d.value = x) ∨ d? = none ∧ ∀ d : Decimal, d.value ≠ x

theorem value_ne_of_large (h : 2 ^ 96 ≤ |x|) (d : Decimal) : d.value ≠ x := by
  rintro rfl
  have hle := d.abs_value_le
  norm_num at h hle
  linarith

/-- A number with more places than there are, the last of them not zero, is no decimal. -/
theorem value_ne_of_places (hm : m % 10 ≠ 0) (hscale : 28 < scale) (hx : |x| = m / 10 ^ scale)
    (d : Decimal) : d.value ≠ x := by
  rintro rfl
  obtain ⟨k, rfl⟩ : ∃ k, scale = d.scale + 1 + k := Nat.exists_eq_add_of_le (by
    have := d.scale_le
    omega)
  rw [abs_value, div_eq_div_iff (by positivity) (by positivity), pow_add, pow_add] at hx
  have hten : (d.mantissa * 10 ^ k * 10 : ℚ) = m := by
    refine mul_right_cancel₀ (b := (10 : ℚ) ^ d.scale) (by positivity) ?_
    rw [← hx]
    ring
  have hten' : d.mantissa * 10 ^ k * 10 = m := by exact_mod_cast hten
  omega

theorem reads_ofParts? (hx : x = sign negative * (m / 10 ^ scale))
    (hne : ¬(m < 2 ^ 96 ∧ scale ≤ 28) → ∀ d : Decimal, d.value ≠ x) :
    Reads (ofParts? negative m scale) x := by
  by_cases hfits : m < 2 ^ 96 ∧ scale ≤ 28
  · obtain ⟨d, hd, -⟩ := exists_ofParts? negative hfits.1 hfits.2
    exact .inl ⟨d, hd, hx ▸ value_ofParts? hd⟩
  · exact .inr ⟨dif_neg hfits, hne hfits⟩

theorem reads_shiftDown? {d : Decimal} (hlast : d.mantissa % 10 ≠ 0) :
    Reads (d.shiftDown? n) (d.value * 10 ^ (-n : Int)) := by
  have hvalue : d.value * 10 ^ (-n : Int)
      = sign d.negative * (d.mantissa / 10 ^ (d.scale + n)) := by
    rw [value_eq, zpow_neg, zpow_natCast, pow_add]
    field_simp
  refine reads_ofParts? hvalue fun hfits => ?_
  have hscale : 28 < d.scale + n := by
    have := d.mantissa_lt
    omega
  refine value_ne_of_places hlast hscale ?_
  rw [hvalue, abs_mul, abs_sign, one_mul, abs_of_nonneg (by positivity)]

theorem reads_shiftUp? {d : Decimal} (hone : 1 ≤ |d.value|) :
    Reads (d.shiftUp? n) (d.value * 10 ^ (n : Int)) := by
  rw [zpow_natCast]
  have hsigned : d.value * 10 ^ n = sign d.negative * (d.mantissa / 10 ^ d.scale * 10 ^ n) := by
    rw [value_eq, mul_assoc]
  unfold shiftUp?
  split
  · rename_i hle
    obtain ⟨k, hk⟩ := Nat.exists_eq_add_of_le hle
    have hvalue : d.value * 10 ^ n = sign d.negative * (d.mantissa / 10 ^ (d.scale - n)) := by
      rw [hsigned, hk, Nat.add_sub_cancel_left, pow_add]
      field_simp
    refine reads_ofParts? hvalue fun hfits => absurd ⟨d.mantissa_lt, ?_⟩ hfits
    exact (Nat.sub_le _ _).trans d.scale_le
  · split
    · rename_i hbig
      refine .inr ⟨rfl, value_ne_of_large ?_⟩
      have hpower : (10 : ℚ) ^ 29 ≤ 10 ^ n := pow_le_pow_right₀ (by norm_num) hbig
      rw [abs_mul, abs_of_pos (by positivity : (0 : ℚ) < 10 ^ n)]
      nlinarith
    · rename_i hgt _
      obtain ⟨k, rfl⟩ := Nat.exists_eq_add_of_le (Nat.le_of_not_le hgt)
      have hvalue : d.value * 10 ^ (d.scale + k)
          = sign d.negative * ((d.mantissa * 10 ^ (d.scale + k - d.scale) : Nat) / 10 ^ 0) := by
        rw [hsigned, Nat.add_sub_cancel_left, pow_add]
        push_cast
        field_simp
      refine reads_ofParts? hvalue fun hfits => value_ne_of_large ?_
      have hlarge : 2 ^ 96 ≤ d.mantissa * 10 ^ (d.scale + k - d.scale) := by omega
      rw [hvalue, abs_mul, abs_sign, one_mul, pow_zero, div_one, Nat.abs_cast]
      exact_mod_cast hlarge

theorem reads_mantissa {ws fs : List Char} (h : Mantissa ws fs)
    (hx : x = sign negative * (digitsValue (ws ++ fs) / 10 ^ fs.length)) :
    Reads (ofText? (String.ofList (withSign negative (ws ++ pointed fs)))) x := by
  have hlength := h.length_le
  have hbound : digitsValue (ws ++ fs) < 2 ^ 96 :=
    digitsValue_lt_bound (fun c hc => (List.mem_append.1 hc).elim (h.whole c) (h.fraction c))
      (by rwa [List.length_append])
  obtain ⟨d, hd, -⟩ := exists_ofParts? negative hbound (show fs.length ≤ maxScale by
    unfold maxScale
    omega)
  refine .inl ⟨d, ?_, hx ▸ value_ofParts? hd⟩
  rw [ofText?, String.toList_ofList, plain?_mantissa h, hd]

end Values

end Decimal

namespace Binary.Trimmed

variable {cs : List Char}

theorem digitsValue_mod_ten (h : Trimmed cs) : digitsValue cs % 10 ≠ 0 := by
  obtain ⟨init, c, rfl⟩ := List.eq_nil_or_concat cs |>.resolve_left h.ne_nil
  rw [List.concat_eq_append] at h ⊢
  have hdigit := h.isDigit c (by simp)
  have hpos := Text.digitValue_pos hdigit (h.last c (by simp))
  have hlt := Text.digitValue_lt hdigit
  rw [Text.digitsValue_concat]
  omega

theorem pow_le_digitsValue (h : Trimmed cs) : 10 ^ (cs.length - 1) ≤ digitsValue cs := by
  obtain ⟨c, cs, rfl⟩ := List.exists_cons_of_ne_nil h.ne_nil
  have hpos := Text.digitValue_pos (h.isDigit c List.mem_cons_self) (h.first c rfl)
  rw [Text.digitsValue_cons, List.length_cons, Nat.add_sub_cancel]
  exact Nat.le_add_right_of_le (Nat.le_mul_of_pos_left _ hpos)

end Binary.Trimmed

namespace DecimalDigits

/-- The number that digits stand for, with the point after the first of them. -/
def value (d : DecimalDigits) : ℚ :=
  digitsValue d.digits * 10 ^ (d.exponent + 1 - d.digits.length)

open Decimal (Mantissa Reads ofText? pointed powerText shift? sign withSign)

variable {d : DecimalDigits}

/-- The power of ten of digits as a quotient of two whole ones. -/
theorem value_eq_div {a b : Nat} (h : d.exponent + 1 - d.digits.length = a - b) :
    d.value = digitsValue d.digits * 10 ^ a / 10 ^ b := by
  rw [value, h, zpow_sub₀ (by norm_num), zpow_natCast, zpow_natCast, mul_div_assoc]

/-- Digits with an exponent read as a decimal, if there is one. -/
theorem reads_scientific (negative : Bool) (h : Binary.Trimmed d.digits) :
    Reads (ofText? (String.ofList (withSign negative (JsonNumber.floatStyle.scientific d))))
      (sign negative * d.value) := by
  have hlength : 0 < d.digits.length := List.length_pos_iff.2 h.ne_nil
  have hmantissa : Mantissa (d.digits.take 1) (d.digits.drop 1) := {
    whole := fun c hc => h.isDigit c (List.mem_of_mem_take hc)
    ne_nil := by simpa using h.ne_nil
    fraction := fun c hc => h.isDigit c (List.mem_of_mem_drop hc)
    length_le := by
      rw [← List.length_append, List.take_append_drop]
      exact h.length_le.trans (by decide) }
  have htext : JsonNumber.floatStyle.scientific d
      = d.digits.take 1 ++ (pointed (d.digits.drop 1) ++ powerText d.exponent) := by
    unfold FloatStyle.scientific pointed powerText
    by_cases he : d.exponent < 0 <;>
      simp [he, JsonNumber.floatStyle] <;> rfl
  have hbound : digitsValue d.digits < 2 ^ 96 :=
    Decimal.digitsValue_lt_bound h.isDigit (h.length_le.trans (by decide))
  have hscale : d.digits.length - 1 ≤ 28 := by
    have := h.length_le
    omega
  obtain ⟨base, hbase, hdigits⟩ : ∃ base, Decimal.ofParts? negative (digitsValue d.digits)
      (d.digits.length - 1) = some base ∧ base.mantissa = digitsValue d.digits :=
    ⟨_, dif_pos ⟨hbound, hscale⟩, rfl⟩
  have hvalue := Decimal.value_ofParts? hbase
  have hscaled : base.value * 10 ^ d.exponent = sign negative * d.value := by
    have hpower : (10 : ℚ) ^ (d.exponent + 1 - d.digits.length)
        = 10 ^ d.exponent / 10 ^ (d.digits.length - 1) := by
      rw [← zpow_natCast, ← zpow_sub₀ (by norm_num)]
      congr 1
      omega
    rw [hvalue, value, hpower]
    ring
  rw [htext, Decimal.ofText?_power hmantissa, List.take_append_drop, List.length_drop, hbase,
    Option.bind_some, shift?, ← hscaled]
  split
  · have hread := Decimal.reads_shiftDown? (n := d.exponent.natAbs)
      (hdigits ▸ h.digitsValue_mod_ten : base.mantissa % 10 ≠ 0)
    rwa [show (-(d.exponent.natAbs : Int)) = d.exponent by omega] at hread
  · have hone : 1 ≤ |base.value| := by
      rw [hvalue, abs_mul, Decimal.abs_sign, one_mul, abs_of_nonneg (by positivity),
        le_div_iff₀ (by positivity), one_mul]
      exact_mod_cast h.pow_le_digitsValue
    have hread := Decimal.reads_shiftUp? (n := d.exponent.natAbs) hone
    rwa [show (d.exponent.natAbs : Int) = d.exponent by omega] at hread

/-- Digits with a point among them have the value. -/
def Spells (d : DecimalDigits) (cs : List Char) : Prop :=
  ∃ ws fs, Mantissa ws fs ∧ cs = ws ++ pointed fs
    ∧ d.value = digitsValue (ws ++ fs) / 10 ^ fs.length

section Fixed

variable (hdigits : ∀ c ∈ d.digits, isDigit c = true) (hne : d.digits ≠ [])
  (hlength : d.digits.length ≤ 22)

theorem isDigit_of_mem_replicate (n : Nat) : ∀ c ∈ List.replicate n '0', isDigit c = true := by
  intro c hc
  rw [(List.mem_replicate.1 hc).2]
  rfl

include hdigits hne hlength in
/-- Behind the point, with zeros in front. -/
theorem spells_fraction (hlow : -5 ≤ d.exponent) (hneg : d.exponent < 0) :
    d.Spells (['0', '.'] ++ List.replicate ((-d.exponent).toNat - 1) '0' ++ d.digits) := by
  have hpos : 0 < d.digits.length := List.length_pos_iff.2 hne
  refine ⟨['0'], List.replicate ((-d.exponent).toNat - 1) '0' ++ d.digits,
    ⟨isDigit_of_mem_replicate 1, List.cons_ne_nil _ _, ?_, ?_⟩, ?_, ?_⟩
  · intro c hc
    exact (List.mem_append.1 hc).elim (isDigit_of_mem_replicate _ c) (hdigits c)
  · simp only [List.length_append, List.length_replicate, List.length_singleton]
    omega
  · simp [pointed, hne]
  · rw [List.singleton_append, ← List.cons_append, ← List.replicate_succ,
      Text.digitsValue_zeros_append, List.length_append, List.length_replicate,
      value_eq_div (a := 0) (b := (-d.exponent).toNat - 1 + d.digits.length) (by omega), pow_zero,
      mul_one]

include hdigits hne in
/-- In front of the point, with zeros behind. -/
theorem spells_whole (hneg : ¬d.exponent < 0) (hhigh : d.exponent < 16)
    (hshort : d.digits.length ≤ d.exponent.toNat + 1) :
    d.Spells (d.digits ++ List.replicate (d.exponent.toNat + 1 - d.digits.length) '0'
      ++ ['.', '0']) := by
  set zeros := List.replicate (d.exponent.toNat + 1 - d.digits.length) '0' with hzeros
  have hlength : zeros.length = d.exponent.toNat + 1 - d.digits.length := by
    rw [hzeros, List.length_replicate]
  refine ⟨d.digits ++ zeros, ['0'],
    ⟨?_, by simp [hne], isDigit_of_mem_replicate 1, ?_⟩, rfl, ?_⟩
  · intro c hc
    exact (List.mem_append.1 hc).elim (hdigits c) (isDigit_of_mem_replicate _ c)
  · rw [List.length_append, List.length_singleton, hlength]
    omega
  · have hvalue : digitsValue (d.digits ++ zeros ++ ['0'])
        = digitsValue d.digits * 10 ^ (zeros.length + 1) := by
      have hdigit : Text.digitValue '0' = 0 := rfl
      rw [Text.digitsValue_concat, Text.digitsValue_append, hdigit, hzeros,
        Text.digitsValue_replicate_zero, List.length_replicate, Nat.pow_succ]
      ring
    rw [hvalue, List.length_singleton,
      value_eq_div (a := zeros.length + 1) (b := 1) (by rw [hlength]; omega)]
    push_cast
    rfl

theorem isEmpty_drop {n : Nat} (h : n < d.digits.length) : (d.digits.drop n).isEmpty = false := by
  rw [List.isEmpty_eq_false_iff, Ne, List.drop_eq_nil_iff]
  exact Nat.not_le.2 h

include hdigits hne hlength in
/-- On both sides of the point. -/
theorem spells_between (hneg : ¬d.exponent < 0) (hlong : d.exponent.toNat + 1 < d.digits.length) :
    d.Spells (d.digits.take (d.exponent.toNat + 1) ++ '.' :: d.digits.drop (d.exponent.toNat + 1))
    := by
  refine ⟨d.digits.take (d.exponent.toNat + 1), d.digits.drop (d.exponent.toNat + 1),
    ⟨?_, by simpa using hne, ?_, ?_⟩, ?_, ?_⟩
  · exact fun c hc => hdigits c (List.mem_of_mem_take hc)
  · exact fun c hc => hdigits c (List.mem_of_mem_drop hc)
  · rw [← List.length_append, List.take_append_drop]
    omega
  · rw [pointed, isEmpty_drop hlong]
    rfl
  · rw [List.take_append_drop, List.length_drop, value_eq_div (a := 0)
      (b := d.digits.length - (d.exponent.toNat + 1)) (by omega), pow_zero, mul_one]

include hdigits hne hlength in
theorem spells_fixed (hlow : -5 ≤ d.exponent) (hhigh : d.exponent < 16) :
    d.Spells (FloatStyle.fixed d) := by
  unfold FloatStyle.fixed
  split
  · exact spells_fraction hdigits hne hlength hlow ‹_›
  · rename_i hneg
    dsimp only
    by_cases hshort : d.digits.length ≤ d.exponent.toNat + 1
    · rw [List.take_of_length_le hshort, List.drop_of_length_le hshort, List.append_assoc]
      exact spells_whole hdigits hne hneg hhigh hshort
    · have hlong : d.exponent.toNat + 1 < d.digits.length := Nat.not_le.1 hshort
      have hnone : d.exponent.toNat + 1 - d.digits.length = 0 := by omega
      simp only [hnone, isEmpty_drop hlong, List.replicate_zero, List.append_nil,
        Bool.false_eq_true, if_false, List.append_assoc, List.singleton_append]
      exact spells_between hdigits hne hlength hneg hlong

include hdigits hne hlength in
/-- Digits that are written out read as the decimal with their value. -/
theorem reads_fixed (negative : Bool) (hlow : -5 ≤ d.exponent) (hhigh : d.exponent < 16) :
    Reads (ofText? (String.ofList (withSign negative (FloatStyle.fixed d))))
      (sign negative * d.value) := by
  obtain ⟨ws, fs, hmantissa, htext, hvalue⟩ := spells_fixed hdigits hne hlength hlow hhigh
  rw [htext, hvalue]
  exact Decimal.reads_mantissa hmantissa rfl

end Fixed

end DecimalDigits

namespace JsonNumber

open Decimal (Reads ofText? sign withSign)

/-- The number that is written out in a document. -/
def spelled : JsonNumber → ℚ
  | .integer value _ => value
  | .float (.finite negative m e _) _ => sign negative * (Binary.shortest .double m e).value
  | .float _ _ => 0

theorem reads_integer {i : Int} (h : -2 ^ 63 ≤ i ∧ i < 2 ^ 64) :
    Reads (ofText? (toText (.integer i h))) i := by
  have htext : toText (.integer i h)
      = String.ofList (withSign (i < 0) (digits i.natAbs ++ Decimal.pointed [])) := by
    simp [toText, withSign, Decimal.pointed]
  have hlength : (digits i.natAbs).length ≤ 28 :=
    (Nat.length_toDigits_le_iff (by decide) (by decide)).2 (by omega)
  rw [htext]
  refine Decimal.reads_mantissa
    ⟨Text.isDigit_of_mem_digits _, Nat.toDigits_ne_nil, nofun, hlength⟩ ?_
  rw [List.append_nil, Text.digitsValue_digits, List.length_nil, pow_zero, div_one,
    Decimal.sign_mul_natAbs]

theorem reads_float {negative : Bool} {m : Nat} {e : Int}
    (h : BinaryFormat.double.Canonical m e) :
    Reads (ofText? (floatStyle.render (.finite negative m e h)))
      (sign negative * (Binary.shortest .double m e).value) := by
  have hrender : floatStyle.render (.finite negative m e h) = String.ofList (withSign negative
      (if m = 0 ∨ (-5 ≤ (Binary.shortest .double m e).exponent
          ∧ (Binary.shortest .double m e).exponent < 16) then
        FloatStyle.fixed (Binary.shortest .double m e)
      else floatStyle.scientific (Binary.shortest .double m e))) := rfl
  rw [hrender]
  split
  · rename_i hfixed
    rcases Nat.eq_zero_or_pos m with rfl | hm
    · have hzero : Binary.shortest .double 0 e = ⟨['0'], 0⟩ := by
        rw [Binary.shortest, if_pos rfl]
      rw [hzero]
      exact DecimalDigits.reads_fixed (DecimalDigits.isDigit_of_mem_replicate 1)
        (List.cons_ne_nil _ _) (by decide) negative (by decide) (by decide)
    · have htrimmed := Binary.trimmed_shortest .double e hm h.1
      obtain ⟨hlow, hhigh⟩ := hfixed.resolve_left hm.ne'
      exact DecimalDigits.reads_fixed htrimmed.isDigit htrimmed.ne_nil htrimmed.length_le negative
        hlow hhigh
  · rename_i hscientific
    have hm : 0 < m := Nat.pos_of_ne_zero fun hzero => hscientific (.inl hzero)
    exact DecimalDigits.reads_scientific negative (Binary.trimmed_shortest .double e hm h.1)

/-- The text of a number reads as the decimal with its value, and as none if no decimal has it. -/
theorem reads_toText (n : JsonNumber) : Reads (ofText? n.toText) n.spelled := by
  cases n with
  | integer i h => exact reads_integer h
  | float x h =>
    cases x with
    | finite negative m e hcanonical => exact reads_float hcanonical
    | infinity negative => cases h
    | nan => cases h

end JsonNumber

end Reporting
