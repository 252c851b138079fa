import Mathlib.Data.List.Induction
import Mathlib.Tactic.Ring
import Reporting.Text.Digits

/-!
# Numbers and their digits

A whole number is written in digits alone (`isDigit_of_mem_digits`), without zeros in front of it
(`exists_digits`), and read back from them (`natOf?_digits`), also behind zeros that fill it up
(`digitsValue_zeroPadded`).
-/

namespace Reporting

namespace Text

theorem isDigit_digitChar : ∀ d < 10, isDigit (Nat.digitChar d) = true := by decide

theorem digitValue_digitChar : ∀ d < 10, digitValue (Nat.digitChar d) = d := by decide

theorem digits_of_lt {n : Nat} (h : n < 10) : digits n = [Nat.digitChar n] :=
  Nat.toDigits_of_lt_base h

theorem digits_of_le {n : Nat} (h : 10 ≤ n) :
    digits n = digits (n / 10) ++ [Nat.digitChar (n % 10)] :=
  Nat.toDigits_of_base_le (by decide) h

theorem isDigit_of_mem_digits (n : Nat) : ∀ c ∈ digits n, isDigit c = true := by
  induction n using Nat.strongRecOn with
  | _ n ih =>
    intro c hc
    rcases Nat.lt_or_ge n 10 with hn | hn
    · rw [digits_of_lt hn, List.mem_singleton] at hc
      exact hc ▸ isDigit_digitChar n hn
    · rw [digits_of_le hn, List.mem_append, List.mem_singleton] at hc
      rcases hc with hc | rfl
      · exact ih (n / 10) (by omega) c hc
      · exact isDigit_digitChar (n % 10) (by omega)

theorem digitsValue_digits (n : Nat) : digitsValue (digits n) = n := by
  induction n using Nat.strongRecOn with
  | _ n ih =>
    rcases Nat.lt_or_ge n 10 with hn | hn
    · rw [digits_of_lt hn]
      exact (Nat.zero_add _).trans (digitValue_digitChar n hn)
    · have hlast := digitValue_digitChar (n % 10) (by omega)
      have hinit := ih (n / 10) (by omega)
      rw [digitsValue] at hinit
      rw [digits_of_le hn, digitsValue, List.foldl_append, hinit, List.foldl_cons, List.foldl_nil,
        hlast]
      omega

/-- Only zero is written with a leading zero. -/
theorem exists_digits {n : Nat} (hn : 0 < n) : ∃ d ds, digits n = d :: ds ∧ d ≠ '0' := by
  induction n using Nat.strongRecOn with
  | _ n ih =>
    rcases Nat.lt_or_ge n 10 with h | h
    · refine ⟨_, [], digits_of_lt h, ?_⟩
      have hne : ∀ d < 10, 0 < d → Nat.digitChar d ≠ '0' := by decide
      exact hne n h hn
    · obtain ⟨d, ds, hds, hd⟩ := ih (n / 10) (by omega) (by omega)
      exact ⟨d, ds ++ [Nat.digitChar (n % 10)], by rw [digits_of_le h, hds, List.cons_append], hd⟩

/-- A number lies between the powers of ten around its number of digits. -/
theorem length_digits_bounds {n : Nat} (hn : 0 < n) :
    10 ^ ((digits n).length - 1) ≤ n ∧ n < 10 ^ (digits n).length := by
  have hpos : 0 < (digits n).length := List.length_pos_iff.2 Nat.toDigits_ne_nil
  refine ⟨?_, (Nat.length_toDigits_le_iff (by decide) hpos).1 (Nat.le_refl _)⟩
  rcases Nat.eq_zero_or_pos ((digits n).length - 1) with hzero | hone
  · rw [hzero]
    exact hn
  · refine Nat.le_of_not_lt fun hlt => ?_
    have hle : (digits n).length ≤ (digits n).length - 1 :=
      (Nat.length_toDigits_le_iff (by decide) hone).2 hlt
    omega

theorem natOf?_of_isDigit {cs : List Char} (hne : cs ≠ []) (h : ∀ c ∈ cs, isDigit c) :
    natOf? cs = some (digitsValue cs) := by
  rw [natOf?, List.isEmpty_eq_false_iff.2 hne, List.all_eq_true.2 h]
  rfl

theorem natOf?_digits (n : Nat) : natOf? (digits n) = some n := by
  have hne : digits n ≠ [] := Nat.toDigits_ne_nil
  rw [natOf?_of_isDigit hne (isDigit_of_mem_digits n), digitsValue_digits]

theorem intOf?_digits {ds : List Char} (hne : ds ≠ []) (hds : ∀ c ∈ ds, isDigit c) :
    intOf? ds = some (digitsValue ds : Int) := by
  have hread := natOf?_of_isDigit hne hds
  obtain ⟨c, cs, rfl⟩ := List.exists_cons_of_ne_nil hne
  have hc := hds c List.mem_cons_self
  unfold intOf?
  split
  · rename_i hminus
    obtain ⟨rfl, -⟩ := List.cons.inj hminus
    exact absurd hc (by decide)
  · rename_i hplus
    obtain ⟨rfl, -⟩ := List.cons.inj hplus
    exact absurd hc (by decide)
  · rw [hread]
    rfl

/-- The number is read back from its text. -/
theorem natOf?_repr (n : Nat) : natOf? n.repr.toList = some n := by
  rw [Nat.toList_repr]
  exact natOf?_digits n

theorem digitsValue_concat (cs : List Char) (c : Char) :
    digitsValue (cs ++ [c]) = digitsValue cs * 10 + digitValue c := by
  simp [digitsValue]

theorem digitsValue_append (cs ds : List Char) :
    digitsValue (cs ++ ds) = digitsValue cs * 10 ^ ds.length + digitsValue ds := by
  induction ds using List.reverseRecOn with
  | nil => simp [digitsValue]
  | append_singleton ds c ih =>
    rw [← List.append_assoc, digitsValue_concat, digitsValue_concat, ih, List.length_append,
      List.length_singleton, pow_succ]
    ring

theorem digitValue_lt {c : Char} (h : isDigit c = true) : digitValue c < 10 := by
  have hle : c.toNat ≤ '9'.toNat := of_decide_eq_true (Bool.and_eq_true_iff.1 h).2
  have hnine : '9'.toNat = 57 := rfl
  have hzero : '0'.toNat = 48 := rfl
  unfold digitValue
  omega

theorem digitValue_pos {c : Char} (h : isDigit c = true) (hne : c ≠ '0') : 0 < digitValue c := by
  have hle : '0'.toNat ≤ c.toNat := of_decide_eq_true (Bool.and_eq_true_iff.1 h).1
  have hne' : c.toNat ≠ '0'.toNat := fun heq => hne (Char.toNat_inj.1 heq)
  unfold digitValue
  omega

theorem digitsValue_cons (c : Char) (cs : List Char) :
    digitsValue (c :: cs) = digitValue c * 10 ^ cs.length + digitsValue cs := by
  rw [← List.singleton_append, digitsValue_append]
  simp [digitsValue]

theorem digitsValue_lt {cs : List Char} (h : ∀ c ∈ cs, isDigit c = true) :
    digitsValue cs < 10 ^ cs.length := by
  induction cs with
  | nil => decide
  | cons c cs ih =>
    rw [List.forall_mem_cons] at h
    have hc := digitValue_lt h.1
    have hcs := ih h.2
    have hle : digitValue c * 10 ^ cs.length ≤ 9 * 10 ^ cs.length :=
      Nat.mul_le_mul_right _ (Nat.le_of_lt_succ hc)
    rw [digitsValue_cons, List.length_cons, Nat.pow_succ]
    omega

theorem digitsValue_replicate_zero (n : Nat) : digitsValue (List.replicate n '0') = 0 := by
  induction n with
  | zero => rfl
  | succ n ih =>
    rw [List.replicate_succ', digitsValue_concat, ih]
    rfl

/-- Zeros in front do not count. -/
theorem digitsValue_zeros_append (n : Nat) (cs : List Char) :
    digitsValue (List.replicate n '0' ++ cs) = digitsValue cs := by
  rw [digitsValue_append, digitsValue_replicate_zero, Nat.zero_mul, Nat.zero_add]

theorem isDigit_of_mem_padLeft {width : Nat} {cs : List Char} (h : ∀ c ∈ cs, isDigit c) :
    ∀ c ∈ padLeft '0' width cs, isDigit c := by
  intro c hc
  rcases List.mem_append.1 hc with hc | hc
  · rw [(List.mem_replicate.1 hc).2]
    rfl
  · exact h c hc

theorem isDigit_of_mem_zeroPadded (width n : Nat) : ∀ c ∈ zeroPadded width n, isDigit c :=
  isDigit_of_mem_padLeft (isDigit_of_mem_digits n)

theorem length_padLeft (width : Nat) (cs : List Char) :
    (padLeft '0' width cs).length = max width cs.length := by
  simp [padLeft]
  omega

theorem digitsValue_zeroPadded (width n : Nat) : digitsValue (zeroPadded width n) = n := by
  rw [zeroPadded, padLeft, digitsValue_zeros_append, digitsValue_digits]

end Text

end Reporting
