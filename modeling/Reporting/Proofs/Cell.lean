import Mathlib.Tactic.Positivity
import Mathlib.Tactic.Ring
import Reporting.Rows.Tree

/-!
# When cells and rows are the same

Cells with a value compare by an equivalence of values (`Cell.same_trans`), so that rows which agree
with one row on some items agree with each other on them (`agree_trans`).
-/

namespace Reporting

namespace Decimal

theorem same_iff {a b : Decimal} :
    a.same b ↔ a.signed * (10 ^ b.scale : ℕ) = b.signed * (10 ^ a.scale : ℕ) := by
  simp [same, compareValue]

theorem same_comm (a b : Decimal) : a.same b = b.same a := by
  rw [Bool.eq_iff_iff, same_iff, same_iff, eq_comm]

theorem same_trans {a b c : Decimal} (hab : a.same b) (hbc : b.same c) : a.same c := by
  rw [same_iff] at *
  have hpos : ((10 ^ b.scale : ℕ) : ℤ) ≠ 0 := by positivity
  apply mul_right_cancel₀ hpos
  calc a.signed * (10 ^ c.scale : ℕ) * (10 ^ b.scale : ℕ)
      = a.signed * (10 ^ b.scale : ℕ) * (10 ^ c.scale : ℕ) := by ring
    _ = b.signed * (10 ^ c.scale : ℕ) * (10 ^ a.scale : ℕ) := by rw [hab]; ring
    _ = c.signed * (10 ^ a.scale : ℕ) * (10 ^ b.scale : ℕ) := by rw [hbc]; ring

end Decimal

namespace CellValue

theorem same_comm (a b : CellValue) : a.same b = b.same a := by
  cases a <;> cases b <;> simp [same, eq_comm, Decimal.same_comm]

theorem same_trans {a b c : CellValue} (hab : a.same b) (hbc : b.same c) : a.same c := by
  cases a <;> cases b <;> simp [same] at hab <;> cases c <;> simp [same] at hbc ⊢
  · exact Decimal.same_trans hab hbc
  all_goals exact hab.trans hbc

theorem isNull_eq_of_same {a b : CellValue} (h : a.same b) : a.isNull = b.isNull := by
  cases a <;> cases b <;> simp_all [same, isNull]

end CellValue

namespace Cell

theorem same_iff {a b : Cell} : a.same b ↔ a.isNull = false ∧ a.value.same b.value := by
  simp [same]

theorem same_symm {a b : Cell} (h : a.same b) : b.same a := by
  rw [same_iff] at *
  exact ⟨(CellValue.isNull_eq_of_same h.2).symm.trans h.1, CellValue.same_comm a.value _ ▸ h.2⟩

theorem same_trans {a b c : Cell} (hab : a.same b) (hbc : b.same c) : a.same c := by
  rw [same_iff] at *
  exact ⟨hab.1, CellValue.same_trans hab.2 hbc.2⟩

end Cell

/-- The value of a row for an item, null where it has no cell. -/
def Row.value (r : Row) (item : Int) : CellValue := ((r.cell? item).getD .empty).value

namespace RowTree

theorem agree_iff {axes : List Int} {a b : Row} :
    agree axes a b ↔ ∀ item ∈ axes, ∃ x y, a.cell? item = some x ∧ b.cell? item = some y
      ∧ x.same y := by
  simp only [agree, List.all_eq_true]
  refine forall₂_congr fun item _ => ?_
  rcases a.cell? item with _ | x <;> rcases b.cell? item with _ | y <;> simp

theorem agree_eq_all (axes : List Int) (a b : Row) :
    agree axes a b
      = axes.all fun item => !(a.value item).isNull && (a.value item).same (b.value item) := by
  rw [agree]
  congr 1
  funext item
  rcases ha : a.cell? item with _ | x <;> rcases hb : b.cell? item with _ | y
  · simp [Row.value, ha, Cell.empty, CellValue.isNull]
  · simp [Row.value, ha, Cell.empty, CellValue.isNull]
  · cases hx : x.value
    all_goals simp [Row.value, ha, hb, hx, Cell.empty, CellValue.isNull, CellValue.same]
  · simp [Row.value, ha, hb, Cell.same, Cell.isNull]

theorem agree_nil (a b : Row) : agree [] a b := rfl

theorem agree_symm {axes : List Int} {a b : Row} (h : agree axes a b) : agree axes b a := by
  rw [agree_iff] at *
  intro item hi
  obtain ⟨x, y, hx, hy, hxy⟩ := h item hi
  exact ⟨y, x, hy, hx, Cell.same_symm hxy⟩

theorem agree_trans {axes : List Int} {a b c : Row} (hab : agree axes a b)
    (hbc : agree axes b c) : agree axes a c := by
  rw [agree_iff] at *
  intro item hi
  obtain ⟨x, y, hx, hy, hxy⟩ := hab item hi
  obtain ⟨y', z, hy', hz, hyz⟩ := hbc item hi
  rw [hy] at hy'
  obtain rfl := Option.some.inj hy'
  exact ⟨x, z, hx, hz, Cell.same_trans hxy hyz⟩

theorem agree_take_of_le {axes : List Int} {a b : Row} {m n : Nat} (hmn : m ≤ n)
    (h : agree (axes.take n) a b) : agree (axes.take m) a b := by
  rw [agree_iff] at *
  exact fun item hi => h item ((List.take_subset_take_left axes hmn) hi)

/-- A row agrees on fewer items with both of two rows that agree, or with none of them. -/
theorem agree_take_congr {axes : List Int} {a b c : Row} {m n : Nat} (hmn : m ≤ n)
    (h : agree (axes.take n) b c) : agree (axes.take m) a b = agree (axes.take m) a c := by
  have hm := agree_take_of_le hmn h
  rw [Bool.eq_iff_iff]
  exact ⟨fun hab => agree_trans hab hm, fun hac => agree_trans hac (agree_symm hm)⟩

/-- Rows nest by their values alone. -/
theorem agree_congr {axes : List Int} {a b a' b' : Row}
    (ha : ∀ item ∈ axes, a'.value item = a.value item)
    (hb : ∀ item ∈ axes, b'.value item = b.value item) : agree axes a' b' = agree axes a b := by
  rw [agree_eq_all, agree_eq_all, Bool.eq_iff_iff, List.all_eq_true, List.all_eq_true]
  exact forall₂_congr fun item hi => by rw [ha item hi, hb item hi]

end RowTree

end Reporting
