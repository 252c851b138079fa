import Mathlib.Data.List.Perm.Basic
import Mathlib.Data.String.Basic
import Reporting.Rows.Row

/-!
# Orders of rows

Rows are compared column by column and then by level, so the orders for trees and for listings are
total preorders. Sorting leaves rows that are alike as they stood before (`sortedBy_stable`), and
moves what the rows stand for along with them (`exists_arranged`).
-/

namespace Reporting

namespace Text

theorem lowerChar_ne_nil (c : Char) : lowerChar c ≠ [] := by
  unfold lowerChar
  split
  · simp
  · split
    · simp
    · split <;> simp

theorem lowerFrom_ne_nil (before : List Char) (c : Char) (cs : List Char) :
    lowerFrom before (c :: cs) ≠ [] := by
  rw [lowerFrom]
  split
  · split <;> simp
  · simp [lowerChar_ne_nil]

/-- The empty text is small already, and comes before every other one. -/
theorem compare_empty_toLowercase {s : String} (h : s ≠ "") :
    compare (toLowercase "") (toLowercase s) = .lt := by
  have hempty : toLowercase "" = "" := rfl
  rw [hempty, compare_lt_iff_lt, String.lt_iff_toList_lt]
  simp only [toLowercase, String.toList_ofList]
  cases hs : s.toList with
  | nil => exact absurd (String.toList_eq_nil_iff.1 hs) h
  | cons c cs =>
    obtain ⟨c', cs', hlower⟩ := List.exists_cons_of_ne_nil (lowerFrom_ne_nil [] c cs)
    rw [hlower]
    exact List.nil_lt_cons c' cs'

end Text

namespace Row

theorem compareColumns_cons (item : Int) (rest : List Int) :
    compareColumns (item :: rest)
      = compareLex (compareOn fun r => Text.toLowercase (r.sortText item)) (compareColumns rest) :=
  rfl

/-- A row is compared with one that shows the same, or something where it shows nothing. -/
theorem compareColumns_eq {sorting : List Int} {a b : Row}
    (h : ∀ item ∈ sorting, a.sortText item = b.sortText item ∨ a.sortText item = "") :
    compareColumns sorting a b
      = if ∀ item ∈ sorting, a.sortText item = b.sortText item then .eq else .lt := by
  induction sorting with
  | nil => simp [compareColumns]
  | cons item rest ih =>
    obtain ⟨hitem, hrest⟩ := List.forall_mem_cons.1 h
    rw [compareColumns]
    by_cases heq : a.sortText item = b.sortText item
    · simp [heq, ih hrest]
    · have hempty : a.sortText item = "" := hitem.resolve_left heq
      have hlt := Text.compare_empty_toLowercase fun hb => heq (hempty.trans hb.symm)
      rw [if_neg fun hall => heq (hall item List.mem_cons_self), hempty, hlt]
      rfl

theorem transCmp_compareColumns : ∀ sorting, Std.TransCmp (compareColumns sorting)
  | [] => { eq_swap := rfl, isLE_trans := fun _ _ => rfl }
  | item :: rest => by
    have := transCmp_compareColumns rest
    rw [compareColumns_cons]
    infer_instance

instance {sorting : List Int} : Std.TransCmp (compareColumns sorting) :=
  transCmp_compareColumns sorting

instance {sorting : List Int} : Std.TransCmp (treeOrder sorting) := by
  have hlevel : Std.TransCmp fun a b : Row => compareOn Row.level b a := inferInstance
  have hcolumns :
      Std.TransCmp (compareLex (compareColumns sorting) (compareOn Row.level)) := inferInstance
  have heq : treeOrder sorting = if sorting.isEmpty then fun a b => compareOn Row.level b a
      else compareLex (compareColumns sorting) (compareOn Row.level) := by
    unfold treeOrder
    split <;> rfl
  rw [heq]
  split <;> assumption

instance {sorting : List Int} : Std.TransCmp (listingOrder sorting) := by
  have hcolumns : Std.TransCmp
      (compareLex (compareColumns sorting) fun a b => compareOn Row.level b a) := inferInstance
  have heq : listingOrder sorting = if sorting.isEmpty then compareOn Row.level
      else compareLex (compareColumns sorting) fun a b => compareOn Row.level b a := by
    unfold listingOrder
    split <;> rfl
  rw [heq]
  split
  · infer_instance
  · assumption

theorem isLE_total {order : Row → Row → Ordering} [Std.OrientedCmp order] (a b : Row) :
    ((order a b).isLE || (order b a).isLE) = true := by
  have hswap : order b a = (order a b).swap := Std.OrientedCmp.eq_swap
  rw [hswap]
  cases order a b <;> rfl

/-- A row stands before another one in the order or, where they are alike in it, by its place. -/
def Precedes (order : Row → Row → Ordering) (p q : Row × Nat) : Prop :=
  (order p.1 q.1).then (compare p.2 q.2) = .lt

/-- Sorted rows are those of the list, each with its place there, in the order and then by place. -/
theorem sortedBy_stable (order : Row → Row → Ordering) [Std.TransCmp order] (rows : List Row) :
    ∃ placed : List (Row × Nat), placed.Perm rows.zipIdx ∧ placed.Pairwise (Precedes order)
      ∧ placed.map Prod.fst = sortedBy order rows := by
  let le (a b : Row) : Bool := (order a b).isLE
  have htrans (a b c : Row) (hab : le a b) (hbc : le b c) : le a c :=
    Std.TransCmp.isLE_trans hab hbc
  have hswap (a b : Row) : order b a = (order a b).swap := Std.OrientedCmp.eq_swap
  have hperm := List.mergeSort_perm rows.zipIdx (List.zipIdxLE le)
  have hsorted := List.pairwise_mergeSort (List.zipIdxLE_trans htrans)
    (List.zipIdxLE_total isLE_total) rows.zipIdx
  have hplaces : (rows.zipIdx.mergeSort (List.zipIdxLE le)).Pairwise fun p q => p.2 ≠ q.2 := by
    rw [← List.pairwise_map (f := Prod.snd) (R := (· ≠ ·))]
    exact (hperm.map Prod.snd).nodup_iff.2 (by rw [List.zipIdx_map_snd]; exact List.nodup_range')
  refine ⟨_, hperm, (hsorted.and hplaces).imp ?_, List.mergeSort_zipIdx⟩
  rintro p q ⟨hle, hne⟩
  rw [Precedes]
  cases horder : order p.1 q.1 with
  | lt => rfl
  | eq =>
    have : p.2 ≤ q.2 := by simpa [List.zipIdxLE, le, horder, hswap p.1 q.1] using hle
    exact Nat.compare_eq_lt.2 (Nat.lt_of_le_of_ne this hne)
  | gt => simp [List.zipIdxLE, le, horder] at hle

/-- Sorting moves what the rows stand for along with them, and stands first what comes first. -/
theorem exists_arranged {α : Type} (order : Row → Row → Ordering) [Std.TransCmp order]
    {Shows : α → Row → Prop} {entries : List α} {rows : List Row}
    (h : List.Forall₂ Shows entries rows) :
    ∃ arranged : List α, arranged.Perm entries
      ∧ List.Forall₂ Shows arranged (sortedBy order rows)
      ∧ ∀ {i j : Nat} {e e' : α}, arranged[i]? = some e → arranged[j]? = some e' →
        (∀ r r', Shows e r → Shows e' r' → order r r' = .lt) → i < j := by
  have hsorted : (sortedBy order rows).Pairwise fun a b => (order a b).isLE :=
    List.pairwise_mergeSort (fun _ _ _ => Std.TransCmp.isLE_trans) isLE_total rows
  obtain ⟨arranged, hshows, hperm⟩ := List.perm_comp_forall₂ (List.mergeSort_perm rows _) h.flip
  refine ⟨arranged, hperm, hshows.flip, fun {i j e e'} hi hj hlt => ?_⟩
  obtain ⟨hlength, hget⟩ := List.forall₂_iff_get.1 hshows.flip
  obtain ⟨hileft, rfl⟩ := List.getElem?_eq_some_iff.1 hi
  obtain ⟨hjleft, rfl⟩ := List.getElem?_eq_some_iff.1 hj
  have hi' : i < (sortedBy order rows).length := hlength ▸ hileft
  have hj' : j < (sortedBy order rows).length := hlength ▸ hjleft
  have hfirst : order (sortedBy order rows)[i] (sortedBy order rows)[j] = .lt :=
    hlt _ _ (hget i hileft hi') (hget j hjleft hj')
  by_contra hle
  have hlate : (order (sortedBy order rows)[j] (sortedBy order rows)[i]).isLE := by
    rcases Nat.lt_or_eq_of_le (Nat.le_of_not_lt hle) with hji | rfl
    · exact List.pairwise_iff_getElem.1 hsorted j i hj' hi' hji
    · simp [Std.ReflCmp.compare_self]
  have hswap : order (sortedBy order rows)[j] (sortedBy order rows)[i] = .gt :=
    Std.OrientedCmp.gt_iff_lt.2 hfirst
  rw [hswap] at hlate
  cases hlate

end Row

end Reporting
