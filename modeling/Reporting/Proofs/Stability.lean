import Reporting.Proofs.RowOrder

/-!
# Stable sorting of rows

A list of rows has one arrangement in which they are in order and those that are alike stand as
before, and sorting finds it (`stablySorted_iff`). So rows can be left out before or after sorting
(`sortedBy_filter`). The orders for trees and for listings part only where rows show the same in all
sorted columns (`orders_consistent`).
-/

namespace Reporting

namespace Row

section Stability

variable {order : Row → Row → Ordering} {rows sorted : List Row}

/-- Rows in an order, those that are alike in it as they stand in the list. -/
structure StablySorted (order : Row → Row → Ordering) (rows sorted : List Row) : Prop where
  ordered : sorted.Pairwise fun a b => (order a b).isLE
  alike : ∀ r, sorted.filter (order r · = .eq) = rows.filter (order r · = .eq)

theorem stablySorted_sortedBy (order : Row → Row → Ordering) [Std.TransCmp order]
    (rows : List Row) : StablySorted order rows (sortedBy order rows) where
  ordered := List.pairwise_mergeSort (fun _ _ _ => Std.TransCmp.isLE_trans) isLE_total rows
  alike r := by
    -- rows that are alike are in order as they stand, and sorting keeps what is in order
    have hordered : (rows.filter (order r · = .eq)).Pairwise fun a b => (order a b).isLE := by
      rw [List.pairwise_filter]
      refine List.pairwise_of_forall fun a b ha hb => ?_
      have hra : order r a = .eq := of_decide_eq_true ha
      have hrb : order r b = .eq := of_decide_eq_true hb
      rw [← Std.TransCmp.congr_left hra, hrb]
      rfl
    have hkept : (rows.filter (order r · = .eq)).Sublist (sortedBy order rows) :=
      List.sublist_mergeSort (fun _ _ _ => Std.TransCmp.isLE_trans) isLE_total hordered
        List.filter_sublist
    have halike := hkept.filter (order r · = .eq)
    simp only [List.filter_filter, Bool.and_self] at halike
    have hperm := (List.mergeSort_perm rows fun a b => (order a b).isLE).filter (order r · = .eq)
    exact (halike.eq_of_length hperm.length_eq.symm).symm

/-- The first of some rows in an order stands after none of them. -/
theorem isLE_of_mem_cons [Std.ReflCmp order] {s : List Row} {a b : Row}
    (hs : (a :: s).Pairwise fun a b => (order a b).isLE) (hb : b ∈ a :: s) :
    (order a b).isLE := by
  rcases List.mem_cons.1 hb with rfl | hb
  · exact Std.ReflCmp.isLE_rfl
  · exact List.rel_of_pairwise_cons hs hb

theorem mem_of_alike [Std.TransCmp order] {s t : List Row} {a : Row} (ha : a ∈ s)
    (halike : ∀ r, s.filter (order r · = .eq) = t.filter (order r · = .eq)) : a ∈ t := by
  have hmem : a ∈ s.filter (order a · = .eq) :=
    List.mem_filter.2 ⟨ha, decide_eq_true Std.ReflCmp.compare_self⟩
  rw [halike a] at hmem
  exact List.mem_of_mem_filter hmem

/-- Rows in an order are determined by those alike with each row, in the places they have. -/
theorem eq_of_alike [Std.TransCmp order] : ∀ {s t : List Row},
    s.Pairwise (fun a b => (order a b).isLE) → t.Pairwise (fun a b => (order a b).isLE) →
      (∀ r, s.filter (order r · = .eq) = t.filter (order r · = .eq)) → s = t
  | [], [], _, _, _ => rfl
  | [], b :: t, _, _, h => nomatch mem_of_alike List.mem_cons_self fun r => (h r).symm
  | a :: s, [], _, _, h => nomatch mem_of_alike List.mem_cons_self h
  | a :: s, b :: t, hs, ht, h => by
    have hself : order a a = .eq := Std.ReflCmp.compare_self
    have hab : order a b = .eq := Std.OrientedCmp.isLE_antisymm
      (isLE_of_mem_cons hs (mem_of_alike List.mem_cons_self fun r => (h r).symm))
      (isLE_of_mem_cons ht (mem_of_alike List.mem_cons_self h))
    -- the two first rows are alike, so both are the first of those alike with them
    have hfirst := h a
    simp only [List.filter_cons, hself, hab, decide_true, if_true] at hfirst
    obtain ⟨rfl, -⟩ := List.cons.inj hfirst
    have htail (r : Row) : s.filter (order r · = .eq) = t.filter (order r · = .eq) := by
      have hr := h r
      simp only [List.filter_cons] at hr
      split at hr
      · exact (List.cons.inj hr).2
      · exact hr
    rw [eq_of_alike hs.of_cons ht.of_cons htail]

theorem stablySorted_iff [Std.TransCmp order] :
    StablySorted order rows sorted ↔ sorted = sortedBy order rows := by
  have hsorted := stablySorted_sortedBy order rows
  constructor
  · intro h
    exact eq_of_alike h.ordered hsorted.ordered fun r => (h.alike r).trans (hsorted.alike r).symm
  · rintro rfl
    exact hsorted

/-- Rows that are left out of a list are missing from the sorted list, and nothing else changes. -/
theorem sortedBy_filter [Std.TransCmp order] (p : Row → Bool) :
    sortedBy order (rows.filter p) = (sortedBy order rows).filter p := by
  have hsorted := stablySorted_sortedBy order rows
  refine (stablySorted_iff.1 ⟨hsorted.ordered.filter p, fun r => ?_⟩).symm
  rw [List.filter_comm, hsorted.alike, List.filter_comm]

end Stability

section Compared

variable {sorting : List Int} {a b : Row}

/-- The text that a row is compared by in a sorted column, without regard to case. -/
def foldedText (r : Row) (item : Int) : String := Text.toLowercase (r.sortText item)

/-- Two rows are compared by the first sorted column in which they differ. -/
theorem compareColumns_eq_find? (sorting : List Int) (a b : Row) :
    compareColumns sorting a b
      = ((sorting.find? fun item => a.foldedText item ≠ b.foldedText item).map
          fun item => compare (a.foldedText item) (b.foldedText item)).getD .eq := by
  induction sorting with
  | nil => rfl
  | cons item rest ih =>
    change (compare (a.foldedText item) (b.foldedText item)).then _ = _
    by_cases h : a.foldedText item = b.foldedText item
    · rw [compare_eq_iff_eq.2 h, ih, List.find?_cons_of_neg (by simpa using h)]
      rfl
    · rw [List.find?_cons_of_pos (by simpa using h), Option.map_some, Option.getD_some]
      cases hcompare : compare (a.foldedText item) (b.foldedText item) with
      | lt => rfl
      | eq => exact absurd (compare_eq_iff_eq.1 hcompare) h
      | gt => rfl

theorem listingOrder_eq_then (h : sorting ≠ []) :
    listingOrder sorting a b = (compareColumns sorting a b).then (compare b.level a.level) :=
  if_neg (by simpa using h)

theorem treeOrder_eq_then (h : sorting ≠ []) :
    treeOrder sorting a b = (compareColumns sorting a b).then (compare a.level b.level) :=
  if_neg (by simpa using h)

/-- Levels count for nothing once a sorted column tells two rows apart. -/
theorem orders_of_find? {item : Int}
    (h : sorting.find? (fun item => a.foldedText item ≠ b.foldedText item) = some item) :
    listingOrder sorting a b = compare (a.foldedText item) (b.foldedText item)
      ∧ treeOrder sorting a b = listingOrder sorting a b := by
  have hne : sorting ≠ [] := by
    rintro rfl
    cases h
  have hdiffer : a.foldedText item ≠ b.foldedText item := by simpa using List.find?_some h
  have hcolumns : compareColumns sorting a b = compare (a.foldedText item) (b.foldedText item) := by
    rw [compareColumns_eq_find?, h]
    rfl
  rw [listingOrder_eq_then hne, treeOrder_eq_then hne, hcolumns]
  cases hcompare : compare (a.foldedText item) (b.foldedText item) with
  | lt => exact ⟨rfl, rfl⟩
  | eq => exact absurd (compare_eq_iff_eq.1 hcompare) hdiffer
  | gt => exact ⟨rfl, rfl⟩

theorem orders_of_alike (hne : sorting ≠ [])
    (h : ∀ item ∈ sorting, a.foldedText item = b.foldedText item) :
    listingOrder sorting a b = compare b.level a.level
      ∧ treeOrder sorting a b = (listingOrder sorting a b).swap := by
  have hcolumns : compareColumns sorting a b = .eq := by
    rw [compareColumns_eq_find?, List.find?_eq_none.2 (by simpa using h)]
    rfl
  rw [listingOrder_eq_then hne, treeOrder_eq_then hne, hcolumns]
  exact ⟨rfl, Std.OrientedOrd.eq_swap⟩

end Compared

/-- Both orders are total preorders, so that a list has one stable arrangement in each. They differ
in nothing but the levels of rows that show the same in the sorted columns. -/
theorem orders_consistent (sorting : List Int) :
    (∀ order ∈ [listingOrder sorting, treeOrder sorting],
        (∀ a b, order b a = (order a b).swap)
          ∧ (∀ a b c, (order a b).isLE → (order b c).isLE → (order a c).isLE)
          ∧ ∀ rows sorted, StablySorted order rows sorted ↔ sorted = sortedBy order rows)
      ∧ (sorting ≠ [] → ∀ a b : Row,
        (∀ item, sorting.find? (fun item => a.foldedText item ≠ b.foldedText item) = some item →
          listingOrder sorting a b = compare (a.foldedText item) (b.foldedText item)
            ∧ treeOrder sorting a b = listingOrder sorting a b)
          ∧ ((∀ item ∈ sorting, a.foldedText item = b.foldedText item) →
            listingOrder sorting a b = compare b.level a.level
              ∧ treeOrder sorting a b = (listingOrder sorting a b).swap)) := by
  have hpreorder (order : Row → Row → Ordering) [Std.TransCmp order] :
      (∀ a b, order b a = (order a b).swap)
        ∧ (∀ a b c, (order a b).isLE → (order b c).isLE → (order a c).isLE)
        ∧ ∀ rows sorted, StablySorted order rows sorted ↔ sorted = sortedBy order rows :=
    ⟨fun _ _ => Std.OrientedCmp.eq_swap, fun _ _ _ => Std.TransCmp.isLE_trans,
      fun _ _ => stablySorted_iff⟩
  refine ⟨fun order horder => ?_, fun hne a b => ⟨fun item => orders_of_find?, orders_of_alike hne⟩⟩
  rcases List.mem_pair.1 horder with rfl | rfl
  · exact hpreorder (listingOrder sorting)
  · exact hpreorder (treeOrder sorting)

def regionAt (region : String) (level : Int) : Row where
  cells := .ofList [(1, { value := .text region })]
  level := level

/-- A region in small letters and its total in capitals, which stand apart from another region. -/
theorem orders_consistent_regions :
    (∀ item ∈ [1], (regionAt "us" 2).foldedText item = (regionAt "US" 0).foldedText item)
      ∧ listingOrder [1] (regionAt "us" 2) (regionAt "US" 0) = .lt
      ∧ treeOrder [1] (regionAt "us" 2) (regionAt "US" 0) = .gt
      ∧ listingOrder [1] (regionAt "us" 2) (regionAt "EU" 0) = .gt
      ∧ treeOrder [1] (regionAt "us" 2) (regionAt "EU" 0) = .gt := by
  have halike : ∀ item ∈ [1], (regionAt "us" 2).foldedText item
      = (regionAt "US" 0).foldedText item := by decide +kernel
  have hfind : [1].find? (fun item =>
      (regionAt "us" 2).foldedText item ≠ (regionAt "EU" 0).foldedText item) = some 1 := by
    decide +kernel
  obtain ⟨-, horders⟩ := orders_consistent [1]
  obtain ⟨hlisting, htree⟩ := (horders nofun _ _).2 halike
  obtain ⟨hlisting', htree'⟩ := (horders nofun _ _).1 1 hfind
  have hfolded :
      compare ((regionAt "us" 2).foldedText 1) ((regionAt "EU" 0).foldedText 1) = .gt := by
    decide +kernel
  rw [htree, hlisting, htree', hlisting', hfolded]
  exact ⟨halike, rfl, rfl, rfl, rfl⟩

end Row

end Reporting
