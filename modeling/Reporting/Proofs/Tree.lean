import Mathlib.Data.List.Sections
import Mathlib.Data.Multiset.Bind
import Reporting.Proofs.Cell

/-!
# What stands in a tree of groups

A leaf of a tree of groups stands below one row of each rank. `detailLeaves_grouped` turns the tree
around: each row that is no total is a leaf once for every way of choosing, at each rank, a total
that agrees with it on the items of that rank.
-/

namespace Reporting

theorem flatMap_comm_perm {α β γ : Type} (l : List α) (m : List β) (f : α → β → List γ) :
    (l.flatMap fun a => m.flatMap (f a)).Perm (m.flatMap fun b => l.flatMap (f · b)) := by
  rw [← Multiset.coe_eq_coe]
  simpa only [Multiset.coe_bind] using
    Multiset.bind_bind (↑l : Multiset α) (↑m : Multiset β) (f := fun a b => (↑(f a b) : Multiset γ))

theorem flatMap_filter {α β : Type} (p : α → Bool) (f : α → List β) :
    ∀ l : List α, (l.filter p).flatMap f = l.flatMap fun a => if p a then f a else []
  | [] => rfl
  | a :: l => by
    rw [List.flatMap_cons, ← flatMap_filter p f l]
    by_cases h : p a <;> simp [h]

/-- Pairs of related elements can be gathered from either side. -/
theorem flatMap_related_perm {α β γ δ : Type} (l : List α) (m : List β) {p : α → Bool}
    {r : β → Bool} {q : α → β → Bool} (h : ∀ a b, q a b → p a = r b) (s : β → List γ)
    (f : α → β → γ → δ) :
    ((l.filter p).flatMap fun a => (m.filter (q a)).flatMap fun b => (s b).map (f a b)).Perm
      ((m.filter r).flatMap fun b => (s b).flatMap fun c => (l.filter (q · b)).map (f · b c)) := by
  have hleft : ((l.filter p).flatMap fun a => (m.filter (q a)).flatMap fun b => (s b).map (f a b))
      = l.flatMap fun a => m.flatMap fun b => if r b && q a b then (s b).map (f a b) else [] := by
    rw [flatMap_filter]
    refine List.flatMap_congr fun a _ => ?_
    rw [flatMap_filter]
    by_cases hp : p a
    · rw [if_pos hp]
      refine List.flatMap_congr fun b _ => ?_
      by_cases hq : q a b
      · simp [hq, ← h a b hq, hp]
      · simp [hq]
    · rw [if_neg hp]
      refine (List.flatMap_eq_nil_iff.2 fun b _ => ?_).symm
      by_cases hq : q a b
      · simp [hq, ← h a b hq, hp]
      · simp [hq]
  have hright : ∀ b, ((s b).flatMap fun c => (l.filter (q · b)).map (f · b c)).Perm
      (l.flatMap fun a => if q a b then (s b).map (f a b) else []) := by
    intro b
    simp only [List.map_eq_flatMap, flatMap_filter]
    refine (flatMap_comm_perm _ _ _).trans (.of_eq (List.flatMap_congr fun a _ => ?_))
    split <;> simp
  rw [hleft, flatMap_filter]
  refine (flatMap_comm_perm _ _ _).trans (List.Perm.flatMap_left _ fun b _ => ?_)
  by_cases hp : r b
  · simpa [hp] using (hright b).symm
  · simp [hp]

namespace RowTree

mutual

/-- The rows without children, each with the rows above it, outermost first. -/
def leaves : RowTree → List (List Row × Row)
  | node row [] => [([], row)]
  | node row (t :: ts) => (leavesOf (t :: ts)).map fun leaf => (row :: leaf.1, leaf.2)

def leavesOf : List RowTree → List (List Row × Row)
  | [] => []
  | t :: ts => leaves t ++ leavesOf ts

end

/-- The leaves that are no totals. -/
def detailLeaves (ts : List RowTree) : List (List Row × Row) :=
  (leavesOf ts).filter fun leaf => !leaf.2.isSummary

theorem leavesOf_eq_flatMap : ∀ ts : List RowTree, leavesOf ts = ts.flatMap leaves
  | [] => by simp [leavesOf]
  | t :: ts => by rw [leavesOf, leavesOf_eq_flatMap ts, List.flatMap_cons]

theorem detailLeaves_map {α : Type} (f : α → RowTree) (l : List α) :
    detailLeaves (l.map f) = l.flatMap fun a => detailLeaves [f a] := by
  simp [detailLeaves, leavesOf_eq_flatMap, List.flatMap_map, List.filter_flatMap]

/-- A total is no leaf of interest itself. -/
theorem detailLeaves_node {row : Row} (h : row.isSummary) (ts : List RowTree) :
    detailLeaves [node row ts] = (detailLeaves ts).map fun leaf => (row :: leaf.1, leaf.2) := by
  cases ts with
  | nil => simp [detailLeaves, leavesOf, leaves, h]
  | cons t ts =>
    simp only [detailLeaves, leavesOf, leaves, List.append_nil, List.filter_map]
    rfl

theorem detailLeaves_map_leaf (rows : List Row) :
    detailLeaves (rows.map leaf) = (rows.filter (!·.isSummary)).map ([], ·) := by
  have hleaves : leavesOf (rows.map leaf) = rows.map ([], ·) := by
    rw [leavesOf_eq_flatMap, List.flatMap_map, List.map_eq_flatMap]
    rfl
  rw [detailLeaves, hleaves, List.filter_map]
  rfl

/-- Totals have the level of their rank, and all other rows are deeper than all totals. -/
def Leveled (axes : List Int) (rows : List Row) : Prop :=
  ∀ r ∈ rows, if r.isSummary then 0 ≤ r.level ∧ r.level < axes.length
    else r.level = axes.length

/-- The totals of a rank that agree with a row on the items of that rank. -/
def agreeing (axes : List Int) (rows : List Row) (r : Row) (rank : Nat) : List Row :=
  (rows.filter fun t => t.level = (rank : Int)).filter fun t => agree (axes.take (rank + 1)) t r

/-- The ways of choosing, at each rank from one on, a total that agrees with a row. -/
def placesFrom (axes : List Int) (rows : List Row) (rank : Nat) (r : Row) : List (List Row) :=
  ((List.range' rank (axes.length - rank)).map (agreeing axes rows r)).sections

theorem placesFrom_of_lt {axes : List Int} {rows : List Row} {rank : Nat} (h : rank < axes.length)
    (r : Row) :
    placesFrom axes rows rank r
      = (placesFrom axes rows (rank + 1) r).flatMap fun above =>
          (agreeing axes rows r rank).map (· :: above) := by
  obtain ⟨n, hn⟩ : ∃ n, axes.length - rank = n + 1 := ⟨axes.length - rank - 1, by omega⟩
  have hn' : axes.length - (rank + 1) = n := by omega
  rw [placesFrom, placesFrom, hn, hn', List.range'_succ, List.map_cons, List.sections]

theorem members_of_lt {axes : List Int} {rows : List Row} {rank : Nat} (h : rank < axes.length)
    (parent : Row) :
    members rows axes rank parent
      = (rows.filter fun t => t.level = (rank : Int)).filter
          fun t => agree (axes.take rank) parent t := by
  rw [members, List.filter_filter]
  simp [h, Bool.and_comm]

theorem groupedFrom_eq_node (rows : List Row) (axes : List Int) (rank : Nat) (parent : Row) :
    groupedFrom rows axes rank parent
      = node parent (groupedFrom rows axes rank parent).children := by
  rw [groupedFrom]
  split <;> rfl

theorem children_groupedFrom_of_lt {axes : List Int} {rank : Nat} (h : rank < axes.length)
    (rows : List Row) (parent : Row) :
    (groupedFrom rows axes rank parent).children
      = (members rows axes rank parent).map (groupedFrom rows axes (rank + 1)) := by
  rw [groupedFrom, if_pos h]
  rfl

/-- Below a total stand the rows that agree with it, once for every way of choosing totals of the
ranks between. -/
theorem detailLeaves_groupedFrom {axes : List Int} {rows : List Row} (hl : Leveled axes rows) :
    ∀ (n rank : Nat) (parent : Row), axes.length - rank = n → rank ≤ axes.length →
      (rank = axes.length → parent.level + 1 = rank) →
      (detailLeaves (groupedFrom rows axes rank parent).children).Perm
        (((rows.filter (!·.isSummary)).filter (agree (axes.take rank) parent)).flatMap fun r =>
          (placesFrom axes rows rank r).map (·, r))
  | 0, rank, parent, hn, hr, hp => by
    have hrank : rank = axes.length := by omega
    have hmem : (members rows axes rank parent).filter (!·.isSummary)
        = (rows.filter (!·.isSummary)).filter (agree (axes.take rank) parent) := by
      rw [members, List.filter_filter, List.filter_filter]
      refine List.filter_congr fun r hrow => ?_
      have hlevel := hl r hrow
      have hparent := hp hrank
      by_cases hs : r.isSummary
      · simp [hs]
      · have : parent.level < r.level := by
          rw [if_neg hs] at hlevel
          omega
        simp [hs, hrank, this]
    have hplaces : ∀ r, placesFrom axes rows rank r = [[]] := by
      intro r
      rw [placesFrom, hn]
      rfl
    have hchildren : (groupedFrom rows axes rank parent).children
        = (members rows axes rank parent).map leaf := by
      rw [groupedFrom, if_neg (by omega)]
      rfl
    rw [hchildren, detailLeaves_map_leaf, hmem]
    simp [hplaces, List.map_eq_flatMap]
  | n + 1, rank, parent, hn, hr, hp => by
    have hlt : rank < axes.length := by omega
    rw [children_groupedFrom_of_lt hlt, detailLeaves_map, members_of_lt hlt]
    simp only [placesFrom_of_lt hlt]
    have hbelow : ∀ t ∈ (rows.filter fun t => t.level = (rank : Int)).filter
          fun t => agree (axes.take rank) parent t,
        (detailLeaves [groupedFrom rows axes (rank + 1) t]).Perm
          (((rows.filter (!·.isSummary)).filter (agree (axes.take (rank + 1)) t)).flatMap fun r =>
            (placesFrom axes rows (rank + 1) r).map fun above => (t :: above, r)) := by
      intro t ht
      have htrows := (List.mem_filter.1 (List.mem_filter.1 ht).1)
      have htlevel : t.level = rank := by simpa using htrows.2
      have hsummary : t.isSummary := by
        have := hl t htrows.1
        split at this
        · assumption
        · omega
      rw [groupedFrom_eq_node, detailLeaves_node hsummary]
      refine ((detailLeaves_groupedFrom hl n (rank + 1) t (by omega) (by omega)
        (by omega)).map _).trans (.of_eq ?_)
      simp [List.map_flatMap, Function.comp_def]
    refine (List.Perm.flatMap_left _ hbelow).trans ?_
    refine (flatMap_related_perm _ _ (r := agree (axes.take rank) parent)
      (fun t r h => agree_take_congr (Nat.le_succ rank) h) (placesFrom axes rows (rank + 1))
      fun t r above => (t :: above, r)).trans (.of_eq ?_)
    simp [agreeing, List.map_flatMap, Function.comp_def]

theorem grouped_eq_children {axes : List Int} (h : axes ≠ []) (rows : List Row) (parent : Row) :
    grouped rows axes = (groupedFrom rows axes 0 parent).children := by
  rw [children_groupedFrom_of_lt (List.length_pos_iff.2 h), members_of_lt (List.length_pos_iff.2 h)]
  simp [grouped, h, agree_nil]

/-- Every row that is no total is a leaf once for each choice, at every rank, of a total that agrees
with it. -/
theorem detailLeaves_grouped {axes : List Int} {rows : List Row} (h : axes ≠ [])
    (hl : Leveled axes rows) :
    (detailLeaves (grouped rows axes)).Perm
      ((rows.filter (!·.isSummary)).flatMap fun r => (placesFrom axes rows 0 r).map (·, r)) := by
  have hpos := List.length_pos_iff.2 h
  rw [grouped_eq_children h rows {}]
  refine (detailLeaves_groupedFrom hl _ 0 {} rfl (Nat.zero_le _) (by omega)).trans (.of_eq ?_)
  simp [agree_nil]

end RowTree

end Reporting
