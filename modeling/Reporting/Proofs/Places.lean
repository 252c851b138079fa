import Reporting.Proofs.Totals
import Reporting.Proofs.Tree

/-!
# The places of a row among totals

Rows are grouped by the texts of their cells and nested by the values. A place of a row is a choice
of one total of each rank that has its values. The only place of a row is below the totals it has
been added to exactly if no total of another group has its values and those of its own groups do
(`places_eq_iff`).
-/

namespace Reporting

open RankTotals (keyOf)
open RowTree (agree)

theorem sections_eq_singleton_iff {α : Type} :
    ∀ {l : List (List α)} {s : List α}, l.sections = [s] ↔ l = s.map ([·])
  | [], s => by cases s <;> simp [List.sections]
  | choices :: l, s => by
    rw [List.sections]
    constructor
    · intro h
      rcases hl : l.sections with _ | ⟨t, ts⟩
      · simp [hl] at h
      rcases choices with _ | ⟨a, choices⟩
      · have hnil : (l.sections.flatMap fun s => ([] : List α).map (· :: s)) = [] :=
          List.flatMap_eq_nil_iff.2 fun _ _ => rfl
        rw [hnil] at h
        cases h
      rw [hl, List.flatMap_cons, List.map_cons, List.cons_append, List.cons.injEq,
        List.append_eq_nil_iff, List.map_eq_nil_iff, List.flatMap_eq_nil_iff] at h
      obtain ⟨rfl, rfl, hts⟩ := h
      have hnil : ts = [] :=
        List.eq_nil_iff_forall_not_mem.2 fun t' ht' => by simpa using hts t' ht'
      rw [hnil] at hl
      rw [sections_eq_singleton_iff.1 hl]
      rfl
    · intro h
      cases s with
      | nil => simp at h
      | cons a s =>
        rw [List.map_cons, List.cons.injEq] at h
        rw [sections_eq_singleton_iff.2 h.2, h.1]
        rfl

theorem sections_eq_nil {α : Type} : ∀ {l : List (List α)}, [] ∈ l → l.sections = []
  | [] :: l, _ => List.flatMap_eq_nil_iff.2 fun _ _ => rfl
  | (a :: choices) :: l, h => by
    have hl : l.sections = [] := sections_eq_nil (by simpa using h)
    rw [List.sections, hl, List.flatMap_nil]

theorem sections_map_map {α β : Type} (f : α → β) :
    ∀ l : List (List α), (l.map (List.map f)).sections = l.sections.map (List.map f)
  | [] => rfl
  | choices :: l => by
    rw [List.map_cons, List.sections, List.sections, sections_map_map f l, List.flatMap_map,
      List.map_flatMap]
    simp [Function.comp_def]

theorem sections_perm {α : Type} {l l' : List (List α)} (h : List.Forall₂ List.Perm l l') :
    l.sections.Perm l'.sections := by
  induction h with
  | nil => exact .refl _
  | cons hc _ ih =>
    rw [List.sections, List.sections]
    exact (ih.flatMap_right _).trans (List.Perm.flatMap_left _ fun s _ => hc.map _)

theorem flatMap_range_eq {α : Type} {f : Nat → List α} {k : Nat} :
    ∀ {n : Nat}, k < n → (∀ j < n, j ≠ k → f j = []) → (List.range n).flatMap f = f k
  | n + 1, hk, hf => by
    rw [List.range_succ, List.flatMap_append, List.flatMap_cons, List.flatMap_nil, List.append_nil]
    rcases Nat.lt_succ_iff_lt_or_eq.1 hk with hk | rfl
    · rw [flatMap_range_eq hk fun j hj => hf j (by omega), hf n (by omega) (by omega),
        List.append_nil]
    · rw [List.flatMap_eq_nil_iff.2 fun j hj => hf j (by have := List.mem_range.1 hj; omega)
        (by have := List.mem_range.1 hj; omega), List.nil_append]

namespace Row

/-- The row has a value for every one of the items. -/
def hasValues (items : List Int) (r : Row) : Bool :=
  items.all fun item => (r.cell? item).any (!·.isNull)

theorem hasValues_of_agree {items : List Int} {a b : Row} (h : agree items a b) :
    b.hasValues items := by
  rw [hasValues, List.all_eq_true]
  intro item hi
  obtain ⟨x, y, -, hy, hxy⟩ := RowTree.agree_iff.1 h item hi
  have := (Cell.same_iff.1 (Cell.same_symm hxy)).1
  simp [hy, this]

end Row

namespace Totals

/-- The group of a key. -/
def group? (t : Totals) (rank : Nat) (key : GroupKey) : Option GroupTotals :=
  (t.ranks[rank]?).bind (·.groups.get? key)

/-- The rows of totals of a rank. -/
def rankRows (t : Totals) (rank : Nat) : List Row :=
  match t.ranks[rank]? with
  | some r => r.groups.values.map (GroupTotals.toRow rank)
  | none => []

/-- The ways of choosing, at each rank, a total that has the values of a row. -/
def places (t : Totals) (r : Row) : List (List Row) :=
  ((List.range t.axes.length).map fun rank =>
    (t.rankRows rank).filter fun total => agree (t.axes.take (rank + 1)) total r).sections

/-- The totals that a row has been added to, outermost first. -/
def placeOf (t : Totals) (r : Row) : List Row :=
  (List.range t.axes.length).filterMap fun rank =>
    (t.group? rank (keyOf (t.axes.take (rank + 1)) r)).map (GroupTotals.toRow rank)

/-- At every rank, the totals of a row's own group and of no other have its values. -/
def Separates (t : Totals) (r : Row) : Prop :=
  ∀ rank < t.axes.length, ∀ key g, t.group? rank key = some g →
    (agree (t.axes.take (rank + 1)) (g.toRow rank) r ↔ key = keyOf (t.axes.take (rank + 1)) r)

section Fed

variable {axes summarized : List Int} {rows : List Row}

theorem group?_fed {rank : Nat} (h : rank < axes.length) (key : GroupKey) :
    (fed axes summarized rows).group? rank key
      = (RankTotals.fed (axes.take (rank + 1)) summarized rows).groups.get? key := by
  simp [group?, ranks_fed, h]

theorem rankRows_fed {rank : Nat} (h : rank < axes.length) :
    (fed axes summarized rows).rankRows rank
      = (RankTotals.fed (axes.take (rank + 1)) summarized rows).groups.values.map
          (GroupTotals.toRow rank) := by
  simp [rankRows, ranks_fed, h]

theorem mem_rankRows {t : Totals} {rank : Nat} {total : Row} (h : total ∈ t.rankRows rank) :
    total.level = rank ∧ total.isSummary := by
  unfold rankRows at h
  split at h
  · obtain ⟨g, -, rfl⟩ := List.mem_map.1 h
    exact ⟨rfl, rfl⟩
  · cases h

theorem rows_eq_flatMap :
    (fed axes summarized rows).rows
      = (List.range axes.length).flatMap (fed axes summarized rows).rankRows := by
  rw [rows_fed]
  exact List.flatMap_congr fun rank hrank => (rankRows_fed (List.mem_range.1 hrank)).symm

theorem mem_rows {total : Row} (h : total ∈ (fed axes summarized rows).rows) :
    total.isSummary ∧ 0 ≤ total.level ∧ total.level < axes.length := by
  rw [rows_eq_flatMap] at h
  obtain ⟨rank, hrank, h⟩ := List.mem_flatMap.1 h
  obtain ⟨hl, hs⟩ := mem_rankRows h
  have := List.mem_range.1 hrank
  exact ⟨hs, by omega, by omega⟩

/-- The totals of a rank are the rows of its level. -/
theorem filter_level_rows {rank : Nat} (h : rank < axes.length) :
    (fed axes summarized rows).rows.filter (·.level = (rank : Int))
      = (fed axes summarized rows).rankRows rank := by
  rw [rows_eq_flatMap, List.filter_flatMap, flatMap_range_eq h fun j _ hj => ?_]
  · refine List.filter_eq_self.2 fun total ht => ?_
    simp [(mem_rankRows ht).1]
  · refine List.filter_eq_nil_iff.2 fun total ht => ?_
    have := (mem_rankRows ht).1
    simp only [decide_eq_true_eq]
    omega

/-- A row that was fed has a group at every rank. -/
theorem exists_group (summarized : List Int) {rank : Nat} (h : rank < axes.length) {r : Row}
    (hr : r ∈ rows) :
    ∃ first rest, RankTotals.members (axes.take (rank + 1)) rows (keyOf (axes.take (rank + 1)) r)
        = first :: rest
      ∧ (fed axes summarized rows).group? rank (keyOf (axes.take (rank + 1)) r)
        = some (.ofRows (axes.take (rank + 1)) summarized first rest) := by
  rw [group?_fed h, RankTotals.get?_fed]
  rcases hm : RankTotals.members (axes.take (rank + 1)) rows (keyOf (axes.take (rank + 1)) r)
    with _ | ⟨first, rest⟩
  · exact absurd ⟨r, hr, rfl⟩ (RankTotals.members_eq_nil_iff.1 hm)
  · exact ⟨first, rest, rfl, rfl⟩

theorem filter_eq_singleton_iff {f : GroupTotals → Row} {p : Row → Bool}
    {m : SortedMap GroupKey GroupTotals} {key : GroupKey} {g : GroupTotals}
    (hg : m.get? key = some g) :
    (m.values.map f).filter p = [f g]
      ↔ ∀ key' g', m.get? key' = some g' → (p (f g') ↔ key' = key) := by
  have hkeys : m.entries.Nodup := m.ascending.imp fun {a b} h heq => by
    simp [heq, Std.ReflCmp.compare_self] at h
  have hvalues : (m.values.map f).filter p
      = (m.entries.filter fun e => p (f e.2)).map fun e => f e.2 := by
    rw [SortedMap.values, List.map_map, List.filter_map]
    rfl
  rw [hvalues]
  constructor
  · intro h key' g' hg'
    obtain ⟨e, he, hfe⟩ := List.map_eq_singleton_iff.1 h
    have hpe : e ∈ m.entries.filter fun e => p (f e.2) := by simp [he]
    have hown : (key, g) = e := by
      have hm : (key, g) ∈ m.entries.filter fun e => p (f e.2) :=
        List.mem_filter.2 ⟨SortedMap.get?_eq_some_iff.1 hg, by
          rw [← hfe]
          exact (List.mem_filter.1 hpe).2⟩
      rwa [he, List.mem_singleton] at hm
    constructor
    · intro hp
      have hm : (key', g') ∈ m.entries.filter fun e => p (f e.2) :=
        List.mem_filter.2 ⟨SortedMap.get?_eq_some_iff.1 hg', hp⟩
      rw [he, List.mem_singleton, ← hown] at hm
      exact congrArg Prod.fst hm
    · rintro rfl
      rw [hg] at hg'
      obtain rfl := Option.some.inj hg'
      rw [← hown] at hpe
      exact (List.mem_filter.1 hpe).2
  · intro h
    have hperm : (m.entries.filter fun e => p (f e.2)).Perm [(key, g)] := by
      rw [List.perm_ext_iff_of_nodup (hkeys.filter _) (List.nodup_singleton _)]
      rintro ⟨key', g'⟩
      rw [List.mem_filter, List.mem_singleton, ← SortedMap.get?_eq_some_iff]
      constructor
      · rintro ⟨hg', hp⟩
        obtain rfl := (h key' g' hg').1 hp
        rw [hg] at hg'
        rw [Option.some.inj hg']
      · intro heq
        cases heq
        exact ⟨hg, (h key g hg).2 rfl⟩
    rw [List.perm_singleton.1 hperm]
    rfl

theorem placeOf_fed {r : Row} (hr : r ∈ rows) :
    (fed axes summarized rows).placeOf r
      = (List.range axes.length).map fun rank =>
          (((fed axes summarized rows).group? rank (keyOf (axes.take (rank + 1)) r)).map
            (GroupTotals.toRow rank)).getD {} := by
  rw [placeOf, axes_fed, ← List.filterMap_eq_map]
  refine List.filterMap_congr fun rank hrank => ?_
  obtain ⟨first, rest, -, hg⟩ := exists_group summarized (List.mem_range.1 hrank) hr
  simp only [hg, Option.map_some, Function.comp_apply, Option.getD_some]

/-- A row stands below its own totals alone exactly if they are the only ones with its values. -/
theorem places_eq_iff {r : Row} (hr : r ∈ rows) :
    (fed axes summarized rows).places r = [(fed axes summarized rows).placeOf r]
      ↔ (fed axes summarized rows).Separates r := by
  rw [places, sections_eq_singleton_iff, placeOf_fed hr, axes_fed, List.map_map, List.map_inj_left]
  unfold Separates
  rw [axes_fed]
  refine forall_congr' fun rank => ?_
  rw [List.mem_range]
  refine forall_congr' fun hlt => ?_
  obtain ⟨first, rest, -, hg⟩ := exists_group summarized hlt hr
  simp only [Function.comp_apply, hg, Option.map_some, Option.getD_some, rankRows_fed hlt]
  simp only [group?_fed hlt] at hg ⊢
  exact filter_eq_singleton_iff hg

/-- A row that lacks a value of some group stands nowhere. -/
theorem places_eq_nil {r : Row} (h : r.hasValues axes = false) :
    (fed axes summarized rows).places r = [] := by
  have haxes : axes ≠ [] := by
    rintro rfl
    cases h
  have hpos := List.length_pos_iff.2 haxes
  refine sections_eq_nil (List.mem_map.2 ⟨axes.length - 1, ?_, ?_⟩)
  · rw [axes_fed, List.mem_range]
    omega
  · have htake : axes.take (axes.length - 1 + 1) = axes := List.take_of_length_le (by omega)
    rw [List.filter_eq_nil_iff, axes_fed, htake]
    intro total _ hagree
    rw [Row.hasValues_of_agree hagree] at h
    cases h

/-- Where no group item is summarized, a total has the values of its group's first row. -/
theorem agree_toRow {keyed : List Int} (h : ∀ item ∈ keyed, item ∉ summarized) (level : Int)
    (first : Row) (rest : List Row) (r : Row) :
    agree keyed ((GroupTotals.ofRows keyed summarized first rest).toRow level) r
      = agree keyed first r := by
  have hcell : ∀ item ∈ keyed,
      ((GroupTotals.ofRows keyed summarized first rest).toRow level).cell? item
        = first.cell? item := by
    intro item hi
    rw [GroupTotals.cell?_toRow, GroupTotals.get?_ofRows, GroupTotals.keyCells_ofRows,
      GroupTotals.get?_ofList_opened, if_neg (h item hi), if_pos hi, Option.map_none,
      Option.none_or]
  rw [Bool.eq_iff_iff, RowTree.agree_iff, RowTree.agree_iff]
  exact forall₂_congr fun item hi => by rw [hcell item hi]

/-- Totals separate the groups of a row if rows have its keys exactly when they have its values. -/
theorem separates_of_keys (h : ∀ item ∈ axes, item ∉ summarized) {r : Row}
    (hr : ∀ s ∈ rows, ∀ rank < axes.length,
      (keyOf (axes.take (rank + 1)) s = keyOf (axes.take (rank + 1)) r
        ↔ agree (axes.take (rank + 1)) s r)) :
    (fed axes summarized rows).Separates r := by
  intro rank hlt key g hg
  rw [axes_fed] at hlt ⊢
  rw [group?_fed hlt, RankTotals.get?_fed] at hg
  rcases hm : RankTotals.members (axes.take (rank + 1)) rows key with _ | ⟨first, rest⟩
  · simp [hm] at hg
  · rw [hm] at hg
    obtain rfl := Option.some.inj hg
    have hfirst : first ∈ RankTotals.members (axes.take (rank + 1)) rows key := by simp [hm]
    obtain ⟨hmem, hkey⟩ := List.mem_filter.1 hfirst
    rw [agree_toRow fun item hi => h item (List.mem_of_mem_take hi),
      ← hr first hmem rank hlt, of_decide_eq_true hkey]

end Fed

end Totals

end Reporting
