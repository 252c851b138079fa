import Mathlib.Data.List.FinRange
import Mathlib.Data.List.Permutation
import Reporting.Proofs.Places

/-!
# The paths of a tree of groups

A path from a root is a chain of rows: totals of the ranks one after another and, below totals of
all ranks, one deeper row, each of which agrees with the one above it (`IsChain`). Every chain is a
path once, and the paths of a depth stand in the order of the rows (`paths_grouped`).
-/

namespace Reporting.RowTree

/-- The rows from a root down to each node of a depth, from left to right. -/
def pathsAt : Nat → List RowTree → List (List Row)
  | 0, ts => ts.map fun t => [t.row]
  | depth + 1, ts => ts.flatMap fun t => (pathsAt depth t.children).map (t.row :: ·)

theorem pathsAt_nil : ∀ depth, pathsAt depth [] = []
  | 0 => rfl
  | _ + 1 => rfl

theorem pathsAt_cons (t : RowTree) (ts : List RowTree) :
    ∀ depth, pathsAt depth (t :: ts) = pathsAt depth [t] ++ pathsAt depth ts
  | 0 => rfl
  | _ + 1 => by simp [pathsAt]

theorem pathsAt_succ_node (depth : Nat) (row : Row) (ts : List RowTree) :
    pathsAt (depth + 1) [node row ts] = (pathsAt depth ts).map (row :: ·) := by
  rw [pathsAt, List.flatMap_cons, List.flatMap_nil, List.append_nil]
  rfl

section Places

variable {rows : List Row} {l : List (Fin rows.length)} {f : Row → RowTree}

theorem pathsAt_zero_map (hf : ∀ r, (f r).row = r) :
    pathsAt 0 ((l.map rows.get).map f) = (l.map ([·])).map (·.map rows.get) := by
  simp [pathsAt, hf]

/-- The paths through nodes whose rows stand at given places. -/
theorem pathsAt_succ_map {depth : Nat} {chains : Fin rows.length → List (List (Fin rows.length))}
    (hf : ∀ r, (f r).row = r)
    (h : ∀ i ∈ l, pathsAt depth (f (rows.get i)).children = (chains i).map (·.map rows.get)) :
    pathsAt (depth + 1) ((l.map rows.get).map f)
      = (l.flatMap fun i => (chains i).map (i :: ·)).map (·.map rows.get) := by
  rw [pathsAt, List.flatMap_map, List.flatMap_map, List.map_flatMap]
  refine List.flatMap_congr fun i hi => ?_
  rw [hf, h i hi, List.map_map, List.map_map]
  rfl

end Places

/-- Chains stand in the order of their first places and then in that of the rest. -/
theorem pairwise_flatMap_cons {n : Nat} {l : List (Fin n)} {f : Fin n → List (List (Fin n))}
    (hl : l.Pairwise (· < ·)) (hf : ∀ i ∈ l, (f i).Pairwise (· < ·)) :
    (l.flatMap fun i => (f i).map (i :: ·)).Pairwise (· < ·) := by
  rw [List.pairwise_flatMap]
  constructor
  · intro i hi
    rw [List.pairwise_map]
    exact (hf i hi).imp fun h => List.cons_lt_cons_iff.2 (.inr ⟨rfl, h⟩)
  · refine hl.imp fun hlt chain hchain chain' hchain' => ?_
    obtain ⟨below, -, rfl⟩ := List.mem_map.1 hchain
    obtain ⟨below', -, rfl⟩ := List.mem_map.1 hchain'
    exact List.cons_lt_cons_iff.2 (.inl hlt)

/-- Where no node is deeper, the nodes of a depth are the leaves with as many rows above them. -/
theorem filter_leavesOf : ∀ {depth : Nat} {ts : List RowTree}, pathsAt (depth + 1) ts = [] →
    ((leavesOf ts).filter (·.1.length = depth)).map (fun leaf => leaf.1 ++ [leaf.2])
      = pathsAt depth ts
  | depth, [], _ => by simp [leavesOf, pathsAt_nil]
  | depth, node row children :: ts, h => by
    rw [pathsAt_cons, List.append_eq_nil_iff, pathsAt_succ_node, List.map_eq_nil_iff] at h
    obtain ⟨hchildren, hts⟩ := h
    rw [pathsAt_cons, leavesOf, List.filter_append, List.map_append, filter_leavesOf hts]
    congr 1
    cases children with
    | nil =>
      cases depth with
      | zero => rfl
      | succ depth => rw [pathsAt_succ_node, pathsAt_nil]; rfl
    | cons child children =>
      cases depth with
      | zero => simp [pathsAt] at hchildren
      | succ depth =>
        rw [pathsAt_succ_node, ← filter_leavesOf hchildren, leaves, List.filter_map, List.map_map,
          List.map_map]
        simp [Function.comp_def]

/-- Places of rows below one another, the first of them of a rank. Totals of the ranks follow each
other down to the last one, and below it a deeper row. Each row agrees with the one above it on the
items of all ranks down to that one. -/
structure IsChainFrom (rows : List Row) (axes : List Int) (rank : Nat)
    (chain : List (Fin rows.length)) : Prop where
  length_le : rank + chain.length ≤ axes.length + 1
  level : ∀ i (h : i < chain.length),
    if rank + i < axes.length then (rows.get chain[i]).level = (rank + i : Nat)
    else (axes.length : Int) - 1 < (rows.get chain[i]).level
  agrees : ∀ i (h : i + 1 < chain.length),
    agree (axes.take (rank + i + 1)) (rows.get chain[i]) (rows.get chain[i + 1])

/-- A chain starts with a total of the outermost rank. -/
abbrev IsChain (rows : List Row) (axes : List Int) (chain : List (Fin rows.length)) : Prop :=
  IsChainFrom rows axes 0 chain

section Chains

variable {rows : List Row} {axes : List Int} {rank : Nat}

theorem isChainFrom_nil (h : rank ≤ axes.length + 1) : IsChainFrom rows axes rank [] where
  length_le := h
  level := nofun
  agrees := nofun

theorem isChainFrom_cons_iff {i : Fin rows.length} {chain : List (Fin rows.length)} :
    IsChainFrom rows axes rank (i :: chain) ↔
      rank ≤ axes.length
        ∧ (if rank < axes.length then (rows.get i).level = (rank : Nat)
          else (axes.length : Int) - 1 < (rows.get i).level)
        ∧ (∀ j ∈ chain.head?, agree (axes.take (rank + 1)) (rows.get i) (rows.get j))
        ∧ IsChainFrom rows axes (rank + 1) chain := by
  constructor
  · intro h
    have hlength := h.length_le
    rw [List.length_cons] at hlength
    refine ⟨by omega, h.level 0 (Nat.succ_pos _), fun j hj => ?_, by omega, fun j hj => ?_,
      fun j hj => ?_⟩
    · cases chain with
      | nil => cases hj
      | cons k chain =>
        obtain rfl := Option.some.inj hj
        exact h.agrees 0 (Nat.succ_lt_succ (Nat.succ_pos _))
    · have := h.level (j + 1) (Nat.succ_lt_succ hj)
      rwa [show rank + (j + 1) = rank + 1 + j by omega] at this
    · have := h.agrees (j + 1) (Nat.succ_lt_succ hj)
      rwa [show rank + (j + 1) + 1 = rank + 1 + j + 1 by omega] at this
  · rintro ⟨hrank, hlevel, hhead, hchain⟩
    have hlength := hchain.length_le
    refine ⟨by rw [List.length_cons]; omega, ?_, ?_⟩
    · rintro (_ | j) hj
      · exact hlevel
      · have := hchain.level j (Nat.lt_of_succ_lt_succ hj)
        rwa [show rank + 1 + j = rank + (j + 1) by omega] at this
    · rintro (_ | j) hj
      · cases chain with
        | nil => simp at hj
        | cons k chain => exact hhead k rfl
      · have := hchain.agrees j (Nat.lt_of_succ_lt_succ hj)
        rwa [show rank + 1 + j + 1 = rank + (j + 1) + 1 by omega] at this

/-- A row agrees with all rows above it, each time on the items down to the upper row's rank. -/
theorem IsChain.agrees_above {chain : List (Fin rows.length)} (h : IsChain rows axes chain) :
    ∀ {i j : Nat} (hi : i < chain.length) (hj : j < i),
      agree (axes.take (j + 1)) (rows.get chain[j]) (rows.get chain[i])
  | i + 1, j, hi, hj => by
    have hlast := h.agrees i hi
    rw [Nat.zero_add] at hlast
    rcases Nat.lt_succ_iff_lt_or_eq.1 hj with hj | rfl
    · exact agree_trans (h.agrees_above (by omega) hj) (agree_take_of_le (by omega) hlast)
    · exact hlast

end Chains

section Enumeration

variable (rows : List Row) (axes : List Int)

/-- The places of the rows directly under a row. -/
def under (rank : Nat) (parent : Row) : List (Fin rows.length) :=
  (List.finRange rows.length).filter fun i =>
    (if rank < axes.length then (rows.get i).level = rank else parent.level < (rows.get i).level)
      && agree (axes.take rank) parent (rows.get i)

theorem members_eq_map_under (rank : Nat) (parent : Row) :
    members rows axes rank parent = (under rows axes rank parent).map rows.get := by
  conv => lhs; rw [members, ← List.map_get_finRange rows, List.filter_map]
  rfl

/-- The chains of a length below a row, in the order of the rows. -/
def chainsBelow : Nat → Nat → Row → List (List (Fin rows.length))
  | 0, rank, parent => (under rows axes rank parent).map ([·])
  | depth + 1, rank, parent =>
    if rank < axes.length then
      (under rows axes rank parent).flatMap fun i =>
        (chainsBelow depth (rank + 1) (rows.get i)).map (i :: ·)
    else []

variable {rows axes}

theorem mem_under {rank : Nat} {parent : Row} {i : Fin rows.length} :
    i ∈ under rows axes rank parent ↔
      (if rank < axes.length then (rows.get i).level = (rank : Nat)
        else parent.level < (rows.get i).level)
        ∧ agree (axes.take rank) parent (rows.get i) := by
  rw [under, List.mem_filter]
  split <;> simp

theorem row_groupedFrom (rank : Nat) (r : Row) : (groupedFrom rows axes rank r).row = r := by
  rw [groupedFrom_eq_node]
  rfl

theorem pathsAt_children_groupedFrom : ∀ (depth : Nat) {rank : Nat} (parent : Row),
    pathsAt depth (groupedFrom rows axes rank parent).children
      = (chainsBelow rows axes depth rank parent).map (·.map rows.get)
  | 0, rank, parent => by
    rw [chainsBelow, groupedFrom]
    split
    · rw [children, members_eq_map_under, pathsAt_zero_map (row_groupedFrom (rank + 1))]
    · rw [children, members_eq_map_under, pathsAt_zero_map fun _ => rfl]
  | depth + 1, rank, parent => by
    rw [chainsBelow]
    split
    · rename_i hrank
      rw [children_groupedFrom_of_lt hrank, members_eq_map_under,
        pathsAt_succ_map (row_groupedFrom (rank + 1)) fun i _ =>
          pathsAt_children_groupedFrom depth (rows.get i)]
    · rename_i hrank
      rw [groupedFrom, if_neg hrank, children, pathsAt, List.flatMap_map, List.map_nil,
        List.flatMap_eq_nil_iff]
      intro r _
      rw [leaf, children, pathsAt_nil, List.map_nil]

theorem pairwise_under (rank : Nat) (parent : Row) :
    (under rows axes rank parent).Pairwise (· < ·) :=
  (List.pairwise_lt_finRange _).filter _

theorem pairwise_chainsBelow : ∀ (depth rank : Nat) (parent : Row),
    (chainsBelow rows axes depth rank parent).Pairwise (· < ·)
  | 0, rank, parent => by
    rw [chainsBelow, List.pairwise_map]
    exact (pairwise_under rank parent).imp fun h => List.cons_lt_cons_iff.2 (.inl h)
  | depth + 1, rank, parent => by
    rw [chainsBelow]
    split
    · exact pairwise_flatMap_cons (pairwise_under rank parent) fun _ _ =>
        pairwise_chainsBelow depth _ _
    · exact List.Pairwise.nil

/-- Below a row of the last rank stand rows of any deeper level. -/
theorem mem_chainsBelow : ∀ {depth rank : Nat} {parent : Row} {chain : List (Fin rows.length)},
    rank ≤ axes.length → (rank = axes.length → parent.level + 1 = rank) →
      (chain ∈ chainsBelow rows axes depth rank parent ↔ chain.length = depth + 1
        ∧ (∀ i ∈ chain.head?, agree (axes.take rank) parent (rows.get i))
        ∧ IsChainFrom rows axes rank chain)
  | depth, rank, parent, [], _, _ => by
    cases depth <;> simp [chainsBelow]
  | depth, rank, parent, i :: chain, hrank, hparent => by
    have hunder : i ∈ under rows axes rank parent ↔
        (if rank < axes.length then (rows.get i).level = (rank : Nat)
          else (axes.length : Int) - 1 < (rows.get i).level)
          ∧ agree (axes.take rank) parent (rows.get i) := by
      rw [mem_under]
      split
      · rfl
      · have := hparent (by omega)
        rw [show (axes.length : Int) - 1 = parent.level by omega]
    rw [isChainFrom_cons_iff]
    cases depth with
    | zero =>
      have hchain : i :: chain ∈ chainsBelow rows axes 0 rank parent
          ↔ chain = [] ∧ i ∈ under rows axes rank parent := by
        simp [chainsBelow, eq_comm, and_comm]
      rw [hchain, hunder]
      constructor
      · rintro ⟨rfl, hlevel, hagree⟩
        exact ⟨rfl, by simpa using hagree, hrank, hlevel, nofun, isChainFrom_nil (by omega)⟩
      · rintro ⟨hlength, hagree, -, hlevel, -⟩
        exact ⟨List.eq_nil_of_length_eq_zero (by simpa using hlength), hlevel, hagree i rfl⟩
    | succ depth =>
      rw [chainsBelow]
      split
      · rename_i hlt
        rw [if_pos hlt] at hunder
        have hchain : (i :: chain ∈ (under rows axes rank parent).flatMap fun i =>
              (chainsBelow rows axes depth (rank + 1) (rows.get i)).map (i :: ·))
            ↔ i ∈ under rows axes rank parent
              ∧ chain ∈ chainsBelow rows axes depth (rank + 1) (rows.get i) := by
          simp only [List.mem_flatMap, List.mem_map, List.cons.injEq]
          constructor
          · rintro ⟨_, hi, _, hbelow, rfl, rfl⟩
            exact ⟨hi, hbelow⟩
          · rintro ⟨hi, hbelow⟩
            exact ⟨i, hi, chain, hbelow, rfl, rfl⟩
        rw [hchain, hunder]
        constructor
        · rintro ⟨⟨hlevel, hagree⟩, hbelow⟩
          obtain ⟨hlength, hhead, hfrom⟩ := (mem_chainsBelow (by omega) (by omega)).1 hbelow
          exact ⟨by rw [List.length_cons, hlength], by simpa using hagree, hrank, hlevel, hhead,
            hfrom⟩
        · rintro ⟨hlength, hagree, -, hlevel, hhead, hfrom⟩
          exact ⟨⟨hlevel, hagree i rfl⟩, (mem_chainsBelow (by omega) (by omega)).2
            ⟨by simpa using hlength, hhead, hfrom⟩⟩
      · rename_i hlast
        -- nothing stands below the rows of the last step
        refine iff_of_false (List.not_mem_nil) ?_
        rintro ⟨hlength, -, -, -, -, hfrom⟩
        have := hfrom.length_le
        rw [List.length_cons] at hlength
        omega

end Enumeration

theorem IsChain.hasValues {rows : List Row} {axes : List Int} {chain : List (Fin rows.length)}
    (h : IsChain rows axes chain) :
    ∀ {i : Nat} (hi : i < chain.length), (rows.get chain[i]).hasValues (axes.take i)
  | 0, _ => by rw [List.take_zero]; rfl
  | i + 1, hi => by
    have hagree := h.agrees i hi
    rw [Nat.zero_add] at hagree
    exact Row.hasValues_of_agree hagree

/-- The nodes of each depth are the chains of its length, once each and in the order of the rows;
the leaves below totals of all ranks are the complete chains. A node has the level of its depth
unless it is below the totals of all ranks, agrees with every row above it, and has values for the
items of all ranks above it. -/
theorem paths_grouped {axes : List Int} (haxes : axes ≠ []) (rows : List Row) :
    (∀ depth, ∃ chains : List (List (Fin rows.length)), chains.Pairwise (· < ·)
        ∧ (∀ chain, chain ∈ chains ↔ chain.length = depth + 1 ∧ IsChain rows axes chain)
        ∧ pathsAt depth (grouped rows axes) = chains.map (·.map rows.get))
      ∧ ((leavesOf (grouped rows axes)).filter (·.1.length = axes.length)).map
          (fun leaf => leaf.1 ++ [leaf.2]) = pathsAt axes.length (grouped rows axes)
      ∧ ∀ depth, ∀ path ∈ pathsAt depth (grouped rows axes), depth ≤ axes.length
        ∧ ∀ i (hi : i < path.length), (i < axes.length → path[i].level = i)
          ∧ path[i].hasValues (axes.take i)
          ∧ ∀ j (hj : j < i), agree (axes.take (j + 1)) path[j] path[i] := by
  have hpos := List.length_pos_iff.2 haxes
  have hchains : ∀ depth chain, chain ∈ chainsBelow rows axes depth 0 {}
      ↔ chain.length = depth + 1 ∧ IsChain rows axes chain := by
    intro depth chain
    rw [mem_chainsBelow (Nat.zero_le _) (by omega)]
    simp [agree_nil]
  have hpaths : ∀ depth, pathsAt depth (grouped rows axes)
      = (chainsBelow rows axes depth 0 {}).map (·.map rows.get) := by
    intro depth
    rw [grouped_eq_children haxes rows {}, pathsAt_children_groupedFrom]
  have hdepth : ∀ depth, ∀ path ∈ pathsAt depth (grouped rows axes), depth ≤ axes.length := by
    intro depth path hpath
    rw [hpaths] at hpath
    obtain ⟨chain, hchain, -⟩ := List.mem_map.1 hpath
    obtain ⟨hlength, hchain⟩ := (hchains depth chain).1 hchain
    have := hchain.length_le
    omega
  refine ⟨fun depth => ⟨_, pairwise_chainsBelow depth 0 {}, hchains depth, hpaths depth⟩,
    filter_leavesOf ?_, fun depth path hpath => ⟨hdepth depth path hpath, fun i hi => ?_⟩⟩
  · refine List.eq_nil_iff_forall_not_mem.2 fun path hpath => ?_
    have := hdepth _ path hpath
    omega
  · rw [hpaths] at hpath
    obtain ⟨chain, hchain, rfl⟩ := List.mem_map.1 hpath
    obtain ⟨-, hchain⟩ := (hchains depth chain).1 hchain
    rw [List.length_map] at hi
    simp only [List.getElem_map]
    refine ⟨fun hlt => ?_, hchain.hasValues hi, fun j hj => hchain.agrees_above hi hj⟩
    simpa [hlt] using hchain.level i hi

/-- The total of a region. -/
def regionTotal : Row where
  cells := .ofList [(1, { value := .text "EU" })]
  isSummary := true

/-- The total of what a representative sold in the region. -/
def representativeTotal : Row where
  cells := .ofList [(1, { value := .text "EU" }), (2, { value := .text "Alice" })]
  level := 1
  isSummary := true

def representativeSale : Row where
  cells := .ofList [(1, { value := .text "EU" }), (2, { value := .text "Alice" })]
  level := 2

def regionRows : List Row := [regionTotal, representativeTotal, representativeSale]

theorem pathsAt_regionRows : pathsAt 2 (grouped regionRows [1, 2])
    = [[regionTotal, representativeTotal, representativeSale]] := by
  cbv

theorem paths_grouped_regions : [1, 2] ≠ ([] : List Int)
    ∧ (∃ chain : List (Fin regionRows.length), chain.length = 3
      ∧ IsChain regionRows [1, 2] chain
      ∧ chain.map regionRows.get = [regionTotal, representativeTotal, representativeSale])
    ∧ ((leavesOf (grouped regionRows [1, 2])).filter (·.1.length = 2)).map
      (fun leaf => leaf.1 ++ [leaf.2]) = [[regionTotal, representativeTotal, representativeSale]]
    ∧ representativeTotal.level = 1 ∧ representativeSale.hasValues [1, 2]
    ∧ agree [1] regionTotal representativeSale
    ∧ agree [1, 2] representativeTotal representativeSale
    ∧ pathsAt 3 (grouped regionRows [1, 2]) = [] := by
  have haxes : [1, 2] ≠ ([] : List Int) := by decide
  obtain ⟨hpaths, hleaves, hnodes⟩ := paths_grouped haxes regionRows
  have hpath : [regionTotal, representativeTotal, representativeSale]
      ∈ pathsAt 2 (grouped regionRows [1, 2]) := by
    rw [pathsAt_regionRows]
    exact List.mem_singleton_self _
  obtain ⟨chains, -, hchains, hmap⟩ := hpaths 2
  obtain ⟨chain, hchain, hrows⟩ := List.mem_map.1 (hmap ▸ hpath)
  obtain ⟨hlength, hchain⟩ := (hchains chain).1 hchain
  have htotal := (hnodes 2 _ hpath).2 1 (by decide)
  have hsale := (hnodes 2 _ hpath).2 2 (by decide)
  refine ⟨haxes, ⟨chain, hlength, hchain, hrows⟩, hleaves.trans pathsAt_regionRows,
    htotal.1 (by decide), hsale.2.1, hsale.2.2 0 (by decide), hsale.2.2 1 (by decide), ?_⟩
  exact List.eq_nil_iff_forall_not_mem.2 fun path h => absurd (hnodes 3 path h).1 (by decide)

/-- The total of the sales of a region that have no representative. -/
def unassignedTotal : Row where
  cells := .ofList [(1, { value := .text "EU" }), (2, .empty)]
  level := 1
  isSummary := true

theorem pathsAt_unassigned : pathsAt 1 (grouped [regionTotal, unassignedTotal] [1, 2])
    = [[regionTotal, unassignedTotal]] := by
  cbv

/-- A total stands below a root without having a value for each item. -/
theorem paths_unassigned :
    [regionTotal, unassignedTotal] ∈ pathsAt 1 (grouped [regionTotal, unassignedTotal] [1, 2])
      ∧ unassignedTotal.hasValues [1, 2] = false := by
  constructor
  · rw [pathsAt_unassigned]
    exact List.mem_singleton_self _
  · cbv

end Reporting.RowTree
