import Mathlib.Algebra.BigOperators.Group.Finset.Basic
import Reporting.Proofs.Chains

/-!
# The paths of a tree of addresses

A path from a root is a descent: rows of one sequence, each one level below the row above it
(`IsDescent`). Every descent from level zero is a path once, so the rows at one address each stand
under all rows at the address above theirs (`paths_financial`). As no two rows of a descent are on
one level, the tree is complete before it reaches the depth at which it stops.
-/

namespace Reporting

/-- The row stands at an address. -/
def Row.isAt (level sequence : Int) (r : Row) : Bool := r.level = level && r.sequence = sequence

theorem Row.isAt_iff {level sequence : Int} {r : Row} :
    r.isAt level sequence ↔ r.level = level ∧ r.sequence = sequence := by
  simp [isAt]

namespace RowTree

open Finset (range)

variable {rows : List Row} {level sequence : Int}

/-- Places of rows, each one level below the one before it, and all of one sequence. -/
def IsDescent (rows : List Row) (level sequence : Int) (chain : List (Fin rows.length)) : Prop :=
  ∀ i (h : i < chain.length), (rows.get chain[i]).isAt (level + i) sequence

theorem isDescent_cons_iff {i : Fin rows.length} {chain : List (Fin rows.length)} :
    IsDescent rows level sequence (i :: chain) ↔
      (rows.get i).isAt level sequence ∧ IsDescent rows (level + 1) sequence chain := by
  constructor
  · intro h
    refine ⟨by simpa using h 0 (Nat.succ_pos _), fun j hj => ?_⟩
    have := h (j + 1) (Nat.succ_lt_succ hj)
    rwa [show level + (j + 1 : Nat) = level + 1 + j by omega] at this
  · rintro ⟨hfirst, hrest⟩ (_ | j) hj
    · simpa using hfirst
    · have := hrest j (Nat.lt_of_succ_lt_succ hj)
      rwa [show level + 1 + (j : Int) = level + (j + 1 : Nat) by omega] at this

/-- No two rows of a descent are on one level. -/
theorem IsDescent.length_le {chain : List (Fin rows.length)}
    (h : IsDescent rows level sequence chain) : chain.length ≤ rows.length := by
  have hlevel (i : Nat) (hi : i < chain.length) : (rows.get chain[i]).level = level + i :=
    (Row.isAt_iff.1 (h i hi)).1
  have hnodup : chain.Nodup := by
    rw [List.nodup_iff_injective_get]
    intro a b hab
    have ha := hlevel a a.2
    have hb := hlevel b b.2
    have : chain[(a : Nat)] = chain[(b : Nat)] := hab
    rw [this] at ha
    exact Fin.ext (by omega)
  simpa using hnodup.length_le_card

variable (rows level sequence) in
/-- The places of the rows at an address. -/
def placesAt : List (Fin rows.length) :=
  (List.finRange rows.length).filter fun i => (rows.get i).isAt level sequence

theorem mem_placesAt {i : Fin rows.length} :
    i ∈ placesAt rows level sequence ↔ (rows.get i).isAt level sequence := by
  simp [placesAt]

theorem nodup_placesAt : (placesAt rows level sequence).Nodup := (List.nodup_finRange _).filter _

theorem filter_isAt : rows.filter (Row.isAt level sequence)
    = (placesAt rows level sequence).map rows.get := by
  conv => lhs; rw [← List.map_get_finRange rows, List.filter_map]
  rfl

theorem length_placesAt :
    (placesAt rows level sequence).length = rows.countP (Row.isAt level sequence) := by
  rw [List.countP_eq_length_filter, filter_isAt, List.length_map]

variable (rows sequence) in
/-- The descents of a length from a level on, in the order of the rows. -/
def descents : Nat → Int → List (List (Fin rows.length))
  | 0, _ => [[]]
  | n + 1, level => (placesAt rows level sequence).flatMap fun i =>
      (descents n (level + 1)).map (i :: ·)

theorem mem_descents : ∀ {n : Nat} {level : Int} {chain : List (Fin rows.length)},
    chain ∈ descents rows sequence n level ↔
      chain.length = n ∧ IsDescent rows level sequence chain
  | 0, level, chain => by
    rw [descents, List.mem_singleton, List.length_eq_zero_iff]
    exact ⟨fun h => ⟨h, by subst h; exact nofun⟩, And.left⟩
  | n + 1, level, [] => by simp [descents]
  | n + 1, level, i :: chain => by
    have hsplit : i :: chain ∈ descents rows sequence (n + 1) level ↔
        i ∈ placesAt rows level sequence ∧ chain ∈ descents rows sequence n (level + 1) := by
      simp [descents]
    rw [hsplit, mem_placesAt, mem_descents, isDescent_cons_iff, List.length_cons,
      Nat.add_right_cancel_iff, and_left_comm]

theorem nil_notMem_descents {n : Nat} : [] ∉ descents rows sequence (n + 1) level := fun h =>
  Nat.succ_ne_zero n (mem_descents.1 h).1.symm

theorem pairwise_descents : ∀ (n : Nat) (level : Int),
    (descents rows sequence n level).Pairwise (· < ·)
  | 0, _ => List.pairwise_singleton _ _
  | n + 1, level =>
    pairwise_flatMap_cons ((List.pairwise_lt_finRange _).filter _) fun _ _ =>
      pairwise_descents n (level + 1)

theorem descents_one (level : Int) :
    descents rows sequence 1 level = (placesAt rows level sequence).map ([·]) :=
  List.map_eq_flatMap.symm

theorem countP_flatMap_eq_mul {α β : Type} {f : α → List β} {p : β → Bool} {q : α → Prop}
    [DecidablePred q] {m : Nat} : ∀ {l : List α}, (∀ a ∈ l, (f a).countP p = if q a then m else 0) →
      (l.flatMap f).countP p = l.countP q * m
  | [], _ => by simp
  | a :: l, h => by
    rw [List.flatMap_cons, List.countP_append, h a List.mem_cons_self,
      countP_flatMap_eq_mul fun b hb => h b (List.mem_cons_of_mem a hb), List.countP_cons,
      Nat.add_mul, Nat.add_comm]
    by_cases hq : q a <;> simp [hq]

/-- What stands above chains does not change where they end. -/
theorem countP_map_cons {n : Nat} (i j : Fin n) {chains : List (List (Fin n))}
    (h : [] ∉ chains) : (chains.map (i :: ·)).countP (·.getLast? = some j)
      = chains.countP (·.getLast? = some j) := by
  rw [List.countP_map]
  refine List.countP_congr fun chain hchain => ?_
  have hne : chain ≠ [] := fun hnil => h (hnil ▸ hchain)
  rw [Function.comp_apply, List.getLast?_cons_of_ne_nil hne]

theorem countP_map_singleton {n : Nat} {l : List (Fin n)} (h : l.Nodup) (j : Fin n) :
    (l.map ([·])).countP (·.getLast? = some j) = if j ∈ l then 1 else 0 := by
  rw [List.countP_map, ← h.count]
  simp [List.count, Function.comp_def, beq_eq_decide]

/-- A place ends as many descents as there are ways to choose a row for each level above it. -/
theorem countP_descents (j : Fin rows.length) : ∀ (n : Nat) (level : Int),
    (descents rows sequence (n + 1) level).countP (·.getLast? = some j)
      = if (rows.get j).isAt (level + n) sequence
        then ∏ k ∈ range n, rows.countP (Row.isAt (level + k) sequence) else 0
  | 0, level => by
    rw [descents_one, countP_map_singleton nodup_placesAt]
    simp [mem_placesAt]
  | n + 1, level => by
    have hbelow : ∀ i ∈ placesAt rows level sequence,
        ((descents rows sequence (n + 1) (level + 1)).map (i :: ·)).countP (·.getLast? = some j)
          = if True then if (rows.get j).isAt (level + (n + 1 : Nat)) sequence
              then ∏ k ∈ range n, rows.countP (Row.isAt (level + (k + 1 : Nat)) sequence) else 0
            else 0 := by
      intro i _
      rw [if_pos trivial, countP_map_cons i j nil_notMem_descents, countP_descents j n (level + 1)]
      simp only [Nat.cast_add, Nat.cast_one, add_right_comm, add_assoc]
    rw [descents, countP_flatMap_eq_mul hbelow, decide_true, List.countP_true, length_placesAt,
      mul_ite, mul_zero, Finset.prod_range_succ', mul_comm, Nat.cast_zero, add_zero]

/-- The rows at an address with what is below them, down to a depth. -/
theorem children_financialFrom (fuel : Nat) (parent : Row) :
    (financialFrom rows (fuel + 1) parent).children
      = ((placesAt rows (parent.level + 1) parent.sequence).map rows.get).map
          (financialFrom rows fuel) := by
  rw [financialFrom, children, ← filter_isAt]
  rfl

theorem row_financialFrom (fuel : Nat) (r : Row) : (financialFrom rows fuel r).row = r := by
  cases fuel <;> rfl

/-- The paths below a row are the descents from it, as far as the tree goes. -/
theorem pathsAt_children_financialFrom : ∀ (depth fuel : Nat) (parent : Row),
    pathsAt depth (financialFrom rows fuel parent).children
      = (if depth < fuel then descents rows parent.sequence (depth + 1) (parent.level + 1)
          else []).map (·.map rows.get)
  | depth, 0, parent => pathsAt_nil depth
  | 0, fuel + 1, parent => by
    rw [children_financialFrom, pathsAt_zero_map (row_financialFrom fuel),
      if_pos (Nat.succ_pos fuel), descents_one]
  | depth + 1, fuel + 1, parent => by
    have hbelow : ∀ i ∈ placesAt rows (parent.level + 1) parent.sequence,
        pathsAt depth (financialFrom rows fuel (rows.get i)).children
          = (if depth < fuel then
              descents rows parent.sequence (depth + 1) (parent.level + 1 + 1)
            else []).map (·.map rows.get) := by
      intro i hi
      obtain ⟨hlevel, hsequence⟩ := Row.isAt_iff.1 (mem_placesAt.1 hi)
      rw [pathsAt_children_financialFrom depth fuel, hlevel, hsequence]
    rw [children_financialFrom, pathsAt_succ_map (row_financialFrom fuel) hbelow]
    simp only [Nat.add_lt_add_iff_right]
    split
    · conv_rhs => rw [descents]
    · simp

variable (rows) in
/-- The places of the rows of level zero. -/
def roots : List (Fin rows.length) :=
  (List.finRange rows.length).filter fun i => (rows.get i).level = 0

theorem mem_roots {i : Fin rows.length} : i ∈ roots rows ↔ (rows.get i).level = 0 := by
  simp [roots]

theorem pairwise_roots : (roots rows).Pairwise (· < ·) := (List.pairwise_lt_finRange _).filter _

theorem financial_eq_map_roots :
    financial rows = ((roots rows).map rows.get).map (financialFrom rows rows.length) := by
  conv_lhs => rw [financial, ← List.map_get_finRange rows, List.filter_map]
  rw [List.map_get_finRange]
  rfl

theorem countP_roots : (roots rows).countP (fun i => (rows.get i).sequence = sequence)
    = rows.countP (Row.isAt 0 sequence) := by
  rw [← length_placesAt, roots, List.countP_eq_length_filter, List.filter_filter]
  simp [placesAt, Row.isAt, Bool.and_comm]

variable (rows) in
/-- The descents of a length from the rows of level zero, in the order of the rows. -/
def descentsFromRoots (n : Nat) : List (List (Fin rows.length)) :=
  (roots rows).flatMap fun i => (descents rows (rows.get i).sequence n 1).map (i :: ·)

theorem descentsFromRoots_zero : descentsFromRoots rows 0 = (roots rows).map ([·]) :=
  List.map_eq_flatMap.symm

theorem mem_descentsFromRoots {n : Nat} {chain : List (Fin rows.length)} :
    chain ∈ descentsFromRoots rows n
      ↔ chain.length = n + 1 ∧ ∃ sequence, IsDescent rows 0 sequence chain := by
  cases chain with
  | nil => simp [descentsFromRoots]
  | cons i chain =>
    have hmem : i :: chain ∈ descentsFromRoots rows n ↔ (rows.get i).level = 0
        ∧ chain ∈ descents rows (rows.get i).sequence n 1 := by
      simp [descentsFromRoots, mem_roots]
    simp only [hmem, mem_descents, isDescent_cons_iff, List.length_cons, Nat.add_right_cancel_iff]
    constructor
    · rintro ⟨hlevel, hlength, hrest⟩
      exact ⟨hlength, _, Row.isAt_iff.2 ⟨hlevel, rfl⟩, hrest⟩
    · rintro ⟨hlength, sequence, hfirst, hrest⟩
      obtain ⟨hlevel, rfl⟩ := Row.isAt_iff.1 hfirst
      exact ⟨hlevel, hlength, hrest⟩

theorem pairwise_descentsFromRoots (n : Nat) : (descentsFromRoots rows n).Pairwise (· < ·) :=
  pairwise_flatMap_cons pairwise_roots fun _ _ => pairwise_descents n 1

theorem descentsFromRoots_eq_nil {n : Nat} (h : rows.length ≤ n) :
    descentsFromRoots rows n = [] := by
  refine List.eq_nil_iff_forall_not_mem.2 fun chain hchain => ?_
  obtain ⟨hlength, sequence, hdescent⟩ := mem_descentsFromRoots.1 hchain
  have := hdescent.length_le
  omega

/-- Where no descent is longer than a depth, the tree below a row ends before it. -/
theorem financialFrom_succ : ∀ {depth : Nat} {parent : Row},
    (∀ chain, IsDescent rows (parent.level + 1) parent.sequence chain → chain.length ≤ depth) →
      financialFrom rows (depth + 1) parent = financialFrom rows depth parent
  | 0, parent, h => by
    have hnone : directlyUnder rows parent = [] := by
      refine List.filter_eq_nil_iff.2 fun r hr hunder => ?_
      obtain ⟨i, rfl⟩ := List.mem_iff_get.1 hr
      have := h [i] (isDescent_cons_iff.2 ⟨hunder, nofun⟩)
      simp at this
    rw [financialFrom, financialFrom, hnone]
    rfl
  | depth + 1, parent, h => by
    rw [financialFrom, financialFrom]
    congr 1
    refine List.map_congr_left fun r hr => ?_
    obtain ⟨hr, hunder⟩ := List.mem_filter.1 hr
    obtain ⟨i, rfl⟩ := List.mem_iff_get.1 hr
    obtain ⟨hlevel, hsequence⟩ := Row.isAt_iff.1 hunder
    refine financialFrom_succ fun chain hchain => ?_
    rw [hlevel, hsequence] at hchain
    exact Nat.le_of_succ_le_succ (h (i :: chain) (isDescent_cons_iff.2 ⟨hunder, hchain⟩))

/-- A descent from a root has a row less than there are below the root. -/
theorem financialFrom_eq {root : Row} (hroot : root ∈ rows) (hlevel : root.level = 0) :
    ∀ {depth : Nat}, rows.length ≤ depth →
      financialFrom rows depth root = financialFrom rows rows.length root := by
  intro depth hdepth
  induction depth, hdepth using Nat.le_induction with
  | base => rfl
  | succ depth hdepth ih =>
    rw [← ih]
    obtain ⟨i, rfl⟩ := List.mem_iff_get.1 hroot
    refine financialFrom_succ fun chain hchain => ?_
    rw [hlevel] at hchain
    have hlength := (isDescent_cons_iff.2 ⟨Row.isAt_iff.2 ⟨hlevel, rfl⟩, hchain⟩).length_le
    rw [List.length_cons] at hlength
    omega

theorem pathsAt_financial (depth : Nat) :
    pathsAt depth (financial rows) = (descentsFromRoots rows depth).map (·.map rows.get) := by
  have hrow : ∀ r, (financialFrom rows rows.length r).row = r := row_financialFrom rows.length
  rw [financial_eq_map_roots]
  cases depth with
  | zero => rw [pathsAt_zero_map hrow, descentsFromRoots_zero]
  | succ depth =>
    rw [pathsAt_succ_map hrow fun i _ => pathsAt_children_financialFrom depth _ _]
    by_cases hdepth : depth < rows.length
    · simp only [if_pos hdepth]
      congr 1
      refine List.flatMap_congr fun i hi => ?_
      rw [mem_roots.1 hi, Int.zero_add]
    · -- a longer descent has more rows than there are
      rw [descentsFromRoots_eq_nil (by omega)]
      simp [hdepth]

/-- A place ends as many descents from a root as there are ways to choose a row of its sequence for
each level above it. -/
theorem countP_descentsFromRoots (j : Fin rows.length) (depth : Nat) :
    (descentsFromRoots rows depth).countP (·.getLast? = some j)
      = if (rows.get j).level = depth then
          ∏ k ∈ range depth, rows.countP (Row.isAt k (rows.get j).sequence)
        else 0 := by
  cases depth with
  | zero =>
    rw [descentsFromRoots_zero, countP_map_singleton (pairwise_roots.imp ne_of_lt)]
    simp [mem_roots]
  | succ depth =>
    have hbelow : ∀ i ∈ roots rows,
        ((descents rows (rows.get i).sequence (depth + 1) 1).map (i :: ·)).countP
            (·.getLast? = some j)
          = if (rows.get i).sequence = (rows.get j).sequence then
              if (rows.get j).level = (depth + 1 : Nat) then
                ∏ k ∈ range depth, rows.countP (Row.isAt (k + 1 : Nat) (rows.get j).sequence)
              else 0
            else 0 := by
      intro i _
      rw [countP_map_cons i j nil_notMem_descents, countP_descents]
      by_cases hsequence : (rows.get i).sequence = (rows.get j).sequence
      · have hlevel : (rows.get j).isAt (1 + depth) (rows.get j).sequence
            ↔ (rows.get j).level = (depth + 1 : Nat) := by
          rw [Row.isAt_iff, and_iff_left rfl, Nat.cast_succ, add_comm]
        simp only [hsequence, if_true, hlevel]
        simp only [Nat.cast_succ, add_comm]
      · rw [if_neg hsequence, if_neg fun h => hsequence (Row.isAt_iff.1 h).2.symm]
    rw [descentsFromRoots, countP_flatMap_eq_mul hbelow, countP_roots, mul_ite, mul_zero,
      Finset.prod_range_succ', mul_comm, Nat.cast_zero]

/-- In a tree of addresses the nodes of each depth are the descents of its length, once each and in
the order of the rows. A row is there once for every choice of a row of its sequence for each level
above it. No node is as deep as there are rows, so the tree is the same when it may go deeper, and
the level under each node is within 32 bits. -/
theorem paths_financial {rows : List Row} (hrows : rows.length < 2 ^ 31) :
    (∀ depth, ∃ chains : List (List (Fin rows.length)), chains.Pairwise (· < ·)
        ∧ (∀ chain, chain ∈ chains
          ↔ chain.length = depth + 1 ∧ ∃ sequence, IsDescent rows 0 sequence chain)
        ∧ pathsAt depth (financial rows) = chains.map (·.map rows.get)
        ∧ ∀ i : Fin rows.length, chains.countP (·.getLast? = some i)
          = if (rows.get i).level = depth then
              ∏ k ∈ range depth, rows.countP (Row.isAt k (rows.get i).sequence)
            else 0)
      ∧ (∀ depth, rows.length ≤ depth → pathsAt depth (financial rows) = []
        ∧ (rows.filter (·.level = 0)).map (financialFrom rows depth) = financial rows)
      ∧ ∀ depth, ∀ path ∈ pathsAt depth (financial rows), ∀ i (hi : i < path.length),
        path[i].level = i ∧ path[i].sequence = path[0].sequence
          ∧ (Int32.ofInt path[i].level + 1).toInt = path[i].level + 1 := by
  refine ⟨fun depth => ⟨descentsFromRoots rows depth, pairwise_descentsFromRoots depth,
    fun _ => mem_descentsFromRoots, pathsAt_financial depth,
    fun i => countP_descentsFromRoots i depth⟩, fun depth hdepth => ?_,
    fun depth path hpath i hi => ?_⟩
  · refine ⟨by rw [pathsAt_financial, descentsFromRoots_eq_nil hdepth, List.map_nil], ?_⟩
    refine List.map_congr_left fun root hroot => ?_
    obtain ⟨hmem, hlevel⟩ := List.mem_filter.1 hroot
    exact financialFrom_eq hmem (of_decide_eq_true hlevel) hdepth
  · rw [pathsAt_financial] at hpath
    obtain ⟨chain, hchain, rfl⟩ := List.mem_map.1 hpath
    obtain ⟨-, sequence, hdescent⟩ := mem_descentsFromRoots.1 hchain
    rw [List.length_map] at hi
    simp only [List.getElem_map]
    obtain ⟨hlevel, hsequence⟩ := Row.isAt_iff.1 (hdescent i hi)
    obtain ⟨-, hroot⟩ := Row.isAt_iff.1 (hdescent 0 (by omega))
    rw [Int.zero_add] at hlevel
    have hlength := hdescent.length_le
    refine ⟨hlevel, hsequence.trans hroot.symm, ?_⟩
    rw [hlevel, Int32.toInt_add, Int32.toInt_ofInt_of_le (by omega) (by omega), Int32.toInt_one]
    exact Int.bmod_eq_of_le (by omega) (by omega)

/-- Two rows stand at one address, and a row below them. -/
def accounts : List Row :=
  [{ sequence := 10 }, { level := 1, sequence := 10 }, { sequence := 20 },
    { level := 1, sequence := 10 }, { level := 2, sequence := 10 }, { level := -1, sequence := 10 }]

abbrev place (i : Fin 6) : Fin accounts.length := i

/-- A row below two rows of one address is in the tree twice. -/
theorem paths_financial_accounts : accounts.length < 2 ^ 31
    ∧ ∃ chains : List (List (Fin accounts.length)),
      pathsAt 2 (financial accounts) = chains.map (·.map accounts.get)
        ∧ [place 0, place 1, place 4] ∈ chains
        ∧ chains.countP (·.getLast? = some (place 4)) = 2
        ∧ chains.countP (·.getLast? = some (place 5)) = 0 := by
  have hlength : accounts.length < 2 ^ 31 := by decide
  obtain ⟨chains, -, hmem, hpaths, hcount⟩ := (paths_financial hlength).1 2
  refine ⟨hlength, chains, hpaths, (hmem _).2 ⟨rfl, 10, ?_⟩, (hcount (place 4)).trans ?_,
    (hcount (place 5)).trans ?_⟩
  · unfold IsDescent; decide
  · decide
  · decide

end RowTree

end Reporting
