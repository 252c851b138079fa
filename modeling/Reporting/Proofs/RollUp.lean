import Reporting.Proofs.Statistics
import Reporting.Proofs.Totals
import Reporting.Proofs.Tree

/-!
# How totals add up

The groups of a rank whose keys extend the key of a group above them share out its rows
(`members_below_perm`), so their totals add up to its totals (`totals_roll_up`).
-/

namespace Reporting

open GroupTotals (contribution totalOf)
open RankTotals (keyOf keysOf members)

/-- A list is shared out by keys, one of which each of its elements has. -/
theorem flatMap_fiber_perm {α κ : Type} [DecidableEq κ] (f : α → κ) {keys : List κ}
    (hkeys : keys.Nodup) {l : List α} (h : ∀ a ∈ l, f a ∈ keys) :
    (keys.flatMap fun key => l.filter (f · = key)).Perm l := by
  have hone : ∀ a ∈ l, (keys.flatMap fun key => if f a = key then [a] else []) = [a] := by
    intro a ha
    have hfilter : keys.filter (f a = ·) = [f a] := by
      simp only [eq_comm (a := f a)]
      rw [List.filter_eq, List.count_eq_one_of_mem hkeys (h a ha)]
      rfl
    have := flatMap_filter (f a = ·) (fun _ => [a]) keys
    simpa [hfilter] using this.symm
  have hparts : ∀ key, l.filter (f · = key) = l.flatMap fun a => if f a = key then [a] else [] := by
    intro key
    have := flatMap_filter (f · = key) (fun a => [a]) l
    simpa using this
  simp only [hparts]
  refine (flatMap_comm_perm _ _ _).trans (.of_eq ?_)
  rw [List.flatMap_congr hone]
  simp

theorem sum_map_flatMap {α κ M : Type} [AddMonoid M] (f : α → M) (part : κ → List α)
    (keys : List κ) :
    ((keys.flatMap part).map f).sum = (keys.map fun key => ((part key).map f).sum).sum := by
  rw [List.map_flatMap, List.flatMap_def, List.sum_flatten, List.map_map]
  rfl

namespace Summary

/-- Totals that add up to the totals of all of the values. Sums do as long as the values fit. -/
structure RollsUp (values : List Decimal) (parts : List Summary) (total : Summary) : Prop where
  count : (parts.map (·.count)).sum = total.count
  minimum? : (parts.filterMap (·.minimum?.map Decimal.value)).min?
    = total.minimum?.map Decimal.value
  maximum? : (parts.filterMap (·.maximum?.map Decimal.value)).max?
    = total.maximum?.map Decimal.value
  sum : ∀ places, (∀ d ∈ values, d.scale ≤ places) → magnitude values < 2 ^ 96 / 10 ^ places →
    (parts.map (·.sum.value)).sum = total.sum.value

section Parts

variable {κ : Type} {keys : List κ} {part : κ → List Decimal} {values : List Decimal}
  (h : (keys.flatMap part).Perm values)

include h in
theorem magnitude_eq_sum : magnitude values = (keys.map fun key => magnitude (part key)).sum := by
  have hsum := (h.map fun d => |d.value|).sum_eq
  rw [sum_map_flatMap] at hsum
  exact hsum.symm

include h in
theorem magnitude_part_le {key : κ} (hkey : key ∈ keys) :
    magnitude (part key) ≤ magnitude values := by
  rw [magnitude_eq_sum h]
  exact List.single_le_sum (List.forall_mem_map.2 fun key _ => magnitude_nonneg (part key)) _
    (List.mem_map_of_mem hkey)

include h in
/-- The totals of the parts of values add up to the totals of the values. -/
theorem rollsUp_ofValues :
    RollsUp values (keys.map fun key => ofValues (part key)) (ofValues values) where
  count := by
    have hlength := h.length_eq
    rw [List.length_flatMap] at hlength
    simpa [count_ofValues, Function.comp_def] using hlength
  minimum? := by
    rw [List.filterMap_map, minimum?_ofValues, ← min?_perm (h.map Decimal.value), List.map_flatMap,
      min?_flatMap]
    simp only [Function.comp_def, minimum?_ofValues]
  maximum? := by
    rw [List.filterMap_map, maximum?_ofValues, ← max?_perm (h.map Decimal.value), List.map_flatMap,
      max?_flatMap]
    simp only [Function.comp_def, maximum?_ofValues]
  sum places hscale hfits := by
    have hparts : ∀ key ∈ keys,
        (ofValues (part key)).sum.value = ((part key).map Decimal.value).sum := by
      intro key hkey
      have hmem : ∀ d ∈ part key, d ∈ values := fun d hd =>
        h.mem_iff.1 (List.mem_flatMap.2 ⟨key, hkey, hd⟩)
      exact value_sum_ofValues (fun d hd => hscale d (hmem d hd))
        ((magnitude_part_le h hkey).trans_lt hfits)
    rw [value_sum_ofValues hscale hfits, ← (h.map Decimal.value).sum_eq, sum_map_flatMap,
      List.map_map]
    exact congrArg List.sum (List.map_congr_left hparts)

end Parts

end Summary

namespace GroupTotals

/-- What rows contribute to the totals of an item. -/
def contributions (item : Int) (rows : List Row) : List Decimal :=
  rows.filterMap (contribution · item)

/-- What rows add to the totals of an item: each contribution as often as the item is summarized. -/
def added (summarized : List Int) (item : Int) (rows : List Row) : List Decimal :=
  (contributions item rows).flatMap (List.replicate (summarized.count item))

theorem totalOf_eq_ofValues_added (summarized : List Int) (item : Int) (rows : List Row) :
    totalOf summarized item rows = .ofValues (added summarized item rows) := by
  have hadded : added summarized item rows = (rows.flatMap fun r =>
      List.replicate (summarized.count item) (contribution r item)).filterMap id := by
    rw [added, contributions, List.filterMap_flatMap, List.filterMap_eq_flatMap_toList,
      List.flatMap_assoc]
    refine List.flatMap_congr fun r _ => ?_
    cases contribution r item <;> simp
  rw [totalOf, Summary.ofValues, hadded, ← Summary.foldl_insert?_map, List.map_id]

theorem totalOf_eq_ofValues {summarized : List Int} (h : summarized.Nodup) {item : Int}
    (hitem : item ∈ summarized) (rows : List Row) :
    totalOf summarized item rows = .ofValues (contributions item rows) := by
  rw [totalOf_eq_ofValues_added, added, List.count_eq_one_of_mem h hitem]
  exact congrArg Summary.ofValues (List.flatMap_singleton' (contributions item rows))

end GroupTotals

namespace Totals

open GroupTotals (contributions totalOf_eq_ofValues)

/-- The keys of the groups of a rank. -/
def keys (t : Totals) (rank : Nat) : List GroupKey := ((t.ranks[rank]?).map (·.groups.keys)).getD []

/-- The keys of the next rank that extend the key of a group. -/
def keysBelow (t : Totals) (rank : Nat) (key : GroupKey) : List GroupKey :=
  (t.keys (rank + 1)).filter (key <+: ·)

variable {axes summarized : List Int} {rows : List Row} {rank : Nat} {key : GroupKey}

theorem keys_fed (hrank : rank < axes.length) :
    (fed axes summarized rows).keys rank = keysOf (axes.take (rank + 1)) rows := by
  rw [keys, ranks_fed, List.getElem?_map, List.getElem?_range hrank]
  exact RankTotals.keys_fed _ _ _

theorem mem_keysOf {axes : List Int} : key ∈ keysOf axes rows ↔ ∃ r ∈ rows, keyOf axes r = key := by
  simp [keysOf]

theorem nodup_keysOf (axes : List Int) (rows : List Row) : (keysOf axes rows).Nodup :=
  Finset.sort_nodup _ _

/-- A row is in a group exactly if the key of its group of the next rank extends the key. -/
theorem keyOf_eq_iff (hkey : key.length = rank + 1) (r : Row) :
    keyOf (axes.take (rank + 1)) r = key ↔ key <+: keyOf (axes.take (rank + 2)) r := by
  have htake : (keyOf (axes.take (rank + 2)) r).take (rank + 1)
      = keyOf (axes.take (rank + 1)) r := by
    simp [keyOf, ← List.map_take, List.take_take]
  rw [List.prefix_iff_eq_take, hkey, htake, eq_comm]

section Below

variable (hrank : rank + 1 < axes.length) (hkey : key ∈ (fed axes summarized rows).keys rank)

include hrank hkey in
theorem length_key : key.length = rank + 1 := by
  rw [keys_fed (Nat.lt_of_succ_lt hrank)] at hkey
  obtain ⟨r, -, rfl⟩ := mem_keysOf.1 hkey
  simp [keyOf]
  omega

include hrank in
theorem mem_keysBelow {below : GroupKey} : below ∈ (fed axes summarized rows).keysBelow rank key
    ↔ key <+: below ∧ ∃ r ∈ rows, keyOf (axes.take (rank + 2)) r = below := by
  rw [keysBelow, keys_fed hrank, List.mem_filter, mem_keysOf, decide_eq_true_iff, and_comm]

include hrank in
theorem nodup_keysBelow : ((fed axes summarized rows).keysBelow rank key).Nodup := by
  rw [keysBelow, keys_fed hrank]
  exact (nodup_keysOf _ _).filter _

include hrank hkey in
/-- The groups below a group share out its rows. -/
theorem members_below_perm :
    (((fed axes summarized rows).keysBelow rank key).flatMap
        (members (axes.take (rank + 2)) rows)).Perm
      (members (axes.take (rank + 1)) rows key) := by
  have hiff (r : Row) : keyOf (axes.take (rank + 1)) r = key
      ↔ key <+: keyOf (axes.take (rank + 2)) r := keyOf_eq_iff (length_key hrank hkey) r
  have hpart : ∀ below ∈ (fed axes summarized rows).keysBelow rank key,
      members (axes.take (rank + 2)) rows below
        = (members (axes.take (rank + 1)) rows key).filter
            (keyOf (axes.take (rank + 2)) · = below) := by
    intro below hbelow
    have hprefix := ((mem_keysBelow hrank).1 hbelow).1
    rw [members, members, List.filter_filter]
    refine List.filter_congr fun r _ => ?_
    by_cases hr : keyOf (axes.take (rank + 2)) r = below
    · simp [hr, hiff, hprefix]
    · simp [hr]
  rw [List.flatMap_congr hpart]
  refine flatMap_fiber_perm _ (nodup_keysBelow hrank) fun r hr => ?_
  obtain ⟨hmem, hr⟩ := List.mem_filter.1 hr
  exact (mem_keysBelow hrank).2 ⟨(hiff r).1 (of_decide_eq_true hr), r, hmem, rfl⟩

include hrank hkey in
theorem keysBelow_ne_nil : (fed axes summarized rows).keysBelow rank key ≠ [] := by
  have hperm := members_below_perm hrank hkey
  rw [keys_fed (Nat.lt_of_succ_lt hrank)] at hkey
  intro hnil
  rw [hnil, List.flatMap_nil] at hperm
  exact RankTotals.members_eq_nil_iff.1 hperm.nil_eq.symm (mem_keysOf.1 hkey)

end Below

/-- Below every group there are groups of the next rank, and for every summarized item their totals
add up to its totals. -/
theorem totals_roll_up (hsummarized : summarized.Nodup) (hrank : rank + 1 < axes.length)
    (hkey : key ∈ (fed axes summarized rows).keys rank) :
    (fed axes summarized rows).keysBelow rank key ≠ []
      ∧ ((fed axes summarized rows).keysBelow rank key).Nodup
      ∧ ∀ item ∈ summarized, ∃ total parts,
        (fed axes summarized rows).summary? rank key item = some total
          ∧ List.Forall₂ (fun below part =>
                (fed axes summarized rows).summary? (rank + 1) below item = some part)
              ((fed axes summarized rows).keysBelow rank key) parts
          ∧ Summary.RollsUp (contributions item (members (axes.take (rank + 1)) rows key))
              parts total := by
  refine ⟨keysBelow_ne_nil hrank hkey, nodup_keysBelow hrank, fun item hitem => ?_⟩
  have hshared := (members_below_perm hrank hkey).filterMap (contribution · item)
  rw [List.filterMap_flatMap] at hshared
  refine ⟨_, _, ?_, ?_, Summary.rollsUp_ofValues hshared⟩
  · rw [keys_fed (Nat.lt_of_succ_lt hrank)] at hkey
    rw [summary?_fed, if_pos ⟨hitem, Nat.lt_of_succ_lt hrank, mem_keysOf.1 hkey⟩,
      totalOf_eq_ofValues hsummarized hitem]
  · rw [List.forall₂_map_right_iff, List.forall₂_same]
    intro below hbelow
    rw [summary?_fed, if_pos ⟨hitem, hrank, ((mem_keysBelow hrank).1 hbelow).2⟩,
      totalOf_eq_ofValues hsummarized hitem]
    rfl

/-- An amount sold by a representative in a region. -/
def soldBy (region representative : String) (amount : Decimal) : Row where
  cells := .ofList [(1, { value := .text region }), (2, { value := .text representative }),
    (3, { value := .number amount })]

def sold : List Row :=
  [soldBy "EU" "Alice" (.ofInt 100), soldBy "US" "Carl" (.ofInt 30), soldBy "EU" "Bob" (.ofInt 50)]

theorem totals_roll_up_sold :
    [(3 : Int)].Nodup ∧ 0 + 1 < [(1 : Int), 2].length ∧ ["EU"] ∈ (fed [1, 2] [3] sold).keys 0
      ∧ (fed [1, 2] [3] sold).keysBelow 0 ["EU"] = [["EU", "Alice"], ["EU", "Bob"]]
      ∧ ∃ total parts, (fed [1, 2] [3] sold).summary? 0 ["EU"] 3 = some total
        ∧ List.Forall₂ (fun below part => (fed [1, 2] [3] sold).summary? 1 below 3 = some part)
            ((fed [1, 2] [3] sold).keysBelow 0 ["EU"]) parts
        ∧ (parts.map (·.count)).sum = total.count
        ∧ (parts.map (·.sum.value)).sum = total.sum.value := by
  have hkey : ["EU"] ∈ (fed [1, 2] [3] sold).keys 0 := by decide +kernel
  obtain ⟨-, -, h⟩ := @totals_roll_up [1, 2] [3] sold 0 ["EU"] (by decide) (by decide) hkey
  obtain ⟨total, parts, htotal, hparts, hrolls⟩ := h 3 (by decide)
  have hvalues : contributions 3 (members [1] sold ["EU"]) = [.ofInt 100, .ofInt 50] := by
    decide +kernel
  refine ⟨by decide, by decide, hkey, by decide +kernel, total, parts, htotal, hparts, hrolls.count,
    hrolls.sum 0 ?_ ?_⟩
  · exact hvalues ▸ by decide
  · exact hvalues ▸ by decide +kernel

end Totals

end Reporting
