import Mathlib.Data.List.Basic
import Reporting.SortedMap

/-!
# Laws of sorted maps

A key has a value exactly when it stands among the entries with it (`get?_eq_some_iff`), so the keys
are listed once each and in order. Of several entries added one after another, the last one of a key
counts (`get?_foldl_insert`).
-/

namespace Reporting.SortedMap

variable {κ : Type} [Ord κ] {α β : Type}

section Lookup

variable [Std.LawfulEqOrd κ]

theorem find?_eq_some_iff {k : κ} {a : α} :
    ∀ {l : List (κ × α)}, Ascending l → (find? k l = some a ↔ (k, a) ∈ l)
  | [], _ => by simp [find?]
  | (k', a') :: rest, h => by
    obtain ⟨hk, hr⟩ := List.pairwise_cons.1 h
    unfold find?
    split
    · rename_i heq
      obtain rfl := Std.LawfulEqCmp.eq_of_compare heq
      have hrest : (k, a) ∉ rest := fun hm => by
        have hlt := hk _ hm
        simp [Std.ReflCmp.compare_self] at hlt
      simp [hrest, eq_comm]
    · rename_i hne
      have hkk : k ≠ k' := fun hkk => hne (by rw [hkk]; exact Std.ReflCmp.compare_self)
      simp [hkk, find?_eq_some_iff hr]

theorem get?_eq_some_iff {m : SortedMap κ α} {k : κ} {a : α} :
    m.get? k = some a ↔ (k, a) ∈ m.entries :=
  find?_eq_some_iff m.ascending

theorem mem_keys_iff {m : SortedMap κ α} {k : κ} : k ∈ m.keys ↔ (m.get? k).isSome := by
  simp only [keys, List.mem_map, Option.isSome_iff_exists]
  constructor
  · rintro ⟨⟨_, a⟩, he, rfl⟩
    exact ⟨a, get?_eq_some_iff.2 he⟩
  · rintro ⟨a, ha⟩
    exact ⟨(k, a), get?_eq_some_iff.1 ha, rfl⟩

omit [Std.LawfulEqOrd κ] in
theorem pairwise_keys (m : SortedMap κ α) : m.keys.Pairwise fun a b => compare a b = .lt :=
  List.pairwise_map.2 m.ascending

end Lookup

section Insert

variable [Std.TransOrd κ] [Std.LawfulEqOrd κ] [DecidableEq κ]

theorem get?_foldl_insert {γ : Type} (f : γ → κ × α) (k : κ) :
    ∀ (l : List γ) (m : SortedMap κ α),
      (l.foldl (fun m c => m.insert (f c).1 (f c).2) m).get? k
        = (((l.map f).reverse.find? (·.1 = k)).map Prod.snd).or (m.get? k)
  | [], m => by simp
  | c :: l, m => by
    rw [List.foldl_cons, get?_foldl_insert f k l, get?_insert]
    simp only [List.map_cons, List.reverse_cons, List.find?_append, List.find?_singleton]
    by_cases hk : (f c).1 = k
    · cases (List.map f l).reverse.find? (·.1 = k) <;> simp [hk]
    · cases (List.map f l).reverse.find? (·.1 = k) <;> simp [hk, Ne.symm hk]

theorem get?_ofList (l : List (κ × α)) (k : κ) :
    (ofList l).get? k = (l.reverse.find? (·.1 = k)).map Prod.snd := by
  rw [ofList, get?_foldl_insert fun e : κ × α => e]
  simp

/-- The value of a key is that of one of its entries. -/
theorem exists_get?_foldl_insert {γ : Type} {f : γ → κ × α} {k : κ} {l : List γ}
    (h : ∃ c ∈ l, (f c).1 = k) (m : SortedMap κ α) :
    ∃ c ∈ l, (f c).1 = k
      ∧ (l.foldl (fun m c => m.insert (f c).1 (f c).2) m).get? k = some (f c).2 := by
  have hsome : ((l.map f).reverse.find? (·.1 = k)).isSome := by
    obtain ⟨c, hc, hk⟩ := h
    rw [List.find?_isSome]
    exact ⟨f c, by simpa using ⟨c, hc, rfl⟩, by simpa using hk⟩
  obtain ⟨e, he⟩ := Option.isSome_iff_exists.1 hsome
  obtain ⟨c, hc, rfl⟩ := List.mem_map.1 (List.mem_reverse.1 (List.mem_of_find?_eq_some he))
  refine ⟨c, hc, by simpa using List.find?_some he, ?_⟩
  rw [get?_foldl_insert, he]
  rfl

theorem get?_foldl_insert_of_not_mem {γ : Type} {f : γ → κ × α} {k : κ} {l : List γ}
    (h : ∀ c ∈ l, (f c).1 ≠ k) (m : SortedMap κ α) :
    (l.foldl (fun m c => m.insert (f c).1 (f c).2) m).get? k = m.get? k := by
  rw [get?_foldl_insert]
  have hnone : (l.map f).reverse.find? (·.1 = k) = none := by
    rw [List.find?_eq_none]
    intro e he
    obtain ⟨c, hc, rfl⟩ := List.mem_map.1 (List.mem_reverse.1 he)
    simpa using h c hc
  simp [hnone]

end Insert

end Reporting.SortedMap
