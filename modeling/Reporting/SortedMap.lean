/-!
# Sorted maps

A finite map as the list of its entries in strictly ascending order of keys, so equal maps have
equal entries. `get?_alter` says what changing the entry of one key does to all keys.
-/

namespace Reporting

variable {κ : Type} {α : Type}

/-- Keys ascend strictly. -/
def Ascending [Ord κ] (entries : List (κ × α)) : Prop :=
  entries.Pairwise fun a b => compare a.1 b.1 = .lt

structure SortedMap (κ : Type) [Ord κ] (α : Type) where
  entries : List (κ × α)
  ascending : Ascending entries

namespace SortedMap

section Lists

variable [Ord κ]

/-- Changes the entry of a key, or adds one at its place. -/
def alterEntries (k : κ) (f : Option α → α) : List (κ × α) → List (κ × α)
  | [] => [(k, f none)]
  | (k', a) :: rest =>
    match compare k k' with
    | .lt => (k, f none) :: (k', a) :: rest
    | .eq => (k', f (some a)) :: rest
    | .gt => (k', a) :: alterEntries k f rest

def find? (k : κ) : List (κ × α) → Option α
  | [] => none
  | (k', a) :: rest =>
    match compare k k' with
    | .eq => some a
    | _ => find? k rest

theorem mem_keys_alterEntries {k x : κ} {f : Option α → α} :
    ∀ {l : List (κ × α)}, x ∈ (alterEntries k f l).map Prod.fst → x = k ∨ x ∈ l.map Prod.fst
  | [], h => by simpa [alterEntries] using h
  | (k', a) :: rest, h => by
    unfold alterEntries at h
    split at h
    · simpa using h
    · exact .inr (by simpa using h)
    · rcases List.mem_cons.1 (by simpa using h : x ∈ k' :: (alterEntries k f rest).map Prod.fst)
        with h | h
      · exact .inr (by simp [h])
      · rcases mem_keys_alterEntries h with h | h
        · exact .inl h
        · exact .inr (by simp only [List.map_cons, List.mem_cons]; exact .inr h)

theorem ascending_alterEntries [Std.TransOrd κ] {k : κ} {f : Option α → α} :
    ∀ {l : List (κ × α)}, Ascending l → Ascending (alterEntries k f l)
  | [], _ => List.pairwise_singleton _ _
  | (k', a) :: rest, h => by
    obtain ⟨hk, hr⟩ := List.pairwise_cons.1 h
    unfold alterEntries
    split
    · rename_i hlt
      refine List.pairwise_cons.2 ⟨fun e he => ?_, h⟩
      rcases List.mem_cons.1 he with rfl | he
      · exact hlt
      · exact Std.TransCmp.lt_trans hlt (hk e he)
    · exact List.pairwise_cons.2 ⟨hk, hr⟩
    · rename_i hgt
      refine List.pairwise_cons.2 ⟨fun e he => ?_, ascending_alterEntries hr⟩
      have hm : e.1 ∈ (alterEntries k f rest).map Prod.fst := List.mem_map_of_mem he
      rcases mem_keys_alterEntries hm with h' | h'
      · rw [h']
        exact Std.OrientedCmp.gt_iff_lt.1 hgt
      · obtain ⟨e', he', heq⟩ := List.mem_map.1 h'
        rw [← heq]
        exact hk e' he'

end Lists

section Maps

variable [Ord κ]

def empty : SortedMap κ α := ⟨[], List.Pairwise.nil⟩

instance : Inhabited (SortedMap κ α) := ⟨empty⟩

def get? (m : SortedMap κ α) (k : κ) : Option α := find? k m.entries

def keys (m : SortedMap κ α) : List κ := m.entries.map Prod.fst

def values (m : SortedMap κ α) : List α := m.entries.map Prod.snd

def isEmpty (m : SortedMap κ α) : Bool := m.entries.isEmpty

@[simp] theorem get?_empty (k : κ) : (empty : SortedMap κ α).get? k = none := rfl

variable [Std.TransOrd κ]

def alter (m : SortedMap κ α) (k : κ) (f : Option α → α) : SortedMap κ α :=
  ⟨alterEntries k f m.entries, ascending_alterEntries m.ascending⟩

def insert (m : SortedMap κ α) (k : κ) (a : α) : SortedMap κ α := m.alter k fun _ => a

/-- The map of a list of entries, a later one replacing an earlier one of its key. -/
def ofList (l : List (κ × α)) : SortedMap κ α := l.foldl (fun m e => m.insert e.1 e.2) empty

end Maps

section Laws

variable [Ord κ] [Std.TransOrd κ] [Std.LawfulEqOrd κ] [DecidableEq κ]

theorem find?_alterEntries (k x : κ) (f : Option α → α) :
    ∀ {l : List (κ × α)}, Ascending l →
      find? x (alterEntries k f l) = if x = k then some (f (find? k l)) else find? x l
  | [], _ => by
    by_cases hx : x = k
    · simp [alterEntries, find?, hx]
    · have : compare x k ≠ .eq := fun h => hx (Std.LawfulEqCmp.eq_of_compare h)
      cases hc : compare x k <;> simp_all [alterEntries, find?]
  | (k', a) :: rest, h => by
    obtain ⟨hk, hr⟩ := List.pairwise_cons.1 h
    unfold alterEntries
    split
    · rename_i hlt
      by_cases hx : x = k
      · subst hx
        have hnone : ∀ {l : List (κ × α)}, (∀ e ∈ l, compare x e.1 = .lt) → find? x l = none := by
          intro l
          induction l with
          | nil => intro _; rfl
          | cons e l ih =>
            intro hl
            have he := hl e List.mem_cons_self
            simp only [find?, he]
            exact ih fun e' he' => hl e' (List.mem_cons_of_mem _ he')
        have : find? x ((k', a) :: rest) = none :=
          hnone fun e he => by
            rcases List.mem_cons.1 he with rfl | he
            · exact hlt
            · exact Std.TransCmp.lt_trans hlt (hk e he)
        simp only [if_true, this]
        simp [find?]
      · have : compare x k ≠ .eq := fun h => hx (Std.LawfulEqCmp.eq_of_compare h)
        simp only [hx, if_false]
        conv => lhs; unfold find?
        split <;> simp_all
    · rename_i heq
      have hkk := Std.LawfulEqCmp.eq_of_compare heq
      subst hkk
      by_cases hx : x = k
      · subst hx; simp [find?]
      · have : compare x k ≠ .eq := fun h => hx (Std.LawfulEqCmp.eq_of_compare h)
        simp only [hx, if_false, find?]
    · rename_i hgt
      by_cases hx : x = k
      · subst hx
        simp only [find?, hgt, if_true, find?_alterEntries x x f hr]
      · simp only [hx, if_false, find?]
        rw [find?_alterEntries k x f hr, if_neg hx]

theorem get?_alter (m : SortedMap κ α) (k x : κ) (f : Option α → α) :
    (m.alter k f).get? x = if x = k then some (f (m.get? k)) else m.get? x :=
  find?_alterEntries k x f m.ascending

@[simp] theorem get?_insert (m : SortedMap κ α) (k x : κ) (a : α) :
    (m.insert k a).get? x = if x = k then some a else m.get? x :=
  get?_alter m k x _

end Laws

end SortedMap

end Reporting
