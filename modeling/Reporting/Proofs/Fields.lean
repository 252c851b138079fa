import Mathlib.Data.List.Forall2
import Reporting.Wire.Record

/-!
# Fields that are left out

An object may have its fields in any order and leave out those that have their defaults. The fields
that are then missing read as they would if they were there (`required_of_kept`,
`withDefault_of_kept`), and the values written for numbers, options and lists read back.
-/

namespace Reporting

def Json.members : Json → List (String × Json)
  | .object members => members
  | _ => []

namespace Wire

/-- Members with the value of one name replaced. -/
def put (name : String) (value : Json) (members : List (String × Json)) : List (String × Json) :=
  members.map fun m => if m.1 = name then (name, value) else m

/-- The members in any order, less some that are the defaults of their fields. -/
def Spares (defaults members : List (String × Json)) (j : Json) : Prop :=
  ∃ kept spared, j = .object kept ∧ (kept ++ spared).Perm members ∧ spared ⊆ defaults

section Present

variable {name : String} {v : Json} {fields : List (String × Json)}

theorem names_put (name : String) (value : Json) (members : List (String × Json)) :
    (put name value members).map Prod.fst = members.map Prod.fst := by
  rw [put, List.map_map]
  refine List.map_congr_left fun m _ => ?_
  by_cases h : m.1 = name
  · simp [h]
  · simp [h]

theorem present?_cons (name other : String) (v : Json) (fields : List (String × Json)) :
    present? name ((other, v) :: fields)
      = if other = name then some v else present? name fields := by
  by_cases h : other = name
  · simp [present?, h]
  · simp [present?, h]

theorem mem_of_present? (h : present? name fields = some v) : (name, v) ∈ fields := by
  obtain ⟨⟨other, w⟩, hfind, rfl⟩ := Option.map_eq_some_iff.1 h
  have hname : other = name := by simpa using List.find?_some hfind
  exact hname ▸ List.mem_of_find?_eq_some hfind

theorem required_of_present? {α : Type} {read : Json → Option α}
    (h : present? name fields = some v) : required name read fields = read v := by
  rw [required, h, Option.bind_some]

theorem withDefault_of_present? {α : Type} {default : α} {read : Json → Option α}
    (h : present? name fields = some v) : withDefault name default read fields = read v := by
  rw [withDefault, h]

theorem of_withDefault_eq_some {α : Type} {default a : α} {read : Json → Option α}
    (h : withDefault name default read fields = some a) :
    present? name fields = none ∧ a = default
      ∨ ∃ v, present? name fields = some v ∧ read v = some a := by
  rw [withDefault] at h
  split at h
  · rename_i hnone
    exact .inl ⟨hnone, (Option.some.inj h).symm⟩
  · rename_i v hv
    exact .inr ⟨v, hv, h⟩

/-- A field whose name comes once is found. -/
theorem present?_of_mem (hnodup : (fields.map Prod.fst).Nodup) (h : (name, v) ∈ fields) :
    present? name fields = some v := by
  induction fields with
  | nil => cases h
  | cons first fields ih =>
    obtain ⟨other, w⟩ := first
    rw [List.map_cons, List.nodup_cons] at hnodup
    rw [present?_cons]
    rcases List.mem_cons.1 h with hfirst | h
    · cases hfirst
      exact if_pos rfl
    · have hne : other ≠ name := by
        rintro rfl
        exact hnodup.1 (List.mem_map.2 ⟨_, h, rfl⟩)
      rw [if_neg hne]
      exact ih hnodup.2 h

theorem noneTwice_of_nodup (names : List String) (h : (fields.map Prod.fst).Nodup) :
    noneTwice names fields = true := by
  rw [noneTwice, List.all_eq_true]
  intro name _
  have hcount : (fields.map Prod.fst).count name ≤ 1 := List.nodup_iff_count.1 h name
  rw [List.count, List.countP_map, List.countP_eq_length_filter] at hcount
  exact decide_eq_true hcount

theorem fields?_object (names : List String) (h : (fields.map Prod.fst).Nodup) :
    fields? names (.object fields) = some fields := by
  rw [fields?, if_pos (noneTwice_of_nodup names h)]

theorem bind_fields?_object {α : Type} {read : List (String × Json) → Option α}
    {names : List String} (h : (fields.map Prod.fst).Nodup) :
    (fields? names (.object fields)).bind read = read fields := by
  rw [fields?_object names h, Option.bind_some]

end Present

section Kept

variable {defaults members kept : List (String × Json)} {names : List String} {j : Json}
  {α : Type}

/-- Each field is there as among the members, or it is missing and has its default there. -/
def Kept (defaults members kept : List (String × Json)) : Prop :=
  ∀ name, present? name kept = present? name members
    ∨ present? name kept = none ∧ present? name members = present? name defaults

theorem Spares.exists_kept (hmembers : (members.map Prod.fst).Nodup)
    (hdefaults : (defaults.map Prod.fst).Nodup) (h : Spares defaults members j) :
    ∃ kept, fields? names j = some kept ∧ Kept defaults members kept := by
  obtain ⟨kept, spared, rfl, hperm, hspared⟩ := h
  have hnodup : (kept.map Prod.fst).Nodup := by
    have hall := (hperm.map Prod.fst).nodup_iff.2 hmembers
    rw [List.map_append] at hall
    exact (List.nodup_append.1 hall).1
  refine ⟨kept, fields?_object names hnodup, fun name => ?_⟩
  cases hkept : present? name kept with
  | some v =>
    have hmem := hperm.mem_iff.1 (List.mem_append_left spared (mem_of_present? hkept))
    exact .inl (present?_of_mem hmembers hmem).symm
  | none =>
    cases hmember : present? name members with
    | none => exact .inl rfl
    | some v =>
      rcases List.mem_append.1 (hperm.mem_iff.2 (mem_of_present? hmember)) with hthere | hmissing
      · rw [present?_of_mem hnodup hthere] at hkept
        cases hkept
      · exact .inr ⟨rfl, (present?_of_mem hdefaults (hspared hmissing)).symm⟩

theorem spares_self (defaults members : List (String × Json)) :
    Spares defaults members (.object members) :=
  ⟨members, [], rfl, by simp, List.nil_subset _⟩

theorem spares_filter {p : String × Json → Bool}
    (h : ∀ m ∈ members, p m = false → m ∈ defaults) :
    Spares defaults members (.object (members.filter p)) := by
  refine ⟨_, members.filter (!p ·), rfl, List.filter_append_perm p members, fun m hm => ?_⟩
  rw [List.mem_filter, Bool.not_eq_true'] at hm
  exact h m hm.1 hm.2

section Read

variable {name : String} {read : Json → Option α} {default : α}

theorem required_of_kept (h : Kept defaults members kept) (hnone : present? name defaults = none) :
    required name read kept = required name read members := by
  rw [required, required]
  obtain heq | ⟨hkept, hmembers⟩ := h name
  · rw [heq]
  · rw [hkept, hmembers, hnone]

theorem withDefault_of_kept (h : Kept defaults members kept)
    (hdefault : (present? name defaults).bind read = some default) :
    withDefault name default read kept = withDefault name default read members := by
  rw [withDefault, withDefault]
  obtain heq | ⟨hkept, hmembers⟩ := h name
  · rw [heq]
  · obtain ⟨v, hv, hread⟩ := Option.bind_eq_some_iff.1 hdefault
    rw [hkept, hmembers, hv]
    exact hread.symm

end Read

/-- A record whose reader passes over the left-out fields is read as from all members. -/
theorem bind_fields?_of_spares {read : List (String × Json) → Option α}
    (hmembers : (members.map Prod.fst).Nodup) (hdefaults : (defaults.map Prod.fst).Nodup)
    (h : Spares defaults members j)
    (hread : ∀ kept, Kept defaults members kept → read kept = read members) :
    (fields? names j).bind read = (fields? names (.object members)).bind read := by
  obtain ⟨kept, hfields, hkept⟩ := h.exists_kept hmembers hdefaults
  rw [hfields, bind_fields?_object hmembers]
  exact hread kept hkept

end Kept

section Values

variable {α β : Type} {read : Json → Option α} {write : α → Json}

theorem intBetween?_ofInt {least most n : Int} (hleast : -2 ^ 63 ≤ least) (hmost : most < 2 ^ 64)
    (h : least ≤ n ∧ n ≤ most) : intBetween? least most (.ofInt n) = some n := by
  rw [Json.ofInt, JsonNumber.ofInt?, dif_pos ⟨by omega, by omega⟩]
  exact if_pos h

abbrev IsInt64 (n : Int) : Prop := -2 ^ 63 ≤ n ∧ n ≤ 2 ^ 63 - 1

abbrev IsInt32 (n : Int) : Prop := -2 ^ 31 ≤ n ∧ n ≤ 2 ^ 31 - 1

theorem int64?_ofInt {n : Int} (h : IsInt64 n) : int64? (.ofInt n) = some n :=
  intBetween?_ofInt (by omega) (by omega) h

theorem int32?_ofInt {n : Int} (h : IsInt32 n) : int32? (.ofInt n) = some n :=
  intBetween?_ofInt (by omega) (by omega) h

theorem uint64?_ofNat (n : UInt64) : uint64? (.ofNat n.toNat) = some n := by
  have hlt : n.toNat < 2 ^ 64 := n.toNat_lt
  rw [uint64?, Json.ofNat, intBetween?_ofInt (by omega) (by omega) (by omega)]
  simp

theorem option?_ofOption {o : Option α} (hnull : read .null = none)
    (h : ∀ x ∈ o, read (write x) = some x) : option? read (.ofOption write o) = some o := by
  cases o with
  | none => rfl
  | some x =>
    have hread := h x rfl
    change option? read (write x) = _
    unfold option?
    split
    · rename_i hwrite
      rw [hwrite, hnull] at hread
      cases hread
    · rw [hread]
      rfl

theorem option?_string (o : Option String) : option? string? (.ofOption .string o) = some o :=
  option?_ofOption rfl fun _ _ => rfl

theorem list?_of_forall₂ {xs : List α} {js : List Json}
    (h : List.Forall₂ (fun x j => read j = some x) xs js) : list? read (.array js) = some xs := by
  rw [list?]
  induction h with
  | nil => rfl
  | cons hread _ ih =>
    rw [List.mapM_cons, hread, ih]
    rfl

theorem list?_string (l : List String) : list? string? (.ofList .string l) = some l := by
  refine list?_of_forall₂ ?_
  rw [List.forall₂_map_right_iff, List.forall₂_same]
  exact fun _ _ => rfl

theorem list?_some (js : List Json) : list? some (.array js) = some js :=
  list?_of_forall₂ (List.forall₂_same.2 fun _ _ => rfl)

end Values

end Wire

end Reporting
