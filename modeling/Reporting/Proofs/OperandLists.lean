import Reporting.Proofs.Operators

/-!
# Lists of operands put together

On a row with a text, membership in a list put together from two is membership in one of them, and
the opposite is that in both. Blanks stand for a missing text only where a list has nothing else, so
that a row without a text is found by such a list and no longer when other operands are added
(`of?_append`).
-/

namespace Reporting

open Sql (Engine Site Truth)

namespace Restriction

variable {α : Type} {E : Engine α} {s : Site α} {c : QueryColumn} {t : DisplayType}

/-- No operand of a list on a text column has a text. -/
def allBlank (values : List Json) : Bool := values.all (isBlank true)

theorem entries_append (t : DisplayType) (xs ys : List Json) :
    entries t (xs ++ ys) = entries t xs ++ entries t ys := by
  rw [entries, List.filter_append, List.map_append]
  rfl

theorem isEmpty_entries (htext : t.isText = true) (values : List Json) :
    (entries t values).isEmpty = allBlank values := by
  rw [entries, List.isEmpty_map, allBlank, Bool.eq_iff_iff, List.isEmpty_iff,
    List.filter_eq_nil_iff, List.all_eq_true]
  simp [htext]

/-- A list on a text column is compared in capitals. -/
theorem any_entries (htext : t.isText = true) {values : List Json}
    (hblank : allBlank values = false) : (entries t values).any Prod.fst = true := by
  rw [← isEmpty_entries htext, List.isEmpty_eq_false_iff_exists_mem] at hblank
  obtain ⟨e, he⟩ := hblank
  rw [List.any_eq_true]
  refine ⟨e, he, ?_⟩
  obtain ⟨j, -, rfl⟩ := List.mem_map.1 he
  simp [htext]

/-- The operands of a list as they are compared. -/
def comparands (E : Engine α) (t : DisplayType) (values : List Json) : List (Option α) :=
  (entries t values).map fun e => casedValue E e.1 (E.bound e.2)

theorem comparands_eq_nil_iff (htext : t.isText = true) {values : List Json} :
    comparands E t values = [] ↔ allBlank values = true := by
  rw [comparands, List.map_eq_nil_iff, ← isEmpty_entries htext, List.isEmpty_iff]

/-- With a text, a list of blanks is as good as none. -/
theorem listTruth_of_isSome (htext : c.displayType.isText = true)
    (hv : (E.value s c.expr).isSome = true) (values : List Json) :
    listTruth E s c values
      = E.membership (E.call "UPPER" [E.value s c.expr]) (comparands E c.displayType values) := by
  rw [listTruth, isEmpty_entries htext]
  cases hblank : allBlank values with
  | true =>
    rw [(comparands_eq_nil_iff htext).2 hblank, if_pos rfl, Option.isNone_eq_false_iff.2 hv]
    rfl
  | false =>
    rw [if_neg Bool.false_ne_true, any_entries htext hblank]
    rfl

/-- Without a text, nothing can be told of a list unless it has blanks only. -/
theorem listTruth_of_none (htext : c.displayType.isText = true)
    (hupper : E.call "UPPER" [none] = none) (hv : E.value s c.expr = none) (values : List Json) :
    listTruth E s c values = if allBlank values then .yes else .unknown := by
  rw [listTruth, isEmpty_entries htext]
  cases hblank : allBlank values with
  | true =>
    rw [if_pos rfl, if_pos rfl, hv]
    rfl
  | false =>
    rw [if_neg Bool.false_ne_true, if_neg Bool.false_ne_true, any_entries htext hblank, hv,
      casedValue, if_pos rfl, hupper]
    refine Truth.any_eq_unknown (fun u hu => ?_) ?_
    · obtain ⟨w, -, rfl⟩ := List.mem_map.1 hu
      rfl
    · rw [Ne, List.map_eq_nil_iff]
      exact fun hnil => Bool.false_ne_true (hblank ▸ (comparands_eq_nil_iff htext).1 hnil)

theorem listTruth_append (htext : c.displayType.isText = true)
    (hv : (E.value s c.expr).isSome = true) (xs ys : List Json) :
    listTruth E s c (xs ++ ys) = (listTruth E s c xs).or (listTruth E s c ys) := by
  rw [listTruth_of_isSome htext hv, listTruth_of_isSome htext hv, listTruth_of_isSome htext hv,
    comparands, entries_append, List.map_append, Engine.membership_append]
  rfl

/-- A list put together holds where one of its parts does, except that on a row without a text
blanks count for nothing beside other operands. -/
theorem listTruth_append_eq_yes (htext : c.displayType.isText = true)
    (hupper : E.call "UPPER" [none] = none) (xs ys : List Json) :
    listTruth E s c (xs ++ ys) = .yes
      ↔ (listTruth E s c xs = .yes ∨ listTruth E s c ys = .yes)
        ∧ (E.value s c.expr = none → allBlank xs = allBlank ys) := by
  cases hv : E.value s c.expr with
  | some a =>
    rw [listTruth_append htext (by rw [hv]; rfl), Truth.or_eq_yes]
    simp
  | none =>
    have hall : allBlank (xs ++ ys) = (allBlank xs && allBlank ys) := List.all_append
    simp only [listTruth_of_none htext hupper hv, hall]
    cases allBlank xs <;> cases allBlank ys <;> simp

/-- A row is outside a list put together if it is outside both of its parts. -/
theorem listTruth_append_eq_no (htext : c.displayType.isText = true)
    (hupper : E.call "UPPER" [none] = none) (xs ys : List Json) :
    listTruth E s c (xs ++ ys) = .no ↔ listTruth E s c xs = .no ∧ listTruth E s c ys = .no := by
  cases hv : E.value s c.expr with
  | some a => rw [listTruth_append htext (by rw [hv]; rfl), Truth.or_eq_no]
  | none =>
    have hno (values : List Json) : listTruth E s c values ≠ .no := by
      rw [listTruth_of_none htext hupper hv]
      split <;> decide
    exact iff_of_false (hno _) fun h => hno _ h.1

/-- A list with an operand is a condition. -/
theorem exists_membership (c : QueryColumn) (place : Nat) (negated : Bool) {values : List Json}
    (hne : values ≠ []) : ∃ r, membership c place negated values = some r := by
  unfold membership
  dsimp only
  split
  · rename_i hempty
    rw [if_pos]
    · exact ⟨_, rfl⟩
    -- all operands have been left out as blanks
    have hentries : entries c.displayType values = [] := by
      rw [← entries_listOf c.displayType values place, List.map_eq_nil_iff]
      exact List.isEmpty_iff.1 hempty
    rw [entries, List.map_eq_nil_iff, List.filter_eq_nil_iff] at hentries
    obtain ⟨j, hj⟩ := List.exists_mem_of_ne_nil values hne
    exact List.any_eq_true.2 ⟨j, hj, by simpa using hentries j hj⟩
  · exact ⟨_, rfl⟩

theorem bare_list {f : Filter} (hop : f.operator = .isIn ∨ f.operator = .notIn) (c : QueryColumn)
    (place : Nat) : bare f c place = membership c place (f.operator = .notIn) f.values := by
  rcases hop with hop | hop <;> simp [bare, hop]

/-- A list condition on a row is as true as membership in the list, or its opposite. -/
theorem exists_of?_list {f : Filter} (hop : f.operator = .isIn ∨ f.operator = .notIn)
    (hne : f.values ≠ []) (c : QueryColumn) (place : Nat) :
    ∃ r, of? f c place = some r ∧ ∀ s : Site α, s.Binds place r.params →
      (E.truth s r.expr = .yes
        ↔ Truth.signed (f.operator = .notIn) (listTruth E s c f.values) = .yes) := by
  obtain ⟨b, hb⟩ := exists_membership c place (f.operator = .notIn) hne
  refine ⟨{ b with expr := .nested b.expr }, ?_, fun s hs => ?_⟩
  · rw [of?, bare_list hop, hb]
    rfl
  · rw [Engine.truth_nested]
    exact truth_membership hb hs

/-- A list on a text column put together from two. -/
theorem of?_append (htext : c.displayType.isText = true) (hupper : E.call "UPPER" [none] = none)
    {f : Filter} (hop : f.operator = .isIn ∨ f.operator = .notIn) {xs ys : List Json}
    (hxs : xs ≠ []) (hys : ys ≠ []) (place place₁ place₂ : Nat) :
    ∃ r r₁ r₂, of? { f with values := xs ++ ys } c place = some r
      ∧ of? { f with values := xs } c place₁ = some r₁
      ∧ of? { f with values := ys } c place₂ = some r₂
      ∧ ∀ s : Site α, s.Binds place r.params → s.Binds place₁ r₁.params →
        s.Binds place₂ r₂.params →
          (f.operator = .isIn → (E.truth s r.expr = .yes
            ↔ (E.truth s r₁.expr = .yes ∨ E.truth s r₂.expr = .yes)
              ∧ (E.value s c.expr = none → allBlank xs = allBlank ys)))
          ∧ (f.operator = .notIn → (E.truth s r.expr = .yes
            ↔ E.truth s r₁.expr = .yes ∧ E.truth s r₂.expr = .yes)) := by
  obtain ⟨r, hr, htruth⟩ := exists_of?_list (E := E) (f := { f with values := xs ++ ys }) hop
    (by simp [hxs]) c place
  obtain ⟨r₁, hr₁, htruth₁⟩ := exists_of?_list (E := E) (f := { f with values := xs }) hop hxs c
    place₁
  obtain ⟨r₂, hr₂, htruth₂⟩ := exists_of?_list (E := E) (f := { f with values := ys }) hop hys c
    place₂
  refine ⟨r, r₁, r₂, hr, hr₁, hr₂, fun s hs hs₁ hs₂ => ?_⟩
  rw [htruth s hs, htruth₁ s hs₁, htruth₂ s hs₂]
  constructor
  · intro hin
    simp only [hin, reduceCtorEq, decide_false, Truth.signed, Bool.false_eq_true, if_false]
    exact listTruth_append_eq_yes htext hupper xs ys
  · intro hnot
    simp only [hnot, decide_true, Truth.signed, if_true, Truth.not_eq_yes]
    exact listTruth_append_eq_no htext hupper xs ys

section Regions

def regions (operator : FilterOperator) (values : List Json) : Filter where
  columnName := "Region"
  operator := operator
  values := values

/-- A region of the second part of a list is in the list. -/
theorem of?_append_second :
    ∃ r, of? (regions .isIn ([.string "us", .null] ++ [.string "eu"])) (named "Region" .string) 1
        = some r
      ∧ r.params = [.text "us", .text "eu"]
      ∧ plainValues.truth (saleRow (some (.text "EU")) [.text "us", .text "eu"]) r.expr = .yes := by
  obtain ⟨r, r₁, r₂, hr, hr₁, hr₂, htruth⟩ := of?_append (E := plainValues)
    (c := named "Region" .string) (f := regions .isIn []) rfl rfl (.inl rfl)
    (List.cons_ne_nil (.string "us") [.null]) (List.cons_ne_nil (.string "eu") []) 1 1 2
  cases hr
  cases hr₁
  cases hr₂
  have hin := (htruth (saleRow (some (.text "EU")) [.text "us", .text "eu"]) ⟨rfl, rfl, trivial⟩
    ⟨rfl, trivial⟩ ⟨rfl, trivial⟩).1 rfl
  refine ⟨_, rfl, rfl, hin.2 ⟨.inr ?_, nofun⟩⟩
  decide +kernel

/-- A row without a region is found by a blank alone, and no longer beside another region. -/
theorem of?_append_blank :
    ∃ r r₁ r₂, of? (regions .isIn ([.null] ++ [.string "eu"])) (named "Region" .string) 1 = some r
      ∧ of? (regions .isIn [.null]) (named "Region" .string) 1 = some r₁
      ∧ of? (regions .isIn [.string "eu"]) (named "Region" .string) 1 = some r₂
      ∧ (saleRow none [.text "eu"]).Binds 1 r.params ∧ (saleRow none [.text "eu"]).Binds 1 r₁.params
      ∧ (saleRow none [.text "eu"]).Binds 1 r₂.params
      ∧ plainValues.truth (saleRow none [.text "eu"]) r.expr ≠ .yes
      ∧ plainValues.truth (saleRow none [.text "eu"]) r₁.expr = .yes :=
  ⟨_, _, _, rfl, rfl, rfl, ⟨rfl, trivial⟩, trivial, ⟨rfl, trivial⟩, by decide +kernel,
    by decide +kernel⟩

end Regions

end Restriction

end Reporting
