/-!
# Steps that can fail

Steps that check one thing after another fail with the error of the first check that fails
(`Checks.bind`).
-/

namespace Reporting

variable {ε α β : Type}

theorem bind_eq_ok {x : Except ε α} {f : α → Except ε β} {b : β} :
    x >>= f = .ok b ↔ ∃ a, x = .ok a ∧ f a = .ok b := by
  cases x with
  | error e => simp [bind, Except.bind]
  | ok a => simp [bind, Except.bind]

theorem bind_eq_error {x : Except ε α} {f : α → Except ε β} {e : ε} :
    x >>= f = .error e ↔ x = .error e ∨ ∃ a, x = .ok a ∧ f a = .error e := by
  cases x with
  | error e' => simp [bind, Except.bind]
  | ok a => simp [bind, Except.bind]

theorem map_eq_ok {x : Except ε α} {f : α → β} {b : β} :
    x.map f = .ok b ↔ ∃ a, x = .ok a ∧ f a = b := by
  cases x with
  | error e => simp [Except.map]
  | ok a => simp [Except.map]

theorem elim_eq_ok {o : Option α} {e : ε} {a : α} :
    o.elim (.error e) .ok = Except.ok a ↔ o = some a := by
  cases o with
  | none => simp
  | some a' => simp

theorem elim_eq_error {o : Option α} {e e' : ε} :
    o.elim (.error e) .ok = (Except.error e' : Except ε α) ↔ o = none ∧ e' = e := by
  cases o with
  | none => simp [eq_comm]
  | some a => simp

theorem guard_eq_error {c : Prop} [Decidable c] {e e' : ε} {a : α} :
    (if c then .error e else .ok a) = (Except.error e' : Except ε α) ↔ c ∧ e' = e := by
  split
  · simp [*, eq_comm]
  · simp [*]

theorem pair_eq_ok {a : α} {x : Except ε β} {p : α × β} :
    (do return (a, ← x)) = Except.ok p ↔ ∃ b, x = .ok b ∧ p = (a, b) := by
  rw [bind_eq_ok]
  exact exists_congr fun b => and_congr_right fun _ => ⟨fun h => by cases h; rfl, fun h => h ▸ rfl⟩

/-- Steps that label what they give succeed over a list exactly if each of them does. -/
theorem mapM_pair_eq_ok {γ : Type} {x : α → Except ε β} {k : α → γ} {b : β} {l : List α}
    {l' : List (γ × β)} :
    (l.mapM fun a => do return (k a, ← x a)) = .ok l' ↔
      (∀ a ∈ l, ∃ b, x a = .ok b) ∧ l' = l.map fun a => (k a, (x a).toOption.getD b) := by
  induction l generalizing l' with
  | nil => simp [pure, Except.pure, eq_comm]
  | cons a l ih =>
    rw [List.mapM_cons, bind_eq_ok]
    simp only [pair_eq_ok, bind_eq_ok (x := List.mapM _ _), ih, List.forall_mem_cons, List.map_cons]
    constructor
    · rintro ⟨_, ⟨b', hx, rfl⟩, _, ⟨hl, rfl⟩, h⟩
      cases h
      exact ⟨⟨⟨b', hx⟩, hl⟩, by rw [hx]; rfl⟩
    · rintro ⟨⟨⟨b', hx⟩, hl⟩, rfl⟩
      exact ⟨_, ⟨b', hx, rfl⟩, _, ⟨hl, rfl⟩, by rw [hx]; rfl⟩

theorem exists_foldlM {f : β → α → Except ε β} :
    ∀ {l : List α}, (∀ b, ∀ a ∈ l, ∃ b', f b a = .ok b') → ∀ b, ∃ b', l.foldlM f b = .ok b'
  | [], _, b => ⟨b, rfl⟩
  | a :: l, h, b => by
    obtain ⟨b', hb'⟩ := h b a List.mem_cons_self
    obtain ⟨last, hlast⟩ := exists_foldlM (fun b a' ha' => h b a' (List.mem_cons_of_mem a ha')) b'
    exact ⟨last, by rw [List.foldlM_cons, hb']; exact hlast⟩

/-- What every step keeps holds at the end. -/
theorem foldlM_invariant {P : β → Prop} {f : β → α → Except ε β}
    (hstep : ∀ b a b', P b → f b a = .ok b' → P b') :
    ∀ {l : List α} {b b' : β}, P b → l.foldlM f b = .ok b' → P b'
  | [], b, b', hb, h => by
    cases h
    exact hb
  | a :: l, b, b', hb, h => by
    rw [List.foldlM_cons] at h
    obtain ⟨next, hnext, hrest⟩ := bind_eq_ok.1 h
    exact foldlM_invariant hstep (hstep b a next hb hnext) hrest

section Checks

variable {κ : Type} {fails : κ → ε → Prop} {check : κ} {checks checks' : List κ} {x : Except ε α}
  {e : ε}

/-- The failure of the first of the checks that fails. -/
def FirstFailure (fails : κ → ε → Prop) (checks : List κ) (e : ε) : Prop :=
  ∃ passed check rest, checks = passed ++ check :: rest ∧ fails check e
    ∧ ∀ c ∈ passed, ∀ e', ¬fails c e'

theorem not_firstFailure_nil : ¬FirstFailure fails [] e := by
  rintro ⟨passed, check, rest, h, -⟩
  simp at h

theorem firstFailure_cons : FirstFailure fails (check :: checks) e
    ↔ fails check e ∨ (∀ e', ¬fails check e') ∧ FirstFailure fails checks e := by
  constructor
  · rintro ⟨passed, c, rest, h, hc, hpassed⟩
    rcases passed with _ | ⟨c', passed⟩
    · cases h
      exact .inl hc
    · cases h
      rw [List.forall_mem_cons] at hpassed
      exact .inr ⟨hpassed.1, passed, c, rest, rfl, hc, hpassed.2⟩
  · rintro (h | ⟨hcheck, passed, c, rest, rfl, hc, hpassed⟩)
    · exact ⟨[], check, checks, rfl, h, by simp⟩
    · exact ⟨check :: passed, c, rest, rfl, hc, List.forall_mem_cons.2 ⟨hcheck, hpassed⟩⟩

theorem firstFailure_singleton : FirstFailure fails [check] e ↔ fails check e := by
  rw [firstFailure_cons]
  simp [not_firstFailure_nil]

theorem firstFailure_append : FirstFailure fails (checks ++ checks') e
    ↔ FirstFailure fails checks e
      ∨ (∀ c ∈ checks, ∀ e', ¬fails c e') ∧ FirstFailure fails checks' e := by
  induction checks with
  | nil => simp [not_firstFailure_nil]
  | cons check checks ih =>
    rw [List.cons_append, firstFailure_cons, firstFailure_cons, ih, List.forall_mem_cons,
      and_or_left, or_assoc, and_assoc]

theorem exists_firstFailure_iff :
    (∃ e, FirstFailure fails checks e) ↔ ∃ check ∈ checks, ∃ e, fails check e := by
  induction checks with
  | nil => simp [not_firstFailure_nil]
  | cons check checks ih =>
    simp only [firstFailure_cons, exists_or, exists_and_left, ih, List.mem_cons,
      exists_eq_or_imp]
    constructor
    · rintro (h | ⟨-, h⟩)
      · exact .inl h
      · exact .inr h
    · intro h
      by_cases hcheck : ∃ e, fails check e
      · exact .inl hcheck
      · exact .inr ⟨not_exists.1 hcheck, h.resolve_left hcheck⟩

/-- The computation fails with the error of the first of the checks that fails, and only so. -/
def Checks (fails : κ → ε → Prop) (checks : List κ) (x : Except ε α) : Prop :=
  ∀ e, x = .error e ↔ FirstFailure fails checks e

theorem checks_ok (h : ∀ c ∈ checks, ∀ e, ¬fails c e) (a : α) :
    Checks fails checks (.ok a : Except ε α) := by
  intro e
  constructor
  · intro he
    cases he
  · intro he
    rcases exists_firstFailure_iff.1 ⟨e, he⟩ with ⟨c, hc, e', hfails⟩
    exact absurd hfails (h c hc e')

theorem checks_nil (a : α) : Checks fails [] (.ok a : Except ε α) := checks_ok (by simp) a

theorem checks_singleton (h : ∀ e, x = .error e ↔ fails check e) : Checks fails [check] x := by
  intro e
  rw [h, firstFailure_singleton]

theorem Checks.passed (h : Checks fails checks x) {a : α} (hx : x = .ok a) :
    ∀ c ∈ checks, ∀ e, ¬fails c e := by
  intro c hc e hfails
  obtain ⟨e', he'⟩ := exists_firstFailure_iff.2 ⟨c, hc, e, hfails⟩
  cases hx.symm.trans ((h e').2 he')

/-- Checks go on behind those that have passed. -/
theorem Checks.bind {f : α → Except ε β} (h : Checks fails checks x)
    (hf : ∀ a, x = .ok a → Checks fails checks' (f a)) :
    Checks fails (checks ++ checks') (x >>= f) := by
  intro e
  rw [bind_eq_error, firstFailure_append, h e]
  refine or_congr Iff.rfl ⟨?_, ?_⟩
  · rintro ⟨a, hx, he⟩
    exact ⟨h.passed hx, (hf a hx e).1 he⟩
  · rintro ⟨hpassed, he⟩
    cases hx : x with
    | error e' =>
      obtain ⟨c, hc, e'', hfails⟩ := exists_firstFailure_iff.1 ⟨e', (h e').1 hx⟩
      exact absurd hfails (hpassed c hc e'')
    | ok a => exact ⟨a, rfl, (hf a hx e).2 he⟩

theorem Checks.map (h : Checks fails checks x) (f : α → β) :
    Checks fails checks (do return f (← x)) := by
  rw [← List.append_nil checks]
  exact h.bind fun a _ => checks_nil (f a)

end Checks

end Reporting
