/-!
# Truth values of a condition

A condition on a row holds, does not hold, or cannot be told because of missing values.
-/

namespace Reporting.Sql

inductive Truth
  | no
  | unknown
  | yes
deriving DecidableEq, Repr

namespace Truth

def and : Truth → Truth → Truth
  | no, _ | _, no => no
  | yes, yes => yes
  | _, _ => unknown

def or : Truth → Truth → Truth
  | yes, _ | _, yes => yes
  | no, no => no
  | _, _ => unknown

def not : Truth → Truth
  | no => yes
  | unknown => unknown
  | yes => no

def ofBool (b : Bool) : Truth := if b then yes else no

/-- A condition or, if it is negated, its opposite. -/
def signed (negated : Bool) (t : Truth) : Truth := if negated then t.not else t

@[simp] theorem not_eq_yes {a : Truth} : a.not = yes ↔ a = no := by cases a <;> simp [not]

@[simp] theorem not_eq_unknown {a : Truth} : a.not = unknown ↔ a = unknown := by
  cases a <;> simp [not]

theorem not_ofBool (b : Bool) : (ofBool b).not = ofBool !b := by cases b <;> rfl

@[simp] theorem ofBool_eq_yes {b : Bool} : ofBool b = yes ↔ b = true := by cases b <;> simp [ofBool]

@[simp] theorem and_eq_yes {a b : Truth} : a.and b = yes ↔ a = yes ∧ b = yes := by
  cases a <;> cases b <;> simp [and]

@[simp] theorem or_eq_yes {a b : Truth} : a.or b = yes ↔ a = yes ∨ b = yes := by
  cases a <;> cases b <;> simp [or]

@[simp] theorem ofBool_ne_unknown {b : Bool} : ofBool b ≠ unknown := by cases b <;> simp [ofBool]

@[simp] theorem or_eq_no {a b : Truth} : a.or b = no ↔ a = no ∧ b = no := by
  cases a <;> cases b <;> simp [or]

theorem ofBool_and (a b : Bool) : (ofBool a).and (ofBool b) = ofBool (a && b) := by
  cases a <;> cases b <;> rfl

theorem signed_ofBool (negated b : Bool) : signed negated (ofBool b) = ofBool (negated ^^ b) := by
  cases negated <;> cases b <;> rfl

theorem signed_unknown (negated : Bool) : signed negated unknown = unknown := by
  cases negated <;> rfl

theorem and_assoc (a b c : Truth) : (a.and b).and c = a.and (b.and c) := by
  cases a <;> cases b <;> cases c <;> rfl

theorem or_assoc (a b c : Truth) : (a.or b).or c = a.or (b.or c) := by
  cases a <;> cases b <;> cases c <;> rfl

@[simp] theorem yes_and (a : Truth) : yes.and a = a := by cases a <;> rfl

@[simp] theorem and_yes (a : Truth) : a.and yes = a := by cases a <;> rfl

@[simp] theorem or_no (a : Truth) : a.or no = a := by cases a <;> rfl

@[simp] theorem no_or (a : Truth) : no.or a = a := by cases a <;> rfl

/-- Whether all of some conditions hold. -/
def all (ts : List Truth) : Truth := ts.foldr and yes

/-- Whether one of some conditions holds. -/
def any (ts : List Truth) : Truth := ts.foldr or no

@[simp] theorem all_cons (t : Truth) (ts : List Truth) : all (t :: ts) = t.and (all ts) := rfl

@[simp] theorem any_cons (t : Truth) (ts : List Truth) : any (t :: ts) = t.or (any ts) := rfl

theorem all_append (ts us : List Truth) : all (ts ++ us) = (all ts).and (all us) := by
  induction ts with
  | nil => simp [all]
  | cons t ts ih => rw [List.cons_append, all_cons, all_cons, ih, and_assoc]

theorem any_append (ts us : List Truth) : any (ts ++ us) = (any ts).or (any us) := by
  induction ts with
  | nil => exact (no_or (any us)).symm
  | cons t ts ih => rw [List.cons_append, any_cons, any_cons, ih, or_assoc]

theorem all_eq_yes {ts : List Truth} : all ts = yes ↔ ∀ t ∈ ts, t = yes := by
  induction ts with
  | nil => simp [all]
  | cons t ts ih => simp [ih]

theorem any_eq_yes {ts : List Truth} : any ts = yes ↔ yes ∈ ts := by
  induction ts with
  | nil => simp [any]
  | cons t ts ih => rw [any_cons, or_eq_yes, ih, List.mem_cons, eq_comm]

theorem any_eq_no {ts : List Truth} : any ts = no ↔ ∀ t ∈ ts, t = no := by
  induction ts with
  | nil => simp [any]
  | cons t ts ih => simp [ih]

theorem any_eq_unknown {ts : List Truth} (h : ∀ t ∈ ts, t = unknown) (hne : ts ≠ []) :
    any ts = unknown := by
  cases ht : any ts with
  | unknown => rfl
  | yes => exact absurd (h yes (any_eq_yes.1 ht)) (by decide)
  | no =>
    obtain ⟨t, hmem⟩ := List.exists_mem_of_ne_nil ts hne
    exact absurd ((h t hmem).symm.trans (any_eq_no.1 ht t hmem)) (by decide)

theorem any_ne_unknown : ∀ {ts : List Truth}, (∀ t ∈ ts, t ≠ unknown) → any ts ≠ unknown
  | [], _ => by decide
  | t :: ts, h => by
    have ht := h t List.mem_cons_self
    have hts := any_ne_unknown fun t' ht' => h t' (List.mem_cons_of_mem _ ht')
    rw [any_cons]
    cases t <;> cases hany : any ts <;> simp_all [or]

end Truth

end Reporting.Sql
