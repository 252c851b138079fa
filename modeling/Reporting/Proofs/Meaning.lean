import Reporting.Proofs.Truth
import Reporting.Sql.Expr

/-!
# What expressions mean

On one row of a result every expression has a value or is null (`Engine.value`). A condition is as
true as its value (`Engine.truth`), so nothing is known of a condition on a null.
-/

namespace Reporting.Sql

/-- What a database makes of values, which are the elements of `α`; a null is none of them. -/
structure Engine (α : Type) where
  bound : Parameter → Option α
  order : α → α → Ordering
  like : α → α → Bool
  join : α → α → α
  call : String → List (Option α) → Option α
  ofBool : Bool → α
  isTrue : α → Bool
  isTrue_ofBool : ∀ b, isTrue (ofBool b) = b

/-- A row, and the values that are bound to the query. -/
structure Site (α : Type) where
  column : Option String → String → Option α
  raw : String → Option α
  subquery : SelectQuery → Option α
  params : List Parameter

/-- The values stand at the places from `place` on. -/
def Site.Binds {α : Type} (s : Site α) (place : Nat) : List Parameter → Prop
  | [] => True
  | p :: rest => s.params[place]? = some p ∧ s.Binds (place + 1) rest

namespace Engine

variable {α : Type} (E : Engine α) (s : Site α)

def holds : Comparison → α → α → Bool
  | .equal, a, b => E.order a b = .eq
  | .notEqual, a, b => E.order a b ≠ .eq
  | .greater, a, b => E.order a b = .gt
  | .greaterEqual, a, b => E.order a b ≠ .lt
  | .less, a, b => E.order a b = .lt
  | .lessEqual, a, b => E.order a b ≠ .gt
  | .like, a, b => E.like a b
  | .notLike, a, b => !E.like a b

/-- Nothing can be told of a null. -/
def comparison (op : Comparison) : Option α → Option α → Truth
  | some a, some b => .ofBool (E.holds op a b)
  | _, _ => .unknown

def truthOf : Option α → Truth
  | some a => .ofBool (E.isTrue a)
  | none => .unknown

def ofTruth : Truth → Option α
  | .yes => some (E.ofBool true)
  | .no => some (E.ofBool false)
  | .unknown => none

theorem truthOf_ofTruth (t : Truth) : E.truthOf (E.ofTruth t) = t := by
  cases t <;> simp [ofTruth, truthOf, E.isTrue_ofBool, Truth.ofBool]

def membership (v : Option α) (list : List (Option α)) : Truth :=
  .any (list.map (E.comparison .equal v))

mutual

def value : Expr → Option α
  | .column table name => s.column table name
  | .raw sql => s.raw sql
  | .literal p => E.bound p
  | .placeholder index => s.params[index]?.bind E.bound
  | .call name args => E.call name (values args)
  | .concat parts => ((values parts).mapM id).bind fun vs => vs.head?.map (vs.tail.foldl E.join)
  | .subquery query => s.subquery query
  -- the query has one row, the null, or none, which is null as well
  | .nullProbe e => if (value e).isNone then value e else none
  | .compare op left right => E.ofTruth (E.comparison op (value left) (value right))
  | .inList e list negated => E.ofTruth (.signed negated (E.membership (value e) (values list)))
  | .between e low high negated =>
    E.ofTruth (.signed negated
      ((E.comparison .greaterEqual (value e) (value low)).and
        (E.comparison .lessEqual (value e) (value high))))
  | .isNull e negated => E.ofTruth (.signed negated (.ofBool (value e).isNone))
  | .or parts => E.ofTruth (.any ((values parts).map E.truthOf))
  | .and parts => E.ofTruth (.all ((values parts).map E.truthOf))
  | .nested e => value e

def values : List Expr → List (Option α)
  | [] => []
  | e :: es => value e :: values es

end

def truth (e : Expr) : Truth := E.truthOf (E.value s e)

theorem values_eq_map (es : List Expr) : E.values s es = es.map (E.value s) := by
  induction es with
  | nil => rfl
  | cons e es ih => rw [values, ih, List.map_cons]

variable {E s}

theorem value_placeholder {place : Nat} {p : Parameter} {rest : List Parameter}
    (h : s.Binds place (p :: rest)) : E.value s (.placeholder place) = E.bound p := by
  change s.params[place]?.bind E.bound = E.bound p
  rw [h.1, Option.bind_some]

/-- Conditions are as true as what their values say. -/
theorem truth_of_value {e : Expr} {t : Truth} (h : E.value s e = E.ofTruth t) :
    E.truth s e = t := by
  rw [truth, h, truthOf_ofTruth]

@[simp] theorem truth_nested (e : Expr) : E.truth s (.nested e) = E.truth s e := rfl

@[simp] theorem truth_compare (op : Comparison) (left right : Expr) :
    E.truth s (.compare op left right) = E.comparison op (E.value s left) (E.value s right) :=
  truth_of_value rfl

@[simp] theorem truth_inList (e : Expr) (list : List Expr) (negated : Bool) :
    E.truth s (.inList e list negated)
      = .signed negated (E.membership (E.value s e) (list.map (E.value s))) := by
  rw [← values_eq_map]
  exact truth_of_value rfl

@[simp] theorem truth_between (e low high : Expr) (negated : Bool) :
    E.truth s (.between e low high negated) = .signed negated
      ((E.comparison .greaterEqual (E.value s e) (E.value s low)).and
        (E.comparison .lessEqual (E.value s e) (E.value s high))) :=
  truth_of_value rfl

@[simp] theorem truth_isNull (e : Expr) (negated : Bool) :
    E.truth s (.isNull e negated) = .signed negated (.ofBool (E.value s e).isNone) :=
  truth_of_value rfl

@[simp] theorem truth_or (parts : List Expr) :
    E.truth s (.or parts) = .any (parts.map (E.truth s)) := by
  have hparts : (E.values s parts).map E.truthOf = parts.map (E.truth s) := by
    rw [values_eq_map, List.map_map]
    rfl
  rw [← hparts]
  exact truth_of_value rfl

/-- The probe for a null is never true. -/
@[simp] theorem truth_nullProbe (e : Expr) : E.truth s (.nullProbe e) = .unknown := by
  change E.truthOf (if (E.value s e).isNone then E.value s e else none) = .unknown
  cases E.value s e <;> rfl

theorem comparison_eq_yes {op : Comparison} {v w : Option α} :
    E.comparison op v w = .yes ↔ ∃ a ∈ v, ∃ b ∈ w, E.holds op a b := by
  cases v <;> cases w <;> simp [comparison]

theorem comparison_eq_unknown {op : Comparison} {v w : Option α} :
    E.comparison op v w = .unknown ↔ v = none ∨ w = none := by
  cases v <;> cases w <;> simp [comparison]

theorem comparison_notEqual (a b : Option α) :
    E.comparison .notEqual a b = (E.comparison .equal a b).not := by
  cases a <;> cases b
  case some.some => simp [comparison, holds, Truth.not_ofBool]
  all_goals rfl

theorem comparison_notLike (a b : Option α) :
    E.comparison .notLike a b = (E.comparison .like a b).not := by
  cases a <;> cases b
  case some.some => simp [comparison, holds, Truth.not_ofBool]
  all_goals rfl

section Membership

variable {v : Option α} {list : List (Option α)}

/-- Membership in a list put together from two. -/
theorem membership_append (v : Option α) (list list' : List (Option α)) :
    E.membership v (list ++ list') = (E.membership v list).or (E.membership v list') := by
  rw [membership, List.map_append, Truth.any_append]
  rfl

theorem membership_eq_yes :
    E.membership v list = .yes ↔ ∃ a ∈ v, ∃ w ∈ list, ∃ b ∈ w, E.order a b = .eq := by
  rw [membership, Truth.any_eq_yes, List.mem_map]
  cases v with
  | none => simp [comparison]
  | some a => simp [comparison_eq_yes, holds]

/-- Nothing is left out of a list unless each of its elements is known. -/
theorem membership_eq_no (hne : list ≠ []) :
    E.membership v list = .no ↔ ∃ a ∈ v, ∀ w ∈ list, ∃ b ∈ w, E.order a b ≠ .eq := by
  rw [membership, Truth.any_eq_no, List.forall_mem_map]
  cases v with
  | none =>
    obtain ⟨w, hw⟩ := List.exists_mem_of_ne_nil list hne
    simpa [comparison] using ⟨w, hw⟩
  | some a =>
    have hno (w : Option α) : E.comparison .equal (some a) w = .no
        ↔ ∃ b ∈ w, E.order a b ≠ .eq := by
      cases w with
      | none => simp [comparison]
      | some b => simp [comparison, holds, Truth.ofBool]
    simp [hno]

theorem membership_eq_unknown (hne : list ≠ []) (hlist : none ∉ list) :
    E.membership v list = .unknown ↔ v = none := by
  rw [membership]
  cases v with
  | none =>
    refine iff_of_true (Truth.any_eq_unknown ?_ (by simpa using hne)) rfl
    simp [comparison]
  | some a =>
    refine iff_of_false (Truth.any_ne_unknown ?_) nofun
    rintro t ht
    obtain ⟨w, hw, rfl⟩ := List.mem_map.1 ht
    rw [Ne, comparison_eq_unknown]
    rintro (h | rfl)
    · cases h
    · exact hlist hw

end Membership

end Engine

end Reporting.Sql
