import Mathlib.Data.Option.Basic
import Mathlib.Tactic.ByContra
import Reporting.Proofs.Negation

/-!
# What filters ask for

A filter with given operands becomes a condition that holds of the values its operator asks for
(`Filter.Admits`). As long as every operand converts to a parameter, the condition is undecided on
rows without a value and on no others (`Restriction.yes_iff_admits`).
-/

namespace Reporting

open Sql (Comparison Engine Expr Site Truth)

variable {α : Type}

/-- Only the null parameter is null, and capitals are taken of each value. -/
structure Sql.Engine.Lawful (E : Engine α) (upper : α → α) : Prop where
  bound_eq_none_iff : ∀ p, E.bound p = none ↔ p = .null
  call_upper : ∀ v, E.call "UPPER" [v] = v.map upper

theorem Sql.Engine.Lawful.exists_bound {E : Engine α} {upper : α → α} (hE : E.Lawful upper)
    {p : Parameter} (hp : p ≠ .null) : ∃ b, E.bound p = some b :=
  Option.ne_none_iff_exists'.1 fun h => hp ((hE.bound_eq_none_iff p).1 h)

namespace Filter

open Restriction (isBlank isText textOf valueOf)

/-- The operands that the operator looks at; a range may lack one of its bounds. -/
def given (f : Filter) : List Json :=
  match f.operator with
  | .isIn | .notIn => f.values
  | .between | .notBetween => [f.fromValue, f.toValue].filter (!·.isNull)
  | .null | .notNull => []
  | _ => [f.value]

/-- The parameter for an operand: text for a text column and in a search, otherwise as the column
expects it. -/
def converted (f : Filter) (t : DisplayType) (j : Json) : Parameter :=
  match f.operator with
  | .equal | .notEqual | .isIn | .notIn => valueOf t t.isText j
  | .like | .notLike => .text (textOf j)
  | _ => .forDisplayType t j

/-- The operands are given. They are no blanks on a text column, and a list of another column has no
texts. -/
structure Ordinary (f : Filter) (t : DisplayType) : Prop where
  ne_nil : f.operator ≠ .null → f.operator ≠ .notNull → f.given ≠ []
  not_blank : ∀ j ∈ f.given, isBlank t.isText j = false
  not_text : f.operator = .isIn ∨ f.operator = .notIn → t.isText = false →
    ∀ j ∈ f.given, isText j = false

/-- No operand is outside the parameters. -/
def Converts (f : Filter) (t : DisplayType) : Prop := ∀ j ∈ f.given, f.converted t j ≠ .null

def isRange (f : Filter) : Bool := f.operator = .between || f.operator = .notBetween

/-- A text in capitals. -/
def capitals (upper : α → α) (t : DisplayType) (a : α) : α := if t.isText then upper a else a

/-- What the operator asks of a value. A range without one of its bounds is that of the other one,
and so is its opposite. -/
def Admits (E : Engine α) (upper : α → α) (f : Filter) (t : DisplayType) (a : α) : Prop :=
  let bound j := E.bound (f.converted t j)
  let order b := E.order (capitals upper t a) (capitals upper t b)
  match f.operator with
  | .equal => ∃ b ∈ bound f.value, order b = .eq
  | .notEqual => ∃ b ∈ bound f.value, order b ≠ .eq
  | .isIn => ∃ j ∈ f.values, ∃ b ∈ bound j, order b = .eq
  | .notIn => ∀ j ∈ f.values, ∃ b ∈ bound j, order b ≠ .eq
  | .between =>
    (f.fromValue.isNull = false → ∃ b ∈ bound f.fromValue, E.order a b ≠ .lt)
      ∧ (f.toValue.isNull = false → ∃ b ∈ bound f.toValue, E.order a b ≠ .gt)
  | .notBetween =>
    if f.fromValue.isNull then ∃ b ∈ bound f.toValue, E.order a b ≠ .gt
    else if f.toValue.isNull then ∃ b ∈ bound f.fromValue, E.order a b ≠ .lt
    else (∃ b ∈ bound f.fromValue, E.order a b = .lt) ∨ ∃ b ∈ bound f.toValue, E.order a b = .gt
  | .like =>
    ∃ any ∈ E.bound (.text "%"), ∃ b ∈ bound f.value,
      E.like (upper a) (E.join (E.join any (upper b)) any) = true
  | .notLike =>
    ∃ any ∈ E.bound (.text "%"), ∃ b ∈ bound f.value,
      E.like (upper a) (E.join (E.join any (upper b)) any) = false
  | .null => False
  | .notNull => True
  | .greater => ∃ b ∈ bound f.value, E.order a b = .gt
  | .greaterEqual => ∃ b ∈ bound f.value, E.order a b ≠ .lt
  | .less => ∃ b ∈ bound f.value, E.order a b = .lt
  | .lessEqual => ∃ b ∈ bound f.value, E.order a b ≠ .gt

end Filter

namespace Restriction

open Reporting.Filter (capitals)

variable {E : Engine α} {upper : α → α} {s : Site α} {c : QueryColumn} {place : Nat}

/-- The condition holds of the values that are admitted. It is undecided only without a value,
provided that the operands convert. -/
structure Tells (E : Engine α) (s : Site α) (e : Expr) (v : Option α) (admits : α → Prop)
    (converts : Prop) : Prop where
  yes_iff : E.truth s e = .yes ↔ ∃ a ∈ v, admits a
  unknown_iff : converts → (E.truth s e = .unknown ↔ v = none)

theorem Tells.congr {e : Expr} {v : Option α} {admits admits' : α → Prop}
    {converts converts' : Prop} (h : Tells E s e v admits converts)
    (ha : ∀ a, admits' a ↔ admits a) (hc : converts' → converts) :
    Tells E s e v admits' converts' where
  yes_iff := by simp only [h.yes_iff, ha]
  unknown_iff h' := h.unknown_iff (hc h')

variable (hE : E.Lawful upper)

include hE in
theorem casedValue_eq_map (t : DisplayType) (v : Option α) :
    casedValue E t.isText v = v.map (capitals upper t) := by
  have hcapitals : capitals upper t = if t.isText then upper else id := by
    funext a
    rw [capitals]
    split <;> rfl
  rw [casedValue, hcapitals]
  split
  · exact hE.call_upper v
  · rw [Option.map_id]
    rfl

include hE in
/-- A comparison of values that are both seen through a function. -/
theorem tells_compare {op : Comparison} {left right : Expr} {v : Option α} {p : Parameter}
    {g g' : α → α} (hleft : E.value s left = v.map g)
    (hright : E.value s right = (E.bound p).map g') :
    Tells E s (.compare op left right) v (fun a => ∃ b ∈ E.bound p, E.holds op (g a) (g' b))
      (p ≠ .null) where
  yes_iff := by
    rw [Engine.truth_compare, Engine.comparison_eq_yes, hleft, hright]
    cases v <;> cases E.bound p <;> simp
  unknown_iff hp := by
    obtain ⟨b, hbound⟩ := hE.exists_bound hp
    rw [Engine.truth_compare, Engine.comparison_eq_unknown, hleft, hright, hbound]
    simp

include hE in
theorem tells_comparison {op : Comparison} {p : Parameter} (hb : s.Binds place [p]) :
    Tells E s (.compare op c.expr (.placeholder place)) (E.value s c.expr)
      (fun a => ∃ b ∈ E.bound p, E.holds op a b) (p ≠ .null) :=
  tells_compare hE (show _ = (E.value s c.expr).map id by simp)
    (show _ = (E.bound p).map id by simp [Engine.value_placeholder hb])

include hE in
theorem tells_equality {op : Comparison} {j : Json}
    (hblank : isBlank c.displayType.isText j = false)
    (hb : s.Binds place (equality c place op j).params) :
    Tells E s (equality c place op j).expr (E.value s c.expr)
      (fun a => ∃ b ∈ E.bound (valueOf c.displayType c.displayType.isText j),
        E.holds op (capitals upper c.displayType a) (capitals upper c.displayType b))
      (valueOf c.displayType c.displayType.isText j ≠ .null) := by
  have hequality : equality c place op j = ⟨.compare op (cased c.displayType.isText c.expr)
      (cased c.displayType.isText (.placeholder place)),
      [valueOf c.displayType c.displayType.isText j]⟩ := by
    rw [equality_eq, hblank]
    simp [valueOf]
  rw [hequality] at hb ⊢
  apply tells_compare hE
  · rw [value_cased, casedValue_eq_map hE]
  · rw [value_cased, casedValue_eq_map hE, Engine.value_placeholder hb]

include hE in
theorem tells_search {op : Comparison} {j : Json} (hpattern : patternOf j = textOf j)
    (hb : s.Binds place (search c place op j).params) :
    Tells E s (search c place op j).expr (E.value s c.expr)
      (fun a => ∃ any ∈ E.bound (.text "%"), ∃ b ∈ E.bound (.text (textOf j)),
        E.holds op (upper a) (E.join (E.join any (upper b)) any)) True := by
  rw [search, hpattern] at hb
  have hupper (e : Expr) : E.value s (.upper e) = (E.value s e).map upper := hE.call_upper _
  obtain ⟨any, hany⟩ := hE.exists_bound (p := .text "%") (by simp)
  obtain ⟨b, hbound⟩ := hE.exists_bound (p := .text (textOf j)) (by simp)
  have htext : E.value s (.text "%") = some any := hany
  have hconcat : E.value s (.concat [.text "%", .upper (.placeholder place), .text "%"])
      = some (E.join (E.join any (upper b)) any) := by
    rw [Engine.value, Engine.values_eq_map]
    simp only [List.map_cons, List.map_nil, hupper, htext, Engine.value_placeholder hb, hbound]
    rfl
  constructor
  · rw [search, Engine.truth_compare, Engine.comparison_eq_yes, hupper, hconcat, hany, hbound]
    cases E.value s c.expr <;> simp
  · intro _
    rw [search, Engine.truth_compare, Engine.comparison_eq_unknown, hupper, hconcat]
    simp

section Range

variable {low high : Parameter} {negated : Bool} {r : Restriction}

/-- What a range asks of a value, as far as it has bounds. -/
def inRange (E : Engine α) (low high : Parameter) (a : α) : Prop :=
  (∀ b ∈ E.bound low, E.order a b ≠ .lt) ∧ ∀ b ∈ E.bound high, E.order a b ≠ .gt

theorem isNull_iff {p : Parameter} : p.isNull ↔ p = .null := by
  cases p <;> simp [Parameter.isNull]

theorem tells_between {b b' : α} (hlow : E.bound low = some b) (hhigh : E.bound high = some b')
    (hb : s.Binds place [low, high]) :
    Tells E s (.between c.expr (.placeholder place) (.placeholder (place + 1)) negated)
      (E.value s c.expr)
      (fun a => (negated ^^ decide (E.order a b ≠ .lt ∧ E.order a b' ≠ .gt)) = true) True := by
  have htruth : E.truth s (.between c.expr (.placeholder place) (.placeholder (place + 1)) negated)
      = (E.value s c.expr).elim .unknown fun a =>
        .ofBool (negated ^^ decide (E.order a b ≠ .lt ∧ E.order a b' ≠ .gt)) := by
    rw [Engine.truth_between, Engine.value_placeholder hb, Engine.value_placeholder hb.2, hlow,
      hhigh]
    cases E.value s c.expr with
    | none => exact Truth.signed_unknown negated
    | some a => simp [Engine.comparison, Engine.holds, Truth.ofBool_and, Truth.signed_ofBool]
  constructor
  · rw [htruth]
    cases E.value s c.expr <;> simp
  · intro _
    rw [htruth]
    cases E.value s c.expr <;> simp

include hE in
theorem tells_range (h : range c place negated low high = some r) (hb : s.Binds place r.params) :
    Tells E s r.expr (E.value s c.expr)
      (fun a => if negated ∧ low ≠ .null ∧ high ≠ .null then ¬inRange E low high a
        else inRange E low high a) True := by
  by_cases hlow : low = .null <;> by_cases hhigh : high = .null
  · subst hlow hhigh
    cases h
  · obtain ⟨b, hbound⟩ := hE.exists_bound hhigh
    rw [range, isNull_iff.2 hlow, Bool.eq_false_iff.2 (mt isNull_iff.1 hhigh)] at h
    cases h
    refine (tells_comparison hE hb).congr (fun a => ?_) fun _ => hhigh
    have hnone := (hE.bound_eq_none_iff low).2 hlow
    rw [if_neg fun h => h.2.1 hlow, inRange, hnone, hbound]
    simp [Engine.holds]
  · obtain ⟨b, hbound⟩ := hE.exists_bound hlow
    rw [range, isNull_iff.2 hhigh, Bool.eq_false_iff.2 (mt isNull_iff.1 hlow)] at h
    cases h
    refine (tells_comparison hE hb).congr (fun a => ?_) fun _ => hlow
    have hnone := (hE.bound_eq_none_iff high).2 hhigh
    rw [if_neg fun h => h.2.2 hhigh, inRange, hnone, hbound]
    simp [Engine.holds]
  · obtain ⟨b, hbound⟩ := hE.exists_bound hlow
    obtain ⟨b', hbound'⟩ := hE.exists_bound hhigh
    rw [range, Bool.eq_false_iff.2 (mt isNull_iff.1 hlow),
      Bool.eq_false_iff.2 (mt isNull_iff.1 hhigh)] at h
    cases h
    refine (tells_between hbound hbound' hb).congr (fun a => ?_) id
    cases negated
      <;> simp [inRange, hbound, hbound', hlow, hhigh, Decidable.or_iff_not_imp_left]

theorem exists_range (c : QueryColumn) (place : Nat) (negated : Bool)
    (h : low ≠ .null ∨ high ≠ .null) :
    ∃ r, range c place negated low high = some r := by
  cases hlow : low.isNull <;> cases hhigh : high.isNull
  case true.true => simp [isNull_iff.1 hlow, isNull_iff.1 hhigh] at h
  all_goals exact ⟨_, by rw [range, hlow, hhigh]⟩

end Range

section Lists

variable {values : List Json} {negated : Bool}

/-- Operands of the column's own kind are all compared alike. -/
theorem entries_of_ordinary {t : DisplayType} (hblank : ∀ j ∈ values, isBlank t.isText j = false)
    (htext : t.isText = false → ∀ j ∈ values, isText j = false) :
    entries t values = values.map fun j => (t.isText, valueOf t t.isText j) := by
  have hkind : ∀ j ∈ values, (t.isText || isText j) = t.isText := by
    intro j hj
    cases ht : t.isText
    · exact htext ht j hj
    · rfl
  have hall : values.filter (fun j => !isBlank (t.isText || isText j) j) = values := by
    rw [List.filter_eq_self]
    intro j hj
    rw [hkind j hj, hblank j hj]
    rfl
  rw [entries, hall]
  exact List.map_congr_left fun j hj => by rw [hkind j hj]

theorem membership_of_ordinary (hne : values ≠ [])
    (hblank : ∀ j ∈ values, isBlank c.displayType.isText j = false)
    (htext : c.displayType.isText = false → ∀ j ∈ values, isText j = false) :
    membership c place negated values
      = some ⟨.inList (cased c.displayType.isText c.expr)
          ((listOf c.displayType place values).map (·.2.1)) negated,
        values.map (valueOf c.displayType c.displayType.isText)⟩ := by
  have hentries := (entries_listOf c.displayType values place).trans
    (entries_of_ordinary hblank htext)
  have hempty : (listOf c.displayType place values).isEmpty = false := by
    rw [← List.isEmpty_map, hentries]
    simpa using hne
  have hany : (listOf c.displayType place values).any (·.1) = c.displayType.isText := by
    have : (listOf c.displayType place values).any (·.1)
        = ((listOf c.displayType place values).map fun e => (e.1, e.2.2)).any Prod.fst := by
      rw [List.any_map]
      rfl
    rw [this, hentries, List.any_map]
    obtain ⟨j, hj⟩ := List.exists_mem_of_ne_nil values hne
    cases ht : c.displayType.isText
    · simp
    · simpa using ⟨j, hj⟩
  have hparams : (listOf c.displayType place values).map (·.2.2)
      = values.map (valueOf c.displayType c.displayType.isText) := by
    have := congrArg (List.map Prod.snd) hentries
    rwa [List.map_map, List.map_map] at this
  have hnone : (values.any fun j => isBlank (c.displayType.isText || isText j) j) = false := by
    rw [List.any_eq_false]
    intro j hj
    have hj' : (c.displayType.isText || isText j) = c.displayType.isText := by
      cases ht : c.displayType.isText
      · exact htext ht j hj
      · rfl
    simp [hj', hblank j hj]
  rw [membership]
  simp only [hempty, hany, hparams, hnone, Bool.false_eq_true, if_false]
  rfl

include hE in
theorem tells_membership (hne : values ≠ [])
    (hblank : ∀ j ∈ values, isBlank c.displayType.isText j = false)
    (htext : c.displayType.isText = false → ∀ j ∈ values, isText j = false)
    (hb : s.Binds place (values.map (valueOf c.displayType c.displayType.isText))) :
    Tells E s (.inList (cased c.displayType.isText c.expr)
        ((listOf c.displayType place values).map (·.2.1)) negated) (E.value s c.expr)
      (fun a => if negated then
          ∀ j ∈ values, ∃ b ∈ E.bound (valueOf c.displayType c.displayType.isText j),
            E.order (capitals upper c.displayType a) (capitals upper c.displayType b) ≠ .eq
        else ∃ j ∈ values, ∃ b ∈ E.bound (valueOf c.displayType c.displayType.isText j),
          E.order (capitals upper c.displayType a) (capitals upper c.displayType b) = .eq)
      (∀ j ∈ values, valueOf c.displayType c.displayType.isText j ≠ .null) := by
  have hentries := entries_of_ordinary hblank htext
  have hvalues : ((listOf c.displayType place values).map (·.2.1)).map (E.value s)
      = values.map fun j => (E.bound (valueOf c.displayType c.displayType.isText j)).map
          (capitals upper c.displayType) := by
    have hbinds : s.Binds place ((entries c.displayType values).map Prod.snd) := by
      rw [hentries, List.map_map]
      exact hb
    rw [List.map_map]
    refine (values_listOf hbinds).trans ?_
    rw [hentries, List.map_map]
    exact List.map_congr_left fun j _ => casedValue_eq_map hE _ _
  have htruth : E.truth s (.inList (cased c.displayType.isText c.expr)
        ((listOf c.displayType place values).map (·.2.1)) negated)
      = .signed negated (E.membership ((E.value s c.expr).map (capitals upper c.displayType))
          (values.map fun j => (E.bound (valueOf c.displayType c.displayType.isText j)).map
            (capitals upper c.displayType))) := by
    rw [Engine.truth_inList, value_cased, casedValue_eq_map hE, hvalues]
  have hne' : (values.map fun j =>
      (E.bound (valueOf c.displayType c.displayType.isText j)).map
        (capitals upper c.displayType)) ≠ [] := by
    simpa using hne
  constructor
  · rw [htruth]
    cases negated
    · rw [Truth.signed, if_neg Bool.false_ne_true, Engine.membership_eq_yes]
      simp only [Option.exists_mem_map, List.mem_map, exists_exists_and_eq_and, Bool.false_eq_true,
        if_false]
    · rw [Truth.signed, if_pos rfl, Truth.not_eq_yes, Engine.membership_eq_no hne']
      simp only [Option.exists_mem_map, List.forall_mem_map, if_true]
  · intro hconverts
    have hsome : none ∉ values.map fun j =>
        (E.bound (valueOf c.displayType c.displayType.isText j)).map
          (capitals upper c.displayType) := by
      simpa [hE.bound_eq_none_iff] using hconverts
    have hunknown := Engine.membership_eq_unknown (E := E)
      (v := (E.value s c.expr).map (capitals upper c.displayType)) hne' hsome
    rw [htruth]
    cases negated
    · rw [Truth.signed, if_neg Bool.false_ne_true, hunknown, Option.map_eq_none_iff]
    · rw [Truth.signed, if_pos rfl, Truth.not_eq_unknown, hunknown, Option.map_eq_none_iff]

end Lists

section Operators

variable {f : Filter}

theorem operator_of_isRange (hrange : f.isRange) :
    f.operator = .between ∨ f.operator = .notBetween := by
  simpa [Filter.isRange] using hrange

theorem ne_null_of_converts {t : DisplayType} (hrange : f.isRange) (h : f.Converts t) {j : Json}
    (hj : j ∈ [f.fromValue, f.toValue]) (hgiven : j.isNull = false) :
    Parameter.forDisplayType t j ≠ .null := by
  have hmem : j ∈ [f.fromValue, f.toValue].filter (!·.isNull) :=
    List.mem_filter.2 ⟨hj, by rw [hgiven]; rfl⟩
  unfold Filter.Converts Filter.given Filter.converted at h
  rcases operator_of_isRange hrange with hop | hop <;> rw [hop] at h <;> exact h j hmem

/-- A bound is missing or has a value. -/
theorem bound_cases (hE : E.Lawful upper) {t : DisplayType} (hrange : f.isRange)
    (h : f.Converts t) {j : Json} (hj : j ∈ [f.fromValue, f.toValue]) :
    (j.isNull = true ∧ Parameter.forDisplayType t j = .null)
      ∨ j.isNull = false ∧ Parameter.forDisplayType t j ≠ .null
        ∧ ∃ b, E.bound (.forDisplayType t j) = some b := by
  cases hgiven : j.isNull
  · have hne := ne_null_of_converts hrange h hj hgiven
    exact .inr ⟨rfl, hne, hE.exists_bound hne⟩
  · exact .inl ⟨rfl, by rw [Parameter.forDisplayType, if_pos hgiven]⟩

include hE in
theorem admits_range (t : DisplayType) (hrange : f.isRange) (h : f.Converts t)
    (hgiven : f.fromValue.isNull = false ∨ f.toValue.isNull = false) (a : α) :
    f.Admits E upper t a ↔
      if f.operator = .notBetween ∧ Parameter.forDisplayType t f.fromValue ≠ .null
          ∧ Parameter.forDisplayType t f.toValue ≠ .null
      then ¬inRange E (.forDisplayType t f.fromValue) (.forDisplayType t f.toValue) a
      else inRange E (.forDisplayType t f.fromValue) (.forDisplayType t f.toValue) a := by
  have hnone : E.bound .null = none := (hE.bound_eq_none_iff _).2 rfl
  have hop := operator_of_isRange hrange
  rcases bound_cases hE hrange h (j := f.fromValue) (by simp) with
    ⟨hfrom, hlow⟩ | ⟨hfrom, hlow, b, hbound⟩
  · rcases bound_cases hE hrange h (j := f.toValue) (by simp) with
      ⟨hto, hhigh⟩ | ⟨hto, hhigh, b', hbound'⟩
    · simp [hfrom, hto] at hgiven
    · rcases hop with hop | hop
        <;> simp [Filter.Admits, Filter.converted, inRange, hop, hfrom, hto, hlow, hnone, hbound']
  · rcases bound_cases hE hrange h (j := f.toValue) (by simp) with
      ⟨hto, hhigh⟩ | ⟨hto, hhigh, b', hbound'⟩
    · rcases hop with hop | hop
        <;> simp [Filter.Admits, Filter.converted, inRange, hop, hfrom, hto, hhigh, hnone, hbound]
    · rcases hop with hop | hop
        <;> simp [Filter.Admits, Filter.converted, inRange, hop, hfrom, hto, hlow, hhigh, hbound,
          hbound', Decidable.or_iff_not_imp_left]

theorem tells_bounds (hE : E.Lawful upper) (place : Nat) (hrange : f.isRange)
    (h : f.Ordinary c.displayType) (hconverts : f.Converts c.displayType) :
    ∃ r, range c place (f.operator = .notBetween) (.forDisplayType c.displayType f.fromValue)
        (.forDisplayType c.displayType f.toValue) = some r
      ∧ ∀ s : Site α, s.Binds place r.params →
        Tells E s r.expr (E.value s c.expr) (f.Admits E upper c.displayType) True := by
  have hop := operator_of_isRange hrange
  have hgiven : f.fromValue.isNull = false ∨ f.toValue.isNull = false := by
    have hne := h.ne_nil (by rcases hop with hop | hop <;> simp [hop])
      (by rcases hop with hop | hop <;> simp [hop])
    by_contra hnone
    rw [not_or, Bool.not_eq_false, Bool.not_eq_false] at hnone
    rcases hop with hop | hop <;> simp [Filter.given, hop, hnone] at hne
  have hbound : Parameter.forDisplayType c.displayType f.fromValue ≠ .null
      ∨ Parameter.forDisplayType c.displayType f.toValue ≠ .null :=
    hgiven.imp (ne_null_of_converts hrange hconverts (by simp))
      (ne_null_of_converts hrange hconverts (by simp))
  obtain ⟨r, hr⟩ := exists_range c place (f.operator = .notBetween) hbound
  refine ⟨r, hr, fun s hb => (tells_range hE hr hb).congr (fun a => ?_) id⟩
  rw [admits_range hE c.displayType hrange hconverts hgiven]
  simp only [decide_eq_true_eq]

end Operators

section Filters

variable {f : Filter}

/-- The operator asks of a value what the condition before the parentheses says. -/
theorem tells_bare (hE : E.Lawful upper) (place : Nat) (h : f.Ordinary c.displayType)
    (hrange : f.isRange → f.Converts c.displayType) (hnull : f.operator ≠ .null)
    (hnotNull : f.operator ≠ .notNull) :
    ∃ r, bare f c place = some r ∧ ∀ s : Site α, s.Binds place r.params →
      Tells E s r.expr (E.value s c.expr) (f.Admits E upper c.displayType)
        (f.Converts c.displayType) := by
  obtain ⟨name, operator, value, values, fromValue, toValue⟩ := f
  cases operator
  case null => exact absurd rfl hnull
  case notNull => exact absurd rfl hnotNull
  case equal | notEqual =>
    refine ⟨_, rfl, fun s hb => (tells_equality hE (h.not_blank _ List.mem_cons_self) hb).congr
      (fun a => ?_) fun hc => hc _ List.mem_cons_self⟩
    simp [Filter.Admits, Filter.converted, Engine.holds]
  case greater | greaterEqual | less | lessEqual =>
    refine ⟨_, rfl, fun s hb => (tells_comparison hE hb).congr (fun a => ?_)
      fun hc => hc _ List.mem_cons_self⟩
    simp [Filter.Admits, Filter.converted, Engine.holds]
  case like | notLike =>
    have hpattern : patternOf value = textOf value := by
      have := h.not_blank value List.mem_cons_self
      cases value <;> simp_all [isBlank, patternOf]
    refine ⟨_, rfl, fun s hb => (tells_search hE hpattern hb).congr (fun a => ?_)
      fun _ => trivial⟩
    simp [Filter.Admits, Filter.converted, Engine.holds]
  case isIn | notIn =>
    have hne : values ≠ [] := h.ne_nil (by simp) (by simp)
    have htext := h.not_text (by simp)
    refine ⟨_, membership_of_ordinary hne h.not_blank htext, fun s hb =>
      (tells_membership hE hne h.not_blank htext hb).congr (fun a => ?_) id⟩
    simp [Filter.Admits, Filter.converted]
  case between | notBetween =>
    obtain ⟨r, hr, htells⟩ := tells_bounds hE place rfl h (hrange rfl)
    exact ⟨r, hr, fun s hb => (htells s hb).congr (fun _ => .rfl) fun _ => trivial⟩

theorem truth_nullness (c : QueryColumn) (place : Nat)
    (hnull : f.operator = .null ∨ f.operator = .notNull) :
    ∃ r, bare f c place = some r ∧ ∀ s : Site α,
      E.truth s r.expr = .ofBool (f.operator = .null ↔ E.value s c.expr = none) := by
  rcases hnull with hnull | hnull
  all_goals
    refine ⟨_, by rw [bare, hnull], fun s => ?_⟩
    rw [Engine.truth_isNull]
    cases hv : E.value s c.expr <;> simp [Truth.signed, Truth.not_ofBool, hnull]

/-- A filter with given operands holds of the values that its operator asks for, and a missing value
is found by `null` alone. Nothing but a missing value leaves it undecided if the operands
convert. -/
theorem yes_iff_admits (hE : E.Lawful upper) (h : f.Ordinary c.displayType)
    (hrange : f.isRange → f.Converts c.displayType) (place : Nat) :
    ∃ r, of? f c place = some r ∧ ∀ s : Site α, s.Binds place r.params →
      (E.truth s r.expr = .yes ↔ (E.value s c.expr = none ∧ f.operator = .null)
          ∨ ∃ a ∈ E.value s c.expr, f.Admits E upper c.displayType a)
      ∧ (f.Converts c.displayType → (E.truth s r.expr = .unknown ↔
          E.value s c.expr = none ∧ f.operator ≠ .null ∧ f.operator ≠ .notNull)) := by
  by_cases hnull : f.operator = .null ∨ f.operator = .notNull
  · obtain ⟨r, hr, htruth⟩ := truth_nullness (E := E) c place hnull
    refine ⟨_, by rw [of?, hr]; rfl, fun s _ => ?_⟩
    rw [Engine.truth_nested, htruth, Truth.ofBool_eq_yes]
    constructor
    · rcases hnull with hnull | hnull <;> cases E.value s c.expr <;> simp [Filter.Admits, hnull]
    · exact fun _ => iff_of_false Truth.ofBool_ne_unknown fun hc => hnull.elim hc.2.1 hc.2.2
  · rw [not_or] at hnull
    obtain ⟨r, hr, htells⟩ := tells_bare hE place h hrange hnull.1 hnull.2
    refine ⟨_, by rw [of?, hr]; rfl, fun s hb => ?_⟩
    obtain ⟨hyes, hunknown⟩ := htells s hb
    rw [Engine.truth_nested, hyes]
    exact ⟨by simp [hnull.1], fun hconverts => by rw [hunknown hconverts]; simp [hnull]⟩

end Filters

section Values

/-- A value as it is shown to a search. -/
def searched (p : Parameter) : String := textOf p.toJson

def capitalText (p : Parameter) : Parameter := .text (Text.asciiUpper (searched p))

/-- A text has the form of a pattern, where `%` stands for any text and `_` for any character. -/
def hasForm : List Char → List Char → Bool
  | [], cs => cs.isEmpty
  | '%' :: pattern, cs => (List.range (cs.length + 1)).any fun n => hasForm pattern (cs.drop n)
  | '_' :: pattern, cs => !cs.isEmpty && hasForm pattern cs.tail
  | p :: pattern, cs => cs.head? == some p && hasForm pattern cs.tail

/-- A database that keeps the values as they are bound. -/
def plainValues : Engine Parameter where
  bound p := if p.isNull then none else some p
  order
    | .integer i, .integer j => compare i.toInt j.toInt
    | .number d, .number e => d.compareValue e
    | p, q => compare (searched p) (searched q)
  like p pattern := hasForm (searched pattern).toList (searched p).toList
  join p q := .text (searched p ++ searched q)
  call name args :=
    match name, args with
    | "UPPER", [p] => p.map capitalText
    | _, _ => none
  ofBool := .boolean
  isTrue p := p = .boolean true
  isTrue_ofBool := by decide

theorem plainValues_lawful : plainValues.Lawful capitalText where
  bound_eq_none_iff p := by cases p <;> simp [plainValues, Parameter.isNull]
  call_upper _ := rfl

def named (name : String) (t : DisplayType) : QueryColumn where
  itemId := 1
  columnName := name
  label := name
  displayType := t
  isDisplay := false
  isVirtual := false
  expr := .ofTable "Sale" name

/-- A row with one value, the operands of a filter being bound after the value of another. -/
def saleRow (v : Option Parameter) (params : List Parameter) : Site Parameter where
  column _ _ := v
  raw _ := none
  subquery _ := none
  params := .integer 1 :: params

def regionsAlike : Filter where
  columnName := "Region"
  operator := .isIn
  values := [.string "eu", .string "us"]

/-- A region that is listed in small letters is found, and a row without a region is undecided. -/
theorem yes_iff_admits_regionsAlike :
    ∃ r, of? regionsAlike (named "Region" .string) 1 = some r
      ∧ r.params = [.text "eu", .text "us"]
      ∧ plainValues.truth (saleRow (some (.text "EU")) r.params) r.expr = .yes
      ∧ plainValues.truth (saleRow none r.params) r.expr = .unknown := by
  have hordinary : regionsAlike.Ordinary .string := {
    ne_nil := fun _ _ => List.cons_ne_nil _ _
    not_blank := by decide +kernel
    not_text := nofun }
  have hconverts : regionsAlike.Converts .string := by unfold Filter.Converts; decide +kernel
  obtain ⟨r, hr, htruth⟩ :=
    yes_iff_admits (c := named "Region" .string) plainValues_lawful hordinary nofun 1
  have hparams : r.params = [.text "eu", .text "us"] := by cases hr; rfl
  have hbinds (v : Option Parameter) : (saleRow v r.params).Binds 1 r.params := by
    rw [hparams]
    exact ⟨rfl, rfl, trivial⟩
  refine ⟨r, hr, hparams, (htruth _ (hbinds _)).1.2 (.inr ⟨.text "EU", rfl, ?_⟩),
    ((htruth _ (hbinds _)).2 hconverts).2 ⟨rfl, nofun, nofun⟩⟩
  have halike : plainValues.order (capitalText (.text "EU")) (capitalText (.text "eu")) = .eq := by
    decide +kernel
  exact ⟨.string "eu", List.mem_cons_self, .text "eu", by decide +kernel, halike⟩

/-- An amount that no decimal holds. -/
def googol : Json := .ofBinary64 (.ofNat .double (10 ^ 100))

def outOfGoogol : Filter where
  columnName := "Amount"
  operator := .notBetween
  fromValue := .ofInt 5
  toValue := googol

def seven : Parameter := .number (.ofInt64 7)

/-- A bound that is no parameter is left out, so amounts between the bounds are found to be out of
the range. -/
theorem yes_within_googol :
    outOfGoogol.Ordinary .amount
      ∧ ∃ r, of? outOfGoogol (named "Amount" .amount) 1 = some r
        ∧ (saleRow (some seven) r.params).Binds 1 r.params
        ∧ plainValues.truth (saleRow (some seven) r.params) r.expr = .yes
        ∧ ¬outOfGoogol.Admits plainValues capitalText .amount seven := by
  have hlow : Parameter.forDisplayType .amount (.ofInt 5) = .number (.ofInt64 5) := by
    decide +kernel
  have hhigh : Parameter.forDisplayType .amount googol = .null := by decide +kernel
  have hrange : of? outOfGoogol (named "Amount" .amount) 1
      = some ⟨.nested (.compare .greaterEqual (.ofTable "Sale" "Amount") (.placeholder 1)),
        [.number (.ofInt64 5)]⟩ := by
    simp only [of?, bare, outOfGoogol, named, hlow, hhigh]
    rfl
  refine ⟨⟨fun _ _ => ?_, by decide +kernel, nofun⟩, _, hrange, ⟨rfl, trivial⟩, ?_, ?_⟩
  · decide +kernel
  · rw [Engine.truth_nested, Engine.truth_compare]
    decide +kernel
  · have hfrom : outOfGoogol.fromValue.isNull = false := rfl
    have hto : outOfGoogol.toValue.isNull = false := by decide +kernel
    simp only [outOfGoogol] at hfrom hto
    simp only [Filter.Admits, Filter.converted, outOfGoogol, hfrom, hto, hlow, hhigh,
      Bool.false_eq_true, if_false]
    rintro (⟨b, hb, hlt⟩ | ⟨b, hb, -⟩)
    · cases hb
      revert hlt
      decide +kernel
    · cases hb

end Values

end Restriction

end Reporting
