import Reporting.Proofs.Meaning
import Reporting.Query.Restriction

/-!
# Filters and their opposites

Mostly an operator and its opposite are not both true of a row. They are in two cases, where they do
not ask for opposites: on a missing value when the operand of an equality is blank, and on all rows
of a range with one bound only, which the opposite has as well (`both_yes_iff`).
-/

namespace Reporting

open Sql (Comparison Engine Expr Site Truth)

/-- The operator that asks for the opposite. -/
def FilterOperator.opposite? : FilterOperator → Option FilterOperator
  | .equal => some .notEqual
  | .isIn => some .notIn
  | .between => some .notBetween
  | .like => some .notLike
  | .null => some .notNull
  | _ => none

namespace Restriction

variable {α : Type} {E : Engine α} {s : Site α} {c : QueryColumn} {t : DisplayType}
  {place place' : Nat} {r r' : Restriction}

/-- Both restrictions take the truth of one condition, as it is or turned round. -/
def Opposed (E : Engine α) (s : Site α) (r r' : Restriction) : Prop :=
  ∃ t : Truth, (E.truth s r.expr = .yes → t = .yes) ∧ (E.truth s r'.expr = .yes → t = .no)

theorem Opposed.not_both (h : Opposed E s r r') :
    ¬(E.truth s r.expr = .yes ∧ E.truth s r'.expr = .yes) := by
  obtain ⟨t, hyes, hno⟩ := h
  rintro ⟨hr, hr'⟩
  exact absurd ((hyes hr).symm.trans (hno hr')) (by decide)

theorem opposed_of_not (h : E.truth s r'.expr = (E.truth s r.expr).not) : Opposed E s r r' :=
  ⟨E.truth s r.expr, id, fun hr' => Truth.not_eq_yes.1 (h.symm.trans hr')⟩

theorem value_placeholder_congr {p : Parameter} (h : s.Binds place [p])
    (h' : s.Binds place' [p]) :
    E.value s (.placeholder place) = E.value s (.placeholder place') := by
  rw [Engine.value_placeholder h, Engine.value_placeholder h']

/-- An expression in capitals if it is text. -/
def cased (asText : Bool) (e : Expr) : Expr := if asText then .upper e else e

/-- A value in capitals if it is text. -/
def casedValue (E : Engine α) (asText : Bool) (v : Option α) : Option α :=
  if asText then E.call "UPPER" [v] else v

@[simp] theorem value_cased (asText : Bool) (e : Expr) :
    E.value s (cased asText e) = casedValue E asText (E.value s e) := by
  cases asText <;> rfl

section Membership

/-- The operands of a list that are not blank: whether they are text, and their values. -/
def entries (t : DisplayType) (values : List Json) : List (Bool × Parameter) :=
  (values.filter fun j => !isBlank (t.isText || isText j) j).map fun j =>
    (t.isText || isText j, valueOf t (t.isText || isText j) j)

theorem entries_cons (t : DisplayType) (j : Json) (values : List Json) :
    entries t (j :: values) = if isBlank (t.isText || isText j) j then entries t values
      else (t.isText || isText j, valueOf t (t.isText || isText j) j) :: entries t values := by
  by_cases hj : isBlank (t.isText || isText j) j <;> simp [entries, hj]

theorem entries_listOf (t : DisplayType) : ∀ (values : List Json) (place : Nat),
    (listOf t place values).map (fun e => (e.1, e.2.2)) = entries t values
  | [], _ => rfl
  | j :: values, place => by
    rw [entries_cons, listOf]
    split
    · exact entries_listOf t values place
    · rw [List.map_cons, entries_listOf t values (place + 1)]

theorem values_listOf : ∀ {values : List Json} {place : Nat},
    s.Binds place ((entries t values).map Prod.snd) →
      (listOf t place values).map (fun e => E.value s e.2.1)
        = (entries t values).map fun e => casedValue E e.1 (E.bound e.2)
  | [], _, _ => rfl
  | j :: values, place, h => by
    rw [entries_cons] at h ⊢
    rw [listOf]
    split at h
    · rename_i hj
      rw [if_pos hj, if_pos hj]
      exact values_listOf h
    · rename_i hj
      rw [if_neg hj, if_neg hj, List.map_cons, List.map_cons, values_listOf h.2]
      congr 1
      have hoperand (asText : Bool) : operand asText place = cased asText (.placeholder place) := by
        cases asText <;> rfl
      rw [hoperand, value_cased, Engine.value_placeholder h]

/-- The truth of membership in a list; in a list of blanks it is that of having no value. -/
def listTruth (E : Engine α) (s : Site α) (c : QueryColumn) (values : List Json) : Truth :=
  let es := entries c.displayType values
  if es.isEmpty then .ofBool (E.value s c.expr).isNone
  else E.membership (casedValue E (es.any Prod.fst) (E.value s c.expr))
    (es.map fun e => casedValue E e.1 (E.bound e.2))

theorem truth_membership {negated : Bool} {values : List Json}
    (h : membership c place negated values = some r) (hb : s.Binds place r.params) :
    E.truth s r.expr = .yes ↔ Truth.signed negated (listTruth E s c values) = .yes := by
  have hempty : (listOf c.displayType place values).isEmpty
      = (entries c.displayType values).isEmpty := by
    rw [← entries_listOf c.displayType values place, List.isEmpty_map]
  have htext : (listOf c.displayType place values).any (·.1)
      = (entries c.displayType values).any Prod.fst := by
    rw [← entries_listOf c.displayType values place, List.any_map]
    rfl
  have hparams : (listOf c.displayType place values).map (·.2.2)
      = (entries c.displayType values).map Prod.snd := by
    rw [← entries_listOf c.displayType values place, List.map_map]
    rfl
  rw [membership] at h
  simp only [hempty, htext] at h
  rw [listTruth]
  split at h
  · rename_i hnone
    split at h
    · cases h
      rw [Engine.truth_isNull, if_pos hnone]
    · cases h
  · rename_i hsome
    obtain rfl := Option.some.inj h
    rw [if_neg hsome]
    have hvalues := values_listOf (E := E) (hparams ▸ hb)
    have hin (asText : Bool) : E.truth s (.inList (if asText then .upper c.expr else c.expr)
        ((listOf c.displayType place values).map (·.2.1)) negated)
        = .signed negated (E.membership (casedValue E asText (E.value s c.expr))
          ((entries c.displayType values).map fun e => casedValue E e.1 (E.bound e.2))) := by
      rw [Engine.truth_inList, List.map_map, ← hvalues]
      exact congrArg (fun v => Truth.signed negated (E.membership v _)) (value_cased asText c.expr)
    dsimp only
    split
    · rw [Engine.truth_or]
      simp [Truth.any, hin]
    · rw [hin]

theorem membership_opposed {values : List Json}
    (h : membership c place false values = some r) (h' : membership c place' true values = some r')
    (hb : s.Binds place r.params) (hb' : s.Binds place' r'.params) : Opposed E s r r' :=
  ⟨listTruth E s c values, (truth_membership h hb).1,
    fun hr' => Truth.not_eq_yes.1 ((truth_membership h' hb').1 hr')⟩

end Membership

theorem search_opposed {j : Json} (hb : s.Binds place [.text (patternOf j)])
    (hb' : s.Binds place' [.text (patternOf j)]) :
    Opposed E s (search c place .like j) (search c place' .notLike j) := by
  have hupper :
      E.value s (.upper (.placeholder place)) = E.value s (.upper (.placeholder place')) :=
    (value_cased true _).trans ((congrArg (casedValue E true)
      (value_placeholder_congr hb hb')).trans (value_cased true _).symm)
  have hpattern : E.value s (.concat [.text "%", .upper (.placeholder place), .text "%"])
      = E.value s (.concat [.text "%", .upper (.placeholder place'), .text "%"]) := by
    rw [Engine.value, Engine.value, Engine.values_eq_map, Engine.values_eq_map]
    simp only [List.map_cons, hupper]
  apply opposed_of_not
  rw [search, search, Engine.truth_compare, Engine.truth_compare, Engine.comparison_notLike,
    hpattern]

/-- Equality and its opposite are written alike, apart from the sign. -/
theorem equality_eq (c : QueryColumn) (place : Nat) (op : Comparison) (j : Json) :
    equality c place op j =
      let blank := isBlank c.displayType.isText j
      let asText := c.displayType.isText && !blank
      let comparison :=
        Expr.compare op (cased asText c.expr) (cased asText (.placeholder place))
      ⟨if blank then .or [comparison, .isNull c.expr false] else comparison,
        [if c.displayType.isText then .text (if blank then "" else textOf j)
          else .forDisplayType c.displayType j]⟩ := by
  unfold equality
  cases htext : c.displayType.isText <;> cases hblank : isBlank c.displayType.isText j
    <;> rw [htext] at hblank <;> simp [hblank, cased]

/-- A blank operand lets rows without a value through both ways. -/
theorem equality_yes_iff {j : Json} (hb : s.Binds place (equality c place .equal j).params)
    (hb' : s.Binds place' (equality c place' .notEqual j).params) :
    E.truth s (equality c place .equal j).expr = .yes
        ∧ E.truth s (equality c place' .notEqual j).expr = .yes
      ↔ isBlank c.displayType.isText j = true ∧ E.value s c.expr = none := by
  rw [equality_eq] at hb hb'
  rw [equality_eq, equality_eq]
  dsimp only at hb hb' ⊢
  have hcompare (asText : Bool) : E.truth s (.compare .notEqual (cased asText c.expr)
      (cased asText (.placeholder place')))
      = (E.truth s (.compare .equal (cased asText c.expr)
        (cased asText (.placeholder place)))).not := by
    rw [Engine.truth_compare, Engine.truth_compare, Engine.comparison_notEqual, value_cased,
      value_cased, value_cased, value_placeholder_congr hb hb']
  cases hblank : isBlank c.displayType.isText j
  · simp only [Bool.false_eq_true, if_false, false_and, iff_false, hcompare, Truth.not_eq_yes]
    rintro ⟨hyes, hno⟩
    exact absurd (hyes.symm.trans hno) (by decide)
  · have hnull : E.truth s (.isNull c.expr false) = .yes ∨ Truth.any [] = .yes
        ↔ E.value s c.expr = none := by
      simp [Truth.any, Truth.signed]
    simp only [if_true, Engine.truth_or, List.map_cons, List.map_nil, Truth.any_cons,
      Truth.or_eq_yes, hcompare, Truth.not_eq_yes, true_and, hnull]
    constructor
    · rintro ⟨hyes | hmissing, hno | hmissing'⟩
      · exact absurd (hyes.symm.trans hno) (by decide)
      · exact hmissing'
      · exact hmissing
      · exact hmissing
    · exact fun hmissing => ⟨.inr hmissing, .inr hmissing⟩

/-- A range with one bound only is the same for both operators. -/
theorem range_of_one {low high : Parameter} (h : low.isNull ≠ high.isNull) :
    ∃ op p, ∀ place negated,
      range c place negated low high = some ⟨.compare op c.expr (.placeholder place), [p]⟩ := by
  cases hlow : low.isNull <;> cases hhigh : high.isNull
  · exact absurd (hlow.trans hhigh.symm) h
  · exact ⟨.greaterEqual, low, fun place negated => by rw [range, hlow, hhigh]⟩
  · exact ⟨.lessEqual, high, fun place negated => by rw [range, hlow, hhigh]⟩
  · exact absurd (hlow.trans hhigh.symm) h

theorem range_opposed {low high : Parameter} (hone : low.isNull = high.isNull)
    (h : range c place false low high = some r) (h' : range c place' true low high = some r')
    (hb : s.Binds place r.params) (hb' : s.Binds place' r'.params) : Opposed E s r r' := by
  cases hlow : low.isNull <;> rw [range, ← hone, hlow] at h h' <;> cases h
  cases h'
  apply opposed_of_not
  rw [Engine.truth_between, Engine.truth_between, Engine.value_placeholder hb,
    Engine.value_placeholder hb', Engine.value_placeholder hb.2, Engine.value_placeholder hb'.2]
  rfl

theorem bare_yes_iff {f : Filter} {opposite : FilterOperator}
    (hopposite : f.operator.opposite? = some opposite) (hr : bare f c place = some r)
    (hr' : bare { f with operator := opposite } c place' = some r')
    (hb : s.Binds place r.params) (hb' : s.Binds place' r'.params) :
    E.truth s r.expr = .yes ∧ E.truth s r'.expr = .yes ↔
      f.operator = .equal ∧ isBlank c.displayType.isText f.value = true ∧ E.value s c.expr = none
      ∨ f.operator = .between
        ∧ (Parameter.forDisplayType c.displayType f.fromValue).isNull
          ≠ (Parameter.forDisplayType c.displayType f.toValue).isNull
        ∧ E.truth s r.expr = .yes := by
  obtain ⟨name, operator, value, values, fromValue, toValue⟩ := f
  cases operator <;> cases hopposite
  case equal =>
    cases hr
    cases hr'
    rw [equality_yes_iff hb hb']
    simp
  case isIn => simp [(membership_opposed hr hr' hb hb').not_both]
  case between =>
    change range c place false _ _ = _ at hr
    change range c place' true _ _ = _ at hr'
    by_cases hone : (Parameter.forDisplayType c.displayType fromValue).isNull
        = (Parameter.forDisplayType c.displayType toValue).isNull
    · simp [hone, (range_opposed hone hr hr' hb hb').not_both]
    · obtain ⟨op, p, hrange⟩ := range_of_one (c := c) hone
      rw [hrange] at hr hr'
      cases hr
      cases hr'
      have hsame : E.truth s (.compare op c.expr (.placeholder place'))
          = E.truth s (.compare op c.expr (.placeholder place)) := by
        rw [Engine.truth_compare, Engine.truth_compare, value_placeholder_congr hb hb']
      simp [hone, -Engine.truth_compare, hsame]
  case like =>
    cases hr
    cases hr'
    simp [(search_opposed hb hb').not_both]
  case null =>
    cases hr
    cases hr'
    have hopposed : Opposed E s { expr := .isNull c.expr false } { expr := .isNull c.expr true } :=
      opposed_of_not (by rw [Engine.truth_isNull, Engine.truth_isNull]; rfl)
    simpa using hopposed.not_both

/-- A filter and its opposite on the same row. -/
theorem both_yes_iff {f : Filter} {opposite : FilterOperator}
    (hopposite : f.operator.opposite? = some opposite) (hr : of? f c place = some r)
    (hr' : of? { f with operator := opposite } c place' = some r')
    (hb : s.Binds place r.params) (hb' : s.Binds place' r'.params) :
    E.truth s r.expr = .yes ∧ E.truth s r'.expr = .yes ↔
      f.operator = .equal ∧ isBlank c.displayType.isText f.value = true ∧ E.value s c.expr = none
      ∨ f.operator = .between
        ∧ (Parameter.forDisplayType c.displayType f.fromValue).isNull
          ≠ (Parameter.forDisplayType c.displayType f.toValue).isNull
        ∧ E.truth s r.expr = .yes := by
  obtain ⟨b, hbare, rfl⟩ := Option.map_eq_some_iff.1 hr
  obtain ⟨b', hbare', rfl⟩ := Option.map_eq_some_iff.1 hr'
  rw [Engine.truth_nested, Engine.truth_nested]
  exact bare_yes_iff hopposite hbare hbare' hb hb'

section Amounts

/-- A database of whole numbers alone. -/
def wholeNumbers : Engine Int where
  bound
    | .integer i => some i.toInt
    | _ => none
  order := compare
  like _ _ := false
  join a _ := a
  call _ _ := none
  ofBool b := if b then 1 else 0
  isTrue a := a != 0
  isTrue_ofBool := by decide

def amount : QueryColumn where
  itemId := 1
  columnName := "Amount"
  label := "Amount"
  displayType := .integer
  isDisplay := false
  isVirtual := false
  expr := .ofTable "Sale" "Amount"

/-- A row with an amount or without one. -/
def amountRow (v : Option Int) (params : List Parameter) : Site Int where
  column _ _ := v
  raw _ := none
  subquery _ := none
  params := params

def amounts (operator : FilterOperator) : Filter where
  columnName := "Amount"
  operator := operator
  values := [.ofInt 5, .null]
  fromValue := .ofInt 5

/-- An amount that is listed is not among those that are not. -/
theorem both_yes_iff_listed : ∃ r r',
    of? (amounts .isIn) amount 0 = some r ∧ of? (amounts .notIn) amount 1 = some r'
      ∧ (amountRow (some 5) [.integer 5, .integer 5]).Binds 0 r.params
      ∧ (amountRow (some 5) [.integer 5, .integer 5]).Binds 1 r'.params
      ∧ wholeNumbers.truth (amountRow (some 5) [.integer 5, .integer 5]) r.expr = .yes
      ∧ wholeNumbers.truth (amountRow (some 5) [.integer 5, .integer 5]) r'.expr ≠ .yes := by
  have hr : of? (amounts .isIn) amount 0 = some _ := rfl
  have hr' : of? (amounts .notIn) amount 1 = some _ := rfl
  refine ⟨_, _, hr, hr', ⟨rfl, trivial⟩, ⟨rfl, trivial⟩, rfl, fun h => ?_⟩
  rcases (both_yes_iff rfl hr hr' ⟨rfl, trivial⟩ ⟨rfl, trivial⟩).1 ⟨rfl, h⟩
    with ⟨hop, -⟩ | ⟨hop, -⟩ <;> cases hop

/-- Without an amount an equality and its opposite hold for a missing operand, and an amount over
the only bound of a range is in the range and in its opposite. -/
theorem both_yes_missing :
    (∃ r r', of? (amounts .equal) amount 0 = some r ∧ of? (amounts .notEqual) amount 1 = some r'
      ∧ (amountRow none [.null, .null]).Binds 0 r.params
      ∧ (amountRow none [.null, .null]).Binds 1 r'.params
      ∧ wholeNumbers.truth (amountRow none [.null, .null]) r.expr = .yes
      ∧ wholeNumbers.truth (amountRow none [.null, .null]) r'.expr = .yes)
    ∧ ∃ r r', of? (amounts .between) amount 0 = some r ∧ of? (amounts .notBetween) amount 1 = some r'
      ∧ (amountRow (some 7) [.integer 5, .integer 5]).Binds 0 r.params
      ∧ (amountRow (some 7) [.integer 5, .integer 5]).Binds 1 r'.params
      ∧ wholeNumbers.truth (amountRow (some 7) [.integer 5, .integer 5]) r.expr = .yes
      ∧ wholeNumbers.truth (amountRow (some 7) [.integer 5, .integer 5]) r'.expr = .yes :=
  ⟨⟨_, _, rfl, rfl, ⟨rfl, trivial⟩, ⟨rfl, trivial⟩, rfl, rfl⟩,
    ⟨_, _, rfl, rfl, ⟨rfl, trivial⟩, ⟨rfl, trivial⟩, rfl, rfl⟩⟩

end Amounts

end Restriction

end Reporting
