import Reporting.Proofs.DecimalReading
import Reporting.Proofs.Operators
import Reporting.Proofs.Placeholders

/-!
# Operands that are given

An operand that is given becomes a parameter that is not null, unless it is a number that no decimal
has and the column does not take it for a flag (`forDisplayType_eq_null_iff`). So a range binds the
bounds that it is given, each at a placeholder of its condition, as long as decimals have them
(`given_bound`); a bound that no decimal has is taken for a missing one (`given_bound_googol`).
-/

namespace Reporting

/-- A number that no decimal has. -/
def Json.Unheld (j : Json) : Prop := ∃ n, j = .number n ∧ ∀ d : Decimal, d.value ≠ n.spelled

namespace Parameter

variable {t : DisplayType} {j : Json} {n : JsonNumber}

theorem ofText?_eq_none_iff :
    Decimal.ofText? n.toText = none ↔ (Json.number n).Unheld := by
  obtain ⟨d, hd, hvalue⟩ | ⟨hnone, hno⟩ := n.reads_toText
  · rw [hd]
    refine ⟨nofun, ?_⟩
    rintro ⟨n', hn', hno⟩
    cases hn'
    exact absurd hvalue (hno d)
  · exact ⟨fun _ => ⟨n, rfl, hno⟩, fun _ => hnone⟩

/-- Whole numbers of 64 bits are decimals. -/
theorem not_unheld_integer {i : Int} (h : -2 ^ 63 ≤ i ∧ i < 2 ^ 64) :
    ¬(Json.number (.integer i h)).Unheld := by
  rintro ⟨n, hn, hno⟩
  cases hn
  obtain ⟨d, hd, -⟩ :=
    Decimal.exists_ofParts? (i < 0) (m := i.natAbs) (s := 0) (by omega) (by decide)
  refine hno d ?_
  rw [Decimal.value_ofParts? hd, pow_zero, div_one, Decimal.sign_mul_natAbs]
  rfl

theorem ofJson_eq_null_iff (hj : j.isNull = false) : ofJson j = .null ↔ j.Unheld := by
  cases j with
  | null => cases hj
  | number n =>
    rw [← ofText?_eq_none_iff, ofJson]
    split
    · rename_i i hi
      refine ⟨nofun, fun hnone => absurd (ofText?_eq_none_iff.1 hnone) ?_⟩
      cases n with
      | integer value h => exact not_unheld_integer h
      | float x h => cases hi
    · cases Decimal.ofText? n.toText <;> simp
  | bool b => simp [ofJson, Json.Unheld]
  | string s => simp [ofJson, Json.Unheld]
  | array l => simp [ofJson, Json.Unheld]
  | object l => simp [ofJson, Json.Unheld]

theorem ne_null_of_kind {α : Type} {c : Prop} [Decidable c] {x : Option α} {f : α → Parameter}
    (hf : ∀ a, f a ≠ .null) {p : Parameter} (h : (if c then x.map f else none) = some p) :
    p ≠ .null := by
  split at h
  · obtain ⟨a, -, rfl⟩ := Option.map_eq_some_iff.1 h
    exact hf a
  · cases h

/-- A column reads an operand as its own kind of value or keeps it as it is. -/
theorem forDisplayType_eq_null_iff (hj : j.isNull = false) :
    forDisplayType t j = .null ↔ t ≠ .yesNo ∧ j.Unheld := by
  rw [forDisplayType, hj, if_neg Bool.false_ne_true]
  split
  · rename_i hflag
    simp [hflag]
  · rename_i hflag
    rw [← ofJson_eq_null_iff hj]
    constructor
    · intro h
      refine ⟨hflag, ?_⟩
      rw [Option.getD_eq_iff] at h
      obtain hkind | ⟨-, h⟩ := h
      · rw [Option.or_eq_some_iff, Option.or_eq_some_iff] at hkind
        obtain (h | ⟨-, h⟩) | ⟨-, h⟩ := hkind
        · exact absurd rfl (ne_null_of_kind (f := .timestamp) (fun _ => Parameter.noConfusion) h)
        · exact absurd rfl (ne_null_of_kind (f := .integer) (fun _ => Parameter.noConfusion) h)
        · exact absurd rfl (ne_null_of_kind (f := .number) (fun _ => Parameter.noConfusion) h)
      · exact h
    · rintro ⟨-, h⟩
      obtain ⟨n, rfl, hno⟩ := (ofJson_eq_null_iff hj).1 h
      have hdecimal : decimalOf? (.number n) = none := ofText?_eq_none_iff.2 ⟨n, rfl, hno⟩
      have hinteger : integerOf? (.number n) = none := by
        refine Option.eq_none_iff_forall_ne_some.2 fun i hi => ?_
        rw [integerOf?] at hi
        rw [ofJson, hi] at h
        cases h
      simpa [hdecimal, hinteger, timestampOf?] using h

end Parameter

namespace Restriction

open Parameter (forDisplayType ofJson)
open Sql (Dialect marks)

section Ranges

variable {f : Filter} {c : QueryColumn} {r : Restriction} {place : Nat}

/-- A range binds the bounds that are not null and compares with each of them. -/
theorem range_uses {negated : Bool} {low high : Parameter}
    (h : range c place negated low high = some r) :
    r.params = [low, high].filter (!·.isNull)
      ∧ ∀ d : Dialect, ∀ i < r.params.length, place + i ∈ marks (d.pieces r.expr) := by
  unfold range at h
  cases hlow : low.isNull <;> cases hhigh : high.isNull <;> rw [hlow, hhigh] at h <;> cases h
  all_goals
    refine ⟨by simp [hlow, hhigh], fun d i hi => ?_⟩
    simp only [List.length_cons, List.length_nil] at hi
    have hi' : i = 0 ∨ i = 1 := by omega
    rcases hi' with rfl | rfl <;> simp_all [Dialect.pieces]

theorem given_of_isRange (hrange : f.isRange = true) :
    f.given = [f.fromValue, f.toValue].filter (!·.isNull) := by
  rcases operator_of_isRange hrange with hop | hop <;> rw [Filter.given, hop]

/-- A range with a bound has a condition as long as its bounds convert, and binds each of them. -/
theorem exists_of?_range (place : Nat) (hrange : f.isRange = true) (hgiven : f.given ≠ [])
    (hne : ∀ j ∈ f.given, forDisplayType c.displayType j ≠ .null) :
    ∃ r, of? f c place = some r ∧ r.params = f.given.map (forDisplayType c.displayType)
      ∧ ∀ d : Dialect, ∀ i < r.params.length, place + i ∈ marks (d.pieces r.expr) := by
  have hnull : ∀ j ∈ [f.fromValue, f.toValue],
      (forDisplayType c.displayType j).isNull = j.isNull := by
    intro j hj
    cases hj' : j.isNull
    · have hmem : j ∈ f.given := by
        rw [given_of_isRange hrange]
        exact List.mem_filter.2 ⟨hj, by rw [hj']; rfl⟩
      exact Bool.eq_false_iff.2 (mt isNull_iff.1 (hne j hmem))
    · rw [Parameter.forDisplayType, if_pos hj']
      rfl
  have hbounds : f.given.map (forDisplayType c.displayType)
      = [forDisplayType c.displayType f.fromValue, forDisplayType c.displayType f.toValue].filter
          (!·.isNull) := by
    have hfilter := List.filter_map (l := [f.fromValue, f.toValue])
      (f := forDisplayType c.displayType) (p := (!·.isNull))
    rw [given_of_isRange hrange]
    refine Eq.trans ?_ hfilter.symm
    exact congrArg _ (List.filter_congr fun j hj => by rw [Function.comp_apply, hnull j hj])
  obtain ⟨j, hj⟩ := List.exists_mem_of_ne_nil _ hgiven
  have hsome : forDisplayType c.displayType f.fromValue ≠ .null
      ∨ forDisplayType c.displayType f.toValue ≠ .null := by
    have hj' := hj
    rw [given_of_isRange hrange, List.mem_filter] at hj'
    simp only [List.mem_cons, List.not_mem_nil, or_false] at hj'
    rcases hj'.1 with rfl | rfl
    · exact .inl (hne _ hj)
    · exact .inr (hne _ hj)
  obtain ⟨r, hr⟩ := exists_range c place (f.operator = .notBetween) hsome
  have hbare : bare f c place = some r := by
    rcases operator_of_isRange hrange with hop | hop <;> rw [bare, hop] <;> simpa [hop] using hr
  obtain ⟨hparams, huses⟩ := range_uses hr
  refine ⟨⟨.nested r.expr, r.params⟩, by rw [of?, hbare]; rfl, hparams.trans hbounds.symm, ?_⟩
  intro d i hi
  simpa [Dialect.pieces] using huses d i hi

/-- A given operand is null as a parameter only if it is a number that no decimal has. A range with
bounds that decimals have binds each of them and compares with it. -/
theorem given_bound (f : Filter) (c : QueryColumn) (place : Nat) :
    (∀ (t : DisplayType) (j : Json), j.isNull = false →
      (forDisplayType t j = .null ↔ t ≠ .yesNo ∧ j.Unheld) ∧ (ofJson j = .null ↔ j.Unheld))
      ∧ (f.isRange = true → f.given ≠ [] →
        (∀ j ∈ f.given, c.displayType = .yesNo ∨ ¬j.Unheld) →
        ∃ r, of? f c place = some r ∧ r.params = f.given.map (forDisplayType c.displayType)
          ∧ (∀ p ∈ r.params, p ≠ .null)
          ∧ ∀ d : Dialect, ∀ i < r.params.length, place + i ∈ marks (d.pieces r.expr)) := by
  refine ⟨fun t j hj =>
    ⟨Parameter.forDisplayType_eq_null_iff hj, Parameter.ofJson_eq_null_iff hj⟩, ?_⟩
  intro hrange hgiven hheld
  have hne : ∀ j ∈ f.given, forDisplayType c.displayType j ≠ .null := by
    intro j hj hnull
    have hmem := hj
    rw [given_of_isRange hrange, List.mem_filter, Bool.not_eq_true'] at hmem
    obtain ⟨hkind, hunheld⟩ := (Parameter.forDisplayType_eq_null_iff hmem.2).1 hnull
    exact (hheld j hj).elim hkind fun hno => hno hunheld
  obtain ⟨r, hr, hparams, huses⟩ := exists_of?_range place hrange hgiven hne
  refine ⟨r, hr, hparams, fun p hp => ?_, huses⟩
  rw [hparams] at hp
  obtain ⟨j, hj, rfl⟩ := List.mem_map.1 hp
  exact hne j hj

/-- An amount that decimals have and whole numbers of 64 bits do not. -/
def hundredQuintillion : JsonNumber := .float (.ofNat .double (10 ^ 20)) (by decide +kernel)

def outOfQuintillions : Filter where
  columnName := "Amount"
  operator := .notBetween
  fromValue := .number (.integer 5 (by decide))
  toValue := .number hundredQuintillion

/-- Both bounds of the range are bound and compared with. -/
theorem given_bound_quintillions :
    ∃ r, of? outOfQuintillions (named "Amount" .amount) 1 = some r
      ∧ r.params.map searched = ["5", "100000000000000000000"]
      ∧ ∀ d : Dialect, 1 ∈ marks (d.pieces r.expr) ∧ 2 ∈ marks (d.pieces r.expr) := by
  have hgiven : outOfQuintillions.given
      = [.number (.integer 5 (by decide)), .number hundredQuintillion] := rfl
  have hheld : ∀ j ∈ outOfQuintillions.given, ¬j.Unheld := by
    rw [hgiven, List.forall_mem_cons, List.forall_mem_singleton]
    refine ⟨Parameter.not_unheld_integer _, mt Parameter.ofText?_eq_none_iff.2 ?_⟩
    decide +kernel
  obtain ⟨r, hr, hparams, -, huses⟩ := (given_bound outOfQuintillions
    (named "Amount" .amount) 1).2 rfl (by simp [hgiven]) fun j hj => .inr (hheld j hj)
  have hlength : r.params.length = 2 := by rw [hparams, List.length_map, hgiven]; rfl
  refine ⟨r, hr, ?_, fun d => ⟨huses d 0 (by omega), huses d 1 (by omega)⟩⟩
  rw [hparams, hgiven]
  decide +kernel

/-- A bound beyond the decimals is taken for a missing one, and alone it restricts nothing. -/
theorem given_bound_googol :
    googol.isNull = false ∧ ofJson googol = .null ∧ forDisplayType .amount googol = .null
      ∧ of? { columnName := "Amount", operator := .between, toValue := googol }
          (named "Amount" .amount) 1 = none := by
  have hto : forDisplayType .amount googol = .null := by decide +kernel
  have hfrom : forDisplayType .amount .null = .null := rfl
  refine ⟨by decide +kernel, by decide +kernel, hto, ?_⟩
  simp only [of?, bare, named, hto, hfrom]
  rfl

end Ranges

end Restriction

end Reporting
