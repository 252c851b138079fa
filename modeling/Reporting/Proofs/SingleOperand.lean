import Reporting.Proofs.Operators

/-!
# Lists of one operand

A list of one operand is true of the same rows as an equality of the same sides (`truth_singleton`).
The two decide apart whether they compare text, the equality by the column and the list by the
operand too, so the filters agree unless a text stands for another column (`of?_singleton`).
-/

namespace Reporting

open Sql (Comparison Engine Expr Site Truth)

namespace Filter

/-- The filter with one operand in its list. -/
def oneOf (f : Filter) (negated : Bool) (v : Json) : Filter :=
  { f with operator := if negated then .notIn else .isIn, values := [v] }

/-- The filter with an operand to be equal to. -/
def sameAs (f : Filter) (negated : Bool) (v : Json) : Filter :=
  { f with operator := if negated then .notEqual else .equal, value := v }

end Filter

namespace Restriction

variable {c : QueryColumn} {place : Nat} {v : Json}

/-- The sides that a condition compares, and whether it asks for those that differ. -/
def compared? : Expr → Option (Expr × Expr × Bool)
  | .nested (.inList e [operand] negated) => some (e, operand, negated)
  | .nested (.compare .equal left right) => some (left, right, false)
  | .nested (.compare .notEqual left right) => some (left, right, true)
  | _ => none

/-- The condition compares the column with one value, both in capitals if they are text. -/
structure ComparesTo (c : QueryColumn) (place : Nat) (negated asText : Bool) (p : Parameter)
    (r : Restriction) : Prop where
  compared : compared? r.expr
    = some (cased asText c.expr, cased asText (.placeholder place), negated)
  params : r.params = [p]

theorem isBlank_of_isBlank_true (h : isBlank true v = false) (asText : Bool) :
    isBlank asText v = false := by
  cases v <;> cases asText <;> simp_all [isBlank]

theorem of?_oneOf (h : isBlank true v = false) (f : Filter) (c : QueryColumn) (place : Nat)
    (negated : Bool) :
    of? (f.oneOf negated v) c place =
      let asText := c.displayType.isText || isText v
      some ⟨.nested (.inList (cased asText c.expr) [cased asText (.placeholder place)] negated),
        [valueOf c.displayType asText v]⟩ := by
  have hblank := isBlank_of_isBlank_true h (c.displayType.isText || isText v)
  have hmembership : membership c place negated [v] =
      some ⟨.inList (cased (c.displayType.isText || isText v) c.expr)
          [cased (c.displayType.isText || isText v) (.placeholder place)] negated,
        [valueOf c.displayType (c.displayType.isText || isText v) v]⟩ := by
    simp [membership, listOf, hblank, cased, operand]
  have hbare : bare (f.oneOf negated v) c place = membership c place negated [v] := by
    cases negated <;> rfl
  rw [of?, hbare, hmembership]
  rfl

theorem of?_sameAs (h : isBlank true v = false) (f : Filter) (c : QueryColumn) (place : Nat)
    (negated : Bool) :
    of? (f.sameAs negated v) c place =
      let asText := c.displayType.isText
      some ⟨.nested (.compare (if negated then .notEqual else .equal) (cased asText c.expr)
          (cased asText (.placeholder place))), [valueOf c.displayType asText v]⟩ := by
  have hblank := isBlank_of_isBlank_true h c.displayType.isText
  have hbare : bare (f.sameAs negated v) c place
      = some (equality c place (if negated then .notEqual else .equal) v) := by
    cases negated <;> rfl
  rw [of?, hbare, equality_eq, hblank]
  simp [valueOf]

/-- A list of one operand is an equality. -/
theorem truth_singleton {α : Type} (E : Engine α) (s : Site α) (negated : Bool)
    (left right : Expr) : E.truth s (.inList left [right] negated)
      = E.truth s (.compare (if negated then .notEqual else .equal) left right) := by
  rw [Engine.truth_inList, Engine.truth_compare]
  cases negated
  · exact Truth.or_no _
  · rw [if_pos rfl, Engine.comparison_notEqual]
    exact congrArg Truth.not (Truth.or_no _)

theorem or_eq_left_iff {a b : Bool} : (a || b) = a ↔ a = true ∨ b = false := by
  cases a <;> cases b <;> decide

theorem cased_placeholder_inj {asText asText' : Bool} :
    cased asText (.placeholder place) = cased asText' (.placeholder place) ↔ asText = asText' := by
  cases asText <;> cases asText' <;> simp [cased, Expr.upper]

/-- A filter with one operand in its list and the equality with that operand. They compare the same
values, and so are true of the same rows, if the column is text or the operand is none; a text for
another column is compared as text in the list alone. -/
theorem of?_singleton (h : isBlank true v = false) (f : Filter) (c : QueryColumn) (place : Nat)
    (negated : Bool) :
    ∃ r r', of? (f.oneOf negated v) c place = some r ∧ of? (f.sameAs negated v) c place = some r'
      ∧ ComparesTo c place negated (c.displayType.isText || isText v)
        (valueOf c.displayType (c.displayType.isText || isText v) v) r
      ∧ ComparesTo c place negated c.displayType.isText
        (valueOf c.displayType c.displayType.isText v) r'
      ∧ (compared? r.expr = compared? r'.expr ∧ r.params = r'.params
        ↔ c.displayType.isText = true ∨ isText v = false)
      ∧ (c.displayType.isText = true ∨ isText v = false →
        ∀ {α : Type} (E : Engine α) (s : Site α), E.truth s r.expr = E.truth s r'.expr) := by
  refine ⟨_, _, of?_oneOf h f c place negated, of?_sameAs h f c place negated, ⟨rfl, rfl⟩,
    ⟨by cases negated <;> rfl, rfl⟩, ⟨?_, fun halike => ?_⟩, fun halike α E s => ?_⟩
  · rintro ⟨hcompared, -⟩
    have hsides : cased (c.displayType.isText || isText v) (.placeholder place)
        = cased c.displayType.isText (.placeholder place) := by
      cases negated <;> exact (Prod.mk.inj (Prod.mk.inj (Option.some.inj hcompared)).2).1
    exact or_eq_left_iff.1 (cased_placeholder_inj.1 hsides)
  · rw [or_eq_left_iff.2 halike]
    cases negated <;> exact ⟨rfl, rfl⟩
  · rw [Engine.truth_nested, Engine.truth_nested, or_eq_left_iff.2 halike]
    exact truth_singleton E s negated _ _

section Shipments

def shipped : Filter where
  columnName := "Shipped"

theorem of?_singleton_region :
    isBlank true (.string "eu") = false
      ∧ ∃ r r', of? (shipped.oneOf true (.string "eu")) (named "Region" .string) 1 = some r
        ∧ of? (shipped.sameAs true (.string "eu")) (named "Region" .string) 1 = some r'
        ∧ r.params = [.text "eu"] ∧ r'.params = [.text "eu"]
        ∧ plainValues.truth (saleRow (some (.text "EU")) r.params) r.expr
          = plainValues.truth (saleRow (some (.text "EU")) r.params) r'.expr := by
  have hblank : isBlank true (.string "eu") = false := by decide +kernel
  obtain ⟨r, r', hr, hr', hlist, hequal, -, hsame⟩ :=
    of?_singleton hblank shipped (named "Region" .string) 1 true
  exact ⟨hblank, r, r', hr, hr', hlist.params, hequal.params, hsame (.inl rfl) plainValues _⟩

def leapDay : Calendar.Timestamp := .midnight ⟨2024, 2, 29, by decide⟩

/-- A day for a column of days is a time in an equality but a text in a list, and the list misses
the row with that time. -/
theorem of?_singleton_day :
    isBlank true (.string "2024-02-29") = false
      ∧ ∃ r r', of? (shipped.oneOf false (.string "2024-02-29")) (named "Shipped" .date) 1 = some r
        ∧ of? (shipped.sameAs false (.string "2024-02-29")) (named "Shipped" .date) 1 = some r'
        ∧ r.params = [.text "2024-02-29"] ∧ r'.params = [.timestamp leapDay]
        ∧ plainValues.truth (saleRow (some (.timestamp leapDay)) r.params) r.expr = .no
        ∧ plainValues.truth (saleRow (some (.timestamp leapDay)) r'.params) r'.expr = .yes := by
  have hblank : isBlank true (.string "2024-02-29") = false := by decide +kernel
  have htime : Parameter.forDisplayType .date (.string "2024-02-29") = .timestamp leapDay := by
    decide +kernel
  have hparams : [valueOf .date false (.string "2024-02-29")] = [.timestamp leapDay] := by
    rw [← htime]
    rfl
  refine ⟨hblank, _, _, of?_oneOf hblank shipped _ 1 false, of?_sameAs hblank shipped _ 1 false,
    rfl, hparams, by decide +kernel, ?_⟩
  change plainValues.truth (saleRow _ [valueOf .date false (.string "2024-02-29")]) _ = _
  rw [hparams]
  decide +kernel

end Shipments

end Restriction

end Reporting
