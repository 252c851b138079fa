import Reporting.Json.Printer
import Reporting.Model.Filter
import Reporting.Query.Column

/-!
# Filters as conditions

A filter finds its column by name and becomes a condition in parentheses. Texts are compared in
capitals. The values of a condition are bound to the query, each at the next free place.
-/

namespace Reporting

open Sql (Expr Comparison)

/-- The name of the column whose range a filter name ends, if it has that ending. -/
def rangeBase? (name : String) : Option String :=
  let ending := ['_', 'T', 'o']
  let cs := name.toList
  if ending.isSuffixOf cs then some (String.ofList (cs.take (cs.length - ending.length))) else none

namespace Filter

/-- The filter names the column or the end of its range. -/
def names (name : String) (c : QueryColumn) : Bool :=
  name == c.columnName || rangeBase? name == some c.columnName

/-- The column that a filter restricts: the first one it names, a raw value before any text. -/
def column? (f : Filter) (columns : List QueryColumn) : Option QueryColumn :=
  let name := Text.trim f.columnName
  if name.isEmpty then none
  else
    let candidates := columns.filter (names name)
    (candidates.find? (!·.isDisplay)).or candidates.head?

end Filter

/-- A condition and the values that it binds, in the order of their placeholders. -/
structure Restriction where
  expr : Expr
  params : List Parameter := []

namespace Restriction

/-- An operand that stands for the missing value. -/
def isBlank (asText : Bool) : Json → Bool
  | .null => true
  | .string s => asText && Text.isAllBlank s
  | _ => false

/-- An operand as text: a text itself, anything else as it is written in a document. -/
def textOf : Json → String
  | .string s => s
  | j => j.toText

def isText : Json → Bool
  | .string _ => true
  | _ => false

/-- The value bound for an operand. -/
def valueOf (t : DisplayType) (asText : Bool) (j : Json) : Parameter :=
  if asText then .text (textOf j) else .forDisplayType t j

/-- The placeholder of an operand, in capitals when it is text. -/
def operand (asText : Bool) (index : Nat) : Expr :=
  if asText then .upper (.placeholder index) else .placeholder index

/-- The placeholders of the operands that are not blank and their values. -/
def listOf (t : DisplayType) (bound : Nat) : List Json → List (Bool × Expr × Parameter)
  | [] => []
  | j :: rest =>
    let asText := t.isText || isText j
    if isBlank asText j then listOf t bound rest
    else (asText, operand asText bound, valueOf t asText j) :: listOf t (bound + 1) rest

/-- Membership in a list. A blank operand lets rows without a value through. -/
def membership (c : QueryColumn) (bound : Nat) (negated : Bool) (values : List Json) :
    Option Restriction :=
  let list := listOf c.displayType bound values
  let hasBlank := values.any fun j => isBlank (c.displayType.isText || isText j) j
  if list.isEmpty then
    if hasBlank then some { expr := .isNull c.expr negated } else none
  else
    let target := if list.any (·.1) then .upper c.expr else c.expr
    let inList := Expr.inList target (list.map fun (_, e, _) => e) negated
    some {
      expr := if hasBlank then .or [inList, .nullProbe c.expr] else inList
      params := list.map fun (_, _, p) => p }

/-- A range whose missing bounds restrict nothing. -/
def range (c : QueryColumn) (bound : Nat) (negated : Bool) (low high : Parameter) :
    Option Restriction :=
  match low.isNull, high.isNull with
  | true, true => none
  | true, false => some ⟨.compare .lessEqual c.expr (.placeholder bound), [high]⟩
  | false, true => some ⟨.compare .greaterEqual c.expr (.placeholder bound), [low]⟩
  | false, false =>
    some ⟨.between c.expr (.placeholder bound) (.placeholder (bound + 1)) negated, [low, high]⟩

/-- The operand of a text search, empty when it is missing. -/
def patternOf : Json → String
  | .null => ""
  | j => textOf j

/-- The column holds the operand anywhere in its text. -/
def search (c : QueryColumn) (bound : Nat) (op : Comparison) (j : Json) : Restriction where
  expr := .compare op (.upper c.expr)
    (.concat [.text "%", .upper (.placeholder bound), .text "%"])
  params := [.text (patternOf j)]

/-- Equality or its opposite. A blank operand lets rows without a value through. -/
def equality (c : QueryColumn) (bound : Nat) (op : Comparison) (j : Json) : Restriction :=
  let asText := c.displayType.isText
  let blank := isBlank asText j
  if asText && !blank then
    ⟨.compare op (.upper c.expr) (.upper (.placeholder bound)), [.text (textOf j)]⟩
  else
    let value := if asText then .text "" else .forDisplayType c.displayType j
    let comparison := Expr.compare op c.expr (.placeholder bound)
    ⟨if blank then .or [comparison, .isNull c.expr false] else comparison, [value]⟩

def comparison (c : QueryColumn) (bound : Nat) (op : Comparison) (j : Json) : Restriction :=
  ⟨.compare op c.expr (.placeholder bound), [.forDisplayType c.displayType j]⟩

/-- The condition of a filter on a column before it is put in parentheses. -/
def bare (f : Filter) (c : QueryColumn) (bound : Nat) : Option Restriction :=
  let from' := Parameter.forDisplayType c.displayType f.fromValue
  let to' := Parameter.forDisplayType c.displayType f.toValue
  match f.operator with
  | .isIn => membership c bound false f.values
  | .notIn => membership c bound true f.values
  | .between => range c bound false from' to'
  | .notBetween => range c bound true from' to'
  | .like => some (search c bound .like f.value)
  | .notLike => some (search c bound .notLike f.value)
  | .null => some { expr := .isNull c.expr false }
  | .notNull => some { expr := .isNull c.expr true }
  | .equal => some (equality c bound .equal f.value)
  | .notEqual => some (equality c bound .notEqual f.value)
  | .greater => some (comparison c bound .greater f.value)
  | .greaterEqual => some (comparison c bound .greaterEqual f.value)
  | .less => some (comparison c bound .less f.value)
  | .lessEqual => some (comparison c bound .lessEqual f.value)

/-- The condition of a filter on a column when `bound` values are bound before it; none when the
filter restricts nothing. -/
def of? (f : Filter) (c : QueryColumn) (bound : Nat) : Option Restriction :=
  (bare f c bound).map fun r => { r with expr := .nested r.expr }

/-- The conditions of the filters that restrict a column, `bound` values being bound before
them. -/
def all (columns : List QueryColumn) (bound : Nat) : List Filter → List Restriction
  | [] => []
  | f :: rest =>
    match (f.column? columns).bind (of? f · bound) with
    | none => all columns bound rest
    | some r => r :: all columns (bound + r.params.length) rest

end Restriction

end Reporting
