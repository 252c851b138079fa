import Reporting.Json.Basic
import Reporting.Text.Blank
import Reporting.Text.Lowercase

/-!
# Filters

A filter restricts one column by an operator and the operands that the operator looks at. An
operator that is not known is equality.
-/

namespace Reporting

inductive FilterOperator
  | equal
  | notEqual
  | isIn
  | notIn
  | between
  | notBetween
  | like
  | notLike
  | null
  | notNull
  | greater
  | greaterEqual
  | less
  | lessEqual
deriving DecidableEq, Repr

namespace FilterOperator

def name : FilterOperator → String
  | .equal => "equal"
  | .notEqual => "not_equal"
  | .isIn => "in"
  | .notIn => "not_in"
  | .between => "between"
  | .notBetween => "not_between"
  | .like => "like"
  | .notLike => "not_like"
  | .null => "null"
  | .notNull => "not_null"
  | .greater => "greater"
  | .greaterEqual => "greater_equal"
  | .less => "less"
  | .lessEqual => "less_equal"

def sql : FilterOperator → String
  | .equal => "="
  | .notEqual => "<>"
  | .isIn => "IN"
  | .notIn => "NOT IN"
  | .between => "BETWEEN"
  | .notBetween => "NOT BETWEEN"
  | .like => "LIKE"
  | .notLike => "NOT LIKE"
  | .null => "IS NULL"
  | .notNull => "IS NOT NULL"
  | .greater => ">"
  | .greaterEqual => ">="
  | .less => "<"
  | .lessEqual => "<="

/-- The operator with a name or sign, in any case and with blanks around it. -/
def ofText (raw : String) : FilterOperator :=
  match Text.asciiLower (Text.trim raw) with
  | "not_equal" | "!=" | "<>" => .notEqual
  | "in" => .isIn
  | "not_in" | "not in" => .notIn
  | "between" => .between
  | "not_between" | "not between" => .notBetween
  | "like" => .like
  | "not_like" | "not like" => .notLike
  | "null" | "is null" => .null
  | "not_null" | "is not null" => .notNull
  | "greater" | ">" => .greater
  | "greater_equal" | ">=" => .greaterEqual
  | "less" | "<" => .less
  | "less_equal" | "<=" => .lessEqual
  | _ => .equal

end FilterOperator

structure Filter where
  columnName : String
  operator : FilterOperator := .equal
  value : Json := .null
  values : List Json := []
  fromValue : Json := .null
  toValue : Json := .null

end Reporting
