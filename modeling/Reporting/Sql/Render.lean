import Reporting.Sql.Dialect
import Reporting.Sql.Expr

/-!
# Query text

Expressions and queries as text in a dialect. Parentheses stand only where an expression asks for
them.
-/

namespace Reporting.Sql

def Comparison.sql : Comparison → String
  | .equal => "="
  | .notEqual => "<>"
  | .greater => ">"
  | .greaterEqual => ">="
  | .less => "<"
  | .lessEqual => "<="
  | .like => "LIKE"
  | .notLike => "NOT LIKE"

def JoinKind.sql : JoinKind → String
  | .inner => "INNER JOIN"
  | .leftOuter => "LEFT OUTER JOIN"

def commaList (parts : List String) : String := String.intercalate ", " parts

/-- Conditions all of which must hold. -/
def conjunction (parts : List String) : String := String.intercalate " AND " parts

/-- A clause of a query, left out when it has no parts. -/
def clause (keyword : String) (join : List String → String) (parts : List String) : String :=
  if parts.isEmpty then "" else s!" {keyword} " ++ join parts

def notMark (negated : Bool) : String := if negated then "NOT " else ""

namespace Dialect

def renderTable (d : Dialect) (t : TableRef) : String :=
  match t.label with
  | some a => d.quoteName t.name ++ " " ++ d.quoteName a
  | none => d.quoteName t.name

mutual

def renderExpr (d : Dialect) : Expr → String
  | .column (some table) name => d.quoteName table ++ "." ++ d.quoteName name
  | .column none name => d.quoteName name
  | .raw sql => sql
  | .literal v => d.literal v
  | .placeholder index => d.placeholder index
  | .call name args => name ++ "(" ++ commaList (renderExprs d args) ++ ")"
  | .concat parts => String.intercalate " || " (renderExprs d parts)
  | .subquery query => "(" ++ renderSelect d query ++ ")"
  | .nullProbe e =>
    let rendered := renderExpr d e
    "(SELECT " ++ rendered ++ " WHERE " ++ rendered ++ " IS NULL)"
  | .compare op left right => renderExpr d left ++ " " ++ op.sql ++ " " ++ renderExpr d right
  | .inList e list negated =>
    renderExpr d e ++ " " ++ notMark negated ++ "IN (" ++ commaList (renderExprs d list) ++ ")"
  | .between e low high negated =>
    renderExpr d e ++ " " ++ notMark negated ++ "BETWEEN " ++ renderExpr d low ++ " AND "
      ++ renderExpr d high
  | .isNull e negated => renderExpr d e ++ " IS " ++ notMark negated ++ "NULL"
  | .or parts => String.intercalate " OR " (renderExprs d parts)
  | .and parts => conjunction (renderExprs d parts)
  | .nested e => "(" ++ renderExpr d e ++ ")"

def renderExprs (d : Dialect) : List Expr → List String
  | [] => []
  | e :: es => renderExpr d e :: renderExprs d es

def renderItem (d : Dialect) : SelectItem → String
  | ⟨e, some label⟩ => renderExpr d e ++ " AS " ++ d.quoteName label
  | ⟨e, none⟩ => renderExpr d e

def renderItems (d : Dialect) : List SelectItem → List String
  | [] => []
  | i :: is => renderItem d i :: renderItems d is

def renderJoin (d : Dialect) : Join → String
  | ⟨kind, table, conditions⟩ =>
    " " ++ kind.sql ++ " " ++ renderTable d table ++ " ON ("
      ++ conjunction (renderExprs d conditions) ++ ")"

def renderJoins (d : Dialect) : List Join → List String
  | [] => []
  | j :: js => renderJoin d j :: renderJoins d js

def renderOrderItem (d : Dialect) : OrderItem → String
  | ⟨e, descending⟩ => renderExpr d e ++ if descending then " DESC" else ""

def renderOrderItems (d : Dialect) : List OrderItem → List String
  | [] => []
  | o :: os => renderOrderItem d o :: renderOrderItems d os

def renderSelect (d : Dialect) : SelectQuery → String
  | ⟨select, source, joins, filters, groupBy, orderBy⟩ =>
    "SELECT " ++ commaList (renderItems d select) ++ " FROM " ++ renderTable d source
      ++ String.join (renderJoins d joins)
      ++ clause "WHERE" conjunction (renderExprs d filters)
      ++ clause "GROUP BY" commaList (renderExprs d groupBy)
      ++ clause "ORDER BY" commaList (renderOrderItems d orderBy)

end

def renderOrder (d : Dialect) (items : List OrderItem) : String :=
  commaList (renderOrderItems d items)

end Dialect

end Reporting.Sql
