import Reporting.Value.Parameter

/-!
# Query expressions

The part of the query language that reports are made of: expressions, select queries with joins, and
the order of rows.
-/

namespace Reporting.Sql

inductive Comparison
  | equal
  | notEqual
  | greater
  | greaterEqual
  | less
  | lessEqual
  | like
  | notLike
deriving DecidableEq, Repr

/-- A table, under a label or its own name. -/
structure TableRef where
  name : String
  label : Option String := none
deriving DecidableEq, Repr

inductive JoinKind
  | inner
  | leftOuter
deriving DecidableEq, Repr

mutual

inductive Expr
  | column (table : Option String) (name : String)
  /-- Text that stands in the query as it is. -/
  | raw (sql : String)
  | literal (value : Parameter)
  /-- The value bound to the query at a place, counted from zero. -/
  | placeholder (index : Nat)
  | call (name : String) (args : List Expr)
  | concat (parts : List Expr)
  | subquery (query : SelectQuery)
  /-- A query for the expression that has a row only if it is null. -/
  | nullProbe (expr : Expr)
  | compare (op : Comparison) (left right : Expr)
  | inList (expr : Expr) (list : List Expr) (negated : Bool)
  | between (expr low high : Expr) (negated : Bool)
  | isNull (expr : Expr) (negated : Bool)
  | or (parts : List Expr)
  | and (parts : List Expr)
  | nested (expr : Expr)

structure SelectItem where
  expr : Expr
  label : Option String := none

structure Join where
  kind : JoinKind
  table : TableRef
  conditions : List Expr

structure OrderItem where
  expr : Expr
  descending : Bool := false

structure SelectQuery where
  select : List SelectItem
  source : TableRef
  joins : List Join := []
  filters : List Expr := []
  groupBy : List Expr := []
  orderBy : List OrderItem := []

end

instance : Inhabited Expr := ⟨.raw ""⟩

instance : Inhabited SelectQuery := ⟨{ select := [], source := { name := "" } }⟩

namespace Expr

def upper (e : Expr) : Expr := .call "UPPER" [e]

def coalesce (args : List Expr) : Expr := .call "COALESCE" args

def ofTable (table name : String) : Expr := .column (some table) name

def text (s : String) : Expr := .literal (.text s)

def equals (left right : Expr) : Expr := .compare .equal left right

end Expr

end Reporting.Sql
