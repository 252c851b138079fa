import Reporting.Value.Parameter

/-!
# Dialects

How identifiers, placeholders and literals are written for a kind of database.
-/

namespace Reporting.Sql

inductive Dialect
  | ansi
  | postgres
  | duckDb
deriving DecidableEq, Repr

/-- Text between quotes, with each quote inside doubled. -/
def quotedBy (quote : Char) (s : String) : String :=
  let doubled := s.toList.flatMap fun c => if c = quote then [quote, quote] else [c]
  String.ofList (quote :: doubled ++ [quote])

def isNameStart (c : Char) : Bool := c.isAlpha || c == '_'

def isNameChar (c : Char) : Bool := c.isAlphanum || c == '_'

/-- An ASCII letter or underscore with letters, digits and underscores after it. -/
def isPlainName (s : String) : Bool :=
  match s.toList with
  | [] => false
  | c :: cs => isNameStart c && cs.all isNameChar

namespace Dialect

/-- Plain names stay bare, so that a database that ignores the case of names still does so. -/
def quoteName (_ : Dialect) (s : String) : String :=
  if isPlainName s then s else quotedBy '"' s

/-- The mark for a bound value, counted from zero. -/
def placeholder : Dialect → Nat → String
  | .postgres, index => s!"${index + 1}"
  | _, _ => "?"

/-- Flags are letters in databases without a type for them. -/
def literal (d : Dialect) : Parameter → String
  | .null => "NULL"
  | .boolean b =>
    match d with
    | .duckDb => if b then "true" else "false"
    | _ => if b then "'Y'" else "'N'"
  | .integer i => toString i.toInt
  | .number n => n.toText
  | .text s => quotedBy '\'' s
  | .timestamp t => "TIMESTAMP '" ++ t.display ++ "'"

end Dialect

end Reporting.Sql
