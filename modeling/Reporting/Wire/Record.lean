import Reporting.Json.Basic

/-!
# Strict reading of records

A record is an object with named fields, or an array of its fields in order. Unknown names are
passed over, a name that comes twice is refused, a field without a default is required, and the
types of fields are not converted.
-/

namespace Reporting.Wire

/-- None of the names comes twice. -/
def noneTwice (names : List String) (members : List (String × Json)) : Bool :=
  names.all fun name => (members.filter (·.1 == name)).length ≤ 1

/-- The fields present in a record of the given field names. -/
def fields? (names : List String) : Json → Option (List (String × Json))
  | .object members => if noneTwice names members then some members else none
  | .array elements => if elements.length ≤ names.length then some (names.zip elements) else none
  | _ => none

/-- A field as it stands, none when it is missing. -/
def present? (name : String) (fields : List (String × Json)) : Option Json :=
  (fields.find? (·.1 == name)).map (·.2)

def required {α : Type} (name : String) (read : Json → Option α) (fields : List (String × Json)) :
    Option α :=
  (present? name fields).bind read

def withDefault {α : Type} (name : String) (default : α) (read : Json → Option α)
    (fields : List (String × Json)) : Option α :=
  match present? name fields with
  | none => some default
  | some j => read j

def string? : Json → Option String
  | .string s => some s
  | _ => none

def bool? : Json → Option Bool
  | .bool b => some b
  | _ => none

def intBetween? (least most : Int) : Json → Option Int
  | .number (.integer i _) => if least ≤ i ∧ i ≤ most then some i else none
  | _ => none

def int64? : Json → Option Int := intBetween? (-2 ^ 63) (2 ^ 63 - 1)

def int32? : Json → Option Int := intBetween? (-2 ^ 31) (2 ^ 31 - 1)

def uint64? (j : Json) : Option UInt64 := (intBetween? 0 (2 ^ 64 - 1) j).map (.ofNat ·.toNat)

/-- Null is the absent value. -/
def option? {α : Type} (read : Json → Option α) : Json → Option (Option α)
  | .null => some none
  | j => (read j).map some

def list? {α : Type} (read : Json → Option α) : Json → Option (List α)
  | .array elements => elements.mapM read
  | _ => none

def pair? {α β : Type} (first : Json → Option α) (second : Json → Option β) :
    Json → Option (α × β)
  | .array [a, b] => do return (← first a, ← second b)
  | _ => none

def char? : Json → Option Char
  | .string s =>
    match s.toList with
    | [c] => some c
    | _ => none
  | _ => none

/-- One of several names, alone or as the only member of an object with nothing in it. -/
def choice? {α : Type} (ofName? : String → Option α) : Json → Option α
  | .string s => ofName? s
  | .object [(name, .null)] => ofName? name
  | _ => none

/-- An object with any names. -/
def table? {α : Type} (read : Json → Option α) : Json → Option (List (String × α))
  | .object members => members.mapM fun (name, j) => (read j).map (name, ·)
  | _ => none

end Reporting.Wire
