import Reporting.Json.Reader

/-!
# Reading chosen members

The text of an object can be read for its members of given names alone. Other members are passed
over by their form, so they may hold what no value can: numbers without room, halves of surrogate
pairs and any nesting.
-/

namespace Reporting.Json

section Skipping

def skipString : List Char → Option (List Char)
  | '"' :: cs => some cs
  | '\\' :: 'u' :: a :: b :: c :: d :: cs =>
    if (unit? a b c d).isSome then skipString cs else none
  | '\\' :: c :: cs => if (escaped? c).isSome then skipString cs else none
  | c :: cs => if c < ' ' || c = '\\' then none else skipString cs
  | [] => none

def skipNumber? (cs : List Char) : Option (List Char) := do
  let cs := match cs with
    | '-' :: r => r
    | r => r
  let (_, cs) ← wholePart? cs
  let (_, cs) ← fractionPart? cs
  let (_, cs) ← exponentPart? cs
  return cs

def skipName? (name : List Char) (cs : List Char) : Option (List Char) :=
  if name.isPrefixOf cs then some (cs.drop name.length) else none

mutual

/-- The rest after one value; `fuel` bounds the steps. -/
def skip? (fuel : Nat) (cs : List Char) : Option (List Char) :=
  match fuel with
  | 0 => none
  | fuel + 1 =>
    match skipBlanks cs with
    | '"' :: cs => skipString cs
    | '[' :: cs =>
      match skipBlanks cs with
      | ']' :: cs => some cs
      | cs => skipElements? fuel cs
    | '{' :: cs =>
      match skipBlanks cs with
      | '}' :: cs => some cs
      | cs => skipMembers? fuel cs
    | 'n' :: cs => skipName? "ull".toList cs
    | 't' :: cs => skipName? "rue".toList cs
    | 'f' :: cs => skipName? "alse".toList cs
    | cs => skipNumber? cs

def skipElements? (fuel : Nat) (cs : List Char) : Option (List Char) :=
  match fuel with
  | 0 => none
  | fuel + 1 => do
    match skipBlanks (← skip? fuel cs) with
    | ',' :: cs => skipElements? fuel cs
    | ']' :: cs => return cs
    | _ => none

def skipMembers? (fuel : Nat) (cs : List Char) : Option (List Char) :=
  match fuel with
  | 0 => none
  | fuel + 1 => do
    let '"' :: cs := skipBlanks cs | none
    let ':' :: cs := skipBlanks (← skipString cs) | none
    match skipBlanks (← skip? fuel cs) with
    | ',' :: cs => skipMembers? fuel cs
    | '}' :: cs => return cs
    | _ => none

end

end Skipping

/-- The members of the given names in what follows the opening brace of an object. -/
def chosenMembers? (names : List String) (fuel : Nat) (cs : List Char) :
    Option (List (String × Json) × List Char) :=
  match fuel with
  | 0 => none
  | fuel + 1 => do
    let '"' :: cs := skipBlanks cs | none
    let (name, cs) ← stringBody cs
    let ':' :: cs := skipBlanks cs | none
    let name := String.ofList name
    let (member, cs) ← if names.contains name
      then (value? fuel 126 cs).map fun (j, cs) => ([(name, j)], cs)
      else (skip? fuel cs).map fun cs => ([], cs)
    match skipBlanks cs with
    | ',' :: cs =>
      let (rest, cs) ← chosenMembers? names fuel cs
      return (member ++ rest, cs)
    | '}' :: cs => return (member, cs)
    | _ => none

/-- The value of a text, of an object only the members of the given names. -/
def chosen? (names : List String) (s : String) : Option Json :=
  let cs := s.toList
  match skipBlanks cs with
  | '{' :: cs => do
    let (members, rest) ← match skipBlanks cs with
      | '}' :: cs => some ([], cs)
      | cs => chosenMembers? names (2 * cs.length + 2) cs
    if (skipBlanks rest).isEmpty then some (.object members) else none
  | _ => ofText? s

end Reporting.Json
