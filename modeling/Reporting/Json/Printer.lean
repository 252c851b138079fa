import Reporting.Json.Basic

/-!
# JSON text

The compact form without blanks. Quotes, backslashes and control characters are escaped, all other
characters stand for themselves.
-/

namespace Reporting.Json

def hexDigit (n : Nat) : Char := Nat.digitChar n

def escape (c : Char) : List Char :=
  if c = '"' then ['\\', '"']
  else if c = '\\' then ['\\', '\\']
  else if c = '\n' then ['\\', 'n']
  else if c = '\r' then ['\\', 'r']
  else if c = '\t' then ['\\', 't']
  else if c = '\x08' then ['\\', 'b']
  else if c = '\x0c' then ['\\', 'f']
  else if c < ' ' then
    ['\\', 'u', '0', '0', hexDigit (c.toNat / 16), hexDigit (c.toNat % 16)]
  else [c]

def quoted (s : String) : List Char := '"' :: s.toList.flatMap escape ++ ['"']

mutual

def print : Json → List Char
  | .null => "null".toList
  | .bool true => "true".toList
  | .bool false => "false".toList
  | .number n => n.toText.toList
  | .string s => quoted s
  | .array elements => '[' :: printElements elements ++ [']']
  | .object members => '{' :: printMembers members ++ ['}']

def printElements : List Json → List Char
  | [] => []
  | [j] => print j
  | j :: rest => print j ++ ',' :: printElements rest

def printMembers : List (String × Json) → List Char
  | [] => []
  | [(name, value)] => quoted name ++ ':' :: print value
  | (name, value) :: rest => quoted name ++ ':' :: print value ++ ',' :: printMembers rest

end

def toText (j : Json) : String := String.ofList j.print

end Reporting.Json
