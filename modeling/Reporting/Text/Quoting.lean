import Reporting.Text.HiddenTable
import Reporting.Text.Lowercase

/-!
# Quoted text for inspection

The form in which values without a text of their own show the texts inside them. Quotes,
backslashes and characters that cannot be seen are written as escapes.
-/

namespace Reporting.Text

def isHidden (c : Char) : Bool :=
  c.toNat < 0x20 || c.toNat = 0x7f || (0x80 ≤ c.toNat && inRanges hiddenRanges c)

def inspectChar (c : Char) : List Char :=
  if c = '"' then ['\\', '"']
  else if c = '\\' then ['\\', '\\']
  else if c = '\n' then ['\\', 'n']
  else if c = '\r' then ['\\', 'r']
  else if c = '\t' then ['\\', 't']
  else if c = '\x00' then ['\\', '0']
  else if isHidden c then ['\\', 'u', '\x7b'] ++ Nat.toDigits 16 c.toNat ++ ['\x7d']
  else [c]

def inspect (s : String) : String := String.ofList ('"' :: s.toList.flatMap inspectChar ++ ['"'])

end Reporting.Text
