/-!
# Blanks

The characters with the white space property, and trimming by them.
-/

namespace Reporting.Text

/-- The characters of the white space property. -/
def isBlank (c : Char) : Bool :=
  ('\x09' ≤ c && c ≤ '\x0d') || c == ' ' || c == '\u0085' || c == '\u00a0' || c == '\u1680'
    || ('\u2000' ≤ c && c ≤ '\u200a') || c == '\u2028' || c == '\u2029' || c == '\u202f'
    || c == '\u205f' || c == '\u3000'

def trimStart (cs : List Char) : List Char := cs.dropWhile isBlank

def trimEnd (cs : List Char) : List Char := (cs.reverse.dropWhile isBlank).reverse

/-- The text without the blanks at its ends. -/
def trim (s : String) : String := String.ofList (trimEnd (trimStart s.toList))

def isAllBlank (s : String) : Bool := s.toList.all isBlank

end Reporting.Text
