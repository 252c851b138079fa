import Reporting.Text.CaseTable

/-!
# Small letters

The small form of a text, used where texts are ordered without regard to case. A capital sigma at
the end of a word becomes the final form, and a dotted capital I keeps its dot as a mark.
-/

namespace Reporting.Text

def inRanges (ranges : List (Nat × Nat)) (c : Char) : Bool :=
  ranges.any fun (first, last) => first ≤ c.toNat && c.toNat ≤ last

def isCased (c : Char) : Bool := inRanges casedRanges c

def isCaseIgnorable (c : Char) : Bool := inRanges caseIgnorableRanges c

/-- The distance from a capital to its small letter. -/
def capitalDistance? (c : Char) : Option Int :=
  (capitalRuns.find? fun (first, last, step, _) =>
    first ≤ c.toNat && c.toNat ≤ last && (c.toNat - first) % step = 0).map (·.2.2.2)

/-- The small form of one character, wherever it stands. -/
def lowerChar (c : Char) : List Char :=
  if c.toNat < 128 then [c.toLower]
  else if c = 'İ' then ['i', '\u0307']
  else
    match capitalDistance? c with
    | some d => [Char.ofNat (c.toNat + d).toNat]
    | none => [c]

/-- The nearest character that matters for case is one that has it. -/
def meetsCased (cs : List Char) : Bool :=
  match cs.dropWhile isCaseIgnorable with
  | c :: _ => isCased c
  | [] => false

/-- The small forms of `cs`, the characters before it given in reverse. -/
def lowerFrom (before : List Char) : List Char → List Char
  | [] => []
  | c :: cs =>
    (if c = 'Σ' then (if meetsCased before && !meetsCased cs then ['ς'] else ['σ'])
      else lowerChar c) ++ lowerFrom (c :: before) cs

def toLowercase (s : String) : String := String.ofList (lowerFrom [] s.toList)

/-- ASCII letters alone, the form in which names are compared. -/
def asciiLower (s : String) : String := s.map Char.toLower

/-- Equal but for the case of ASCII letters. -/
def sameAsciiCase (a b : String) : Bool := asciiLower a == asciiLower b

/-- ASCII capitals alone. -/
def asciiUpper (s : String) : String := s.map Char.toUpper

end Reporting.Text
