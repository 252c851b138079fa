import Reporting.Calendar.Pattern

/-!
# Date patterns in letters

Patterns such as `dd/MM/yyyy` name a field by a run of one letter. They are turned into the pattern
with directives that means the same; text in quotes and any other character stays as it is.
-/

namespace Reporting.LetterPattern

/-- The directive that a run of a letter stands for. -/
def directive? (c : Char) (run : Nat) : Option (List Char) :=
  match c, run with
  | 'y', 2 => some ['%', 'y']
  | 'y', _ => some ['%', 'Y']
  | 'M', 1 => some ['%', '-', 'm']
  | 'M', 2 => some ['%', 'm']
  | 'M', 3 => some ['%', 'b']
  | 'M', _ => some ['%', 'B']
  | 'd', 1 => some ['%', '-', 'd']
  | 'd', _ => some ['%', 'd']
  | 'H', 1 => some ['%', '-', 'H']
  | 'H', _ => some ['%', 'H']
  | 'h', 1 => some ['%', '-', 'I']
  | 'h', _ => some ['%', 'I']
  | 'm', _ => some ['%', 'M']
  | 's', _ => some ['%', 'S']
  | 'S', _ => some ['%', '3', 'f']
  | 'a', _ => some ['%', 'p']
  | 'E', n => some (if 4 ≤ n then ['%', 'A'] else ['%', 'a'])
  | _, _ => none

/-- A run of one character, as a directive if it is one. -/
def translateRun (c : Char) (run : Nat) : List Char :=
  (directive? c run).getD (List.replicate run c)

/-- A quote without an end reaches to the end of the pattern. -/
def translate : List Char → List Char
  | [] => []
  | c :: cs =>
    if c = '\'' then
      cs.takeWhile (· != '\'') ++ translate ((cs.dropWhile (· != '\'')).drop 1)
    else
      translateRun c ((cs.takeWhile (· == c)).length + 1) ++ translate (cs.dropWhile (· == c))
termination_by cs => cs.length
decreasing_by
  all_goals
    simp only [List.length_drop, List.length_cons]
    have h1 := (List.dropWhile_suffix (l := cs) (· != '\'')).length_le
    have h2 := (List.dropWhile_suffix (l := cs) (· == c)).length_le
    omega

end Reporting.LetterPattern
