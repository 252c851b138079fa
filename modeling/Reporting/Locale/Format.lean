import Reporting.Error
import Reporting.Locale.Basic
import Reporting.Locale.DatePattern
import Reporting.Locale.NumberPattern
import Reporting.Model.DisplayType

/-!
# Formatting by locale

Numbers and timestamps take the pattern of their item or, without one, that of their display type.
A date pattern that cannot be understood gives way to the locale's and that one to a fixed pattern.
-/

namespace Reporting

def DisplayType.numberPattern : DisplayType → String
  | .integer | .id => "#,##0"
  | .amount => "#,##0.00"
  | .costPrice => "#,##0.00####"
  | _ => "#,##0.####"

namespace Locale

/-- A pattern of blanks is none. -/
def given (pattern : Option String) : Option String := pattern.filter (!Text.isAllBlank ·)

theorem given_of_not_blank {s : String} (h : Text.isAllBlank s = false) :
    given (some s) = some s := by
  simp [given, Option.filter, h]

def formatNumber (l : Locale) (t : DisplayType) (pattern : Option String) (d : Decimal) :
    String :=
  (NumberPattern.ofText ((given pattern).getD t.numberPattern)).format l.decimalSeparator
    l.groupingSeparator d

/-- A date pattern with directives as it is, one of letters translated into directives. -/
def directives (s : String) : String :=
  if s.contains '%' then s else String.ofList (LetterPattern.translate s.toList)

def timestampPattern (l : Locale) : DisplayType → String
  | .dateTime => l.dateTimePattern
  | .time => l.timePattern
  | _ => l.datePattern

/-- The pattern when nothing else is understood. -/
def plainPattern : String := "%Y-%m-%d %H:%M:%S"

/-- The first pattern that is understood: the item's, the locale's, the fixed one. -/
def timestampDirectives (l : Locale) (t : DisplayType) (pattern : Option String) :
    Calendar.Pattern :=
  (((given pattern).bind fun p => Calendar.Pattern.ofText? (directives p)).or
    (Calendar.Pattern.ofText? (l.timestampPattern t))).getD
      ((Calendar.Pattern.ofText? plainPattern).getD [])

theorem timestampDirectives_of_percent {s : String} {p : Calendar.Pattern}
    (hblank : Text.isAllBlank s = false) (hpercent : '%' ∈ s.toList)
    (hread : Calendar.Pattern.ofText? s = some p) (l : Locale) (t : DisplayType) :
    l.timestampDirectives t (some s) = p := by
  have hdirectives : directives s = s := by simp [directives, String.contains_char_eq, hpercent]
  rw [timestampDirectives, given_of_not_blank hblank, Option.bind_some, hdirectives, hread,
    Option.some_or, Option.getD_some]

/-- The text of a timestamp; a pattern that asks for a time zone is understood but has no text. -/
def formatTimestamp (l : Locale) (t : DisplayType) (pattern : Option String)
    (ts : Calendar.Timestamp) : Except ReportError String :=
  match (l.timestampDirectives t pattern).render? ts with
  | some s => .ok s
  | none => .error .zoneNeeded

end Locale

end Reporting
