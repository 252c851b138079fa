/-!
# Locales

The language and the conventions by which values are shown.
-/

namespace Reporting

structure Locale where
  language : String := "en_US"
  decimalSeparator : Char := '.'
  groupingSeparator : Char := ','
  datePattern : String := "%m/%d/%Y"
  dateTimePattern : String := "%m/%d/%Y %H:%M:%S"
  timePattern : String := "%H:%M:%S"
  yesLabel : String := "Y"
  noLabel : String := "N"
deriving DecidableEq, Repr

namespace Locale

instance : Inhabited Locale := ⟨{}⟩

def flagLabel (l : Locale) (flag : Bool) : String := if flag then l.yesLabel else l.noLabel

end Locale

end Reporting
