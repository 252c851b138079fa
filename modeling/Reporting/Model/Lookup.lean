/-!
# Lookup targets

The table and columns in which the text for a value is found, with its translation and with an
equality that tells apart values of several lists kept in one table.
-/

namespace Reporting

structure Lookup where
  tableName : String
  keyColumn : String
  displayColumn : String
  valueDisplayed : Bool := false
  translated : Bool := false
  /-- The key shared with the translation table where it is not the key column. -/
  translationKey : Option String := none
  /-- A column of the table and the number it must have. -/
  discriminator : Option (String × Int) := none
deriving DecidableEq, Repr

namespace Lookup

def translationTable (l : Lookup) : String := l.tableName ++ "_Trl"

def sharedKey (l : Lookup) : String := l.translationKey.getD l.keyColumn

end Lookup

end Reporting
