import Reporting.Model.DisplayType
import Reporting.Sql.Expr

/-!
# Query columns
-/

namespace Reporting

/-- A selected column: the raw value of an item or the text looked up for it. -/
structure QueryColumn where
  itemId : Int
  columnName : String
  label : String
  displayType : DisplayType
  /-- The looked-up text rather than the raw value. -/
  isDisplay : Bool
  isVirtual : Bool
  expr : Sql.Expr

end Reporting
