import Reporting.Page.Basic
import Reporting.Query.Projection
import Reporting.Query.Restriction
import Reporting.Sql.Render

/-!
# Report queries

The query of a report selects the columns of its items under the conditions of the filters, of
access control and of the page, in that order. The count query has no page and no order.
-/

namespace Reporting

open Sql (Dialect SelectItem SelectQuery)

/-- A condition on the rows of a table that the reader of a report may see. -/
abbrev AccessControl := String → Option String

namespace AccessControl

def unrestricted : AccessControl := fun _ => none

end AccessControl

structure QueryOptions where
  language : String
  paging : Paging
  /-- The table and the address columns of financial reports. -/
  financial : FinancialSettings
deriving DecidableEq, Repr

namespace QueryOptions

def ofSettings (s : ResolvedSettings) : QueryOptions where
  language := s.locale.language
  paging := .ofStrategy s.pages.strategy
  financial := s.financial

end QueryOptions

structure ReportQuery where
  /-- The selection without conditions. -/
  query : String
  columns : List QueryColumn
  orderBy : Option String
  groupBy : Option String
  filters : List Filter
  params : List Parameter
  /-- The conditions of the filters alone. -/
  condition : Option String
  complete : String
  count : String
  page : Page

namespace ReportQuery

/-- Texts joined by a separator, none when there are none. -/
def joined (join : List String → String) (parts : List String) : Option String :=
  if parts.isEmpty then none else some (join parts)

/-- Selects a column of the address of financial rows unless an item already does. -/
def addAddress (table : String) (select : List SelectItem) (column : String) : List SelectItem :=
  let named (i : SelectItem) : Bool := i.label.any (Text.sameAsciiCase · column)
  if select.any named then select else select ++ [⟨.ofTable table column, some column⟩]

/-- The rows of financial reports are selected with their addresses. -/
def selectItems (options : QueryOptions) (d : Definition) (p : Projection) : List SelectItem :=
  if d.tableName = options.financial.tableName then
    [options.financial.levelColumn, options.financial.sequenceColumn].foldl
      (addAddress d.tableName) p.selected
  else p.selected

/-- Access control does not apply to the table of financial reports, which belongs to one run. -/
def accessCondition (options : QueryOptions) (access : AccessControl) (d : Definition) :
    Option String :=
  if d.tableName = options.financial.tableName then none else access d.tableName

/-- The end of a query: grouping, order and the end of the page clause. -/
def ending (keyword : String) (text : Option String) : String :=
  match text with
  | some s => s!" {keyword} " ++ s
  | none => ""

def restricted (query : String) (conditions : List String) : String :=
  query ++ Sql.clause "WHERE" Sql.conjunction conditions

def build (dialect : Dialect) (access : AccessControl) (options : QueryOptions) (d : Definition)
    (resolver : Resolver) (filters : List Filter) (page : Page) :
    Except ReportError ReportQuery := do
  let p ← Projection.ofDefinition resolver options.language d
  let query := dialect.renderSelect {
    select := selectItems options d p
    source := { name := d.tableName }
    joins := p.joins }
  let restrictions := Restriction.all p.columns 0 filters
  let condition := joined Sql.conjunction (restrictions.map fun r => dialect.renderExpr r.expr)
  let conditions := condition.toList ++ (accessCondition options access d).toList
  let groupBy := joined Sql.commaList d.groupBy
  let orderBy := if p.order.isEmpty then none else some (dialect.renderOrder p.order)
  let clause := options.paging.clause page
  return {
    query := query
    columns := p.columns
    orderBy := orderBy
    groupBy := groupBy
    filters := filters
    params := restrictions.flatMap Restriction.params
    condition := condition
    complete := restricted query (conditions ++ clause.condition.toList)
      ++ ending "GROUP BY" groupBy ++ ending "ORDER BY" orderBy ++ clause.ending.getD ""
    count := "SELECT COUNT(*) FROM (" ++ restricted query conditions
      ++ ending "GROUP BY" groupBy ++ ") AS report_rows"
    page := page }

def columnsOf (q : ReportQuery) (item : Int) : List QueryColumn :=
  q.columns.filter (·.itemId == item)

end ReportQuery

end Reporting
