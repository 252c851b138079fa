import Mathlib.Data.List.Permutation
import Reporting.Proofs.Columns
import Reporting.Proofs.Pieces
import Reporting.Query.Build

/-!
# Placeholders and the values bound to them

A filter binds the operands that its operator looks at, in the order in which their marks stand in
its condition (`binds_of?`). Each filter starts where the one before it ended, so the marks of a
query are numbered from left to right without a gap (`marks_build`).
-/

namespace Reporting

open Sql (Dialect Expr marks written)

namespace Filter

open Restriction (isBlank isText patternOf textOf valueOf)

/-- The values of an operand list that are compared, without those that stand for a missing one. -/
def compared (t : DisplayType) (values : List Json) : List Parameter :=
  (values.filter fun j => !isBlank (t.isText || isText j) j).map fun j =>
    valueOf t (t.isText || isText j) j

/-- The values that a filter binds on a column. -/
def operands (f : Filter) (c : QueryColumn) : List Parameter :=
  let value := Parameter.forDisplayType c.displayType
  match f.operator with
  | .isIn | .notIn => compared c.displayType f.values
  | .between | .notBetween => [value f.fromValue, value f.toValue].filter (!·.isNull)
  | .like | .notLike => [.text (patternOf f.value)]
  | .null | .notNull => []
  | .equal | .notEqual =>
    if c.displayType.isText then
      [.text (if isBlank true f.value then "" else textOf f.value)]
    else [value f.value]
  | .greater | .greaterEqual | .less | .lessEqual => [value f.value]

/-- The values that a filter binds on the column that it finds. -/
def bound (columns : List QueryColumn) (f : Filter) : List Parameter :=
  match f.column? columns with
  | some c => f.operands c
  | none => []

end Filter

namespace Restriction

variable {d : Dialect}

/-- A condition binds the operands in the order of its marks, and where there is no condition there
are no operands. -/
def Binds (d : Dialect) (bound : Nat) (operands : List Parameter) : Option Restriction → Prop
  | none => operands = []
  | some r => r.params = operands ∧ marks (d.pieces r.expr) = List.range' bound operands.length

theorem marks_upper (e : Expr) : marks (d.pieces (.upper e)) = marks (d.pieces e) := by
  simp [Expr.upper, Dialect.pieces, Dialect.piecesOf]

theorem marks_inList (e : Expr) (list : List Expr) (negated : Bool) :
    marks (d.pieces (.inList e list negated))
      = marks (d.pieces e) ++ (d.piecesOf list).flatMap marks := by
  simp [Dialect.pieces]

theorem marks_or (parts : List Expr) :
    marks (d.pieces (.or parts)) = (d.piecesOf parts).flatMap marks := by
  simp [Dialect.pieces]

theorem marks_operand (asText : Bool) (index : Nat) :
    marks (d.pieces (operand asText index)) = [index] := by
  cases asText
  · simp [operand, Dialect.pieces]
  · simp [operand, marks_upper, Dialect.pieces]

theorem marks_listOf (t : DisplayType) :
    ∀ (values : List Json) (bound : Nat),
      (Dialect.piecesOf d ((listOf t bound values).map (·.2.1))).flatMap marks
        = List.range' bound (Filter.compared t values).length
  | [], _ => rfl
  | j :: values, bound => by
    by_cases hj : isBlank (t.isText || isText j) j
    · have ih := marks_listOf t values bound
      simpa [listOf, Filter.compared, hj] using ih
    · have ih := marks_listOf t values (bound + 1)
      simp only [Filter.compared] at ih ⊢
      simp [listOf, hj, Dialect.piecesOf, marks_operand, ih, List.range'_succ]

theorem params_listOf (t : DisplayType) :
    ∀ (values : List Json) (bound : Nat),
      (listOf t bound values).map (·.2.2) = Filter.compared t values
  | [], _ => rfl
  | j :: values, bound => by
    by_cases hj : isBlank (t.isText || isText j) j
    · simpa [listOf, Filter.compared, hj] using params_listOf t values bound
    · have ih := params_listOf t values (bound + 1)
      simp only [Filter.compared] at ih ⊢
      simp [listOf, hj, ih]

section Binds

variable {c : QueryColumn} (hc : marks (d.pieces c.expr) = [])

include hc in
theorem binds_membership (bound : Nat) (negated : Bool) (values : List Json) :
    Binds d bound (Filter.compared c.displayType values) (membership c bound negated values) := by
  have hparams := params_listOf c.displayType values bound
  have hmarks := marks_listOf (d := d) c.displayType values bound
  unfold membership
  rcases hlist : listOf c.displayType bound values with _ | ⟨first, rest⟩
  · rw [hlist] at hparams
    have hnone : Filter.compared c.displayType values = [] := hparams.symm
    rw [hnone]
    simp only [List.isEmpty_nil, if_true]
    split
    · exact ⟨rfl, by simp [Dialect.pieces, hc]⟩
    · rfl
  · rw [hlist] at hparams hmarks
    have htarget : ∀ asText : Bool,
        marks (d.pieces (if asText then .upper c.expr else c.expr)) = [] := by
      rintro (_ | _)
      · exact hc
      · simpa [marks_upper] using hc
    have hin : ∀ asText : Bool,
        marks (d.pieces (.inList (if asText then .upper c.expr else c.expr)
          ((first :: rest).map (·.2.1)) negated))
          = List.range' bound (Filter.compared c.displayType values).length := by
      intro asText
      rw [marks_inList, htarget, List.nil_append, hmarks]
    have hprobe : marks (d.pieces (.nullProbe c.expr)) = [] := by simp [Dialect.pieces, hc]
    simp only [List.isEmpty_cons, Bool.false_eq_true, if_false]
    refine ⟨hparams, ?_⟩
    split
    · rw [marks_or, Dialect.piecesOf, Dialect.piecesOf, Dialect.piecesOf, List.flatMap_cons,
        List.flatMap_cons, List.flatMap_nil, List.append_nil, hprobe, List.append_nil]
      exact hin _
    · exact hin _

include hc in
theorem binds_range (bound : Nat) (negated : Bool) (low high : Parameter) :
    Binds d bound ([low, high].filter (!·.isNull)) (range c bound negated low high) := by
  unfold range
  cases hlow : low.isNull <;> cases hhigh : high.isNull
  all_goals simp [Binds, Dialect.pieces, hlow, hhigh, hc, List.range'_succ]

include hc in
theorem binds_equality (bound : Nat) (op : Sql.Comparison) (j : Json) :
    Binds d bound
      (if c.displayType.isText then [.text (if isBlank true j then "" else textOf j)]
        else [.forDisplayType c.displayType j])
      (some (equality c bound op j)) := by
  unfold equality
  cases ht : c.displayType.isText <;> cases hb : isBlank c.displayType.isText j
  all_goals
    rw [ht] at hb
    simp [Binds, hb, Dialect.pieces, Dialect.piecesOf, marks_upper, hc, List.range'_succ]

include hc in
theorem binds_search (bound : Nat) (op : Sql.Comparison) (j : Json) :
    Binds d bound [.text (patternOf j)] (some (search c bound op j)) := by
  simp [Binds, search, Expr.text, Dialect.pieces, Dialect.piecesOf, marks_upper, hc,
    List.range'_succ]

include hc in
theorem binds_comparison (bound : Nat) (op : Sql.Comparison) (j : Json) :
    Binds d bound [.forDisplayType c.displayType j] (some (comparison c bound op j)) := by
  simp [Binds, comparison, Dialect.pieces, hc, List.range'_succ]

include hc in
theorem binds_isNull (bound : Nat) (negated : Bool) :
    Binds d bound [] (some { expr := .isNull c.expr negated }) := by
  simp [Binds, Dialect.pieces, hc]

include hc in
theorem binds_bare (f : Filter) (bound : Nat) : Binds d bound (f.operands c) (bare f c bound) := by
  unfold bare Filter.operands
  cases f.operator
  case isIn | notIn => exact binds_membership hc bound _ f.values
  case between | notBetween => exact binds_range hc bound _ _ _
  case like | notLike => exact binds_search hc bound _ f.value
  case null | notNull => exact binds_isNull hc bound _
  case equal | notEqual => exact binds_equality hc bound _ f.value
  case greater | greaterEqual | less | lessEqual => exact binds_comparison hc bound _ f.value

include hc in
theorem binds_of? (f : Filter) (bound : Nat) : Binds d bound (f.operands c) (of? f c bound) := by
  have h := binds_bare hc f bound
  rw [of?]
  rcases hr : bare f c bound with _ | r <;> rw [hr] at h
  · exact h
  · exact ⟨h.1, by simpa [Dialect.pieces] using h.2⟩

end Binds

/-- Values are bound in the order of the filters, and each restriction takes up the numbering of its
marks where the one before it ended. -/
theorem marks_all {columns : List QueryColumn}
    (hc : ∀ (f : Filter) c, f.column? columns = some c → marks (d.pieces c.expr) = []) :
    ∀ (filters : List Filter) (bound : Nat),
      (all columns bound filters).flatMap params = filters.flatMap (Filter.bound columns)
        ∧ (all columns bound filters).flatMap (fun r => marks (d.pieces r.expr))
          = List.range' bound (filters.flatMap (Filter.bound columns)).length
  | [], _ => ⟨rfl, rfl⟩
  | f :: filters, bound => by
    rw [all, List.flatMap_cons, Filter.bound]
    rcases hcol : f.column? columns with _ | c
    · exact marks_all hc filters bound
    have hbinds := binds_of? (hc f c hcol) f bound
    simp only [Option.bind_some]
    rcases hr : of? f c bound with _ | r
    · rw [hr] at hbinds
      have hnone : f.operands c = [] := hbinds
      rw [hnone]
      exact marks_all hc filters bound
    · rw [hr] at hbinds
      obtain ⟨hparams, hmarks⟩ := hbinds
      obtain ⟨ihparams, ihmarks⟩ := marks_all hc filters (bound + (f.operands c).length)
      simp only [List.flatMap_cons, hparams, hmarks, ihparams, ihmarks, List.length_append]
      exact ⟨trivial, List.range'_append_1⟩

end Restriction

namespace ReportQuery

variable {dialect : Dialect} {access : AccessControl} {options : QueryOptions} {d : Definition}
  {resolver : Resolver} {filters : List Filter} {page : Page} {q : ReportQuery}

theorem marks_rawColumn (table : String) (item : Item) (column : String) :
    marks (dialect.pieces (Projection.rawColumn table item column).expr) = [] := by
  simp only [Projection.rawColumn, Projection.rawValue]
  split
  · split <;> simp [Expr.ofTable, Dialect.pieces]
  · simp [Expr.ofTable, Dialect.pieces]

/-- The values are bound filter by filter. The marks of the conditions are numbered from left to
right, one for each value. A filter that finds no column or restricts nothing binds nothing. -/
theorem marks_build (h : build dialect access options d resolver filters page = .ok q) :
    q.params = filters.flatMap (Filter.bound q.columns)
      ∧ q.condition = joined Sql.conjunction
          ((Restriction.all q.columns 0 filters).map fun r =>
            written dialect (dialect.pieces r.expr))
      ∧ (Restriction.all q.columns 0 filters).flatMap (fun r => marks (dialect.pieces r.expr))
          = List.range q.params.length
      ∧ ∀ f : Filter, (∀ c, f.column? q.columns = some c → Restriction.of? f c 0 = none) →
          f.bound q.columns = [] := by
  have hcolumns : ∀ (f : Filter) c, f.column? q.columns = some c →
      marks (dialect.pieces c.expr) = [] := by
    intro f c hc
    obtain ⟨item, -, hraw⟩ := Filter.column?_eq_rawColumn (paired_build h) hc
    rw [hraw]
    exact marks_rawColumn _ _ _
  obtain ⟨hparams, hmarks⟩ := Restriction.marks_all hcolumns filters 0
  obtain ⟨p, -, h⟩ := bind_eq_ok.1 h
  cases h
  refine ⟨hparams, ?_, ?_, fun f hf => ?_⟩
  · simp only [Dialect.written_pieces]
  · rw [hmarks, hparams, List.range_eq_range']
  · rw [Filter.bound]
    split
    · rename_i c hc
      have hbinds := Restriction.binds_of? (hcolumns f c hc) f 0
      rw [hf c hc] at hbinds
      exact hbinds
    · rfl

def sales : Definition where
  id := 1
  name := "Sales"
  tableName := "Sale"
  items := [
    { id := 1, name := "Region", columnName := some "Region", displayType := .string },
    { id := 2, name := "Rep", columnName := some "Rep_ID", displayType := .id, sequence := 1 }]

def salesColumns : List QueryColumn := [
  Projection.rawColumn "Sale"
    { id := 1, name := "Region", columnName := some "Region", displayType := .string } "Region",
  Projection.rawColumn "Sale"
    { id := 2, name := "Rep", columnName := some "Rep_ID", displayType := .id, sequence := 1 }
    "Rep_ID"]

def salesOptions : QueryOptions where
  language := "en_US"
  paging := .limitOffset
  financial := {}

/-- The second filter finds no column, and the missing region binds nothing. -/
def salesFilters : List Filter := [
  { columnName := "Region", operator := .isIn, values := [.string "EU", .null, .string "US"] },
  { columnName := "Year", value := .string "2024" },
  { columnName := "Rep_ID", operator := .between, fromValue := .string "1",
    toValue := .string "9" }]

theorem marks_build_sales :
    ∃ q, build .postgres .unrestricted salesOptions sales (.conventional fun _ => none) salesFilters
        .unlimited = .ok q
      ∧ q.params = [.text "EU", .text "US", .integer 1, .integer 9]
      ∧ (Restriction.all q.columns 0 salesFilters).flatMap
          (fun r => marks (Dialect.postgres.pieces r.expr)) = [0, 1, 2, 3] := by
  have hp : Projection.ofDefinition (.conventional fun _ => none) "en_US" sales
      = .ok { columns := salesColumns } := by
    cbv
  obtain ⟨q, hq, hcolumns⟩ : ∃ q, build .postgres .unrestricted salesOptions sales
      (.conventional fun _ => none) salesFilters .unlimited = .ok q ∧ q.columns = salesColumns := by
    rw [build, show salesOptions.language = "en_US" from rfl, hp]
    exact ⟨_, rfl, rfl⟩
  obtain ⟨hparams, -, hmarks, -⟩ := marks_build hq
  have hvalues : salesFilters.flatMap (Filter.bound salesColumns)
      = [.text "EU", .text "US", .integer 1, .integer 9] := by
    decide +kernel
  rw [hcolumns, hvalues] at hparams
  rw [hparams] at hmarks
  exact ⟨q, hq, hparams, hmarks⟩

end ReportQuery

end Reporting
