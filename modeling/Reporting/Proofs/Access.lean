import Mathlib.Data.List.Forall2
import Reporting.Proofs.Condition
import Reporting.Proofs.FilterText

/-!
# What access control lets through

The text of access control stands among the conditions of a query as it is, without parentheses. The
rows that a query selects or counts are all allowed, but if the text has alternatives they need not
pass the filters or lie on the page (`where_build`).
-/

namespace Reporting

open Sql (Closed Condition Dialect Inert Mode Operand Token Truth tokens)
open Sql.Condition (framed read together)

namespace Sql

/-- A word that has a part in the reading of a condition. -/
def isConnective (t : Token) : Bool := ["CASE", "END", "BETWEEN", "AND", "OR"].any t.isKeyword

theorem role_of_not_isConnective {t : Token} (ht : t ≠ .sign '(' ∧ t ≠ .sign ')')
    (h : isConnective t = false) : Level.role {} t = .part {} := by
  simp only [isConnective, List.any_cons, List.any_nil, Bool.or_false, Bool.or_eq_false_iff] at h
  simp [Level.role, ht, h]

theorem readFrom_of_not_isConnective : ∀ {ts : List Token},
    (∀ t ∈ ts, (t ≠ .sign '(' ∧ t ≠ .sign ')') ∧ isConnective t = false) →
      readFrom {} ts = some { operand := ts }
  | [], _ => rfl
  | t :: ts, h => by
    obtain ⟨ht, hts⟩ := List.forall_mem_cons.1 h
    rw [readFrom_of_part (role_of_not_isConnective ht.1 ht.2), readFrom_of_not_isConnective hts]
    rfl

theorem isWordChar_of_isNameChar {c : Char} (h : isNameChar c) : isWordChar c := by
  simp [isWordChar, h]

theorem Mode.feed_word : ∀ (cs chars : List Char), (∀ c ∈ cs, isNameChar c) →
    (word chars).feed cs = some (word (cs.reverse ++ chars), [])
  | [], chars, _ => rfl
  | c :: cs, chars, h => by
    obtain ⟨hc, hcs⟩ := List.forall_mem_cons.1 h
    have hstep : (word chars).step c = some (word (c :: chars), []) := by
      rw [step, if_pos (isWordChar_of_isNameChar hc)]
    rw [feed_cons hstep, Mode.feed_word cs (c :: chars) hcs]
    simp

theorem Mode.feed_free_word {cs : List Char} (hne : cs ≠ []) (h : ∀ c ∈ cs, isNameChar c) :
    free.feed cs = some (word cs.reverse, []) := by
  cases cs with
  | nil => exact absurd rfl hne
  | cons c cs =>
    obtain ⟨hc, hcs⟩ := List.forall_mem_cons.1 h
    have hstep : free.step c = some (word [c], []) := by
      rw [step, start, if_pos (isWordChar_of_isNameChar hc)]
    rw [feed_cons hstep, Mode.feed_word cs [c] hcs]
    simp

theorem toUpper_of_isDigit {c : Char} (h : c.isDigit) : c.toUpper = c := by
  refine dif_neg ?_
  rintro ⟨hlow, -⟩
  simp only [Char.isDigit, Bool.and_eq_true, decide_eq_true_eq, UInt32.le_iff_toNat_le] at h hlow
  have hbounds : '9'.val.toNat < 'a'.val.toNat := by decide
  exact absurd (Nat.lt_of_le_of_lt h.2 hbounds) (Nat.not_lt.2 hlow)

/-- A number is no keyword. -/
theorem isConnective_repr (n : Nat) : isConnective (.word n.repr.toList) = false := by
  have hdigits : ∀ c ∈ n.repr.toList, c.isDigit := by
    intro c hc
    rw [Nat.toList_repr] at hc
    exact Nat.isDigit_of_mem_toDigits (by decide) (by decide) hc
  have hupper : n.repr.toList.map Char.toUpper = n.repr.toList :=
    (List.map_congr_left fun c hc => toUpper_of_isDigit (hdigits c hc)).trans (List.map_id _)
  rw [isConnective, List.any_eq_false]
  intro keyword hkeyword
  simp only [Token.isKeyword, hupper, decide_eq_true_eq]
  intro heq
  have hletters : ∀ keyword ∈ ["CASE", "END", "BETWEEN", "AND", "OR"],
      keyword.toList.all Char.isDigit = false := by
    decide
  have := hletters keyword hkeyword
  rw [← heq, List.all_eq_true.2 hdigits] at this
  cases this

/-- A comparison of a column with a number is a single operand. -/
theorem read_bound {column : String} (hname : isPlainName column)
    (hplain : isConnective (.word column.toList) = false) {sign : Char}
    (hsign : sign = '>' ∨ sign = '<') {text : String} (htext : text.toList = [' ', sign, '=', ' '])
    (n : Nat) :
    read (column ++ text ++ n.repr)
      = some [[[.word column.toList, .sign sign, .sign '=', .word n.repr.toList]]] := by
  obtain ⟨hne, hname⟩ := Dialect.isNameChar_of_isPlainName hname
  have hnumber : ∀ c ∈ n.repr.toList, isNameChar c := fun c => Dialect.isNameChar_of_mem_repr
  have hmiddle : Mode.feed (.word column.toList.reverse) [' ', sign, '=', ' ']
      = some (.free, [.word column.toList, .sign sign, .sign '=']) := by
    have hblank : Mode.step (.word column.toList.reverse) ' '
        = some (.free, [.word column.toList]) := by
      rw [Mode.step_of_finish rfl (by decide) (by decide), List.reverse_reverse,
        show Mode.start ' ' = (.free, []) by decide, List.append_nil]
    have hsigns : Mode.feed .free [sign, '=', ' '] = some (.free, [.sign sign, .sign '=']) := by
      rcases hsign with rfl | rfl <;> decide
    rw [Mode.feed_cons hblank, hsigns]
    rfl
  have hfeed : Mode.feed .free (column ++ text ++ n.repr).toList
      = some (.word n.repr.toList.reverse, [.word column.toList, .sign sign, .sign '=']) := by
    rw [String.toList_append, String.toList_append, htext, Mode.feed_append, Mode.feed_append,
      Mode.feed_free_word hne hname]
    simp only [Option.bind_some, hmiddle, Option.map_some, Mode.feed_free_word (by simp) hnumber]
    rfl
  have htokens := tokens_of_feed hfeed rfl
  rw [List.reverse_reverse] at htokens
  refine Condition.read_eq_some_iff.2
    ⟨_, _, htokens, readFrom_of_not_isConnective ?_, rfl, rfl⟩
  simp only [List.cons_append, List.nil_append, List.forall_mem_cons]
  refine ⟨⟨by simp, hplain⟩, ?_, by decide, ⟨by simp, isConnective_repr n⟩, nofun⟩
  rcases hsign with rfl | rfl <;> decide

/-- A text reads as operands that must all hold, and there are none where there is no text. -/
def ReadsAs (text : Option String) (operands : List Operand) : Prop :=
  match text with
  | none => operands = []
  | some s => read s = some [operands]

/-- A text among other conditions. -/
theorem read_framed {before after : Option String} {operands operands' : List Operand}
    (hbefore : ReadsAs before operands) (hafter : ReadsAs after operands') {s : String}
    {c : Condition} (hs : read s = some c) :
    read (conjunction (before.toList ++ [s] ++ after.toList))
      = some (framed operands c operands') := by
  have htail : read (conjunction ([s] ++ after.toList)) = some (c.and [operands']) := by
    cases after with
    | none =>
      rw [show operands' = [] from hafter, Condition.and_unit (Condition.ne_nil_of_read hs)]
      simpa [conjunction] using hs
    | some t =>
      have htext : conjunction ([s] ++ (some t).toList) = s ++ " AND " ++ t := by
        simp [conjunction, String.intercalate_cons_cons]
      rw [htext]
      exact Condition.read_and hs hafter
  cases before with
  | none =>
    rw [show operands = [] from hbefore, framed,
      Condition.unit_and (Condition.ne_nil_of_read htail)]
    exact htail
  | some t =>
    have htext : conjunction ((some t).toList ++ [s] ++ after.toList)
        = t ++ " AND " ++ conjunction ([s] ++ after.toList) := by
      simp [conjunction, String.intercalate_cons_cons]
    rw [htext]
    exact Condition.read_and hbefore htail

/-- Texts that are single operands, joined. -/
theorem readsAs_joined {parts : List String} {operands : List Operand}
    (h : List.Forall₂ (fun s o => read s = some [[o]]) parts operands) :
    ReadsAs (ReportQuery.joined conjunction parts) operands := by
  induction h with
  | nil => rfl
  | @cons s o parts operands hs h ih =>
    cases h with
    | nil => simpa [ReportQuery.joined, ReadsAs, conjunction] using hs
    | @cons t o' parts operands ht h =>
      have htext : conjunction (s :: t :: parts) = s ++ " AND " ++ conjunction (t :: parts) := by
        simp [conjunction, String.intercalate_cons_cons]
      simp only [ReportQuery.joined, ReadsAs, List.isEmpty_cons, Bool.false_eq_true, if_false]
        at ih ⊢
      rw [htext]
      exact Condition.read_and hs ih

end Sql

open Sql (ReadsAs isConnective isPlainName)
open Sql.Condition (eval)

namespace Paging

/-- The column that numbers the rows has a plain name that is no keyword of a condition. -/
def isPlain : Paging → Bool
  | .rowNumber column => isPlainName column && !isConnective (.word column.toList)
  | .limitOffset => true

/-- The page is bounded by two comparisons of the numbering column. -/
theorem read_rowNumber {column : String} (h : (rowNumber column).isPlain) (limit offset : UInt64) :
    ∃ s, (clause (.rowNumber column) (.window limit offset)).condition = some s
      ∧ read s = some [[
        [.word column.toList, .sign '>', .sign '=', .word offset.toNat.repr.toList],
        [.word column.toList, .sign '<', .sign '=',
          .word (saturatingAdd offset limit).toNat.repr.toList]]] := by
  rw [isPlain, Bool.and_eq_true, Bool.not_eq_true'] at h
  have htext : (clause (.rowNumber column) (.window limit offset)).condition
      = some (column ++ " >= " ++ offset.toNat.repr ++ " AND "
        ++ (column ++ " <= " ++ (saturatingAdd offset limit).toNat.repr)) := by
    simp only [clause, String.append_assoc]
    rfl
  exact ⟨_, htext, Sql.Condition.read_and (Sql.read_bound h.1 h.2 (.inl rfl) (by decide) _)
    (Sql.read_bound h.1 h.2 (.inr rfl) (by decide) _)⟩

theorem readsAs_clause {paging : Paging} (h : paging.isPlain) (page : Page) :
    ∃ operands, ReadsAs (paging.clause page).condition operands
      ∧ ∀ o ∈ operands, ∃ chars rest, o = .word chars :: rest := by
  cases page with
  | unlimited => exact ⟨[], rfl, nofun⟩
  | window limit offset =>
    cases paging with
    | limitOffset => exact ⟨[], rfl, nofun⟩
    | rowNumber column =>
      obtain ⟨s, htext, hread⟩ := read_rowNumber h limit offset
      refine ⟨_, by rw [htext]; exact hread, ?_⟩
      simp only [List.forall_mem_cons]
      exact ⟨⟨_, _, rfl⟩, ⟨_, _, rfl⟩, nofun⟩

end Paging

/-- The expressions of computed columns close the quotes and parentheses that they open. -/
def Definition.ComputesClosed (d : Definition) : Prop :=
  ∀ item ∈ d.printedItems, ∀ sql, item.columnSql = some sql → Closed (Text.trim sql).toList

namespace ReportQuery

/-- What a condition that is read as `whole` is to a condition `c` that operands stand before and
after. -/
structure Restricts (whole : Condition) (before : List Operand) (c : Condition)
    (after : List Operand) : Prop where
  /-- Only rows that satisfy `c` are let through. -/
  allowed : ∀ v, eval v whole = .yes → eval v c = .yes
  /-- Rows that satisfy everything are let through. -/
  kept : ∀ v, together v before c after = .yes → eval v whole = .yes
  /-- For operands that do not occur in `c`, everything must be satisfied exactly if `c` has no
  other alternative or stands alone. -/
  exact_iff : (∀ o ∈ before ++ after, ∀ operands ∈ c, o ∉ operands) →
    ((∀ v, eval v whole = together v before c after) ↔ c.length = 1 ∨ before = [] ∧ after = [])

theorem restricts_framed {before after : List Operand} {c : Condition} (hc : c ≠ [])
    (hdisjoint : ∀ o ∈ before, o ∉ after) : Restricts (framed before c after) before c after where
  allowed _ := Sql.Condition.eval_of_framed hc
  kept _ := Sql.Condition.eval_framed
  exact_iff hfresh := Sql.Condition.eval_framed_eq_iff hc hfresh hdisjoint

variable {dialect : Dialect} {access : AccessControl} {options : QueryOptions} {d : Definition}
  {resolver : Resolver} {filters : List Filter} {page : Page} {q : ReportQuery}

theorem isInert_rawColumn {item : Item} (h : ∀ sql, item.columnSql = some sql →
    Closed (Text.trim sql).toList) (table column : String) :
    dialect.IsInert (Projection.rawColumn table item column).expr := by
  simp only [Projection.rawColumn, Projection.rawValue]
  split
  · rename_i sql hsql
    split
    · rw [Dialect.IsInert, Dialect.renderExpr]
      exact Sql.Closed.parenthesized_text (h sql hsql)
    · exact Dialect.isInert_ofTable table column
  · exact Dialect.isInert_ofTable table column

/-- Every filter condition is an operand in parentheses. -/
theorem exists_operands (h : build dialect access options d resolver filters page = .ok q)
    (hcomputed : d.ComputesClosed) :
    ∃ operands : List Operand,
      List.Forall₂ (fun r o => read (dialect.renderExpr (Restriction.expr r)) = some [[o]])
        (Restriction.all q.columns 0 filters) operands
      ∧ ∀ o ∈ operands, ∃ rest, o = .sign '(' :: rest := by
  have hcolumns : ∀ (f : Filter) c, f.column? q.columns = some c → dialect.IsInert c.expr := by
    intro f c hc
    obtain ⟨item, hitem, hraw⟩ := Filter.column?_eq_rawColumn (paired_build h) hc
    rw [hraw]
    exact isInert_rawColumn (hcomputed item hitem) _ _
  have hread : ∀ r ∈ Restriction.all q.columns 0 filters,
      ∃ rest, read (dialect.renderExpr r.expr) = some [[.sign '(' :: rest]] := by
    intro r hr
    obtain ⟨s, hs, htext⟩ := Restriction.exists_of_mem_all hcolumns filters 0 r hr
    rw [htext]
    exact Sql.Condition.read_parenthesized hs.closed
  choose! rest hrest using hread
  refine ⟨(Restriction.all q.columns 0 filters).map fun r => .sign '(' :: rest r, ?_, ?_⟩
  · rw [List.forall₂_map_right_iff, List.forall₂_same]
    exact hrest
  · rw [List.forall_mem_map]
    exact fun r _ => ⟨rest r, rfl⟩

theorem restricted_of_ne_nil {query : String} {conditions : List String} (h : conditions ≠ []) :
    restricted query conditions = query ++ " WHERE " ++ Sql.conjunction conditions := by
  have hempty : conditions.isEmpty = false := by simpa using h
  simp only [restricted, Sql.clause, hempty, Bool.false_eq_true, if_false, String.append_assoc]
  rfl

/-- The text of access control reads as a condition of its own, but in the conditions of both
queries it stands without parentheses. Whatever is selected or counted is allowed. All of the
conditions are met, however, exactly if the text has no alternatives or there is no other
condition. -/
theorem where_build (h : build dialect access options d resolver filters page = .ok q)
    (htable : d.tableName ≠ options.financial.tableName) {text : String}
    (haccess : access d.tableName = some text) {allowed : Condition}
    (htext : read text = some allowed) (hcomputed : d.ComputesClosed)
    (hpaging : options.paging.isPlain) :
    ∃ (filtered paged : List Operand) (rows counted : String) (rowsRead countedRead : Condition),
      List.Forall₂ (fun r o => read (dialect.renderExpr (Restriction.expr r)) = some [[o]])
          (Restriction.all q.columns 0 filters) filtered
        ∧ ReadsAs (options.paging.clause page).condition paged
        ∧ q.complete = q.query ++ " WHERE " ++ rows ++ ending "GROUP BY" q.groupBy
            ++ ending "ORDER BY" q.orderBy ++ (options.paging.clause page).ending.getD ""
        ∧ q.count = "SELECT COUNT(*) FROM (" ++ (q.query ++ " WHERE " ++ counted)
            ++ ending "GROUP BY" q.groupBy ++ ") AS report_rows"
        ∧ read rows = some rowsRead ∧ Restricts rowsRead filtered allowed paged
        ∧ read counted = some countedRead ∧ Restricts countedRead filtered allowed [] := by
  obtain ⟨filtered, hfiltered, hopen⟩ := exists_operands h hcomputed
  obtain ⟨paged, hpaged, hword⟩ := Paging.readsAs_clause hpaging page
  have hne := Sql.Condition.ne_nil_of_read htext
  have hdisjoint : ∀ o ∈ filtered, o ∉ paged := by
    intro o ho ho'
    obtain ⟨rest, rfl⟩ := hopen o ho
    obtain ⟨chars, rest', heq⟩ := hword _ ho'
    cases heq
  obtain ⟨p, hp, h⟩ := bind_eq_ok.1 h
  have hcondition : ReadsAs q.condition filtered := by
    cases h
    refine Sql.readsAs_joined ?_
    rw [List.forall₂_map_left_iff]
    exact hfiltered
  have hconditions : (accessCondition options access d).toList = [text] := by
    rw [accessCondition, if_neg htable, haccess]
    rfl
  have hunpaged : ReadsAs none [] := rfl
  refine ⟨filtered, paged, _, _, _, _, hfiltered, hpaged, ?_, ?_,
    Sql.read_framed hcondition hpaged htext, restricts_framed hne hdisjoint,
    Sql.read_framed hcondition hunpaged htext, restricts_framed hne (by simp)⟩
  · cases h
    simp only [hconditions]
    rw [restricted_of_ne_nil (by simp)]
  · cases h
    simp only [hconditions]
    rw [restricted_of_ne_nil (by simp)]
    simp

def regional : Definition where
  id := 1
  name := "Sales"
  tableName := "Sale"
  items := [{ id := 1, name := "Region", columnName := some "Region", displayType := .string }]

def regionalOptions : QueryOptions where
  language := "en_US"
  paging := .rowNumber Paging.rowColumn
  financial := {}

def european : List Filter := [{ columnName := "Region", value := .string "EU" }]

def inRegion : Operand :=
  [.sign '(', .word "UPPER".toList, .sign '(', .word "Sale.Region".toList, .sign ')', .sign '=',
    .word "UPPER".toList, .sign '(', .sign '?', .sign ')', .sign ')']

def ofOrg (n : Char) : Operand := [.word "Org".toList, .sign '=', .word [n]]

theorem projection_regional :
    Projection.ofDefinition (.conventional fun _ => none) "en_US" regional
      = .ok { columns := [Projection.rawColumn "Sale"
          { id := 1, name := "Region", columnName := some "Region", displayType := .string }
          "Region"] } := by
  cbv

theorem build_regional (access : AccessControl) :
    ∃ q, build .ansi access regionalOptions regional (.conventional fun _ => none) european
      (.window 10 1) = .ok q := by
  rw [build, show regionalOptions.language = "en_US" from rfl, projection_regional]
  exact ⟨_, rfl⟩

theorem where_build_regional :
    ∃ (q : ReportQuery) (rows : String) (rowsRead : Condition) (filtered paged : List Operand),
      build .ansi (fun _ => some "Org = 1") regionalOptions regional (.conventional fun _ => none)
          european (.window 10 1) = .ok q
        ∧ q.complete = q.query ++ " WHERE " ++ rows ++ ending "GROUP BY" q.groupBy
            ++ ending "ORDER BY" q.orderBy ++ ""
        ∧ read rows = some rowsRead
        ∧ Restricts rowsRead filtered [[ofOrg '1']] paged := by
  obtain ⟨q, hq⟩ := build_regional fun _ => some "Org = 1"
  have htext : read "Org = 1" = some [[ofOrg '1']] := by decide +kernel
  have hprinted : regional.printedItems = regional.items :=
    Definition.printedItems_of_sorted (by decide) (by decide)
  have hcomputed : regional.ComputesClosed := by
    rw [Definition.ComputesClosed, hprinted]
    intro item hitem sql hsql
    rw [List.mem_singleton.1 hitem] at hsql
    cases hsql
  obtain ⟨filtered, paged, rows, counted, rowsRead, countedRead, -, -, hcomplete, -, hread, hrows,
    -, -⟩ := where_build hq (by decide) rfl htext hcomputed (by decide)
  exact ⟨q, rows, rowsRead, filtered, paged, hq, hcomplete, hread, hrows⟩

/-- A row of the other organisation is counted though it is not in the region. -/
theorem count_regional_alternatives :
    ∃ q, build .ansi (fun _ => some "Org = 1 OR Org = 2") regionalOptions regional
          (.conventional fun _ => none) european (.window 10 1) = .ok q
        ∧ q.condition = some "(UPPER(Sale.Region) = UPPER(?))"
        ∧ q.count = "SELECT COUNT(*) FROM (SELECT Sale.Region AS Region FROM Sale WHERE "
            ++ "(UPPER(Sale.Region) = UPPER(?)) AND Org = 1 OR Org = 2" ++ ") AS report_rows"
        ∧ read "(UPPER(Sale.Region) = UPPER(?))" = some [[inRegion]]
        ∧ ∃ counted v, read "(UPPER(Sale.Region) = UPPER(?)) AND Org = 1 OR Org = 2" = some counted
          ∧ eval v counted = .yes ∧ v inRegion = .no := by
  rw [build, show regionalOptions.language = "en_US" from rfl, projection_regional]
  refine ⟨_, rfl, by decide +kernel, by decide +kernel, by decide +kernel,
    [[inRegion, ofOrg '1'], [ofOrg '2']], fun o => if o = ofOrg '2' then .yes else .no,
    by decide +kernel, by decide +kernel, by decide +kernel⟩

end ReportQuery

end Reporting
