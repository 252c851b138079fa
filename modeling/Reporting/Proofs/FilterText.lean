import Reporting.Proofs.Columns
import Reporting.Proofs.Token
import Reporting.Query.Build

/-!
# The texts of filter conditions

Whatever its operator and its column, a filter writes a condition that closes all quotes and
parentheses that it opens (`isInert_bare`), if the expressions of computed columns do so.
-/

namespace Reporting

open Sql (Closed Comparison Dialect Expr Inert)

namespace Sql

section Texts

theorem inert_text {s : String} (h : s.toList.all isHarmless) : Inert s.toList := .of_isHarmless h

theorem Inert.append_text {s t : String} (hs : Inert s.toList) (ht : Inert t.toList) :
    Inert (s ++ t).toList := by
  rw [String.toList_append]
  exact hs.append ht

theorem Closed.parenthesized_text {s : String} (h : Closed s.toList) :
    Inert ("(" ++ s ++ ")").toList := by
  rw [String.toList_append, String.toList_append]
  exact h.parenthesized

theorem inert_intercalate {sep : String} (hsep : Inert sep.toList) :
    ∀ {parts : List String}, (∀ s ∈ parts, Inert s.toList) →
      Inert (String.intercalate sep parts).toList
  | [], _ => by
    rw [String.intercalate_nil]
    exact .nil
  | [s], h => by
    rw [String.intercalate_singleton]
    exact h s (by simp)
  | s :: t :: parts, h => by
    rw [String.intercalate_cons_cons]
    exact ((h s (by simp)).append_text hsep).append_text
      (inert_intercalate hsep fun u hu => h u (List.mem_cons_of_mem _ hu))

theorem inert_notMark (negated : Bool) : Inert (notMark negated).toList := by
  cases negated
  · exact inert_text (by decide)
  · exact inert_text (by decide)

theorem inert_comparison (op : Comparison) : Inert op.sql.toList := by
  cases op <;> exact inert_text (by decide)

end Texts

namespace Dialect

variable {d : Dialect}

theorem isHarmless_of_isNameChar {c : Char} (h : isNameChar c) : isHarmless c := by
  have hne : ∀ c' ∈ ['\'', '"', '(', ')', '-', '/'], c ≠ c' := by
    rintro c' hc' rfl
    revert h
    simp only [List.mem_cons, List.not_mem_nil, or_false] at hc'
    rcases hc' with rfl | rfl | rfl | rfl | rfl | rfl <;> decide
  simp only [List.forall_mem_cons] at hne
  simp [isHarmless, isQuote, hne]

theorem isNameChar_of_isPlainName {name : String} (h : isPlainName name) :
    name.toList ≠ [] ∧ ∀ c ∈ name.toList, isNameChar c := by
  unfold isPlainName at h
  split at h
  · cases h
  · rename_i first rest hname
    rw [Bool.and_eq_true] at h
    rw [hname]
    refine ⟨List.cons_ne_nil _ _, List.forall_mem_cons.2 ⟨?_, List.all_eq_true.1 h.2⟩⟩
    have := h.1
    simp only [isNameStart, isNameChar, Char.isAlphanum, Bool.or_eq_true] at this ⊢
    exact this.imp_left .inl

theorem inert_quoteName (name : String) : Inert (d.quoteName name).toList := by
  rw [quoteName]
  split
  · rename_i h
    exact .of_isHarmless (List.all_eq_true.2 fun c hc =>
      isHarmless_of_isNameChar ((isNameChar_of_isPlainName h).2 c hc))
  · exact .quotedBy (by decide) name

theorem isNameChar_of_mem_repr {n : Nat} {c : Char} (h : c ∈ n.repr.toList) : isNameChar c := by
  rw [Nat.toList_repr] at h
  simp [isNameChar, Char.isAlphanum, Nat.isDigit_of_mem_toDigits (by decide) (by decide) h]

theorem inert_placeholder (index : Nat) : Inert (d.placeholder index).toList := by
  have hmark : Inert ("?" : String).toList := inert_text (by decide)
  cases d
  case ansi => exact hmark
  case duckDb => exact hmark
  case postgres =>
    have htext : placeholder .postgres index = "$" ++ (index + 1).repr := by
      simp [placeholder]
      rfl
    rw [htext]
    exact (inert_text (by decide)).append_text (.of_isHarmless (List.all_eq_true.2 fun c hc =>
      isHarmless_of_isNameChar (isNameChar_of_mem_repr hc)))

/-- The expression is written as an inert text. -/
def IsInert (d : Dialect) (e : Expr) : Prop := Inert (d.renderExpr e).toList

theorem isInert_ofTable (table name : String) : IsInert d (.ofTable table name) := by
  rw [IsInert, Expr.ofTable, renderExpr]
  exact ((inert_quoteName table).append_text (inert_text (by decide))).append_text
    (inert_quoteName name)

theorem isInert_placeholder (index : Nat) : IsInert d (.placeholder index) :=
  inert_placeholder index

theorem isInert_text (s : String) : IsInert d (.text s) := .quotedBy (by decide) s

theorem isInert_upper {e : Expr} (h : IsInert d e) : IsInert d (.upper e) := by
  have htext : d.renderExpr (.upper e) = "UPPER" ++ ("(" ++ d.renderExpr e ++ ")") := by
    simp only [Expr.upper, renderExpr, renderExprs, commaList, String.intercalate_singleton,
      String.append_assoc]
  rw [IsInert, htext]
  exact (inert_text (by decide)).append_text h.closed.parenthesized_text

theorem isInert_compare {op : Comparison} {l r : Expr} (hl : IsInert d l) (hr : IsInert d r) :
    IsInert d (.compare op l r) := by
  rw [IsInert, renderExpr]
  have hblank : Inert (" " : String).toList := inert_text (by decide)
  exact (((hl.append_text hblank).append_text (inert_comparison op)).append_text hblank).append_text
    hr

theorem isInert_isNull {e : Expr} (h : IsInert d e) (negated : Bool) :
    IsInert d (.isNull e negated) := by
  rw [IsInert, renderExpr]
  exact ((h.append_text (inert_text (by decide))).append_text (inert_notMark negated)).append_text
    (inert_text (by decide))

theorem isInert_between {e low high : Expr} (he : IsInert d e) (hlow : IsInert d low)
    (hhigh : IsInert d high) (negated : Bool) : IsInert d (.between e low high negated) := by
  rw [IsInert, renderExpr]
  exact (((((he.append_text (inert_text (by decide))).append_text
    (inert_notMark negated)).append_text (inert_text (by decide))).append_text hlow).append_text
    (inert_text (by decide))).append_text hhigh

theorem renderExprs_eq_map (es : List Expr) : d.renderExprs es = es.map d.renderExpr := by
  induction es with
  | nil => rw [renderExprs, List.map_nil]
  | cons e es ih => rw [renderExprs, ih, List.map_cons]

theorem inert_renderExprs {es : List Expr} (h : ∀ e ∈ es, IsInert d e) :
    ∀ s ∈ d.renderExprs es, Inert s.toList := by
  intro s hs
  rw [renderExprs_eq_map] at hs
  obtain ⟨e, he, rfl⟩ := List.mem_map.1 hs
  exact h e he

theorem isInert_or {es : List Expr} (h : ∀ e ∈ es, IsInert d e) : IsInert d (.or es) := by
  rw [IsInert, renderExpr]
  exact inert_intercalate (inert_text (by decide)) (inert_renderExprs h)

theorem isInert_concat {es : List Expr} (h : ∀ e ∈ es, IsInert d e) : IsInert d (.concat es) := by
  rw [IsInert, renderExpr]
  exact inert_intercalate (inert_text (by decide)) (inert_renderExprs h)

theorem isInert_inList {e : Expr} {es : List Expr} (he : IsInert d e) (h : ∀ e ∈ es, IsInert d e)
    (negated : Bool) : IsInert d (.inList e es negated) := by
  have hlist : Inert (commaList (d.renderExprs es)).toList :=
    inert_intercalate (inert_text (by decide)) (inert_renderExprs h)
  have htext : d.renderExpr (.inList e es negated)
      = d.renderExpr e ++ " " ++ notMark negated ++ "IN "
        ++ ("(" ++ commaList (d.renderExprs es) ++ ")") := by
    have : ("IN (" : String) = "IN " ++ "(" := by decide
    simp only [renderExpr, this, String.append_assoc]
  rw [IsInert, htext]
  exact (((he.append_text (inert_text (by decide))).append_text (inert_notMark negated)).append_text
    (inert_text (by decide))).append_text hlist.closed.parenthesized_text

theorem isInert_nullProbe {e : Expr} (h : IsInert d e) : IsInert d (.nullProbe e) := by
  have htext : d.renderExpr (.nullProbe e)
      = "(" ++ ("SELECT " ++ d.renderExpr e ++ " WHERE " ++ d.renderExpr e ++ " IS NULL")
        ++ ")" := by
    have hopen : ("(SELECT " : String) = "(" ++ "SELECT " := by decide
    have hclose : (" IS NULL)" : String) = " IS NULL" ++ ")" := by decide
    simp only [renderExpr, hopen, hclose, String.append_assoc]
  rw [IsInert, htext]
  refine Closed.parenthesized_text (Inert.closed ?_)
  exact (((((inert_text (by decide)).append_text h).append_text
    (inert_text (by decide))).append_text h).append_text (inert_text (by decide)))

end Dialect

end Sql

namespace Restriction

open Sql.Dialect

variable {d : Dialect} {c : QueryColumn}

theorem isInert_operand (asText : Bool) (index : Nat) : d.IsInert (operand asText index) := by
  cases asText
  · exact isInert_placeholder index
  · exact isInert_upper (isInert_placeholder index)

theorem isInert_listOf (t : DisplayType) :
    ∀ (values : List Json) (bound : Nat), ∀ e ∈ (listOf t bound values).map (·.2.1), d.IsInert e
  | [], _, e, he => by cases he
  | j :: values, bound, e, he => by
    rw [listOf] at he
    split at he
    · exact isInert_listOf t values bound e he
    · rcases List.mem_cons.1 he with rfl | he
      · exact isInert_operand _ bound
      · exact isInert_listOf t values (bound + 1) e he

variable (hc : d.IsInert c.expr)

include hc in
theorem isInert_membership (bound : Nat) (negated : Bool) (values : List Json) :
    ∀ r ∈ membership c bound negated values, d.IsInert r.expr := by
  intro r hr
  simp only [membership, Option.mem_def] at hr
  split at hr
  · split at hr
    · cases hr
      exact isInert_isNull hc negated
    · cases hr
  · obtain rfl := Option.some.inj hr
    have hlist : ∀ asText : Bool, d.IsInert (.inList (if asText then .upper c.expr else c.expr)
        ((listOf c.displayType bound values).map (·.2.1)) negated) := by
      intro asText
      refine isInert_inList ?_ (isInert_listOf _ values bound) negated
      cases asText
      · exact hc
      · exact isInert_upper hc
    split
    · refine isInert_or (List.forall_mem_cons.2 ⟨hlist _, List.forall_mem_singleton.2 ?_⟩)
      exact isInert_nullProbe hc
    · exact hlist _

include hc in
theorem isInert_range (bound : Nat) (negated : Bool) (low high : Parameter) :
    ∀ r ∈ range c bound negated low high, d.IsInert r.expr := by
  intro r hr
  unfold range at hr
  split at hr
  · cases hr
  · cases hr
    exact isInert_compare hc (isInert_placeholder _)
  · cases hr
    exact isInert_compare hc (isInert_placeholder _)
  · cases hr
    exact isInert_between hc (isInert_placeholder _) (isInert_placeholder _) negated

include hc in
theorem isInert_search (bound : Nat) (op : Comparison) (j : Json) :
    d.IsInert (search c bound op j).expr := by
  refine isInert_compare (isInert_upper hc) (isInert_concat ?_)
  simp only [List.forall_mem_cons]
  exact ⟨isInert_text _, isInert_upper (isInert_placeholder _), isInert_text _, nofun⟩

include hc in
theorem isInert_equality (bound : Nat) (op : Comparison) (j : Json) :
    d.IsInert (equality c bound op j).expr := by
  have hcompare : d.IsInert (.compare op c.expr (.placeholder bound)) :=
    isInert_compare hc (isInert_placeholder _)
  simp only [equality]
  split
  · exact isInert_compare (isInert_upper hc) (isInert_upper (isInert_placeholder _))
  · split
    · refine isInert_or (List.forall_mem_cons.2 ⟨hcompare, List.forall_mem_singleton.2 ?_⟩)
      exact isInert_isNull hc false
    · exact hcompare

include hc in
theorem isInert_bare (f : Filter) (bound : Nat) : ∀ r ∈ bare f c bound, d.IsInert r.expr := by
  unfold bare
  cases f.operator
  case isIn | notIn => exact isInert_membership hc bound _ f.values
  case between | notBetween => exact isInert_range hc bound _ _ _
  case like | notLike => simpa using isInert_search hc bound _ f.value
  case null | notNull => simpa using isInert_isNull hc _
  case equal | notEqual => simpa using isInert_equality hc bound _ f.value
  case greater | greaterEqual | less | lessEqual =>
    simpa [comparison] using isInert_compare hc (isInert_placeholder bound)

/-- The condition of a filter is an inert text in parentheses. -/
theorem exists_of_mem_all {columns : List QueryColumn}
    (hc : ∀ (f : Filter) c, f.column? columns = some c → d.IsInert c.expr)
    (filters : List Filter) (bound : Nat) : ∀ r ∈ all columns bound filters,
      ∃ s : String, Inert s.toList ∧ d.renderExpr r.expr = "(" ++ s ++ ")" := by
  intro r hr
  obtain ⟨f, -, c, n, hcol, hof⟩ := exists_of?_of_mem_all filters bound r hr
  obtain ⟨r', hr', rfl⟩ := Option.map_eq_some_iff.1 hof
  exact ⟨d.renderExpr r'.expr, isInert_bare (hc f c hcol) f n r' hr', by rw [renderExpr]⟩

end Restriction

end Reporting
