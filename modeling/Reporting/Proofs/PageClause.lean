import Reporting.Proofs.Access

/-!
# The page in a query

A page changes nothing of a query but its complete text, and there it only adds a bound behind the
conditions or a limit at the end. What is counted is the query for all rows without its order
(`build_pages`).
-/

namespace Reporting

/-- A page is either a condition or the end of a query. -/
theorem Paging.clause_exclusive (paging : Paging) (page : Page) :
    (paging.clause page).condition = none ∨ (paging.clause page).ending = none := by
  cases page with
  | unlimited => exact .inl rfl
  | window limit offset =>
    cases paging with
    | rowNumber column => exact .inr rfl
    | limitOffset => exact .inl rfl

namespace ReportQuery

/-- The queries agree in everything but their pages and their complete texts. -/
structure SameButPage (a b : ReportQuery) : Prop where
  query : a.query = b.query
  columns : a.columns = b.columns
  orderBy : a.orderBy = b.orderBy
  groupBy : a.groupBy = b.groupBy
  filters : a.filters = b.filters
  params : a.params = b.params
  condition : a.condition = b.condition
  count : a.count = b.count

/-- What a bound adds behind conditions, which it starts if there are none. -/
def boundText (conditions : Option String) : Option String → String
  | none => ""
  | some bound => (if conditions.isSome then " AND " else " WHERE ") ++ bound

/-- The conditions whatever the page, those of the filters and that of access control. -/
def standing (options : QueryOptions) (access : AccessControl) (d : Definition) (q : ReportQuery) :
    Option String :=
  joined Sql.conjunction (q.condition.toList ++ (accessCondition options access d).toList)

/-- The query with its standing conditions. -/
def filtered (options : QueryOptions) (access : AccessControl) (d : Definition) (q : ReportQuery) :
    String :=
  q.query ++ ending "WHERE" (q.standing options access d)

theorem restricted_eq (query : String) (conditions : List String) :
    restricted query conditions
      = query ++ ending "WHERE" (joined Sql.conjunction conditions) := by
  rw [restricted, Sql.clause, joined]
  cases conditions.isEmpty <;> rfl

theorem restricted_append (query : String) (conditions : List String) (bound : Option String) :
    restricted query (conditions ++ bound.toList)
      = restricted query conditions ++ boundText (joined Sql.conjunction conditions) bound := by
  cases bound with
  | none => rw [Option.toList_none, List.append_nil, boundText, String.append_empty]
  | some bound =>
    cases conditions with
    | nil =>
      simp only [restricted_eq, Option.toList_some, List.nil_append]
      simp [joined, ending, boundText, Sql.conjunction]
      rfl
    | cons condition conditions =>
      have htext : Sql.conjunction (condition :: conditions ++ [bound])
          = Sql.conjunction (condition :: conditions) ++ " AND " ++ bound := by
        simp only [Sql.conjunction]
        rw [String.intercalate_append_of_ne_nil (by simp) (by simp), String.intercalate_singleton]
      simp only [restricted_eq, Option.toList_some, joined, ending, boundText, List.isEmpty_cons,
        List.cons_append, Option.isSome_some, if_true, Bool.false_eq_true, if_false]
      rw [← List.cons_append, htext]
      simp only [String.append_assoc]

section Pages

variable (dialect : Sql.Dialect) (access : AccessControl) (options : QueryOptions) (d : Definition)
  (resolver : Resolver) (filters : List Filter)

/-- A report has queries for all pages or for none, and they differ in what the page adds. -/
theorem build_pages :
    (∀ page page',
        (∃ e, build dialect access options d resolver filters page = .error e
            ∧ build dialect access options d resolver filters page' = .error e)
          ∨ ∃ q q', build dialect access options d resolver filters page = .ok q
            ∧ build dialect access options d resolver filters page' = .ok q' ∧ q.SameButPage q')
      ∧ ∀ page q, build dialect access options d resolver filters page = .ok q →
        ∃ whole, build dialect access options d resolver filters .unlimited = .ok whole
          ∧ whole.complete = whole.filtered options access d ++ ending "GROUP BY" whole.groupBy
              ++ ending "ORDER BY" whole.orderBy
          ∧ whole.count = "SELECT COUNT(*) FROM (" ++ (whole.filtered options access d
              ++ ending "GROUP BY" whole.groupBy) ++ ") AS report_rows"
          ∧ q.complete = whole.filtered options access d
              ++ boundText (whole.standing options access d) (options.paging.clause page).condition
              ++ ending "GROUP BY" whole.groupBy ++ ending "ORDER BY" whole.orderBy
              ++ (options.paging.clause page).ending.getD ""
          ∧ ((options.paging.clause page).condition = none
            ∨ (options.paging.clause page).ending = none) := by
  rcases hp : Projection.ofDefinition resolver options.language d with e | p
  · have hnone : ∀ page, build dialect access options d resolver filters page = .error e := by
      intro page
      rw [build, hp]
      rfl
    refine ⟨fun page page' => .inl ⟨e, hnone page, hnone page'⟩, fun page q h => ?_⟩
    rw [hnone page] at h
    cases h
  · refine ⟨fun page page' => .inr ⟨_, _, bind_eq_ok.2 ⟨p, hp, rfl⟩, bind_eq_ok.2 ⟨p, hp, rfl⟩,
      ⟨rfl, rfl, rfl, rfl, rfl, rfl, rfl, rfl⟩⟩, fun page q h => ?_⟩
    refine ⟨_, bind_eq_ok.2 ⟨p, hp, rfl⟩, ?_⟩
    obtain ⟨p', hp', h⟩ := bind_eq_ok.1 h
    obtain rfl : p = p' := by
      rw [hp] at hp'
      exact Except.ok.inj hp'
    cases h
    refine ⟨?_, ?_, ?_, Paging.clause_exclusive _ _⟩
    · have hclause : options.paging.clause .unlimited = {} := by
        cases options.paging <;> rfl
      simp only [hclause, Option.toList_none, List.append_nil, Option.getD_none,
        String.append_empty, filtered, standing, restricted_eq]
    · simp only [filtered, standing, restricted_eq, String.append_assoc]
    · rw [restricted_append]
      simp only [filtered, standing, restricted_eq]

end Pages

theorem build_pages_regional :
    ∃ q whole : ReportQuery, build .ansi (fun _ => some "Org = 1") regionalOptions regional
          (.conventional fun _ => none) european (.window 10 1) = .ok q
        ∧ build .ansi (fun _ => some "Org = 1") regionalOptions regional
          (.conventional fun _ => none) european .unlimited = .ok whole
        ∧ whole.SameButPage q
        ∧ whole.complete = "SELECT Sale.Region AS Region FROM Sale WHERE "
            ++ "(UPPER(Sale.Region) = UPPER(?)) AND Org = 1"
        ∧ q.complete = whole.complete ++ " AND ROWNUM >= 1 AND ROWNUM <= 11" := by
  obtain ⟨q, hq⟩ := build_regional fun _ => some "Org = 1"
  obtain ⟨hsame, hpage⟩ := build_pages .ansi (fun _ => some "Org = 1") regionalOptions regional
    (.conventional fun _ => none) european
  obtain ⟨whole, hwhole, hunlimited, -, hcomplete, -⟩ := hpage _ q hq
  have hagree : whole.SameButPage q := by
    obtain ⟨e, he, -⟩ | ⟨whole', q', hwhole', hq', hagree⟩ := hsame .unlimited (.window 10 1)
    · rw [hwhole] at he
      cases he
    · obtain rfl := Except.ok.inj (hwhole.symm.trans hwhole')
      obtain rfl := Except.ok.inj (hq.symm.trans hq')
      exact hagree
  refine ⟨q, whole, hq, hwhole, hagree, ?_⟩
  rw [build, show regionalOptions.language = "en_US" from rfl, projection_regional] at hwhole
  cases hwhole
  rw [hcomplete]
  exact ⟨by decide +kernel, by decide +kernel⟩

end ReportQuery

end Reporting
