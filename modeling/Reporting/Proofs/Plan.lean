import Reporting.Proofs.Columns
import Reporting.Run

/-!
# What is known before the first query

A request whose report, source and token are good and whose query can be built has a plan
(`of_eq_ok_iff`). Some item of a plan's report selects a column (`exists_columnsOf`). The page bears
only on the complete query, not on the count (`exists_build_page`).
-/

namespace Reporting

namespace Projection

theorem columns_ne_nil {r : Resolver} {language : String} {d : Definition} {p : Projection}
    (h : ofDefinition r language d = .ok p) : p.columns ≠ [] := by
  obtain ⟨p', -, h⟩ := bind_eq_ok.1 h
  split at h
  · cases h
  · rename_i hne
    cases h
    simpa using hne

end Projection

namespace ReportQuery

variable {dialect : Sql.Dialect} {access : AccessControl} {options : QueryOptions} {d : Definition}
  {resolver : Resolver} {filters : List Filter} {page : Page} {q : ReportQuery}

theorem exists_columnsOf (h : build dialect access options d resolver filters page = .ok q) :
    ∃ item ∈ d.printedItems, q.columnsOf item.id ≠ [] := by
  have hpaired := paired_build h
  obtain ⟨p, hp, h⟩ := bind_eq_ok.1 h
  cases h
  obtain ⟨c, hc⟩ := List.exists_mem_of_ne_nil _ (Projection.columns_ne_nil hp)
  obtain ⟨item, hitem, hraw, -⟩ := hpaired c hc
  exact ⟨item, hitem, List.ne_nil_of_mem (List.mem_filter.2 ⟨hraw, beq_self_eq_true _⟩)⟩

/-- For another page the same is counted and the same values are bound. -/
theorem exists_build_page (h : build dialect access options d resolver filters page = .ok q)
    (page' : Page) : ∃ q', build dialect access options d resolver filters page' = .ok q'
      ∧ q'.count = q.count ∧ q'.params = q.params ∧ q'.page = page' := by
  obtain ⟨p, hp, h⟩ := bind_eq_ok.1 h
  cases h
  exact ⟨_, bind_eq_ok.2 ⟨p, hp, rfl⟩, rfl, rfl, rfl⟩

theorem page_build (h : build dialect access options d resolver filters page = .ok q) :
    q.page = page := by
  obtain ⟨p, -, h⟩ := bind_eq_ok.1 h
  cases h
  rfl

end ReportQuery

namespace RunPlan

variable {registry : Registry} {sources : Sources} {access : AccessControl} {r : Request}
  {p : RunPlan}

theorem of_eq_ok_iff : RunPlan.of registry sources access r = .ok p ↔
    reportOf registry r = .ok p.definition
      ∧ p.settings = sources.settings.forReport p.definition.name
      ∧ sourceOf sources p.definition = .ok p.source
      ∧ p.requestHash = r.hash
      ∧ ∃ offset, offsetOf r r.hash = .ok offset
        ∧ ReportQuery.build p.source.dialect access (.ofSettings p.settings) p.definition
            registry.resolver r.filters (.ofRequest r.limit offset p.settings.pages.pageSize)
          = .ok p.query := by
  simp only [RunPlan.of, bind_eq_ok]
  constructor
  · rintro ⟨d, hd, source, hsource, offset, hoffset, q, hq, h⟩
    cases h
    exact ⟨hd, rfl, hsource, rfl, offset, hoffset, hq⟩
  · obtain ⟨d, settings, source, hash, q⟩ := p
    dsimp only
    rintro ⟨hd, rfl, hsource, rfl, offset, hoffset, hq⟩
    exact ⟨d, hd, source, hsource, offset, hoffset, q, hq, rfl⟩

theorem exists_columnsOf (h : RunPlan.of registry sources access r = .ok p) :
    ∃ item ∈ p.definition.printedItems, p.query.columnsOf item.id ≠ [] := by
  obtain ⟨-, -, -, -, offset, -, hq⟩ := of_eq_ok_iff.1 h
  exact ReportQuery.exists_columnsOf hq

end RunPlan

end Reporting
