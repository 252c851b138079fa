import Reporting.Proofs.Fields
import Reporting.Settings.Loading

/-!
# The settings of one report

The paging and the locale are sections of the settings, with a built-in value for every field that
is missing in one (`ReadsFrom`). A section of a report stands in place of the general one as a
whole, so the general values of fields that it leaves out do not count (`layered_forReport`).
-/

namespace Reporting

open Wire

/-- A field of a record, with its name in documents. -/
structure Setting (ρ : Type) where
  {Value : Type}
  name : String
  read : Json → Option Value
  get : ρ → Value

/-- What a document has for a field, by its name or by its place among all of them. -/
def Json.field? (names : List String) (name : String) (j : Json) : Option Json :=
  (fields? names j).bind (present? name)

theorem Json.field?_of_fields? {names : List String} {j : Json} {fields : List (String × Json)}
    (h : fields? names j = some fields) (name : String) :
    j.field? names name = present? name fields := by
  rw [field?, h, Option.bind_some]

def Setting.value? {ρ : Type} (all : List (Setting ρ)) (x : Setting ρ) (j : Json) :
    Option x.Value :=
  (j.field? (all.map (·.name)) x.name).bind x.read

/-- The value of a field when each layer fills in what the one before it leaves out. -/
def Setting.merged {ρ : Type} (all : List (Setting ρ)) (x : Setting ρ) (base : ρ)
    (own general : Option Json) : x.Value :=
  ((own.bind (x.value? all)).or (general.bind (x.value? all))).getD (x.get base)

def PageSettings.all : List (Setting PageSettings) :=
  [⟨"page_size", uint64?, pageSize⟩, ⟨"strategy", choice? PageStrategy.ofName?, strategy⟩]

def Locale.all : List (Setting Locale) :=
  [⟨"language", string?, language⟩, ⟨"decimal_separator", char?, decimalSeparator⟩,
    ⟨"grouping_separator", char?, groupingSeparator⟩, ⟨"date_pattern", string?, datePattern⟩,
    ⟨"date_time_pattern", string?, dateTimePattern⟩, ⟨"time_pattern", string?, timePattern⟩,
    ⟨"yes_label", string?, yesLabel⟩, ⟨"no_label", string?, noLabel⟩]

theorem PageSettings.eq_of_all {p q : PageSettings} (h : ∀ x ∈ all, x.get p = x.get q) : p = q := by
  simp only [all, List.forall_mem_cons] at h
  obtain ⟨hsize, hstrategy, -⟩ := h
  cases p
  cases q
  congr

theorem Locale.eq_of_all {l l' : Locale} (h : ∀ x ∈ all, x.get l = x.get l') : l = l' := by
  simp only [all, List.forall_mem_cons] at h
  obtain ⟨hlanguage, hdecimal, hgrouping, hdate, hdateTime, htime, hyes, hno, -⟩ := h
  cases l
  cases l'
  congr

section Layers

variable {ρ : Type} {all : List (Setting ρ)} {base r g : ρ} {own general : Option Json} {j : Json}
  {name : String} {read : Json → Option ρ} {fields : List (String × Json)}

/-- A record has the values of a layer and, for the fields without one, those of another record. -/
structure ReadsFrom (all : List (Setting ρ)) (base : ρ) (layer : Option Json) (r : ρ) : Prop where
  get_eq : ∀ x ∈ all, x.get r = (layer.bind (x.value? all)).getD (x.get base)
  /-- What is there for a field is its value. -/
  isSome_value? : ∀ x ∈ all, (layer.bind (·.field? (all.map (·.name)) x.name)).isSome →
    (layer.bind (x.value? all)).isSome

theorem readsFrom_none : ReadsFrom all base none base where
  get_eq _ _ := rfl
  isSome_value? _ _ h := h

theorem Setting.get_of_withDefault {x : Setting ρ}
    (hfields : fields? (all.map (·.name)) j = some fields)
    (h : withDefault x.name (x.get base) x.read fields = some (x.get r)) :
    x.get r = (x.value? all j).getD (x.get base)
      ∧ ((j.field? (all.map (·.name)) x.name).isSome → (x.value? all j).isSome) := by
  rw [value?, Json.field?_of_fields? hfields]
  obtain ⟨hnone, hget⟩ | ⟨v, hv, hread⟩ := of_withDefault_eq_some h
  · rw [hnone, hget]
    exact ⟨rfl, id⟩
  · rw [hv, Option.bind_some, hread]
    exact ⟨rfl, id⟩

theorem readsFrom_some (h : ∀ x ∈ all, x.get r = (x.value? all j).getD (x.get base)
    ∧ ((j.field? (all.map (·.name)) x.name).isSome → (x.value? all j).isSome)) :
    ReadsFrom all base (some j) r where
  get_eq x hx := (h x hx).1
  isSome_value? x hx := (h x hx).2

theorem ReadsFrom.of_withDefault
    (hread : ∀ {j : Json} {r : ρ}, read j = some r → ReadsFrom all base (some j) r)
    (h : withDefault name base read fields = some r) :
    ReadsFrom all base (present? name fields) r := by
  obtain ⟨hnone, rfl⟩ | ⟨v, hv, hr⟩ := of_withDefault_eq_some h
  · exact hnone ▸ readsFrom_none
  · exact hv ▸ hread hr

theorem ReadsFrom.of_rel {o : Option ρ}
    (hread : ∀ {j : Json} {r : ρ}, read j = some r → ReadsFrom all base (some j) r)
    (hown : Option.Rel (read · = some ·) own o) (hgeneral : ReadsFrom all base general g) :
    ReadsFrom all base (own.or general) (o.getD g) := by
  cases hown with
  | none => exact hgeneral
  | some h => exact hread h

/-- A record made of two layers, the report's own one in place of the general one. -/
structure Layered (all : List (Setting ρ)) (base : ρ) (own general : Option Json) (r : ρ) :
    Prop where
  readsFrom : ReadsFrom all base (own.or general) r
  /-- The general layer is read even where it does not count. -/
  exists_general : ∃ g, ReadsFrom all base general g
  get_eq_merged_iff : ∀ x ∈ all, x.get r = x.merged all base own general ↔
    own = none ∨ (own.bind (x.value? all)).isSome
      ∨ (general.bind (x.value? all)).getD (x.get base) = x.get base
  eq_of_readsFrom : ∀ r', ReadsFrom all base (own.or general) r' → r' = r

theorem Layered.of_readsFrom (hall : ∀ {r r' : ρ}, (∀ x ∈ all, x.get r = x.get r') → r = r')
    (h : ReadsFrom all base (own.or general) r) (hgeneral : ReadsFrom all base general g) :
    Layered all base own general r where
  readsFrom := h
  exists_general := ⟨g, hgeneral⟩
  get_eq_merged_iff x hx := by
    rw [h.get_eq x hx, Setting.merged]
    cases own with
    | none => simp
    | some j =>
      rw [Option.some_or, Option.bind_some]
      cases x.value? all j with
      | none => simp [eq_comm]
      | some v => simp
  eq_of_readsFrom r' h' := hall fun x hx => by rw [h.get_eq x hx, h'.get_eq x hx]

theorem rel_option?_of_withDefault {o : Option ρ}
    (h : withDefault name none (option? read) fields = some o) :
    Option.Rel (read · = some ·) ((present? name fields).filter (!·.isNull)) o := by
  obtain ⟨hnone, rfl⟩ | ⟨v, hv, ho⟩ := of_withDefault_eq_some h
  · rw [hnone]
    exact .none
  · rw [hv]
    unfold option? at ho
    split at ho
    · cases ho
      exact .none
    · rename_i hne
      have hnull : v.isNull = false := by
        cases v with
        | null => exact absurd rfl hne
        | _ => rfl
      obtain ⟨r, hr, rfl⟩ := Option.map_eq_some_iff.1 ho
      rw [Option.filter_some, hnull]
      exact .some hr

theorem rel_lookup_of_table? {entries : List (String × ρ)}
    (h : table? read j = some entries) (name : String) :
    Option.Rel (read · = some ·) (j.members.lookup name) (entries.lookup name) := by
  cases j with
  | object members =>
    rw [table?] at h
    rw [Json.members]
    induction members generalizing entries with
    | nil =>
      cases h
      exact .none
    | cons member members ih =>
      obtain ⟨other, v⟩ := member
      simp only [List.mapM_cons, Option.bind_eq_bind, Option.bind_eq_some_iff,
        Option.map_eq_some_iff] at h
      obtain ⟨_, ⟨a, hread, rfl⟩, rest, hrest, h⟩ := h
      obtain rfl := Option.some.inj h
      rw [List.lookup_cons, List.lookup_cons]
      cases name == other with
      | true => exact .some hread
      | false => exact ih hrest
  | _ => cases h

end Layers

theorem PageSettings.readsFrom {j : Json} {p : PageSettings} (h : ofJson? j = some p) :
    ReadsFrom all {} (some j) p := by
  simp only [ofJson?, Option.bind_eq_bind, Option.bind_eq_some_iff] at h
  obtain ⟨fields, hfields, size, hsize, strategy, hstrategy, hp⟩ := h
  obtain rfl := Option.some.inj hp
  have hfields : fields? (all.map (·.name)) j = some fields := hfields
  refine readsFrom_some fun x hx => ?_
  simp only [all, List.mem_cons, List.not_mem_nil, or_false] at hx
  obtain rfl | rfl := hx
  · exact Setting.get_of_withDefault hfields hsize
  · exact Setting.get_of_withDefault hfields hstrategy

theorem Locale.readsFrom {j : Json} {l : Locale} (h : ofJson? j = some l) :
    ReadsFrom all {} (some j) l := by
  simp only [ofJson?, Option.bind_eq_bind, Option.bind_eq_some_iff] at h
  obtain ⟨fields, hfields, language, hlanguage, decimal, hdecimal, grouping, hgrouping, date, hdate,
    dateTime, hdateTime, time, htime, yes, hyes, no, hno, hl⟩ := h
  obtain rfl := Option.some.inj hl
  have hfields : fields? (all.map (·.name)) j = some fields := hfields
  refine readsFrom_some fun x hx => ?_
  simp only [all, List.mem_cons, List.not_mem_nil, or_false] at hx
  obtain rfl | rfl | rfl | rfl | rfl | rfl | rfl | rfl := hx
  · exact Setting.get_of_withDefault hfields hlanguage
  · exact Setting.get_of_withDefault hfields hdecimal
  · exact Setting.get_of_withDefault hfields hgrouping
  · exact Setting.get_of_withDefault hfields hdate
  · exact Setting.get_of_withDefault hfields hdateTime
  · exact Setting.get_of_withDefault hfields htime
  · exact Setting.get_of_withDefault hfields hyes
  · exact Setting.get_of_withDefault hfields hno

def GeneralSettings.names : List String := ["pagination", "locale", "financial", "duckdb"]

def ReportSettings.names : List String := ["pagination", "locale"]

namespace Settings

def names : List String := ["defaults", "reports"]

/-- A section of the general settings in a document. -/
def generalLayer? (name : String) (j : Json) : Option Json :=
  (j.field? names "defaults").bind (·.field? GeneralSettings.names name)

/-- The settings of a report in a document. -/
def own? (report : String) (j : Json) : Option Json :=
  (j.field? names "reports").bind (·.members.lookup report)

def ownLayer? (report name : String) (j : Json) : Option Json :=
  (own? report j).bind fun own => (own.field? ReportSettings.names name).filter (!·.isNull)

end Settings

theorem GeneralSettings.readsFrom {j : Json} {g : GeneralSettings} (h : ofJson? j = some g) :
    ReadsFrom PageSettings.all {} (j.field? names "pagination") g.pages
      ∧ ReadsFrom Locale.all {} (j.field? names "locale") g.locale := by
  simp only [ofJson?, Option.bind_eq_bind, Option.bind_eq_some_iff] at h
  obtain ⟨fields, hfields, pages, hpages, locale, hlocale, financial, -, store, -, hg⟩ := h
  obtain rfl := Option.some.inj hg
  have hfield : ∀ name, j.field? names name = present? name fields :=
    Json.field?_of_fields? hfields
  rw [hfield, hfield]
  exact ⟨.of_withDefault PageSettings.readsFrom hpages, .of_withDefault Locale.readsFrom hlocale⟩

theorem ReportSettings.rel_layers {j : Json} {r : ReportSettings} (h : ofJson? j = some r) :
    Option.Rel (PageSettings.ofJson? · = some ·)
        ((j.field? names "pagination").filter (!·.isNull)) r.pages
      ∧ Option.Rel (Locale.ofJson? · = some ·)
        ((j.field? names "locale").filter (!·.isNull)) r.locale := by
  simp only [ofJson?, Option.bind_eq_bind, Option.bind_eq_some_iff] at h
  obtain ⟨fields, hfields, pages, hpages, locale, hlocale, hr⟩ := h
  obtain rfl := Option.some.inj hr
  have hfield : ∀ name, j.field? names name = present? name fields :=
    Json.field?_of_fields? hfields
  rw [hfield, hfield]
  exact ⟨rel_option?_of_withDefault hpages, rel_option?_of_withDefault hlocale⟩

namespace Settings

variable {j : Json} {s : Settings}

theorem readsFrom_general (h : ofJson? j = some s) :
    ReadsFrom PageSettings.all {} (generalLayer? "pagination" j) s.general.pages
      ∧ ReadsFrom Locale.all {} (generalLayer? "locale" j) s.general.locale := by
  simp only [ofJson?, Option.bind_eq_bind, Option.bind_eq_some_iff] at h
  obtain ⟨fields, hfields, general, hgeneral, reports, -, hs⟩ := h
  obtain rfl := Option.some.inj hs
  have hfield : ∀ name, j.field? names name = present? name fields :=
    Json.field?_of_fields? hfields
  rw [generalLayer?, generalLayer?, hfield]
  obtain ⟨hnone, rfl⟩ | ⟨v, hv, hread⟩ := of_withDefault_eq_some hgeneral
  · rw [hnone]
    exact ⟨readsFrom_none, readsFrom_none⟩
  · rw [hv]
    exact GeneralSettings.readsFrom hread

theorem rel_own? (h : ofJson? j = some s) (report : String) :
    Option.Rel (ReportSettings.ofJson? · = some ·) (own? report j) (s.reports.lookup report) := by
  simp only [ofJson?, Option.bind_eq_bind, Option.bind_eq_some_iff] at h
  obtain ⟨fields, hfields, general, -, reports, hreports, hs⟩ := h
  obtain rfl := Option.some.inj hs
  have hfield : ∀ name, j.field? names name = present? name fields :=
    Json.field?_of_fields? hfields
  rw [own?, hfield]
  obtain ⟨hnone, rfl⟩ | ⟨v, hv, hread⟩ := of_withDefault_eq_some hreports
  · rw [hnone]
    exact .none
  · rw [hv]
    exact rel_lookup_of_table? hread report

theorem rel_ownLayer? (h : ofJson? j = some s) (report : String) :
    Option.Rel (PageSettings.ofJson? · = some ·) (ownLayer? report "pagination" j)
        ((s.reports.lookup report).getD {}).pages
      ∧ Option.Rel (Locale.ofJson? · = some ·) (ownLayer? report "locale" j)
        ((s.reports.lookup report).getD {}).locale := by
  have hown := rel_own? h report
  rw [ownLayer?, ownLayer?]
  generalize own? report j = own at hown ⊢
  generalize s.reports.lookup report = r at hown ⊢
  cases hown with
  | none => exact ⟨.none, .none⟩
  | some h => exact ReportSettings.rel_layers h

theorem ofToml_of_ofJson? {text : String} (htext : Toml.ofText? text = some j)
    (h : ofJson? j = some s) : ofToml text = .ok s := by
  rw [ofToml, htext, Option.bind_some, h]

/-- Each section of a report's settings is that of the report, or the general one when the report
has none, with a built-in value for every field that is missing there. A field thus has the value
that a merge of the fields would give it exactly if the report has no such section, or sets the
field there, or the general settings leave the field at its built-in value. -/
theorem layered_forReport (h : ofJson? j = some s) :
    (∀ text, Toml.ofText? text = some j → ofToml text = .ok s)
      ∧ ∀ report,
        Layered PageSettings.all {} (ownLayer? report "pagination" j)
            (generalLayer? "pagination" j) (s.forReport report).pages
          ∧ Layered Locale.all {} (ownLayer? report "locale" j)
            (generalLayer? "locale" j) (s.forReport report).locale := by
  refine ⟨fun text htext => ofToml_of_ofJson? htext h, fun report => ?_⟩
  obtain ⟨hpages, hlocale⟩ := readsFrom_general h
  obtain ⟨hown, hown'⟩ := rel_ownLayer? h report
  exact ⟨.of_readsFrom PageSettings.eq_of_all (.of_rel PageSettings.readsFrom hown hpages) hpages,
    .of_readsFrom Locale.eq_of_all (.of_rel Locale.readsFrom hown' hlocale) hlocale⟩

section Strategies

/-- General settings for the pages, and a report that sets the size of its own. -/
def ownPageSize : String :=
  "[defaults.pagination]\nstrategy = \"limit_offset\"\n" ++
    "[reports.sales.pagination]\npage_size = 500"

def ownPageSizeDocument : Json :=
  .object [
    ("defaults", .object [("pagination", .object [("strategy", .string "limit_offset")])]),
    ("reports", .object [("sales", .object [
      ("pagination", .object [("page_size", .ofNat 500)])])])]

def strategySetting : Setting PageSettings :=
  ⟨"strategy", choice? PageStrategy.ofName?, PageSettings.strategy⟩

theorem strategySetting_mem : strategySetting ∈ PageSettings.all :=
  List.mem_cons_of_mem _ List.mem_cons_self

theorem ofText?_ownPageSize : Toml.ofText? ownPageSize = some ownPageSizeDocument := by
  rfl

theorem layered_forReport_sales : ∃ s, ofJson? ownPageSizeDocument = some s
    ∧ ofToml ownPageSize = .ok s
    ∧ strategySetting.get (s.forReport "invoices").pages = PageStrategy.limitOffset
    ∧ strategySetting.get (s.forReport "sales").pages = PageStrategy.rowNumber := by
  obtain ⟨s, h⟩ : ∃ s, ofJson? ownPageSizeDocument = some s := ⟨_, rfl⟩
  obtain ⟨htext, hreports⟩ := layered_forReport h
  exact ⟨s, h, htext _ ofText?_ownPageSize,
    (hreports "invoices").1.readsFrom.get_eq strategySetting strategySetting_mem,
    (hreports "sales").1.readsFrom.get_eq strategySetting strategySetting_mem⟩

/-- Where a report sets the size of its pages, a general strategy does not count. -/
theorem not_merged_sales : ∃ s, ofToml ownPageSize = .ok s
    ∧ Toml.ofText? ownPageSize = some ownPageSizeDocument
    ∧ strategySetting ∈ PageSettings.all
    ∧ strategySetting.get (s.forReport "sales").pages
      ≠ strategySetting.merged PageSettings.all {}
        (ownLayer? "sales" "pagination" ownPageSizeDocument)
        (generalLayer? "pagination" ownPageSizeDocument) := by
  refine ⟨_, ofToml_of_ofJson? ofText?_ownPageSize rfl, ofText?_ownPageSize, strategySetting_mem,
    fun h => ?_⟩
  have : PageStrategy.rowNumber = PageStrategy.limitOffset := h
  cases this

end Strategies

end Settings

end Reporting
