import Reporting.Proofs.Fields
import Reporting.Query.Resolver
import Reporting.Wire.Definition
import Reporting.Wire.Request

/-!
# Documents read back

Definitions, lookups, filters and requests read back from what is written for them, also when the
fields that have their defaults are left out and when the fields come in another order
(`read_documents`).
-/

namespace Reporting

open Wire

theorem FilterOperator.ofText_name (o : FilterOperator) : ofText o.name = o := by
  cases o <;> decide +kernel

namespace Item

structure InRange (i : Item) : Prop where
  id : IsInt64 i.id
  sequence : IsInt32 i.sequence
  sortSequence : IsInt32 i.sortSequence
  referenceValueId : ∀ n ∈ i.referenceValueId, IsInt64 n

/-- The fields that may be left out when they have these values. -/
def defaults : List (String × Json) :=
  [("print_name", .null), ("column_name", .null), ("sequence", .ofInt 0),
    ("sort_sequence", .ofInt 0), ("reference_value_id", .null), ("is_mandatory", .bool false),
    ("column_sql", .null), ("format_pattern", .null), ("mapping", .null),
    ("is_printed", .bool true), ("is_active", .bool true), ("is_order_by", .bool false),
    ("is_desc", .bool false), ("is_group_by", .bool false), ("is_summarized", .bool false),
    ("is_counted", .bool false), ("is_min_calc", .bool false), ("is_max_calc", .bool false),
    ("is_averaged", .bool false), ("is_variance_calc", .bool false),
    ("is_deviation_calc", .bool false), ("is_hide_grand_total", .bool false)]

/-- What stands for an item in a document. -/
def Document (i : Item) (j : Json) : Prop := Spares defaults i.toJson.members j

theorem ofJson?_of_spares {members : List (String × Json)} {j : Json}
    (hnodup : (members.map Prod.fst).Nodup) (h : Spares defaults members j) :
    ofJson? j = ofJson? (.object members) := by
  refine bind_fields?_of_spares hnodup (by decide +kernel) h fun kept hkept => ?_
  dsimp only
  -- Fields are read by name alone, so each can be passed over without regard to the others.
  repeat rw [required_of_kept hkept rfl]
  repeat rw [withDefault_of_kept hkept rfl]

theorem nodup_names (i : Item) : (i.toJson.members.map Prod.fst).Nodup := by
  have hnames : i.toJson.members.map Prod.fst = fieldNames := rfl
  rw [hnames]
  decide +kernel

theorem ofJson?_toJson {i : Item} (h : i.InRange) : ofJson? i.toJson = some i := by
  rw [ofJson?]
  refine (bind_fields?_object (nodup_names _)).trans ?_
  dsimp only
  -- What is left is to read the value that was written for each field.
  repeat rw [required_of_present? rfl]
  repeat rw [withDefault_of_present? rfl]
  rw [int64?_ofInt h.id, int32?_ofInt h.sequence, int32?_ofInt h.sortSequence,
    option?_ofOption rfl fun n hn => int64?_ofInt (h.referenceValueId n hn)]
  simp only [string?, bool?, choice?, DisplayType.ofName?_name, option?_string]
  rfl

theorem ofJson?_of_document {i : Item} (h : i.InRange) {j : Json} (hj : i.Document j) :
    ofJson? j = some i :=
  (ofJson?_of_spares (nodup_names i) hj).trans (ofJson?_toJson h)

end Item

namespace Definition

structure InRange (d : Definition) : Prop where
  id : IsInt64 d.id
  items : ∀ i ∈ d.items, i.InRange

def defaults : List (String × Json) :=
  [("description", .null), ("data_source", .string "default"), ("is_summary", .bool false),
    ("group_by", .array [])]

/-- The items may leave out their defaults too. -/
def Document (d : Definition) (j : Json) : Prop :=
  ∃ items, List.Forall₂ Item.Document d.items items
    ∧ Spares defaults (put "items" (.array items) d.toJson.members) j

theorem ofJson?_of_spares {members : List (String × Json)} {j : Json}
    (hnodup : (members.map Prod.fst).Nodup) (h : Spares defaults members j) :
    ofJson? j = ofJson? (.object members) := by
  refine bind_fields?_of_spares hnodup (by decide +kernel) h fun kept hkept => ?_
  repeat rw [required_of_kept hkept rfl]
  repeat rw [withDefault_of_kept hkept rfl]

theorem nodup_names (d : Definition) (items : Json) :
    ((put "items" items d.toJson.members).map Prod.fst).Nodup := by
  have hnames : d.toJson.members.map Prod.fst = fieldNames := rfl
  rw [names_put, hnames]
  decide +kernel

theorem ofJson?_put {d : Definition} (h : d.InRange) {items : List Json}
    (hitems : list? Item.ofJson? (.array items) = some d.items) :
    ofJson? (.object (put "items" (.array items) d.toJson.members)) = some d := by
  rw [ofJson?]
  refine (bind_fields?_object (nodup_names d _)).trans ?_
  repeat rw [required_of_present? rfl]
  repeat rw [withDefault_of_present? rfl]
  simp only [String.reduceEq, ↓reduceIte]
  rw [int64?_ofInt h.id, hitems]
  simp only [string?, bool?, option?_string, list?_string]
  rfl

theorem ofJson?_of_document {d : Definition} (h : d.InRange) {j : Json} (hj : d.Document j) :
    ofJson? j = some d := by
  obtain ⟨items, hitems, hj⟩ := hj
  have hread : list? Item.ofJson? (.array items) = some d.items :=
    list?_of_forall₂ (((List.forall₂_and_left _ _).2 ⟨h.items, hitems⟩).imp
      fun _ _ ⟨hi, hj⟩ => Item.ofJson?_of_document hi hj)
  exact (ofJson?_of_spares (nodup_names d _) hj).trans (ofJson?_put h hread)

theorem document_toJson (d : Definition) : d.Document d.toJson := by
  refine ⟨d.items.map Item.toJson, ?_, spares_self _ _⟩
  rw [List.forall₂_map_right_iff, List.forall₂_same]
  exact fun i _ => spares_self _ _

end Definition

namespace Lookup

def InRange (l : Lookup) : Prop := ∀ c ∈ l.discriminator, IsInt64 c.2

def defaults : List (String × Json) :=
  [("is_value_displayed", .bool false), ("is_translated", .bool false), ("translation_key", .null),
    ("discriminator", .null)]

def Document (l : Lookup) (j : Json) : Prop := Spares defaults l.toJson.members j

theorem ofJson?_of_spares {members : List (String × Json)} {j : Json}
    (hnodup : (members.map Prod.fst).Nodup) (h : Spares defaults members j) :
    ofJson? j = ofJson? (.object members) := by
  refine bind_fields?_of_spares hnodup (by decide +kernel) h fun kept hkept => ?_
  repeat rw [required_of_kept hkept rfl]
  repeat rw [withDefault_of_kept hkept rfl]

theorem nodup_names (l : Lookup) : (l.toJson.members.map Prod.fst).Nodup := by
  have hnames : l.toJson.members.map Prod.fst = fieldNames := rfl
  rw [hnames]
  decide +kernel

theorem ofJson?_toJson {l : Lookup} (h : l.InRange) : ofJson? l.toJson = some l := by
  have hpair : ∀ c ∈ l.discriminator,
      pair? string? int64? (.array [.string c.1, .ofInt c.2]) = some c := by
    intro c hc
    rw [pair?, int64?_ofInt (h c hc)]
    rfl
  rw [ofJson?]
  refine (bind_fields?_object (nodup_names _)).trans ?_
  repeat rw [required_of_present? rfl]
  repeat rw [withDefault_of_present? rfl]
  rw [option?_ofOption rfl hpair]
  simp only [string?, bool?, option?_string]
  rfl

theorem ofJson?_of_document {l : Lookup} (h : l.InRange) {j : Json} (hj : l.Document j) :
    ofJson? j = some l :=
  (ofJson?_of_spares (nodup_names l) hj).trans (ofJson?_toJson h)

end Lookup

namespace Filter

def defaults : List (String × Json) :=
  [("operator", .string "equal"), ("value", .null), ("values", .array []), ("from_value", .null),
    ("to_value", .null)]

def Document (f : Filter) (j : Json) : Prop := Spares defaults f.toJson.members j

theorem ofJson?_of_spares {members : List (String × Json)} {j : Json}
    (hnodup : (members.map Prod.fst).Nodup) (h : Spares defaults members j) :
    ofJson? j = ofJson? (.object members) := by
  have hoperator : (present? "operator" defaults).bind FilterOperator.ofJson? = some .equal :=
    congrArg some (FilterOperator.ofText_name .equal)
  refine bind_fields?_of_spares hnodup (by decide +kernel) h fun kept hkept => ?_
  rw [required_of_kept hkept rfl, withDefault_of_kept hkept hoperator]
  repeat rw [withDefault_of_kept hkept rfl]

theorem nodup_names (f : Filter) : (f.toJson.members.map Prod.fst).Nodup := by
  have hnames : f.toJson.members.map Prod.fst = fieldNames := rfl
  rw [hnames]
  decide +kernel

theorem ofJson?_toJson (f : Filter) : ofJson? f.toJson = some f := by
  rw [ofJson?]
  refine (bind_fields?_object (nodup_names _)).trans ?_
  repeat rw [required_of_present? rfl]
  repeat rw [withDefault_of_present? rfl]
  simp only [string?, FilterOperator.ofJson?, FilterOperator.ofText_name, list?_some]
  rfl

theorem ofJson?_of_document {f : Filter} {j : Json} (hj : f.Document j) : ofJson? j = some f :=
  (ofJson?_of_spares (nodup_names f) hj).trans (ofJson?_toJson f)

end Filter

namespace Request

structure InRange (r : Request) : Prop where
  reportId : ∀ n ∈ r.reportId, IsInt64 n
  limit : IsInt64 r.limit

def defaults : List (String × Json) :=
  [("report_id", .null), ("filters", .array []), ("limit", .ofInt 0), ("offset", .ofNat 0),
    ("page_token", .null)]

/-- The filters may leave out their defaults too. -/
def Document (r : Request) (j : Json) : Prop :=
  ∃ filters, List.Forall₂ Filter.Document r.filters filters
    ∧ Spares defaults (put "filters" (.array filters) r.toJson.members) j

theorem ofJson?_of_spares {members : List (String × Json)} {j : Json}
    (hnodup : (members.map Prod.fst).Nodup) (h : Spares defaults members j) :
    ofJson? j = ofJson? (.object members) := by
  refine bind_fields?_of_spares hnodup (by decide +kernel) h fun kept hkept => ?_
  repeat rw [withDefault_of_kept hkept rfl]

theorem nodup_names (r : Request) (filters : Json) :
    ((put "filters" filters r.toJson.members).map Prod.fst).Nodup := by
  have hnames : r.toJson.members.map Prod.fst = fieldNames := rfl
  rw [names_put, hnames]
  decide +kernel

theorem ofJson?_put {r : Request} (h : r.InRange) {filters : List Json}
    (hfilters : list? Filter.ofJson? (.array filters) = some r.filters) :
    ofJson? (.object (put "filters" (.array filters) r.toJson.members)) = some r := by
  rw [ofJson?]
  refine (bind_fields?_object (nodup_names r _)).trans ?_
  repeat rw [withDefault_of_present? rfl]
  simp only [String.reduceEq, ↓reduceIte]
  rw [option?_ofOption rfl fun n hn => int64?_ofInt (h.reportId n hn), hfilters,
    int64?_ofInt h.limit, uint64?_ofNat]
  simp only [option?_string]
  rfl

theorem ofJson?_of_document {r : Request} (h : r.InRange) {j : Json} (hj : r.Document j) :
    ofJson? j = some r := by
  obtain ⟨filters, hfilters, hj⟩ := hj
  have hread : list? Filter.ofJson? (.array filters) = some r.filters :=
    list?_of_forall₂ (hfilters.imp fun _ _ hj => Filter.ofJson?_of_document hj)
  exact (ofJson?_of_spares (nodup_names r _) hj).trans (ofJson?_put h hread)

theorem document_toJson (r : Request) : r.Document r.toJson := by
  refine ⟨r.filters.map Filter.toJson, ?_, spares_self _ _⟩
  rw [List.forall₂_map_right_iff, List.forall₂_same]
  exact fun f _ => spares_self _ _

end Request

/-- What is written reads back, and so it does in any order and without fields that have their
defaults. -/
theorem read_documents :
    (∀ d : Definition, d.InRange → Definition.ofJson? d.toJson = some d
      ∧ ∀ j, d.Document j → Definition.ofJson? j = some d)
    ∧ (∀ l : Lookup, l.InRange → Lookup.ofJson? l.toJson = some l
      ∧ ∀ j, l.Document j → Lookup.ofJson? j = some l)
    ∧ (∀ f : Filter, Filter.ofJson? f.toJson = some f
      ∧ ∀ j, f.Document j → Filter.ofJson? j = some f)
    ∧ ∀ r : Request, r.InRange → Request.ofJson? r.toJson = some r
      ∧ ∀ j, r.Document j → Request.ofJson? j = some r := by
  refine ⟨fun d hd => ⟨?_, fun j => Definition.ofJson?_of_document hd⟩,
    fun l hl => ⟨Lookup.ofJson?_toJson hl, fun j => Lookup.ofJson?_of_document hl⟩,
    fun f => ⟨Filter.ofJson?_toJson f, fun j => Filter.ofJson?_of_document⟩,
    fun r hr => ⟨?_, fun j => Request.ofJson?_of_document hr⟩⟩
  · exact Definition.ofJson?_of_document hd (Definition.document_toJson d)
  · exact Request.ofJson?_of_document hr (Request.document_toJson r)

def regionItem : Item where
  id := 1
  name := "Region"
  columnName := some "Region"
  displayType := .string

def salesByRegion : Definition where
  id := 7
  name := "Sales"
  tableName := "Sale"
  items := [regionItem]

/-- Sales by region with nothing that has its default. -/
def shortDefinition : Json :=
  .object [("id", .ofInt 7), ("name", .string "Sales"), ("table_name", .string "Sale"),
    ("items", .array [
      .object [("id", .ofInt 1), ("name", .string "Region"), ("column_name", .string "Region"),
        ("reference", .string "string")]])]

/-- All rows of a region, which the filter gives as an object. -/
def regionRequest : Request where
  reportId := some 7
  filters := [{ columnName := "Region", value := .object [("name", .string "EU")] }]
  limit := -1

def shortRequest : Json :=
  .object [("report_id", .ofInt 7),
    ("filters", .array [
      .object [("column_name", .string "Region"), ("value", .object [("name", .string "EU")])]]),
    ("limit", .ofInt (-1))]

theorem document_shortDefinition : salesByRegion.Document shortDefinition := by
  have hitem : regionItem.Document _ :=
    spares_filter (p := (·.1 ∈ ["id", "name", "column_name", "reference"]))
      (by simp [Item.toJson, Json.members, Item.defaults, Json.ofOption, regionItem])
  exact ⟨[_], .cons hitem .nil, spares_filter (p := (·.1 ∈ ["id", "name", "table_name", "items"]))
    (by simp [Definition.toJson, Json.members, Definition.defaults, put, Json.ofOption,
      Json.ofList, salesByRegion])⟩

theorem document_shortRequest : regionRequest.Document shortRequest := by
  have hfilter : Filter.Document
      { columnName := "Region", value := .object [("name", .string "EU")] } _ :=
    spares_filter (p := (·.1 ∈ ["column_name", "value"]))
      (by simp [Filter.toJson, Json.members, Filter.defaults, FilterOperator.name])
  exact ⟨[_], .cons hfilter .nil, spares_filter (p := (·.1 ∈ ["report_id", "filters", "limit"]))
    (by simp [Request.toJson, Json.members, Request.defaults, put, Json.ofOption,
      regionRequest])⟩

theorem read_documents_sales :
    salesByRegion.InRange ∧ salesByRegion.Document shortDefinition
      ∧ Definition.ofJson? shortDefinition = some salesByRegion
      ∧ (Resolver.listLookup 12).InRange
      ∧ Lookup.ofJson? (Resolver.listLookup 12).toJson = some (Resolver.listLookup 12)
      ∧ regionRequest.InRange ∧ regionRequest.Document shortRequest
      ∧ Request.ofJson? shortRequest = some regionRequest := by
  obtain ⟨hdefinition, hlookup, -, hrequest⟩ := read_documents
  have hsales : salesByRegion.InRange := by
    refine ⟨by decide, fun i hi => ?_⟩
    rw [List.mem_singleton.1 hi]
    exact ⟨by decide, by decide, by decide, fun n hn => by cases hn⟩
  have hlist : (Resolver.listLookup 12).InRange := by
    intro c hc
    cases hc
    decide
  have hregion : regionRequest.InRange := by
    refine ⟨fun n hn => ?_, by decide⟩
    cases hn
    decide
  exact ⟨hsales, document_shortDefinition, (hdefinition _ hsales).2 _ document_shortDefinition,
    hlist, (hlookup _ hlist).1, hregion, document_shortRequest,
    (hrequest _ hregion).2 _ document_shortRequest⟩

end Reporting
