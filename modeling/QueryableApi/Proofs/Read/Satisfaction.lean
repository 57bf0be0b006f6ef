import QueryableApi.Proofs.Filter
import QueryableApi.Proofs.Read.Session
import QueryableApi.Proofs.Value

/-! # The answer satisfies the query

Filters are compared with the values that an item carries under payload names, while a read hands
them out under field names and in their declared representation. The text that filters compare is
kept on the way (`exists_value?_of_textIn?`), so what a read leaves under the field name of an output
has the value of every filter on it (`read_satisfies_filters`). -/

namespace QueryableApi

/-- **What is handed out has the text of what is carried**: where an item has a text under a property,
its projection has a value there with the same text. -/
theorem Property.exists_value?_of_textIn? {p : Property} {item : Item} {text : String}
    (h : p.textIn? item = some text) :
    ∃ kind out, p.kind = .ok kind ∧ Projection.value? item p = some out ∧
      out.filterText kind = some text := by
  unfold textIn? at h
  split at h
  · cases h
  · next kind hkind =>
    obtain ⟨v, hcarried, htext⟩ := Option.bind_eq_some_iff.mp h
    have hvalue : Projection.value p v = v.declaredAs kind :=
      Projection.value_of_isScalar hkind (Value.isScalar_of_filterText htext) v
    refine ⟨kind, v.declaredAs kind, hkind, ?_, ?_⟩
    · exact Projection.value?_eq_some_iff.mpr
        ⟨v, hcarried, Value.ne_null_of_filterText htext, hvalue⟩
    · rw [Value.filterText_declaredAs, htext]

namespace DataSource

variable {d : DataSource} {listing : Listing} {state : SourceState} {r : Resource} {schema : Schema}
  {plan : Plan} {item : Item} {id : String} {f : Filter}

/-- A read is made with the filters of its request. -/
theorem filters_eq_ok_of_reads (h : Reads d listing state.attributes r plan item id) :
    d.filters state = .ok plan.filters := by
  obtain ⟨entries, hentries, hfilters⟩ := h.prepares.filters
  rw [filters, resourceOr, h.configured]
  refine Checks.bind_eq_ok_iff.mpr ⟨r, rfl, ?_⟩
  refine Checks.bind_eq_ok_iff.mpr
    ⟨plan.schema, Checks.mapError_eq_ok_iff.mpr h.prepares.schema, ?_⟩
  exact Checks.bind_eq_ok_iff.mpr ⟨entries, hentries, hfilters⟩

/-- The item that is read has the value of every filter. -/
theorem accepts_of_reads (h : Reads d listing state.attributes r plan item id)
    (hf : f ∈ plan.filters) : Filter.accepts plan.schema item f = true := by
  obtain ⟨response, -, -, honly⟩ := h.selects.answered
  exact List.all_eq_true.mp honly.isMatch f hf

/-- **The answer satisfies the query.** A read that succeeds has taken the filters of its request, and
for each of them that looks up an output, a value with the text of the filter stands under the field
name of the output afterwards. -/
theorem read_satisfies_filters (hok : (d.read listing state).result = .ok ())
    (hresource : d.resource = some r) (hschema : r.schema = .ok schema)
    (hfields : schema.HasDistinctFields) :
    ∃ filters, d.filters state = .ok filters ∧
      ∀ f ∈ filters, ∀ p, schema.propertyByField? f.name = some p → IsOutput r schema p →
        ∃ kind out, p.kind = .ok kind ∧
          Entries.get? p.fieldName (d.read listing state).state.attributes = some out ∧
          out.filterText kind = some f.value := by
  obtain ⟨plan, item, id, h, rfl⟩ := exists_reads hok hresource hschema
  refine ⟨plan.filters, filters_eq_ok_of_reads h, fun f hf p hlookup hp => ?_⟩
  have htext : p.textIn? item = some f.value :=
    (Filter.accepts_iff_of_propertyByField? hlookup).mp (accepts_of_reads h hf)
  obtain ⟨kind, out, hkind, hvalue, hout⟩ := Property.exists_value?_of_textIn? htext
  refine ⟨kind, out, hkind, ?_, hout⟩
  rw [get?_read_of_isOutput h hfields hp, hvalue]
  rfl

/-! ## A weight that is carried as a whole number -/

/-- A weight, which is a number. -/
def weight : Property := Property.ofKind .number "originWeight"

/-- Items with a weight. -/
def weightSchema : Schema := [Property.ofKind .string "id", weight]

/-- A collection of items with a weight. -/
def weightedResource : Resource where
  name := "origins"
  schema := .ok weightSchema
  parents := none
  path := fun _ => .ok "/v1/origins"
  itemsPath := none

/-- A data source of items with a weight. -/
def weighted : DataSource := ⟨some weightedResource⟩

/-- A request for the origin with the weight six. -/
def weightRequest : SourceState :=
  ⟨none, [(filterField, .list [(FilterEntry.on weight "6.0").toValue])]⟩

/-- An origin that carries the weight six without a point. -/
def heavy : Item := [("id", .text "a"), ("originWeight", .int 6)]

/-- The weight that is handed out has the text that the request asks for. -/
theorem read_satisfies_weight :
    (weighted.read (oneItem heavy) weightRequest).result = .ok () ∧
      weightSchema.HasDistinctFields ∧ IsOutput weightedResource weightSchema weight ∧
      weighted.filters weightRequest = .ok [Filter.on weight "6.0"] ∧
      ∃ out, Entries.get? weight.fieldName
          (weighted.read (oneItem heavy) weightRequest).state.attributes = some out ∧
        out.filterText .number = some "6.0" := by
  have hok : (weighted.read (oneItem heavy) weightRequest).result = .ok () := by decide +kernel
  have hfields : weightSchema.HasDistinctFields := by decide
  have hfilters : weighted.filters weightRequest = .ok [Filter.on weight "6.0"] := by
    decide +kernel
  have houtput : IsOutput weightedResource weightSchema weight :=
    ⟨List.mem_cons_of_mem _ List.mem_cons_self, by decide, by decide⟩
  obtain ⟨filters, hfound, hsatisfied⟩ := read_satisfies_filters hok rfl rfl hfields
  obtain rfl := Except.ok.inj (hfound.symm.trans hfilters)
  obtain ⟨kind, out, hkind, hget, hout⟩ :=
    hsatisfied _ List.mem_cons_self weight (by rfl) houtput
  obtain rfl := Except.ok.inj hkind
  exact ⟨hok, hfields, houtput, hfilters, out, hget, hout⟩

end DataSource

end QueryableApi
