import QueryableApi.Proofs.Filter
import QueryableApi.Proofs.Read.Outcome
import QueryableApi.Proofs.Schema
import QueryableApi.Proofs.Value

/-! # Selecting an item by its identifier

A read reports the identifier of its item by its canonical text, and filters compare the text under
the declared kind. A filter on the identifier with the reported text is always a valid request, and
it selects the item again iff the item carries the identifier in its declared representation
(`read_reselects`). -/

namespace QueryableApi.DataSource

variable {d : DataSource} {listing : Listing} {state : SourceState} {r : Resource} {schema : Schema}
  {p : Property} {kind : Kind} {plan : Plan}

/-- The identifying property of a schema names the identifier. -/
theorem identifierName_eq (h : plan.schema.identifier? = some p) :
    plan.identifierName = p.name := by
  rw [Plan.identifierName, h]
  rfl

/-- **Selecting an item by the identifier that a read reports.** The filter on the identifying
property with the reported text is read from a request and fits the schema. It holds on the item iff
the value that the item carries there has the declared representation. -/
theorem read_reselects (hok : (d.read listing state).result = .ok ())
    (hresource : d.resource = some r) (hschema : r.schema = .ok schema)
    (hfields : schema.HasDistinctFields) (hid : schema.identifier? = some p)
    (hkind : p.kind = .ok kind) (hscalar : kind.isScalar = true) (hname : p.fieldName ≠ "")
    (htrimmed : Text.trim p.fieldName = p.fieldName) :
    ∃ plan item id v, Reads d listing state.attributes r plan item id ∧
      (d.read listing state).state.id = some id ∧ Entries.get? p.name item = some v ∧
      (∀ attributes,
        Entries.get? filterField attributes = some (.list [(FilterEntry.on p id).toValue]) →
          requestedFilters attributes = .ok [FilterEntry.on p id]) ∧
      validFilters schema [FilterEntry.on p id] = .ok [Filter.on p id] ∧
      (Filter.acceptAll schema item [Filter.on p id] = true ↔ Value.HasForm kind v) := by
  obtain ⟨r', plan, item, id, h⟩ := result_eq_ok_iff.mp hok
  -- the resource and the schema of the read are those of the data source
  obtain rfl : r' = r := Option.some.inj (h.configured.symm.trans hresource)
  obtain rfl : plan.schema = schema := Except.ok.inj (h.prepares.schema.symm.trans hschema)
  have hp := Schema.mem_of_identifier? hid
  obtain ⟨v, hv, htext⟩ := h.selects.identified
  rw [identifierName_eq hid] at hv
  refine ⟨plan, item, id, v, h, by rw [read_eq_of_reads h], hv, ?_, ?_, ?_⟩
  · intro attributes hattributes
    refine requestedFilters_eq hattributes fun f hf => ?_
    rw [List.mem_singleton.mp hf]
    exact ⟨hname, htrimmed⟩
  · have hprimitive : p.isScalar = true := by
      rw [Property.isScalar, hkind]
      exact hscalar
    exact validFilters_single (Filter.validate_on hfields hp hprimitive id)
  · rw [Filter.acceptAll_on_iff hfields hp hkind, hv, ← htext]
    exact Value.filterText_eq_canonicalText_iff hscalar v

/-! ## An identifier that is a whole number -/

/-- An identifier of this kind. -/
def idOf (kind : Kind) : Property := Property.ofKind kind "id"

/-- A data source whose items have an identifier of this kind and nothing else. -/
def numbered (kind : Kind) : DataSource where
  resource := some {
    name := "numbered"
    schema := .ok [idOf kind]
    parents := none
    path := fun _ => .ok "/numbered"
    itemsPath := none }

/-- A listing of one item, whose identifier is the whole number five. -/
def fives : Listing := fun _ => .ok ⟨200, "", [[("id", .int 5)]]⟩

/-- An item whose identifier is declared as an integer is selected again. -/
theorem read_reselects_integer :
    ((numbered .integer).read fives {}).result = .ok () ∧
      ∃ id, ((numbered .integer).read fives {}).state.id = some id ∧
        Filter.acceptAll [idOf .integer] [("id", .int 5)] [Filter.on (idOf .integer) id]
          = true := by
  have hok : ((numbered .integer).read fives {}).result = .ok () := by rfl
  obtain ⟨plan, item, id, v, hreads, hid, hv, -, -, hiff⟩ :=
    read_reselects hok rfl rfl (by decide) rfl rfl rfl (by decide) (by decide)
  refine ⟨hok, id, hid, ?_⟩
  -- the item that was read is the only one listed
  obtain ⟨response, hanswer, -, honly⟩ := hreads.selects.answered
  obtain rfl := Except.ok.inj hanswer
  obtain rfl := List.mem_singleton.mp honly.mem
  obtain rfl := Option.some.inj hv
  exact hiff.mpr trivial

/-- **An identifier that is declared as a number but carried as a whole number** is reported without
a point, and the filter on it does not hold on the item, though it is read and fits the schema. -/
theorem read_misses_whole_number :
    ((numbered .number).read fives {}).result = .ok () ∧
      ((numbered .number).read fives {}).state.id = some "5" ∧
      requestedFilters [(filterField, .list [(FilterEntry.on (idOf .number) "5").toValue])]
        = .ok [FilterEntry.on (idOf .number) "5"] ∧
      validFilters [idOf .number] [FilterEntry.on (idOf .number) "5"]
        = .ok [Filter.on (idOf .number) "5"] ∧
      Filter.acceptAll [idOf .number] [("id", .int 5)] [Filter.on (idOf .number) "5"] = false := by
  refine ⟨by rfl, by rfl, by rfl, by rfl, ?_⟩
  decide +kernel

end QueryableApi.DataSource
