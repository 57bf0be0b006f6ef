import QueryableApi.Filter
import QueryableApi.Proofs.Checks
import QueryableApi.Proofs.Entries
import QueryableApi.Proofs.Schema

/-! # Filters of a request

A filter entry is read from its block under its trimmed name, so an entry with a proper name
(`FilterEntry.IsNamed`) is read back as it was written (`FilterEntry.ofValue_toValue`), and so is a
list of such entries (`requestedFilters_eq`). An entry that asks for one value of a scalar property is a
filter (`Filter.validate_on`), and it holds on the items whose text there is that value
(`Filter.acceptAll_on_iff`); in general a filter is compared with the text under the first property that
has its name for a field name (`Filter.accepts_iff_of_isFirst`). -/

namespace QueryableApi

namespace FilterEntry

/-- An entry has a **proper name**: there is one, and no blanks stand around it. -/
structure IsNamed (f : FilterEntry) : Prop where
  /-- The name is not empty. -/
  nonempty : f.name ≠ ""
  /-- There are no blanks at its ends. -/
  trimmed : Text.trim f.name = f.name

/-- A proper name is not blank. -/
theorem IsNamed.isBlankText_name {f : FilterEntry} (h : f.IsNamed) :
    Text.isBlankText f.name = false := by
  by_contra hblank
  have hempty := (Text.trim_eq_empty_iff f.name).mpr (Bool.not_eq_false _ ▸ hblank)
  rw [h.trimmed] at hempty
  exact h.nonempty hempty

/-- The name that is read from a block is trimmed, and a blank one is none. -/
theorem nameOf?_eq_some_iff {name found : String} {rest : Entries Value} :
    nameOf? ((filterNameField, .text name) :: rest) = some found ↔
      Text.isBlankText name = false ∧ Text.trim name = found := by
  have hget : (Entries.get? filterNameField ((filterNameField, Value.text name) :: rest)).bind
      Value.text? = some name := by
    rw [Entries.get?_cons, if_pos rfl]
    rfl
  rw [nameOf?, hget]
  dsimp only
  cases Text.isBlankText name <;> simp

/-- Values that are texts are read back. -/
theorem valuesOf_texts (name : String) (v : Value) (values : List String) :
    valuesOf name [(filterNameField, v), (filterValuesField, .list (values.map .text))]
      = .ok values := by
  have hget : Entries.get? filterValuesField
      [(filterNameField, v), (filterValuesField, .list (values.map .text))]
        = some (.list (values.map .text)) := by
    rw [Entries.get?_cons, if_neg (by decide), Entries.get?_cons, if_pos rfl]
  rw [valuesOf, hget]
  -- the canonical text of a text is the text
  refine Checks.mapM_eq_ok_iff.mpr ?_
  rw [List.forall₂_map_left_iff]
  exact List.forall₂_same.mpr fun _ _ => rfl

/-- **What is read from the block of an entry** is the entry under its trimmed name, if that is not
blank. -/
theorem ofValue_toValue_eq_ok_iff {f g : FilterEntry} {index : Nat} :
    ofValue index f.toValue = .ok g ↔
      Text.isBlankText f.name = false ∧ g = ⟨Text.trim f.name, f.values⟩ := by
  rw [toValue, ofValue]
  cases hname : nameOf? [(filterNameField, Value.text f.name),
      (filterValuesField, .list (f.values.map .text))] with
  | none =>
      refine iff_of_false (fun h => by cases h) ?_
      rintro ⟨hblank, -⟩
      rw [nameOf?_eq_some_iff.mpr ⟨hblank, rfl⟩] at hname
      cases hname
  | some found =>
      obtain ⟨hblank, rfl⟩ := nameOf?_eq_some_iff.mp hname
      dsimp only
      rw [valuesOf_texts]
      constructor
      · intro h
        exact ⟨hblank, (Except.ok.inj h).symm⟩
      · rintro ⟨-, rfl⟩
        rfl

/-- **An entry with a proper name is read back** from the block it is written as. -/
theorem ofValue_toValue {f : FilterEntry} (h : f.IsNamed) (index : Nat) :
    ofValue index f.toValue = .ok f := by
  refine ofValue_toValue_eq_ok_iff.mpr ⟨h.isBlankText_name, ?_⟩
  rw [h.trimmed]

/-- Entries are read back from their blocks. -/
theorem ofValues_map_toValue {fs : List FilterEntry} (h : ∀ f ∈ fs, f.IsNamed) (index : Nat) :
    ofValues index (fs.map toValue) = .ok fs := by
  induction fs generalizing index with
  | nil => rfl
  | cons f rest ih =>
      rw [List.map_cons, ofValues, ofValue_toValue (h f List.mem_cons_self)]
      show (do let entries ← ofValues (index + 1) (rest.map toValue); .ok (f :: entries)) = _
      rw [ih fun g hg => h g (List.mem_cons_of_mem _ hg)]
      rfl

/-- The entry that asks for one value of a property. -/
def on (p : Property) (value : String) : FilterEntry := ⟨p.fieldName, [value]⟩

/-- **An entry with one value fits a schema** iff the first property under its name is scalar. -/
theorem validate_single_eq_ok_iff {schema : Schema} {p : Property} {name value : String}
    {filter : Filter} (hp : schema.IsFirst name p) :
    validate schema ⟨name, [value]⟩ = .ok filter ↔
      p.isScalar = true ∧ filter = ⟨name, value⟩ := by
  rw [validate]
  dsimp only
  rw [Schema.propertyByField?_of_isFirst hp]
  dsimp only
  cases p.isScalar with
  | false => exact iff_of_false (fun h => by cases h) (fun h => by cases h.1)
  | true =>
      constructor
      · intro h
        exact ⟨rfl, (Except.ok.inj h).symm⟩
      · rintro ⟨-, rfl⟩
        rfl

/-- A filter keeps the name of its entry. -/
theorem name_eq_of_validate {schema : Schema} {f : FilterEntry} {filter : Filter}
    (h : validate schema f = .ok filter) : filter.name = f.name := by
  unfold validate at h
  -- only one way through the checks makes a filter
  split at h
  · cases h
  · split at h
    · split at h
      · rw [← Except.ok.inj h]
      · cases h
      · cases h
    · cases h

end FilterEntry

/-- **The filters that a request asks for** are those its filter block was written from. -/
theorem requestedFilters_eq {attributes : Entries Value} {fs : List FilterEntry}
    (hattributes : Entries.get? filterField attributes = some (.list (fs.map FilterEntry.toValue)))
    (h : ∀ f ∈ fs, f.IsNamed) : requestedFilters attributes = .ok fs := by
  rw [requestedFilters, hattributes]
  exact FilterEntry.ofValues_map_toValue h 0

/-- A single entry is read alone. -/
theorem requestedFilters_single_eq_ok_iff {attributes : Entries Value} {f : FilterEntry}
    {fs : List FilterEntry}
    (hattributes : Entries.get? filterField attributes = some (.list [f.toValue])) :
    requestedFilters attributes = .ok fs ↔ ∃ g, FilterEntry.ofValue 0 f.toValue = .ok g ∧ fs = [g] := by
  rw [requestedFilters, hattributes]
  dsimp only
  rw [FilterEntry.ofValues, Checks.bind_eq_ok_iff]
  refine exists_congr fun g => and_congr_right fun _ => ?_
  exact ⟨fun h => (Except.ok.inj h).symm, fun h => by rw [h]; rfl⟩

/-- The only filter is that of the single entry. -/
theorem validFilters_single_iff {schema : Schema} {f : FilterEntry} {filter : Filter} :
    validFilters schema [f] = .ok [filter] ↔ f.validate schema = .ok filter := by
  rw [validFilters, Checks.mapM_eq_ok_iff, List.forall₂_cons]
  exact and_iff_left .nil

/-- A single entry that fits a schema is the only filter. -/
theorem validFilters_single {schema : Schema} {f : FilterEntry} {filter : Filter}
    (h : f.validate schema = .ok filter) : validFilters schema [f] = .ok [filter] :=
  validFilters_single_iff.mpr h

/-- The text of an item under a property: that of the value it carries, as filters compare it. -/
def Property.textIn? (p : Property) (item : Item) : Option String :=
  match p.kind with
  | .error _ => none
  | .ok kind => (Entries.get? p.name item).bind (Value.filterText kind)

namespace Filter

/-- A filter is compared with the text under the property that its name looks up. -/
theorem accepts_iff_of_propertyByField? {schema : Schema} {item : Item} {p : Property} {f : Filter}
    (h : schema.propertyByField? f.name = some p) :
    accepts schema item f = true ↔ p.textIn? item = some f.value := by
  have htext : itemText? schema item f = p.textIn? item := by
    rw [itemText?, h]
    rfl
  rw [accepts, beq_iff_eq, htext]

/-- **A filter is compared with the text under the first property** that has its name for a field
name. -/
theorem accepts_iff_of_isFirst {schema : Schema} {item : Item} {p : Property} {f : Filter}
    (h : schema.IsFirst f.name p) :
    accepts schema item f = true ↔ p.textIn? item = some f.value :=
  accepts_iff_of_propertyByField? (Schema.propertyByField?_of_isFirst h)

/-- The filter for one value of a property. -/
def on (p : Property) (value : String) : Filter := ⟨p.fieldName, value⟩

/-- The entry that asks for a value of a scalar property fits a schema with distinct field names. -/
theorem validate_on {schema : Schema} {p : Property} (hfields : schema.HasDistinctFields)
    (hp : p ∈ schema) (hscalar : p.isScalar = true) (value : String) :
    (FilterEntry.on p value).validate schema = .ok (on p value) :=
  (FilterEntry.validate_single_eq_ok_iff (hfields.isFirst hp)).mpr ⟨hscalar, rfl⟩

/-- **A filter on a property** holds on an item iff the item carries a value with this text. -/
theorem acceptAll_on_iff {schema : Schema} {p : Property} {kind : Kind}
    (hfields : schema.HasDistinctFields) (hp : p ∈ schema) (hkind : p.kind = .ok kind) (item : Item)
    (value : String) :
    acceptAll schema item [on p value] = true ↔
      (Entries.get? p.name item).bind (Value.filterText kind) = some value := by
  have hfirst : schema.IsFirst (on p value).name p := hfields.isFirst hp
  rw [acceptAll, List.all_cons, List.all_nil, Bool.and_true, accepts_iff_of_isFirst hfirst,
    Property.textIn?, hkind]
  rfl

end Filter

end QueryableApi
