import QueryableApi.Proofs.Filter
import QueryableApi.Proofs.Queryable

/-! # Filters on the fields of a queryable schema

A queryable schema shows a field of a scalar type where a filter may aim. The field under a name is
that of the last visible property with the name, and a filter looks up the first property with it,
hidden ones included; and the name of a filter is trimmed when it is read. So a filter on a scalar
field is taken as it stands iff the name of the field is trimmed and not empty, and the first property
under it is scalar too (`scalar_field_filter_iff`). -/

namespace QueryableApi.Queryable

variable {schema : Schema} {parents : List String} {queryable : Queryable} {p : Property}
  {name value : String} {field : Field} {attributes : Entries Value}

/-- Scalar types are the ones a filter may aim at. -/
def FieldType.isScalar : FieldType → Bool
  | string | integer | number | boolean => true
  | list | object => false

/-- The type of a kind is scalar iff the kind is. -/
@[simp] theorem FieldType.isScalar_ofKind (kind : Kind) :
    (FieldType.ofKind kind).isScalar = kind.isScalar := by
  cases kind <;> rfl

/-- A property is scalar iff its field is. -/
theorem isScalar_eq_of_topField (h : topField parents p = .ok (name, field)) :
    p.isScalar = field.type.isScalar := by
  obtain ⟨-, -, kind, hkind, htype⟩ := exists_kind_of_topField h
  rw [Property.isScalar, hkind, htype, FieldType.isScalar_ofKind]

/-- A field of a scalar type is that of a scalar property, the last one shown under its name. -/
theorem exists_isLastShown_of_isScalar (h : schema.queryable parents = .ok queryable)
    (hfield : Entries.get? name queryable = some field) (hscalar : field.type.isScalar = true) :
    ∃ p, schema.IsLastShown name p ∧ p.isScalar = true := by
  have hname : name ≠ filterField := by
    rintro rfl
    rw [get?_filterField_queryable h] at hfield
    obtain rfl := Option.some.inj hfield
    cases hscalar
  obtain ⟨p, hshown, htop⟩ := (get?_queryable_eq_some_iff h hname).mp hfield
  exact ⟨p, hshown, (isScalar_eq_of_topField htop).trans hscalar⟩

/-- Where a property is shown under a field name, there is a first one under it. -/
theorem exists_isFirst_of_isLastShown (h : schema.IsLastShown name p) :
    ∃ q, schema.IsFirst name q := by
  rw [← h.shown.2]
  exact Schema.exists_isFirst h.mem

/-- The filters of a request, as it is read and checked against a schema. -/
def Asks (schema : Schema) (attributes : Entries Value) (filters : List Filter) : Prop :=
  ∃ entries, requestedFilters attributes = .ok entries ∧ validFilters schema entries = .ok filters

/-- **A request with a single filter entry** asks for the filter of that entry iff its name is
trimmed and not empty, and the first property under it is scalar. -/
theorem asks_single_iff (hp : schema.IsFirst name p)
    (hattributes : Entries.get? filterField attributes
      = some (.list [(⟨name, [value]⟩ : FilterEntry).toValue])) :
    Asks schema attributes [⟨name, value⟩] ↔
      name ≠ "" ∧ Text.trim name = name ∧ p.isScalar = true := by
  constructor
  · rintro ⟨entries, hentries, hfilters⟩
    obtain ⟨g, hg, rfl⟩ := (requestedFilters_single_eq_ok_iff hattributes).mp hentries
    obtain ⟨hblank, rfl⟩ := FilterEntry.ofValue_toValue_eq_ok_iff.mp hg
    have hvalid := validFilters_single_iff.mp hfilters
    -- the filter keeps the name that was read, which is the trimmed one
    have htrimmed : Text.trim name = name := (FilterEntry.name_eq_of_validate hvalid).symm
    refine ⟨?_, htrimmed, ?_⟩
    · rintro rfl
      cases hblank
    · dsimp only at hvalid
      rw [htrimmed] at hvalid
      exact ((FilterEntry.validate_single_eq_ok_iff hp).mp hvalid).1
  · rintro ⟨hempty, htrimmed, hscalar⟩
    refine ⟨[⟨name, [value]⟩], requestedFilters_eq hattributes fun f hf => ?_, ?_⟩
    · rw [List.mem_singleton.mp hf]
      exact ⟨hempty, htrimmed⟩
    · exact validFilters_single
        ((FilterEntry.validate_single_eq_ok_iff hp).mpr ⟨hscalar, rfl⟩)

/-- **When a scalar field can be filtered on.** A field of a scalar type is shown for a scalar
property, the last visible one with its name. The request with one filter entry for the field is
taken as it stands, whatever the value, iff the name of the field is trimmed and not empty, and the
first property with this field name is scalar as well. -/
theorem scalar_field_filter_iff (h : schema.queryable parents = .ok queryable)
    (hfield : Entries.get? name queryable = some field) (hscalar : field.type.isScalar = true) :
    ∃ last first, schema.IsLastShown name last ∧ last.isScalar = true ∧ schema.IsFirst name first ∧
      ∀ value attributes, Entries.get? filterField attributes
          = some (.list [(⟨name, [value]⟩ : FilterEntry).toValue]) →
        (Asks schema attributes [⟨name, value⟩] ↔
          name ≠ "" ∧ Text.trim name = name ∧ first.isScalar = true) := by
  obtain ⟨last, hlast, hlastScalar⟩ := exists_isLastShown_of_isScalar h hfield hscalar
  obtain ⟨first, hfirst⟩ := exists_isFirst_of_isLastShown hlast
  exact ⟨last, first, hlast, hlastScalar, hfirst, fun _ _ => asks_single_iff hfirst⟩

/-! ## Two ports -/

/-- An item with a port. -/
def portSchema : Schema := [Property.ofKind .string "id", Property.ofKind .integer "originPort"]

/-- An item with a list of ports and a port, both under one field name. -/
def clashingPorts : Schema :=
  [Property.ofKind .string "id", Property.list "originPort" "integer",
    Property.ofKind .integer "origin_port"]

/-- The field of a port. -/
def portField : Field := { Field.plain .integer with computed := true }

/-- The request with a filter on a port. -/
def portRequest (port : String) : Entries Value :=
  [(filterField, .list [(⟨"origin_port", [port]⟩ : FilterEntry).toValue])]

/-- The port of an item can be filtered on, whatever the value. -/
theorem scalar_field_filter_port :
    ∃ queryable, portSchema.queryable [] = .ok queryable ∧
      Entries.get? "origin_port" queryable = some portField ∧ portField.type.isScalar = true ∧
      ∀ port, Asks portSchema (portRequest port) [⟨"origin_port", port⟩] := by
  obtain ⟨queryable, hqueryable, hfield⟩ : ∃ queryable,
      portSchema.queryable [] = .ok queryable ∧
        Entries.get? "origin_port" queryable = some portField := ⟨_, rfl, rfl⟩
  refine ⟨queryable, hqueryable, hfield, rfl, fun port => ?_⟩
  obtain ⟨last, first, -, -, hfirst, hiff⟩ := scalar_field_filter_iff hqueryable hfield rfl
  refine (hiff port _ rfl).mpr ⟨by decide, by decide, ?_⟩
  have hport : portSchema.IsFirst "origin_port" (Property.ofKind .integer "originPort") :=
    Schema.HasDistinctFields.isFirst (by decide) (by simp [portSchema])
  rw [hfirst.unique hport]
  rfl

/-- **A port that is shown but cannot be filtered on**: the field is a whole number, and the filter on
it is refused because the name looks up the list. -/
theorem scalar_field_filter_refused :
    ∃ queryable, clashingPorts.queryable [] = .ok queryable ∧
      Entries.get? "origin_port" queryable = some portField ∧ portField.type.isScalar = true ∧
      ∃ entries, requestedFilters (portRequest "443") = .ok entries ∧
        validFilters clashingPorts entries = .error (.unsupportedFilter "origin_port") :=
  ⟨_, rfl, rfl, rfl, _, rfl, rfl⟩

end QueryableApi.Queryable
