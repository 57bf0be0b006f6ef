import QueryableApi.Projection
import QueryableApi.Proofs.Checks
import QueryableApi.Proofs.Entries
import QueryableApi.Proofs.Schema

/-! # What a projection writes

A value is handed out by the kind of its property, a list element by element
(`Projection.value_of_list`), and what is read of a nested map belongs to the property with that field
name (`Projection.get?_fields_eq_some_iff`).

Each property that is shown and that the item carries writes one entry under its field name
(`Schema.Contributes`), in the order of the schema, and the last of several entries under one name
wins (`Schema.Writes`). The projection reads as these writes (`Schema.get?_project_eq_some_iff`),
and so its names are those of contributing properties: never the name of the filter block, and the
name of a skipped property only if another property has it for its field name. Where field names are
distinct, each property writes its own value (`Schema.writes_fieldName_iff`). -/

namespace QueryableApi

namespace Projection

/-- The entry that an item gives for a property: none if it does not carry it, or carries null. -/
def field? (item : Item) (p : Property) : Option (String × Value) :=
  match Entries.get? p.name item with
  | none | some .null => none
  | some v => some (p.fieldName, value p v)

/-- The entry of a property is the value that the item carries, as it is handed out. -/
theorem field?_eq_some_iff {item : Item} {p : Property} {name : String} {v : Value} :
    field? item p = some (name, v) ↔
      p.fieldName = name ∧
        ∃ carried, Entries.get? p.name item = some carried ∧ carried ≠ .null ∧
          value p carried = v := by
  unfold field?
  constructor
  · intro h
    split at h
    · cases h
    · cases h
    · next carried hnull hget =>
      obtain ⟨rfl, rfl⟩ := Prod.mk.inj (Option.some.inj h)
      exact ⟨rfl, carried, hget, hnull, rfl⟩
  · rintro ⟨rfl, carried, hget, hnull, rfl⟩
    cases carried with
    | null => exact absurd rfl hnull
    | _ => rw [hget]

/-- The value that an item gives for a property, as it is handed out: none if it does not carry it, or
carries null. -/
def value? (item : Item) (p : Property) : Option Value := (field? item p).map Prod.snd

/-- It is the value that the item carries, as it is handed out. -/
theorem value?_eq_some_iff {item : Item} {p : Property} {v : Value} :
    value? item p = some v ↔
      ∃ carried, Entries.get? p.name item = some carried ∧ carried ≠ .null ∧
        value p carried = v := by
  rw [value?, Option.map_eq_some_iff]
  constructor
  · rintro ⟨⟨name, v⟩, hfield, rfl⟩
    exact (field?_eq_some_iff.mp hfield).2
  · intro h
    exact ⟨(p.fieldName, v), field?_eq_some_iff.mpr ⟨rfl, h⟩, rfl⟩

/-- A value that is no map with a schema to open to is handed out of an object as it is. -/
theorem object_eq_self {nested : Option Schema} {v : Value}
    (h : ∀ inner entries, nested = some inner → v ≠ .map entries) : object nested v = v := by
  cases nested with
  | none => rfl
  | some inner =>
      cases v with
      | map entries => exact absurd rfl (h inner entries rfl)
      | _ => rfl

/-- A value of no known kind is handed out as it is. -/
theorem value_of_error {p : Property} {type : UnsupportedType} (hkind : p.kind = .error type)
    (v : Value) : value p v = v := by
  obtain ⟨_, declaredType, _, _, _, _, _, _, _, _, _, _⟩ := p
  have hname : Kind.ofName? declaredType = none := (Kind.parse_eq_error_iff.mp hkind).1
  unfold value
  rw [hname]

/-- A scalar is handed out in the representation of its kind. -/
theorem value_of_isScalar {p : Property} {kind : Kind} (hkind : p.kind = .ok kind)
    (hscalar : kind.isScalar = true) (v : Value) : value p v = v.declaredAs kind := by
  obtain ⟨_, declaredType, _, _, _, _, _, _, _, _, _, _⟩ := p
  have hname : Kind.ofName? declaredType = some kind := Kind.parse_eq_ok_iff.mp hkind
  unfold value
  rw [hname]
  cases kind with
  | array | object => cases hscalar
  | string | integer | number | boolean => rfl

/-- An object is handed out through its nested properties. -/
theorem value_of_object {p : Property} (hkind : p.kind = .ok .object) (v : Value) :
    value p v = object p.nested v := by
  obtain ⟨_, declaredType, _, _, _, _, _, _, _, _, _, _⟩ := p
  have hname : Kind.ofName? declaredType = some .object := Kind.parse_eq_ok_iff.mp hkind
  unfold value
  rw [hname]

/-- An element of an array as it is handed out: an object through the nested properties, a scalar in the
representation of its kind, and any other element as it is. -/
def element (p : Property) (v : Value) : Value :=
  match p.itemsKind with
  | .ok (some .object) => object p.nested v
  | .ok (some kind) => v.declaredAs kind
  | _ => v

/-- A list is handed out element by element. -/
theorem value_of_list {p : Property} (hkind : p.kind = .ok .array) (elements : List Value) :
    value p (.list elements) = .list (elements.map (element p)) := by
  obtain ⟨_, declaredType, itemsType, _, _, _, _, _, _, _, _, nested⟩ := p
  have hname : Kind.ofName? declaredType = some .array := Kind.parse_eq_ok_iff.mp hkind
  unfold value
  rw [hname]
  cases itemsType with
  | some itemsName =>
      unfold element
      simp only [Property.itemsKind, Kind.parse]
      cases Kind.ofName? itemsName with
      | none => exact congrArg Value.list (List.map_id _).symm
      | some kind =>
          cases kind with
          | array => exact congrArg Value.list (List.map_id _).symm
          | _ => rfl
  | none =>
      -- without a declared kind, the elements are objects if there are nested properties
      cases nested with
      | some inner => rfl
      | none => exact congrArg Value.list (List.map_id _).symm

/-- The elements of a list of objects are handed out through the nested properties. -/
theorem value_of_objects {p : Property} (hkind : p.kind = .ok .array)
    (hitems : p.itemsKind = .ok (some .object)) (elements : List Value) :
    value p (.list elements) = .list (elements.map (object p.nested)) := by
  have helement : element p = object p.nested := funext fun v => by rw [element, hitems]
  rw [value_of_list hkind, helement]

/-- A value that is no list is handed out of an array as it is. -/
theorem value_of_array {p : Property} (hkind : p.kind = .ok .array) {v : Value}
    (hlist : ∀ elements, v ≠ .list elements) : value p v = v := by
  obtain ⟨_, declaredType, _, _, _, _, _, _, _, _, _, _⟩ := p
  have hname : Kind.ofName? declaredType = some .array := Kind.parse_eq_ok_iff.mp hkind
  unfold value
  rw [hname]
  cases v with
  | list elements => exact absurd rfl (hlist elements)
  | _ => rfl

/-- The fields of an item are the entries of the properties, in order. -/
theorem fields_eq_filterMap (properties : List Property) (item : Item) :
    fields properties item = properties.filterMap (field? item) := by
  induction properties with
  | nil => rw [fields, List.filterMap_nil]
  | cons p rest ih =>
      rw [fields, List.filterMap_cons, field?]
      cases Entries.get? p.name item with
      | none => exact ih
      | some v =>
          cases v with
          | null => exact ih
          | _ => exact congrArg (List.cons _) ih

/-- **What is read of a map that is handed out** is what is handed out for the value of the property with
this field name, if field names are distinct. -/
theorem get?_fields_eq_some_iff {schema : Schema} (hfields : schema.HasDistinctFields)
    {entries : Entries Value} {name : String} {w : Value} :
    Entries.get? name (Entries.ofList (fields schema entries)) = some w ↔
      ∃ p ∈ schema, p.fieldName = name ∧
        ∃ v, Entries.get? p.name entries = some v ∧ v ≠ .null ∧ value p v = w := by
  rw [fields_eq_filterMap, Entries.get?_ofList_filterMap_eq_some_iff]
  simp only [ne_eq, field?_eq_some_iff]
  constructor
  · rintro ⟨before, p, after, hsplit, hp, -⟩
    exact ⟨p, by rw [hsplit]; simp, hp⟩
  · rintro ⟨p, hmem, hname, hvalue⟩
    obtain ⟨before, after, hsplit⟩ := List.append_of_mem hmem
    refine ⟨before, p, after, hsplit, ⟨hname, hvalue⟩, fun q hq other hother => ?_⟩
    exact hfields.fieldName_ne hsplit hq (hother.1.trans hname.symm)

end Projection

namespace Schema

variable {schema : Schema} {skipped : Property → Bool} {item : Item} {p : Property} {name : String}
  {v : Value}

/-- A property **contributes an entry** to a projection: it is visible and not skipped, it has this
field name, and the item carries a value for it that is handed out as this one. -/
structure Contributes (schema : Schema) (skipped : Property → Bool) (item : Item) (p : Property)
    (name : String) (v : Value) : Prop where
  /-- It is neither the identifier nor reserved. -/
  visible : Queryable.isVisible schema p = true
  /-- It is not skipped. -/
  notSkipped : skipped p = false
  /-- Users see it under this name. -/
  named : p.fieldName = name
  /-- The item carries a value for it. -/
  carried : ∃ carried, Entries.get? p.name item = some carried ∧ carried ≠ .null ∧
    Projection.value p carried = v

/-- A projection **writes an entry**: a property of the schema contributes it, and no later property
contributes under the same name. -/
def Writes (schema : Schema) (skipped : Property → Bool) (item : Item) (name : String) (v : Value) :
    Prop :=
  ∃ before p after, schema = before ++ p :: after ∧ Contributes schema skipped item p name v ∧
    ∀ q ∈ after, ∀ w, ¬ Contributes schema skipped item q name w

/-- The entry of a property, if it is shown. -/
def contribution? (schema : Schema) (skipped : Property → Bool) (item : Item) (p : Property) :
    Option (String × Value) :=
  if Queryable.isVisible schema p && !skipped p then Projection.field? item p else none

/-- The contribution of a property as a relation. -/
theorem contribution?_eq_some_iff :
    contribution? schema skipped item p = some (name, v) ↔
      Contributes schema skipped item p name v := by
  rw [contribution?]
  constructor
  · intro h
    split at h
    · next hshown =>
      rw [Bool.and_eq_true, Bool.not_eq_true'] at hshown
      obtain ⟨hnamed, hcarried⟩ := Projection.field?_eq_some_iff.mp h
      exact ⟨hshown.1, hshown.2, hnamed, hcarried⟩
    · cases h
  · intro h
    rw [h.visible, h.notSkipped]
    exact Projection.field?_eq_some_iff.mpr ⟨h.named, h.carried⟩

/-- A projection is the sequence of the contributions, each written in turn. -/
theorem project_eq_ofList (schema : Schema) (skipped : Property → Bool) (item : Item) :
    schema.project skipped item
      = Entries.ofList (schema.filterMap (contribution? schema skipped item)) := by
  rw [project, Projection.fields_eq_filterMap, List.filterMap_filter]
  rfl

/-- **What is read of a projection** is what it writes. -/
theorem get?_project_eq_some_iff :
    Entries.get? name (schema.project skipped item) = some v ↔
      Writes schema skipped item name v := by
  rw [project_eq_ofList, Entries.get?_ofList_filterMap_eq_some_iff]
  simp only [Writes, ne_eq, contribution?_eq_some_iff]

/-- **Each property writes its own value**, if field names are distinct: nothing else is written under
its field name. -/
theorem writes_fieldName_iff (hfields : HasDistinctFields schema) (hp : p ∈ schema)
    (hvisible : Queryable.isVisible schema p = true) (hskipped : skipped p = false) :
    Writes schema skipped item p.fieldName v ↔ Projection.value? item p = some v := by
  rw [Projection.value?_eq_some_iff]
  constructor
  · rintro ⟨before, q, after, hsplit, hq, -⟩
    have hmem : q ∈ schema := by
      rw [hsplit]
      exact List.mem_append_right _ List.mem_cons_self
    obtain rfl := List.inj_on_of_nodup_map hfields hmem hp hq.named
    exact hq.carried
  · intro hcarried
    obtain ⟨before, after, hsplit⟩ := List.append_of_mem hp
    refine ⟨before, p, after, hsplit, ⟨hvisible, hskipped, rfl, hcarried⟩, fun q hq w hwrites => ?_⟩
    exact hfields.fieldName_ne hsplit hq hwrites.named

/-- A projection never writes under the name of the filter block. -/
theorem not_writes_filterField : ¬ Writes schema skipped item filterField v := by
  rintro ⟨_, p, _, -, hp, -⟩
  have hreserved : Queryable.isReserved p = true := beq_iff_eq.mpr hp.named
  have hvisible := hp.visible
  rw [Queryable.isVisible, hreserved, Bool.not_true, Bool.and_false] at hvisible
  cases hvisible

end Schema

end QueryableApi
