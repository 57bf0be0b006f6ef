import QueryableApi.Proofs.Checks
import QueryableApi.Proofs.Entries
import QueryableApi.Proofs.Schema
import QueryableApi.Queryable

/-! # The fields of a queryable schema

Each visible property of a schema becomes a field under its field name, in order, and of several
properties with one field name the last stands there (`Schema.IsLastShown`). So what is read under a
name is the field of the last visible property with that name (`get?_queryable_eq_some_iff`), or the
filter block. A field takes its type from its property, and it is required iff the property carries
the identifier of a parent (`isRequired_iff`). -/

namespace QueryableApi

/-- A property is the **last shown under a field name**: it is visible and has the name, and no
visible property behind it has. -/
def Schema.IsLastShown (schema : Schema) (field : String) (p : Property) : Prop :=
  ∃ before after, schema = before ++ p :: after ∧ Queryable.isVisible schema p = true ∧
    p.fieldName = field ∧ ∀ q ∈ after, Queryable.isVisible schema q = true → q.fieldName ≠ field

/-- The last property shown under a field name is one of the properties. -/
theorem Schema.IsLastShown.mem {schema : Schema} {field : String} {p : Property}
    (h : schema.IsLastShown field p) : p ∈ schema := by
  obtain ⟨before, after, hsplit, -⟩ := h
  rw [hsplit]
  exact List.mem_append_right _ List.mem_cons_self

/-- It is visible, under that name. -/
theorem Schema.IsLastShown.shown {schema : Schema} {field : String} {p : Property}
    (h : schema.IsLastShown field p) :
    Queryable.isVisible schema p = true ∧ p.fieldName = field := by
  obtain ⟨-, -, -, hvisible, hfield, -⟩ := h
  exact ⟨hvisible, hfield⟩

/-- Where field names are distinct, every visible property is the last shown under its own. -/
theorem Schema.HasDistinctFields.isLastShown {schema : Schema} {p : Property}
    (hfields : schema.HasDistinctFields) (hp : p ∈ schema)
    (hvisible : Queryable.isVisible schema p = true) : schema.IsLastShown p.fieldName p := by
  obtain ⟨before, after, hsplit⟩ := List.append_of_mem hp
  exact ⟨before, after, hsplit, hvisible, rfl, fun q hq _ => hfields.fieldName_ne hsplit hq⟩

namespace Queryable

open Checks

variable {schema : Schema} {parents : List String} {queryable : Queryable} {p : Property}
  {name : String} {field : Field}

/-! ## The field of a property -/

/-- **What represents a property** among fields: a type, and what the field is made of. -/
inductive Represents (p : Property) : FieldType → Option Element → Prop
  /-- A scalar is made of nothing else. -/
  | scalar {kind : Kind} (isKind : p.kind = .ok kind) (isScalar : kind.isScalar = true) :
      Represents p (.ofKind kind) none
  /-- An object is made of the fields of its properties. -/
  | object {block : Entries Field} (isKind : p.kind = .ok .object)
      (converts : nestedBlock p.nested = .ok block) : Represents p .object (some (.block block))
  /-- A list of scalars is made of those. -/
  | scalars {type : FieldType} (isKind : p.kind = .ok .array) :
      Represents p .list (some (.scalar type))
  /-- A list of objects is made of the fields of their properties. -/
  | objects {block : Entries Field} (isKind : p.kind = .ok .array)
      (isItemsKind : p.itemsKind = .ok (some .object))
      (converts : nestedBlock p.nested = .ok block) : Represents p .list (some (.block block))

/-- The type that represents a property is that of its kind. -/
theorem Represents.exists_kind {type : FieldType} {element : Option Element}
    (h : Represents p type element) : ∃ kind, p.kind = .ok kind ∧ type = .ofKind kind := by
  cases h with
  | scalar hkind _ => exact ⟨_, hkind, rfl⟩
  | object hkind _ => exact ⟨_, hkind, rfl⟩
  | scalars hkind => exact ⟨_, hkind, rfl⟩
  | objects hkind _ _ => exact ⟨_, hkind, rfl⟩

/-- The field of a property goes by the kind of the property and by that of its elements. -/
theorem ofProperty_eq (p : Property) :
    ofProperty p = match p.kind with
      | .error type => .error (.unsupportedType type)
      | .ok .object => do
        let fields ← nestedBlock p.nested
        .ok { Field.plain .object with
          description := p.description, maxItems := some 1, element := some (.block fields) }
      | .ok .array =>
        let list := { Field.plain .list with description := p.description }
        match p.itemsKind with
        | .ok none => .ok { list with element := some (.scalar .string) }
        | .ok (some .object) => do
          let fields ← nestedBlock p.nested
          .ok { list with element := some (.block fields) }
        | .error _ | .ok (some .array) =>
          .error (.unsupportedListItem p.name (p.itemsType.getD ""))
        | .ok (some scalar) => .ok { list with element := some (.scalar (.ofKind scalar)) }
      | .ok scalar => .ok { Field.plain (.ofKind scalar) with description := p.description } := by
  have hparse : Kind.parse p.declaredType = p.kind := rfl
  cases p
  unfold ofProperty
  dsimp only at hparse ⊢
  rw [hparse]
  generalize Property.kind _ = found
  cases found with
  | error type => rfl
  | ok kind => cases kind <;> rfl

/-- **A field represents its property**, and whether it is required or computed is decided later. -/
theorem represents_of_ofProperty (h : ofProperty p = .ok field) :
    Represents p field.type field.element ∧ field.required = false ∧ field.computed = false := by
  rw [ofProperty_eq] at h
  split at h
  · cases h
  · next hkind =>
    obtain ⟨fields, hfields, h⟩ := bind_eq_ok_iff.mp h
    obtain rfl := Except.ok.inj h
    exact ⟨.object hkind hfields, rfl, rfl⟩
  · next hkind =>
    -- the kind of the elements decides what the field is made of
    dsimp only at h
    split at h
    · obtain rfl := Except.ok.inj h
      exact ⟨.scalars hkind, rfl, rfl⟩
    · next hitems =>
      obtain ⟨fields, hfields, h⟩ := bind_eq_ok_iff.mp h
      obtain rfl := Except.ok.inj h
      exact ⟨.objects hkind hitems hfields, rfl, rfl⟩
    · cases h
    · cases h
    · obtain rfl := Except.ok.inj h
      exact ⟨.scalars hkind, rfl, rfl⟩
  · next kind hobject harray hkind =>
    obtain rfl := Except.ok.inj h
    refine ⟨.scalar hkind ?_, rfl, rfl⟩
    cases kind with
    | string | integer | number | boolean => rfl
    | object => exact absurd rfl hobject
    | array => exact absurd rfl harray

/-- **A top-level field represents its property** and stands under its field name. It is required iff
the property carries the identifier of a parent, and computed otherwise. -/
theorem represents_of_topField (h : topField parents p = .ok (name, field)) :
    p.fieldName = name ∧ Represents p field.type field.element ∧
      field.required = isParent parents p ∧ field.computed = !isParent parents p := by
  obtain ⟨plain, hplain, h⟩ := bind_eq_ok_iff.mp h
  obtain ⟨hrepresents, hrequired, hcomputed⟩ := represents_of_ofProperty hplain
  obtain ⟨rfl, rfl⟩ := Prod.mk.inj (Except.ok.inj h)
  cases isParent parents p with
  | true => exact ⟨rfl, hrepresents, rfl, hcomputed⟩
  | false => exact ⟨rfl, hrepresents, hrequired, rfl⟩

/-- A top-level field stands under the field name of its property, it has the type of the property's
kind, and it is required iff the property carries the identifier of a parent. -/
theorem exists_kind_of_topField (h : topField parents p = .ok (name, field)) :
    p.fieldName = name ∧ field.required = isParent parents p ∧
      ∃ kind, p.kind = .ok kind ∧ field.type = .ofKind kind := by
  obtain ⟨hname, hrepresents, hrequired, -⟩ := represents_of_topField h
  exact ⟨hname, hrequired, hrepresents.exists_kind⟩

/-! ## Reading by name -/

/-- The field that a property contributes, if it is visible. -/
def shownField? (schema : Schema) (parents : List String) (p : Property) : Option (String × Field) :=
  if isVisible schema p then (topField parents p).toOption else none

/-- The contribution of a property is its top-level field. -/
theorem shownField?_eq_some_iff :
    shownField? schema parents p = some (name, field) ↔
      isVisible schema p = true ∧ topField parents p = .ok (name, field) := by
  rw [shownField?]
  cases isVisible schema p with
  | false => simp
  | true => simp [toOption_eq_some_iff]

/-- A queryable schema is the contributions of the properties, and the filter block. -/
theorem queryable_eq (h : schema.queryable parents = .ok queryable) :
    queryable = Entries.insert filterField filterBlock
      (Entries.ofList (schema.filterMap (shownField? schema parents))) := by
  obtain ⟨fields, hfields, h⟩ := bind_eq_ok_iff.mp h
  rw [← Except.ok.inj h, eq_filterMap_of_mapM hfields, List.filterMap_filter]
  rfl

/-- Every visible property of a schema that converts has a top-level field. -/
theorem exists_topField (h : schema.queryable parents = .ok queryable) (hp : p ∈ schema)
    (hvisible : isVisible schema p = true) : ∃ field, topField parents p = .ok (p.fieldName, field) := by
  obtain ⟨fields, hfields, -⟩ := bind_eq_ok_iff.mp h
  obtain ⟨⟨name, field⟩, hfield⟩ :=
    exists_mapM_eq_ok_iff.mp ⟨fields, hfields⟩ p (List.mem_filter.mpr ⟨hp, hvisible⟩)
  refine ⟨field, ?_⟩
  rw [(exists_kind_of_topField hfield).1, hfield]

/-- **What is read of a queryable schema** under a name other than that of the filter block is the
field of the last visible property with that field name. -/
theorem get?_queryable_eq_some_iff (h : schema.queryable parents = .ok queryable)
    (hname : name ≠ filterField) :
    Entries.get? name queryable = some field ↔
      ∃ p, schema.IsLastShown name p ∧ topField parents p = .ok (name, field) := by
  rw [queryable_eq h, Entries.get?_insert_of_ne hname,
    Entries.get?_ofList_filterMap_eq_some_iff]
  constructor
  · rintro ⟨before, p, after, hsplit, hp, hafter⟩
    obtain ⟨hvisible, hfield⟩ := shownField?_eq_some_iff.mp hp
    refine ⟨p, ⟨before, after, hsplit, hvisible, (exists_kind_of_topField hfield).1, ?_⟩, hfield⟩
    -- a visible property has a field, so one with this name would be written later
    rintro q hq hqvisible rfl
    have hmem : q ∈ schema := by rw [hsplit]; simp [hq]
    obtain ⟨other, hother⟩ := exists_topField h hmem hqvisible
    exact hafter q hq other (shownField?_eq_some_iff.mpr ⟨hqvisible, hother⟩)
  · rintro ⟨p, ⟨before, after, hsplit, hvisible, -, hafter⟩, hfield⟩
    refine ⟨before, p, after, hsplit, shownField?_eq_some_iff.mpr ⟨hvisible, hfield⟩, ?_⟩
    intro q hq other hother
    obtain ⟨hqvisible, hqfield⟩ := shownField?_eq_some_iff.mp hother
    exact hafter q hq hqvisible (exists_kind_of_topField hqfield).1

/-- What is read under the name of the filter block is the filter block. -/
theorem get?_filterField_queryable (h : schema.queryable parents = .ok queryable) :
    Entries.get? filterField queryable = some filterBlock := by
  rw [queryable_eq h, Entries.get?_insert_self]

/-! ## Required fields -/

/-- A **required field**: a request must give a value under its name. -/
def IsRequired (queryable : Queryable) (name : String) : Prop :=
  ∃ field, Entries.get? name queryable = some field ∧ field.required = true

/-- No visible property has the name of the filter block. -/
theorem fieldName_ne_filterField (h : isVisible schema p = true) : p.fieldName ≠ filterField := by
  intro hname
  rw [isVisible, Bool.and_eq_true, isReserved, hname, beq_self_eq_true] at h
  cases h.2

/-- **A field is required** iff the last visible property with its name carries the identifier of a
parent. -/
theorem isRequired_iff (h : schema.queryable parents = .ok queryable) (name : String) :
    IsRequired queryable name ↔
      ∃ p, schema.IsLastShown name p ∧ isParent parents p = true := by
  by_cases hname : name = filterField
  · subst hname
    refine iff_of_false ?_ ?_
    · rintro ⟨field, hfield, hrequired⟩
      rw [get?_filterField_queryable h] at hfield
      obtain rfl := Option.some.inj hfield
      cases hrequired
    · rintro ⟨p, hshown, -⟩
      obtain ⟨hvisible, hfield⟩ := hshown.shown
      exact fieldName_ne_filterField hvisible hfield
  · constructor
    · rintro ⟨field, hfield, hrequired⟩
      obtain ⟨p, hshown, htop⟩ := (get?_queryable_eq_some_iff h hname).mp hfield
      rw [(exists_kind_of_topField htop).2.1] at hrequired
      exact ⟨p, hshown, hrequired⟩
    · rintro ⟨p, hshown, hparent⟩
      obtain ⟨hvisible, hfield⟩ := hshown.shown
      obtain ⟨field, htop⟩ := exists_topField h hshown.mem hvisible
      rw [hfield] at htop
      refine ⟨field, (get?_queryable_eq_some_iff h hname).mpr ⟨p, hshown, htop⟩, ?_⟩
      rw [(exists_kind_of_topField htop).2.1, hparent]

end Queryable

end QueryableApi
