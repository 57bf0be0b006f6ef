import Mathlib.Data.List.Nodup
import QueryableApi.Property

/-! # Looking up properties

A field name of a schema looks up the first property under it (`propertyByField?_of_isFirst`), and a name
that is none looks up the first property that has it in payloads (`propertyByField?_eq_some_iff`). Where
field names are distinct, each property is the first under its own (`HasDistinctFields.isFirst`). The
identifier of a schema is one of its properties. -/

namespace QueryableApi.Schema

variable {schema : Schema} {p q : Property} {field : String}

/-- A property is the **first under a field name**: users see it under this name, and none of the
properties before it. -/
def IsFirst (schema : Schema) (field : String) (p : Property) : Prop :=
  ∃ before after, schema = before ++ p :: after ∧ p.fieldName = field ∧
    ∀ q ∈ before, q.fieldName ≠ field

/-- The first property under a field name is one of the properties. -/
theorem IsFirst.mem (h : IsFirst schema field p) : p ∈ schema := by
  obtain ⟨before, after, rfl, -, -⟩ := h
  exact List.mem_append_right _ List.mem_cons_self

/-- Users see it under that name. -/
theorem IsFirst.fieldName_eq (h : IsFirst schema field p) : p.fieldName = field := by
  obtain ⟨-, -, -, hname, -⟩ := h
  exact hname

/-- The search for a name ends at the first property that has it. -/
theorem find?_eq_some_iff_first {name : Property → String} :
    (schema.find? fun p => name p == field) = some p ↔
      ∃ before after, schema = before ++ p :: after ∧ name p = field ∧
        ∀ q ∈ before, name q ≠ field := by
  rw [List.find?_eq_some_iff_append]
  constructor
  · rintro ⟨hfield, before, after, hsplit, hbefore⟩
    refine ⟨before, after, hsplit, beq_iff_eq.mp hfield, fun q hq hname => ?_⟩
    have hmiss := hbefore q hq
    rw [hname, beq_self_eq_true] at hmiss
    cases hmiss
  · rintro ⟨before, after, hsplit, hfield, hbefore⟩
    refine ⟨beq_iff_eq.mpr hfield, before, after, hsplit, fun q hq => ?_⟩
    rw [beq_eq_false_iff_ne.mpr (hbefore q hq)]
    rfl

/-- The search for a field name ends at the first property under it. -/
theorem find?_fieldName_eq_some_iff :
    (schema.find? fun p => p.fieldName == field) = some p ↔ IsFirst schema field p :=
  find?_eq_some_iff_first

/-- The search for a name finds nothing iff no property has it. -/
theorem find?_eq_none_iff_forall {name : Property → String} :
    (schema.find? fun p => name p == field) = none ↔ ∀ q ∈ schema, name q ≠ field := by
  rw [List.find?_eq_none]
  refine forall_congr' fun q => imp_congr_right fun _ => ?_
  rw [beq_iff_eq]

/-- **A field name looks up the first property under it.** -/
theorem propertyByField?_of_isFirst (h : IsFirst schema field p) :
    schema.propertyByField? field = some p := by
  rw [propertyByField?, find?_fieldName_eq_some_iff.mpr h]
  rfl

/-- There is a first property under the field name of each. -/
theorem exists_isFirst (hp : p ∈ schema) : ∃ q, IsFirst schema p.fieldName q := by
  have hsome : (schema.find? fun q => q.fieldName == p.fieldName).isSome = true :=
    List.find?_isSome.mpr ⟨p, hp, beq_self_eq_true _⟩
  obtain ⟨q, hq⟩ := Option.isSome_iff_exists.mp hsome
  exact ⟨q, find?_fieldName_eq_some_iff.mp hq⟩

/-- There is only one first property under a field name. -/
theorem IsFirst.unique (hp : IsFirst schema field p) (hq : IsFirst schema field q) : p = q := by
  rw [← find?_fieldName_eq_some_iff] at hp hq
  exact Option.some.inj (hp.symm.trans hq)

/-- A name **stands for a property**: for the first one under it as a field name, or, if users see none
under it, for the first one that has it in payloads. -/
inductive Names (schema : Schema) (name : String) (p : Property) : Prop
  /-- Users see it under the name. -/
  | byField (first : IsFirst schema name p) : Names schema name p
  /-- Users see none under the name, and it has the name in payloads. -/
  | byPayload {before after : Schema} (noField : ∀ q ∈ schema, q.fieldName ≠ name)
      (split : schema = before ++ p :: after) (named : p.name = name)
      (earlier : ∀ q ∈ before, q.name ≠ name) : Names schema name p

/-- **What a name looks up** is the property that it stands for. -/
theorem propertyByField?_eq_some_iff {name : String} :
    schema.propertyByField? name = some p ↔ Names schema name p := by
  rw [propertyByField?, property?, Option.or_eq_some_iff, find?_fieldName_eq_some_iff,
    find?_eq_none_iff_forall, find?_eq_some_iff_first]
  constructor
  · rintro (hfirst | ⟨hnone, before, after, hsplit, hname, hbefore⟩)
    · exact .byField hfirst
    · exact .byPayload hnone hsplit hname hbefore
  · rintro (hfirst | ⟨hnone, hsplit, hname, hbefore⟩)
    · exact .inl hfirst
    · exact .inr ⟨hnone, _, _, hsplit, hname, hbefore⟩

/-! ## Distinct names -/

/-- The properties of a schema have distinct names in payloads. -/
def HasDistinctNames (schema : Schema) : Prop := (schema.map Property.name).Nodup

instance (schema : Schema) : Decidable schema.HasDistinctNames :=
  inferInstanceAs (Decidable (schema.map Property.name).Nodup)

/-- The properties of a schema have distinct field names. -/
def HasDistinctFields (schema : Schema) : Prop := (schema.map Property.fieldName).Nodup

instance (schema : Schema) : Decidable schema.HasDistinctFields :=
  inferInstanceAs (Decidable (schema.map Property.fieldName).Nodup)

/-- The identifier is one of the properties. -/
theorem mem_of_identifier? (h : schema.identifier? = some p) : p ∈ schema := by
  rcases Option.or_eq_some_iff.mp h with h | ⟨-, h⟩
  · exact List.mem_of_find?_eq_some h
  · exact List.mem_of_find?_eq_some h

/-- Every property is the first under its field name, if field names are distinct. -/
theorem HasDistinctFields.isFirst (hfields : HasDistinctFields schema) (hp : p ∈ schema) :
    IsFirst schema p.fieldName p := by
  obtain ⟨q, hq⟩ := exists_isFirst hp
  rwa [List.inj_on_of_nodup_map hfields hq.mem hp hq.fieldName_eq] at hq

/-- No later property repeats a field name, if field names are distinct. -/
theorem HasDistinctFields.fieldName_ne (hfields : HasDistinctFields schema)
    {before after : Schema} (hsplit : schema = before ++ p :: after) (hq : q ∈ after) :
    q.fieldName ≠ p.fieldName := by
  intro hname
  have hrest : ((p :: after).map Property.fieldName).Nodup := by
    rw [HasDistinctFields, hsplit, List.map_append] at hfields
    exact hfields.of_append_right
  exact (List.nodup_cons.mp hrest).1 (List.mem_map.mpr ⟨q, hq, hname⟩)

end QueryableApi.Schema
