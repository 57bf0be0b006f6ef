import QueryableApi.Filter

/-! # Queryable schemas

What users may ask of a data source: a field for every property of the schema, in order, and the
filter block at the end. Parent identifiers are required, every other property is computed, and the
filter block is optional. The identifier is left out, because a read reports it on its own, and so is a
property whose field name is that of the filter block. Nested properties are all kept.
-/

namespace QueryableApi

namespace Queryable

/-- The type of a field. -/
inductive FieldType
  /-- Text. -/
  | string
  /-- Whole numbers. -/
  | integer
  /-- Numbers. -/
  | number
  /-- Truth values. -/
  | boolean
  /-- Sequences. -/
  | list
  /-- Named values. -/
  | object
deriving DecidableEq, Repr

/-- The name of a type. -/
def FieldType.name : FieldType → String
  | string => "string"
  | integer => "integer"
  | number => "number"
  | boolean => "boolean"
  | list => "list"
  | object => "object"

/-- The type of fields of a kind. -/
def FieldType.ofKind : Kind → FieldType
  | .string => string
  | .integer => integer
  | .number => number
  | .boolean => boolean
  | .array => list
  | .object => object

mutual

/-- A field that users see. -/
structure Field where
  /-- Its type. -/
  type : FieldType
  /-- Whether a request must give it. -/
  required : Bool
  /-- Whether a request may give it. -/
  isOptional : Bool
  /-- Whether a read gives it. -/
  computed : Bool
  /-- How often it may occur. -/
  maxItems : Option Nat
  /-- What it means. -/
  description : Option String
  /-- What it is made of. -/
  element : Option Element

/-- What a list or an object is made of. -/
inductive Element
  /-- Values of one type. -/
  | scalar (type : FieldType)
  /-- Fields. -/
  | block (fields : List (String × Field))

end

/-- A field of a type with nothing else said about it. -/
def Field.plain (type : FieldType) : Field := ⟨type, false, false, false, none, none, none⟩

/-- The fields of which a field is made. -/
def Field.block? (f : Field) : Option (Entries Field) :=
  match f.element with
  | some (.block fields) => some fields
  | _ => none

mutual

/-- The field of a property, neither required nor computed. -/
def ofProperty : Property → Except Failure Field
  | ⟨name, declaredType, itemsType, _, _, _, _, _, _, description, _, nested⟩ =>
    match Kind.parse declaredType with
    | .error type => .error (.unsupportedType type)
    | .ok kind =>
      let plain := { Field.plain (.ofKind kind) with description }
      match kind with
      | .object => do
        let fields ← nestedBlock nested
        .ok { plain with maxItems := some 1, element := some (.block fields) }
      | .array =>
        let itemsKind := match itemsType, nested with
          | some name, _ => (Kind.parse name).map some
          | none, some _ => .ok (some Kind.object)
          | none, none => .ok none
        match itemsKind with
        | .ok none => .ok { plain with element := some (.scalar .string) }
        | .ok (some .object) => do
          let fields ← nestedBlock nested
          .ok { plain with element := some (.block fields) }
        | .error _ | .ok (some .array) =>
          .error (.unsupportedListItem name (itemsType.getD ""))
        | .ok (some scalar) => .ok { plain with element := some (.scalar (.ofKind scalar)) }
      | _ => .ok plain

/-- The fields of nested properties, if there are any. -/
def nestedBlock : Option (List Property) → Except Failure (Entries Field)
  | none => .ok []
  | some schema => (blockFields schema).map Entries.ofList

/-- The computed fields of nested properties, in order. -/
def blockFields : List Property → Except Failure (List (String × Field))
  | [] => .ok []
  | p :: rest => do
    let field ← ofProperty p
    let fields ← blockFields rest
    .ok ((p.fieldName, { field with computed := true }) :: fields)

end

/-- The filter block. -/
def filterBlock : Field :=
  let name := { Field.plain .string with required := true }
  let values :=
    { Field.plain .list with required := true, element := some (.scalar .string) }
  { Field.plain .list with
    isOptional := true
    element := some (.block [(filterNameField, name), (filterValuesField, values)]) }

/-- A field of a type, with what it is made of, **must be given** in a request: no read gives it, and it is
neither bounded nor described. -/
structure Field.MustBeGiven (f : Field) (type : FieldType) (element : Option Element) : Prop where
  /-- Its type. -/
  type : f.type = type
  /-- A request must give it. -/
  required : f.required = true
  /-- It is not left to the request. -/
  notOptional : f.isOptional = false
  /-- A read does not give it. -/
  notComputed : f.computed = false
  /-- It may occur any number of times. -/
  unbounded : f.maxItems = none
  /-- Nothing is said about it. -/
  undescribed : f.description = none
  /-- What it is made of. -/
  element : f.element = element

/-- **What the filter block is**: an optional list of entries, each with a name and with a list of texts as
its values, and both of them must be given. -/
structure IsFilterBlock (f : Field) : Prop where
  /-- It is a list. -/
  type : f.type = .list
  /-- A request may give it. -/
  isOptional : f.isOptional = true
  /-- It need not. -/
  notRequired : f.required = false
  /-- A read does not give it. -/
  notComputed : f.computed = false
  /-- There may be any number of entries. -/
  unbounded : f.maxItems = none
  /-- Nothing is said about it. -/
  undescribed : f.description = none
  /-- The entries have a name and values. -/
  entries : ∃ name values, f.element = some (.block [("name", name), ("values", values)]) ∧
    name.MustBeGiven .string none ∧ values.MustBeGiven .list (some (.scalar .string))

/-- There is one field that must be given for a type and what it is made of. -/
theorem Field.MustBeGiven.eq {f : Field} {type : FieldType} {element : Option Element}
    (h : f.MustBeGiven type element) : f = ⟨type, true, false, false, none, none, element⟩ := by
  obtain ⟨_, _, _, _, _, _, _⟩ := f
  obtain ⟨rfl, rfl, rfl, rfl, rfl, rfl, rfl⟩ := h
  rfl

/-- **The filter block is fixed**: it is what a filter block is, and nothing else is. -/
theorem isFilterBlock_iff {f : Field} : IsFilterBlock f ↔ f = filterBlock := by
  constructor
  · intro h
    obtain ⟨name, values, hentries, hname, hvalues⟩ := h.entries
    rw [hname.eq, hvalues.eq] at hentries
    obtain ⟨_, _, _, _, _, _, _⟩ := f
    obtain ⟨rfl, rfl, rfl, rfl, rfl, rfl, -⟩ := h
    obtain rfl := hentries
    rfl
  · rintro rfl
    exact ⟨rfl, rfl, rfl, rfl, rfl, rfl, _, _, rfl, ⟨rfl, rfl, rfl, rfl, rfl, rfl, rfl⟩,
      ⟨rfl, rfl, rfl, rfl, rfl, rfl, rfl⟩⟩

/-- Whether the field name of a property is that of the filter block. -/
def isReserved (p : Property) : Bool := p.fieldName == filterField

/-- Whether a property carries the identifier of a parent: it is marked so, or is named as one. -/
def isParent (parents : List String) (p : Property) : Bool := p.ofParent || parents.contains p.name

/-- Whether a property is neither the identifier nor reserved. -/
def isVisible (schema : Schema) (p : Property) : Bool :=
  !schema.isIdentifier p && !isReserved p

/-- The field of a property at the top level. -/
def topField (parents : List String) (p : Property) : Except Failure (String × Field) := do
  let field ← ofProperty p
  .ok (p.fieldName,
    if isParent parents p then { field with required := true } else { field with computed := true })

end Queryable

/-- The fields that users see of a data source, by field name. -/
abbrev Queryable := Entries Queryable.Field

/-- The queryable schema of a schema with the given parent properties. -/
def Schema.queryable (schema : Schema) (parents : List String) : Except Failure Queryable := do
  let fields ← (schema.filter (Queryable.isVisible schema)).mapM (Queryable.topField parents)
  .ok (Entries.insert filterField Queryable.filterBlock (Entries.ofList fields))

end QueryableApi
