import QueryableApi.Text.Blank
import QueryableApi.Text.SnakeCase
import QueryableApi.Value

/-! # Properties and schemas

A schema lists the properties of one kind of item in order. A property has the name under which items
carry it, a type as declared, and the name under which users see it (`Property.fieldName`): the
preferred name if there is one that is not blank, else the payload name in snake case. A property is
looked up by the name users see first and by the payload name second. The identifier of a schema is the
first property marked as one, else the one named `id`.
-/

namespace QueryableApi

/-- A property of an item. -/
structure Property where
  /-- The name in payloads. -/
  name : String
  /-- The type as declared. -/
  declaredType : String
  /-- The declared type of the elements of an array. -/
  itemsType : Option String := none
  /-- Whether items must carry it. -/
  required : Bool := false
  /-- Whether the service computes it. -/
  computed : Bool := false
  /-- Whether it cannot be written. -/
  readOnly : Bool := false
  /-- Whether it is marked as the identifier. -/
  markedIdentifier : Bool := false
  /-- Whether it carries the identifier of a parent. -/
  ofParent : Bool := false
  /-- The name users prefer. -/
  preferredName : Option String := none
  /-- What it means. -/
  description : Option String := none
  /-- Its value where none is given. -/
  defaultValue : Option Value := none
  /-- The properties of its value, or of the elements of its value. -/
  nested : Option (List Property) := none
deriving Repr, Inhabited

/-- The properties of one kind of item, in order. -/
abbrev Schema := List Property

/-- A declared type that names no kind. -/
structure UnsupportedType where
  /-- The type as declared. -/
  name : String
deriving DecidableEq, Repr

/-- The wording of an unsupported type. -/
def UnsupportedType.message (e : UnsupportedType) : String := "non supported type " ++ e.name

/-- The kind with a name, or the name as unsupported. -/
def Kind.parse (name : String) : Except UnsupportedType Kind :=
  match Kind.ofName? name with
  | some kind => .ok kind
  | none => .error ⟨name⟩

/-- A name parses to the kind that has it. -/
theorem Kind.parse_eq_ok_iff {name : String} {kind : Kind} :
    parse name = .ok kind ↔ ofName? name = some kind := by
  rw [parse]
  cases ofName? name <;> simp

/-- A name that is no kind's is unsupported as it is written. -/
theorem Kind.parse_eq_error_iff {name : String} {type : UnsupportedType} :
    parse name = .error type ↔ ofName? name = none ∧ type = ⟨name⟩ := by
  rw [parse]
  cases ofName? name <;> simp [eq_comm]

namespace Property

/-- A property of a kind. -/
def ofKind (kind : Kind) (name : String) : Property := { name, declaredType := kind.name }

/-- A list with elements of a declared type. -/
def list (name itemsType : String) : Property :=
  { ofKind .array name with itemsType := some itemsType }

/-- An object with properties of its own. -/
def object (name : String) (nested : Schema) : Property :=
  { ofKind .object name with nested := some nested }

/-- The kind of a property, or its declared type as unsupported. -/
def kind (p : Property) : Except UnsupportedType Kind := Kind.parse p.declaredType

/-- The kind of the elements of an array. Without a declared one, elements are objects if there are
nested properties and of no particular kind otherwise. -/
def itemsKind (p : Property) : Except UnsupportedType (Option Kind) :=
  match p.itemsType, p.nested with
  | some name, _ => (Kind.parse name).map some
  | none, some _ => .ok (some .object)
  | none, none => .ok none

/-- Whether the declared type is a scalar one. -/
def isScalar (p : Property) : Bool :=
  match p.kind with
  | .ok kind => kind.isScalar
  | .error _ => false

/-- The name under which users see a property. -/
def fieldName (p : Property) : String :=
  match p.preferredName with
  | some preferred => if Text.isBlankText preferred then Text.snakeCase p.name else preferred
  | none => Text.snakeCase p.name

end Property

namespace Schema

/-- The property with a payload name. -/
def property? (schema : Schema) (name : String) : Option Property :=
  schema.find? fun p => p.name == name

/-- The property that users mean by a name: by field name first, by payload name second. -/
def propertyByField? (schema : Schema) (field : String) : Option Property :=
  (schema.find? fun p => p.fieldName == field).or (property? schema field)

/-- The identifier: the first property marked as one, else the one named `id`. -/
def identifier? (schema : Schema) : Option Property :=
  (schema.find? fun p => p.markedIdentifier).or (property? schema "id")

/-- Whether a property has the name of the identifier. -/
def isIdentifier (schema : Schema) (p : Property) : Bool :=
  (identifier? schema).any fun i => i.name == p.name

end Schema

end QueryableApi
