import QueryableApi.OpenApi.Reference
import QueryableApi.Property

/-! # Schemas of items

The schema of the items of a collection, read off an object schema of the document. The members of an
object schema are its own properties in order, then those of each schema under `allOf`, references
followed; of two members with one name the first stays, and a member is required if any of the schemas
visited says so. A reference that is being followed already, or that dangles, contributes nothing.
-/

namespace QueryableApi.OpenApi

/-- What is known of the members of an object schema. -/
structure Members where
  /-- The schemas of the members by name, in order. -/
  properties : Entries Json := []
  /-- The names of required members. -/
  required : List String := []

/-- Appends the members whose names are new. -/
def Members.add (known : Entries Json) : List (String × Json) → Entries Json
  | [] => known
  | (name, schema) :: rest =>
    if Entries.contains name known then add known rest
    else add (known ++ [(name, schema)]) rest

/-- The members of a schema inside frames, behind those already known. -/
def collect (root : Json) : Nat → List (List Char) → Members → Json → Members
  | 0, _, known, _ => known
  | room + 1, active, known, schema =>
    let reference := reference? schema
    if Frames.isActive active reference then known
    else
      let inner := collect root room (Frames.activate active reference)
      match reference with
      | some reference => (target? root reference).elim known (inner known)
      | none =>
        match schema with
        | .object members =>
          let own := ((Entries.get? "properties" members).bind Json.object?).getD []
          let parts := ((Entries.get? "allOf" members).bind Json.array?).getD []
          parts.foldl inner
            ⟨Members.add known.properties own, known.required ++ requiredNames members⟩
        | _ => known

/-- Whether a keyword of a schema is there and true. -/
def isTrue (root schema : Json) (name : String) : Bool :=
  ((keyword? root schema name).bind Json.bool?).getD false

/-- A property of a declared type, without what is nested in it. -/
def plainProperty (root : Json) (name : String) (schema : Json) (required : Bool) : Property where
  name
  declaredType := typeOf root schema
  required
  computed := isTrue root schema "readOnly"
  readOnly := isTrue root schema "readOnly"
  markedIdentifier := isTrue root schema "x-identifier"
  preferredName := (keyword? root schema "x-field-name").bind Json.string?
  description := describe? root schema
  defaultValue := (keyword? root schema "default").map Value.ofJson

/-- The property that a member stands for, given how to read an object schema. -/
def propertyOf (root : Json) (objectSchema : Json → Schema) (name : String) (schema : Json)
    (required : Bool) : Property :=
  let plain := plainProperty root name schema required
  match Kind.ofName? plain.declaredType with
  | some .object => { plain with nested := some (objectSchema schema) }
  | some .array =>
    match keyword? root schema "items" with
    | none => plain
    | some items =>
      let itemsType := typeOf root items
      { plain with
        itemsType := some itemsType
        nested := if itemsType == Kind.object.name then some (objectSchema items) else none }
  | _ => plain

/-- The schema of an object inside frames. -/
def objectWithin (root : Json) : Nat → List (List Char) → Json → Schema
  | 0, _, _ => []
  | room + 1, active, schema =>
    let reference := reference? schema
    if Frames.isActive active reference then []
    else
      let active := Frames.activate active reference
      match reference with
      | some reference => (target? root reference).elim [] (objectWithin root room active)
      | none =>
        let members := collect root room active {} schema
        members.properties.map fun (name, schema) =>
          propertyOf root (objectWithin root room active) name schema
            (members.required.contains name)

/-- The schema of the objects that an object schema describes. -/
def objectSchema (root schema : Json) : Schema := objectWithin root maxFrames [] schema

end QueryableApi.OpenApi
