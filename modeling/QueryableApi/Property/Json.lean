import QueryableApi.Json.Record
import QueryableApi.Property

/-! # Schemas as JSON

A schema is a record whose field `properties` lists its properties, and a property is a record too.
Every field of a property is written, absent ones as null; in reading, only the name and the type must
be there.
-/

namespace QueryableApi

open Json (Raw Record)

/-! ## Writing -/

/-- A text that may be absent. -/
def Json.ofText? (s : Option String) : Json := s.elim .null .string

mutual

/-- A property as JSON. -/
def Property.toJson : Property → Json
  | ⟨name, declaredType, itemsType, required, computed, readOnly, markedIdentifier, ofParent,
      preferredName, description, defaultValue, nested⟩ =>
    .object [
      ("name", .string name),
      ("type", .string declaredType),
      ("items_type", Json.ofText? itemsType),
      ("required", .bool required),
      ("computed", .bool computed),
      ("read_only", .bool readOnly),
      ("is_identifier", .bool markedIdentifier),
      ("is_parent_property", .bool ofParent),
      ("preferred_name", Json.ofText? preferredName),
      ("description", Json.ofText? description),
      ("default", defaultValue.elim .null Value.toJson),
      ("nested", match nested with
        | none => .null
        | some schema => .object [("properties", .array (Schema.itemsToJson schema))])]

/-- The properties of a schema as JSON. -/
def Schema.itemsToJson : List Property → List Json
  | [] => []
  | p :: rest => Property.toJson p :: Schema.itemsToJson rest

end

/-- A schema as JSON. -/
def Schema.toJson (schema : Schema) : Json :=
  .object [("properties", .array (Schema.itemsToJson schema))]

/-! ## Reading -/

/-- The fields of a property, in order. -/
def Property.fieldNames : List String :=
  ["name", "type", "items_type", "required", "computed", "read_only", "is_identifier",
    "is_parent_property", "preferred_name", "description", "default", "nested"]

mutual

/-- The schema that a raw value stands for, nested at most so deep. -/
def Schema.ofRaw? : Nat → Raw → Option Schema
  | 0, _ | 1, _ => none
  | room + 2, raw => do
    let record ← Record.ofRaw? ["properties"] raw
    record.required "properties" fun
      | .array items => items.mapM (Property.ofRaw? room)
      | _ => none

/-- The property that a raw value stands for, nested at most so deep. -/
def Property.ofRaw? : Nat → Raw → Option Property
  | 0, _ => none
  | room + 1, raw => do
    let record ← Record.ofRaw? Property.fieldNames raw
    let name ← record.required "name" Raw.string?
    let declaredType ← record.required "type" Raw.string?
    let itemsType ← record.optional "items_type" Raw.string?
    let required ← record.flag "required"
    let computed ← record.flag "computed"
    let readOnly ← record.flag "read_only"
    let markedIdentifier ← record.flag "is_identifier"
    let ofParent ← record.flag "is_parent_property"
    let preferredName ← record.optional "preferred_name" Raw.string?
    let description ← record.optional "description" Raw.string?
    let defaultValue ← record.optional "default" fun raw => (raw.json? room).map Value.ofJson
    let nested ← record.optional "nested" (Schema.ofRaw? room)
    some { name, declaredType, itemsType, required, computed, readOnly, markedIdentifier, ofParent,
           preferredName, description, defaultValue, nested }

end

/-- The schema written in a text, if it is one. -/
def Schema.ofText? (text : String) : Option Schema :=
  (Json.readRaw .tolerant text).toOption.bind (Schema.ofRaw? Json.maxDepth)

end QueryableApi
