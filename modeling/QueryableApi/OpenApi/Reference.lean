import QueryableApi.Json.Basic
import QueryableApi.OpenApi.Frame

/-! # References

A schema may be a reference to another place of its document. `dereference` follows references until it
reaches a schema that is none; a chain that dangles, or that comes back to a reference it has followed,
ends at the last schema reached.
-/

namespace QueryableApi.OpenApi

/-- The reference that a schema is, if it is one. -/
def reference? (schema : Json) : Option String := (schema.get? "$ref").bind Json.string?

/-- The place of a document that a reference such as `#/components/schemas/Cdn` names. -/
def target? (root : Json) (reference : String) : Option Json :=
  root.pointer? (String.ofList (normalized reference))

/-- Follows references from a schema, at most so many of them; `seen` holds those followed before. -/
def follow (root : Json) : Nat → List (List Char) → Json → Json
  | 0, _, schema => schema
  | room + 1, seen, schema =>
    match reference? schema with
    | none => schema
    | some reference =>
      if seen.contains (normalized reference) then schema
      else
        match target? root reference with
        | none => schema
        | some target => follow root room (normalized reference :: seen) target

/-- The schema at the end of a chain of references. -/
def dereference (root schema : Json) : Json := follow root maxFrames [] schema

/-- The members of a schema, or of the schema it refers to. -/
def members? (root schema : Json) : Option (Entries Json) :=
  match reference? schema with
  | some reference => (target? root reference).bind Json.object?
  | none => schema.object?

/-- The texts that an object schema lists as required. -/
def requiredNames (members : Entries Json) : List String :=
  (((Entries.get? "required" members).bind Json.array?).getD []).filterMap Json.string?

/-- A keyword of a schema, looked up on the schema itself first and then at the end of its references. -/
def keyword? (root schema : Json) (name : String) : Option Json :=
  (schema.get? name).or ((dereference root schema).get? name)

/-! ## Types and descriptions -/

/-- The ways to combine schemas, and the word that joins their descriptions. -/
def combiners : List (String × String) := [("anyOf", " or "), ("oneOf", " or "), ("allOf", " and ")]

/-- The schemas that a schema combines in one way. -/
def combined? (schema : Json) (combiner : String) : Option (List Json) :=
  (schema.get? combiner).bind Json.array?

/-- The only text of a list, however often it occurs. -/
def agreed? (texts : List String) : Option String :=
  match texts.eraseDups with
  | [text] => some text
  | _ => none

/-- The type where nothing decides it. -/
def undecidedType : String := "string"

/-- The type that a schema declares itself: a name, or a list with one name besides null. -/
def declaredType? (schema : Json) : Option String :=
  match schema.get? "type" with
  | some (.string name) => some name
  | some (.array names) => agreed? ((names.filterMap Json.string?).filter fun n => n != "null")
  | _ => none

/-- The type of a schema inside frames: that of its target, the one it declares, an object if it has
properties, else the one on which the schemas it combines agree. -/
def typeWithin (root : Json) : Nat → List (List Char) → Json → String
  | 0, _, _ => undecidedType
  | room + 1, active, schema =>
    let reference := reference? schema
    if Frames.isActive active reference then undecidedType
    else
      let inner := typeWithin root room (Frames.activate active reference)
      match reference with
      | some reference => (target? root reference).elim undecidedType inner
      | none =>
        match declaredType? schema with
        | some name => name
        | none =>
          if (schema.get? "properties").isSome then "object"
          else
            (combiners.findSome? fun (combiner, _) =>
              (combined? schema combiner).bind fun schemas => agreed? (schemas.map inner)).getD
              undecidedType

/-- The type of a schema. -/
def typeOf (root schema : Json) : String := typeWithin root maxFrames [] schema

/-- The description of a schema inside frames: that of its target, its own, else those of the schemas
it combines. -/
def describeWithin (root : Json) : Nat → List (List Char) → Json → Option String
  | 0, _, _ => none
  | room + 1, active, schema =>
    let reference := reference? schema
    if Frames.isActive active reference then none
    else
      let inner := describeWithin root room (Frames.activate active reference)
      match reference with
      | some reference => (target? root reference).bind inner
      | none =>
        match (schema.get? "description").bind Json.string? with
        | some description => some description
        | none =>
          combiners.findSome? fun (combiner, joint) =>
            (combined? schema combiner).bind fun schemas =>
              match schemas.filterMap inner with
              | [] => none
              | descriptions => some (joint.intercalate descriptions)

/-- The description of a schema. -/
def describe? (root schema : Json) : Option String := describeWithin root maxFrames [] schema

end QueryableApi.OpenApi
