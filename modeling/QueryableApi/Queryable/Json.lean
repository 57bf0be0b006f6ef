import QueryableApi.Property.Json
import QueryableApi.Queryable

/-! # Queryable schemas as JSON

A queryable schema is an object with a member for each field, in order. What is not said about a field
(how often it occurs, what it means, what it is made of) is left out.
-/

namespace QueryableApi.Queryable

/-- A member that is left out when there is nothing to say. -/
def member? (name : String) (value : Option Json) : List (String × Json) :=
  value.elim [] fun v => [(name, v)]

/-- A count as JSON. -/
def countToJson (n : Nat) : Option Json := (Json.Integer.ofInt? n).map fun n => .number (.int n)

mutual

/-- A field as JSON. -/
def Field.toJson : Field → Json
  | ⟨type, required, isOptional, computed, maxItems, description, element⟩ =>
    .object ([
      ("type", .string type.name),
      ("required", .bool required),
      ("optional", .bool isOptional),
      ("computed", .bool computed)]
      ++ member? "max_items" (maxItems.bind countToJson)
      ++ member? "description" (description.map .string)
      ++ match element with
        | none => []
        | some element => [("elem", Element.toJson element)])

/-- What a field is made of as JSON. -/
def Element.toJson : Element → Json
  | .scalar type => .object [("scalar", .string type.name)]
  | .block fields => .object [("block", .object (fieldsToJson fields))]

/-- Fields as members. -/
def fieldsToJson : List (String × Field) → List (String × Json)
  | [] => []
  | (name, field) :: rest => (name, Field.toJson field) :: fieldsToJson rest

end

/-- A queryable schema as JSON. -/
def toJson (q : Queryable) : Json := .object (fieldsToJson q)

end QueryableApi.Queryable
