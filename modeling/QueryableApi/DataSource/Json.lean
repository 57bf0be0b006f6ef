import QueryableApi.DataSource
import QueryableApi.Json.Record

/-! # The state of a data source as JSON

The state is a record of the identifier, which may be null or missing, and the attributes, which are an
object and may not be missing.
-/

namespace QueryableApi.SourceState

open Json (Raw Record)

/-- The state as JSON. -/
def toJson (s : SourceState) : Json :=
  .object [("id", s.id.elim .null .string), ("attributes", .object (Value.toJsonMembers s.attributes))]

/-- The state that a raw value stands for, nested at most so deep. -/
def ofRaw? : Nat → Raw → Option SourceState
  | 0, _ => none
  | room + 1, raw => do
    let record ← Record.ofRaw? ["id", "attributes"] raw
    let id ← record.optional "id" Raw.string?
    let attributes ← record.required "attributes" (Raw.object? room)
    some ⟨id, Value.ofJsonMembers attributes⟩

/-- The state written in a text, if it is one. -/
def ofText? (text : String) : Option SourceState :=
  (Json.readRaw .tolerant text).toOption.bind (ofRaw? Json.maxDepth)

end QueryableApi.SourceState
