import QueryableApi.Json.Reader

/-! # Records in JSON text

A record is written as an object with its fields as members, or as an array with its fields in order.
In an object the order is free, members with other names are ignored, and no field may come twice; in
an array the last fields may be missing. What a missing field means is up to its reader: `required`,
`optional` and `flag` are the usual ones.
-/

namespace QueryableApi.Json

/-- The fields of a record as found, one entry for each field name. -/
structure Record where
  /-- The raw values, by field name. -/
  fields : List (String × Option Raw)

/-- Every key, if all of them are text. -/
def memberKeys? (members : List (Option String × Raw)) : Option (List String) :=
  members.mapM Prod.fst

/-- The record with the given field names that is written, if it is one. -/
def Record.ofRaw? (names : List String) : Raw → Option Record
  | .object members =>
    match memberKeys? members with
    | some keys =>
      if names.all fun name => keys.count name ≤ 1 then
        some ⟨names.map fun name =>
          (name, (members.find? fun m => m.1 == some name).map Prod.snd)⟩
      else none
    | none => none
  | .array items =>
    if items.length ≤ names.length then
      some ⟨(List.range names.length).zipWith (fun i name => (name, items[i]?)) names⟩
    else none
  | _ => none

namespace Record

/-- The raw value of a field. -/
def raw? (r : Record) (name : String) : Option Raw := (Entries.get? name r.fields).bind id

/-- A field that must be there. -/
def required {α : Type} (r : Record) (name : String) (decode : Raw → Option α) : Option α :=
  (r.raw? name).bind decode

/-- A field that may be missing or null. -/
def optional {α : Type} (r : Record) (name : String) (decode : Raw → Option α) :
    Option (Option α) :=
  match r.raw? name with
  | none | some .null => some none
  | some raw => (decode raw).map some

/-- A field with a value of its own when it is missing. -/
def withDefault {α : Type} (r : Record) (name : String) (value : α) (decode : Raw → Option α) :
    Option α :=
  match r.raw? name with
  | none => some value
  | some raw => decode raw

/-- A truth value that is false when it is missing. -/
def flag (r : Record) (name : String) : Option Bool :=
  r.withDefault name false fun
    | .bool b => some b
    | _ => none

end Record

/-- The text of a raw string. -/
def Raw.string? : Raw → Option String
  | .string s => s
  | _ => none

/-- The object that a raw value denotes, nested at most so deep. -/
def Raw.object? (room : Nat) (raw : Raw) : Option (Entries Json) :=
  (raw.json? room).bind Json.object?

end QueryableApi.Json
