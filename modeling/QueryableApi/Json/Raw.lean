import QueryableApi.Json.Basic

/-! # JSON text as written

A raw value is a JSON text before it is settled what it denotes: keys may repeat, and a number beyond
the double range or a string with half a surrogate pair is kept as a gap. A record reader looks at the
raw members, because it refuses a repeated key and does not care about members that it does not know.
`Raw.json?` settles the rest: the later of two members with one key wins in the place of the earlier.
-/

namespace QueryableApi.Json

/-- A JSON value as written; `none` stands for a number or string that denotes nothing. -/
inductive Raw
  /-- The null value. -/
  | null
  /-- A truth value. -/
  | bool (b : Bool)
  /-- A number, if it is in range. -/
  | number (n : Option Number)
  /-- A string, if it is text. -/
  | string (s : Option String)
  /-- A sequence of values. -/
  | array (items : List Raw)
  /-- Named values, in order. -/
  | object (members : List (Option String × Raw))
deriving Repr, Inhabited

namespace Raw

mutual

/-- The value that a raw value denotes, if it has no gap and is nested at most so deep. -/
def json? (room : Nat) : Raw → Option Json
  | .null => some .null
  | .bool b => some (.bool b)
  | .number n => n.map .number
  | .string s => s.map .string
  | .array items =>
    match room with
    | 0 => none
    | room + 1 => (jsonItems? room items).map .array
  | .object members =>
    match room with
    | 0 => none
    | room + 1 => (jsonMembers? room members).map fun ms => .object (Entries.ofList ms)

/-- The values of the items of an array. -/
def jsonItems? (room : Nat) : List Raw → Option (List Json)
  | [] => some []
  | v :: rest =>
    match json? room v, jsonItems? room rest with
    | some v, some rest => some (v :: rest)
    | _, _ => none

/-- The members of an object, repeated keys included. -/
def jsonMembers? (room : Nat) : List (Option String × Raw) → Option (List (String × Json))
  | [] => some []
  | (k, v) :: rest =>
    match k, json? room v, jsonMembers? room rest with
    | some k, some v, some rest => some ((k, v) :: rest)
    | _, _, _ => none

end

end Raw

end QueryableApi.Json
