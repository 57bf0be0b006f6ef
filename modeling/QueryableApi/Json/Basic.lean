import QueryableApi.Double
import QueryableApi.Entries

/-! # JSON values

A JSON document as read: the members of an object keep their order, whole numbers of up to 64 bits
stay exact and apart from all other numbers, which are finite doubles. Members are looked up by name
(`get?`) or by a path of names and indices (`pointer?`).
-/

namespace QueryableApi

/-- A whole number that fits in 64 bits, with or without a sign. -/
structure Json.Integer where
  /-- The number. -/
  val : Int
  /-- It is no smaller than the least signed one. -/
  least : -0x8000000000000000 ≤ val := by omega
  /-- It is smaller than the bound of the unsigned ones. -/
  bounded : val < 0x10000000000000000 := by omega
deriving DecidableEq, Repr

/-- A JSON number. -/
inductive Json.Number
  /-- A whole number. -/
  | int (n : Json.Integer)
  /-- Any other number. -/
  | float (x : Double.Finite)
deriving DecidableEq, Repr

/-- A JSON value. -/
inductive Json
  /-- The null value. -/
  | null
  /-- A truth value. -/
  | bool (b : Bool)
  /-- A number. -/
  | number (n : Json.Number)
  /-- A text. -/
  | string (s : String)
  /-- A sequence of values. -/
  | array (items : List Json)
  /-- Named values, in order. -/
  | object (members : List (String × Json))
deriving Repr, Inhabited

namespace Json

/-- The number as a whole number, if it fits. -/
def Integer.ofInt? (n : Int) : Option Integer :=
  if h : -0x8000000000000000 ≤ n ∧ n < 0x10000000000000000 then some ⟨n, h.1, h.2⟩ else none

/-- A double as a JSON value: the values that are no numbers become null. -/
def ofDouble : Double → Json
  | .finite x => .number (.float x)
  | _ => .null

/-- The text of a string value. -/
def string? : Json → Option String
  | .string s => some s
  | _ => none

/-- The truth value of a boolean. -/
def bool? : Json → Option Bool
  | .bool b => some b
  | _ => none

/-- The items of an array. -/
def array? : Json → Option (List Json)
  | .array items => some items
  | _ => none

/-- The members of an object. -/
def object? : Json → Option (Entries Json)
  | .object members => some members
  | _ => none

/-- The member of an object under a name. -/
def get? (key : String) : Json → Option Json
  | .object members => Entries.get? key members
  | _ => none

/-- The name of the kind of a value. -/
def kindName : Json → String
  | .null => "null"
  | .bool _ => "boolean"
  | .number (.int _) => "integer"
  | .number (.float _) => "number"
  | .string _ => "string"
  | .array _ => "array"
  | .object _ => "object"

/-! ## Pointers -/

/-- A segment of a pointer with `~1` standing for a slash and `~0` for a tilde. -/
def unescapeSegment : List Char → List Char
  | '~' :: '1' :: rest => '/' :: unescapeSegment rest
  | '~' :: '0' :: rest => '~' :: unescapeSegment rest
  | c :: rest => c :: unescapeSegment rest
  | [] => []

/-- An array index: decimal digits without a leading zero. -/
def index? (segment : List Char) : Option Nat :=
  match segment with
  | [] => none
  | ['0'] => some 0
  | '0' :: _ => none
  | ds => if ds.all Char.isDigit then (String.ofList ds).toNat? else none

/-- The value one segment below another. -/
def child? (value : Json) (segment : List Char) : Option Json :=
  match value with
  | .object members => Entries.get? (String.ofList segment) members
  | .array items => (index? segment).bind (items[·]?)
  | _ => none

/-- The value under a pointer such as `/servers/0/url`. The empty pointer is the value itself, and any
other one starts with a slash. -/
def pointer? (path : String) (value : Json) : Option Json :=
  match path.toList with
  | [] => some value
  | '/' :: rest =>
    (rest.splitOn '/').foldl
      (fun found segment => found.bind (·.child? (unescapeSegment segment))) (some value)
  | _ => none

end Json

end QueryableApi
