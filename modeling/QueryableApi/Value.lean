import QueryableApi.Decimal.Layout
import QueryableApi.Json.Basic
import QueryableApi.Kind

/-! # Dynamic values

The values of remote items and of request attributes. Whole numbers of 64 bits and doubles are kept
apart. A value has a canonical text if it is a scalar; the text compared with a filter depends in
addition on the declared kind of the property (`filterText`), and so does the form in which a value is
handed out (`declaredAs`), which changes a number's representation where the kind asks for it and never
anything else.
-/

namespace QueryableApi

/-- A value of an item or of a request. -/
inductive Value
  /-- No value. -/
  | null
  /-- A text. -/
  | text (s : String)
  /-- A whole number of 64 bits. -/
  | int (n : Int64)
  /-- A double. -/
  | float (x : Double)
  /-- A truth value. -/
  | bool (b : Bool)
  /-- A sequence. -/
  | list (items : List Value)
  /-- Named values, in order. -/
  | map (entries : List (String × Value))
deriving Repr, Inhabited

namespace Value

/-- The name of the kind of a value. -/
def kindName : Value → String
  | null => "null"
  | text _ => "string"
  | int _ => "integer"
  | float _ => "number"
  | bool _ => "boolean"
  | list _ => "array"
  | map _ => "object"

/-- Whether there is no value. -/
def isNull : Value → Bool
  | null => true
  | _ => false

/-- The text, if the value is one. -/
def text? : Value → Option String
  | text s => some s
  | _ => none

/-- The entries, if the value is a map. -/
def map? : Value → Option (Entries Value)
  | map entries => some entries
  | _ => none

/-! ## Texts -/

/-- The text of a truth value. -/
def boolText (b : Bool) : String := if b then "true" else "false"

/-- The text of a whole number. -/
def intText (n : Int64) : String := toString n.toInt

/-- The text of a scalar. -/
def canonicalText : Value → Option String
  | text s => some s
  | int n => some (intText n)
  | float x => some x.plainText
  | bool b => some (boolText b)
  | null | list _ | map _ => none

/-- The whole number of 64 bits that a double stands for. The bound `2 ^ 63` itself, which is one too
large, is taken down to the greatest whole number. -/
def wholeNumber? : Double → Option Int64
  | .finite x =>
    match x.whole? with
    | some n =>
      if Int64.minValue.toInt ≤ n ∧ n ≤ Int64.maxValue.toInt + 1 then
        some (Int64.ofInt (min n Int64.maxValue.toInt))
      else none
    | none => none
  | _ => none

/-- The double nearest to a whole number of 64 bits. -/
def doubleOf (n : Int64) : Double := Double.ofInt n.toInt

/-- The text that a filter on a property of the kind is compared with. -/
def filterText (kind : Kind) (v : Value) : Option String :=
  match kind, v with
  | .integer, int n => some (intText n)
  | .integer, float x => some ((wholeNumber? x).elim x.plainText intText)
  | .number, float x => some x.plainText
  | .number, int n => some (doubleOf n).plainText
  | .boolean, bool b => some (boolText b)
  | .array, _ | .object, _ => none
  | _, other => other.canonicalText

/-- The value in the representation of a kind. -/
def declaredAs (kind : Kind) (v : Value) : Value :=
  match kind, v with
  | .number, int n => float (doubleOf n)
  | .integer, float x => (wholeNumber? x).elim (float x) int
  | _, other => other

/-! ## JSON -/

/-- The value of a JSON number; a whole number beyond the signed ones becomes a double. -/
def ofNumber : Json.Number → Value
  | .int n => if n.val ≤ Int64.maxValue.toInt then int (Int64.ofInt n.val) else float (Double.ofInt n.val)
  | .float x => float (.finite x)

mutual

/-- The value of a JSON value. -/
def ofJson : Json → Value
  | .null => null
  | .bool b => bool b
  | .number n => ofNumber n
  | .string s => text s
  | .array items => list (ofJsonItems items)
  | .object members => map (ofJsonMembers members)

/-- The values of JSON items. -/
def ofJsonItems : List Json → List Value
  | [] => []
  | v :: rest => ofJson v :: ofJsonItems rest

/-- The values of JSON members. -/
def ofJsonMembers : List (String × Json) → List (String × Value)
  | [] => []
  | (k, v) :: rest => (k, ofJson v) :: ofJsonMembers rest

end

/-- A whole number of 64 bits as a JSON number. -/
def numberOf (n : Int64) : Json.Number :=
  .int ⟨n.toInt, n.le_toInt, Int.lt_trans n.toInt_lt (by decide)⟩

mutual

/-- The JSON value of a value; a double that is no number becomes null. -/
def toJson : Value → Json
  | null => .null
  | text s => .string s
  | int n => .number (numberOf n)
  | float x => Json.ofDouble x
  | bool b => .bool b
  | list items => .array (toJsonItems items)
  | map entries => .object (toJsonMembers entries)

/-- The JSON values of a sequence. -/
def toJsonItems : List Value → List Json
  | [] => []
  | v :: rest => toJson v :: toJsonItems rest

/-- The JSON members of a map. -/
def toJsonMembers : List (String × Value) → List (String × Json)
  | [] => []
  | (k, v) :: rest => (k, toJson v) :: toJsonMembers rest

end

/-- The entries of a JSON object as values. -/
def payload? (v : Json) : Option (Entries Value) := (ofJson v).map?

end Value

/-- One item of a listing: its fields by payload name. -/
abbrev Item := Entries Value

end QueryableApi
