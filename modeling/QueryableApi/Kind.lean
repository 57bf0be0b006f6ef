/-! # Kinds of property

A schema declares the type of a property by name. Six kinds are known, four of them scalar, and some
have two names; any other name is unsupported and is kept as written.
-/

namespace QueryableApi

/-- The kind of a property. -/
inductive Kind
  /-- Text. -/
  | string
  /-- Whole numbers. -/
  | integer
  /-- Numbers. -/
  | number
  /-- Truth values. -/
  | boolean
  /-- Sequences. -/
  | array
  /-- Named values. -/
  | object
deriving DecidableEq, Repr

namespace Kind

/-- Every kind. -/
def all : List Kind := [string, integer, number, boolean, array, object]

/-- The name of a kind. -/
def name : Kind → String
  | string => "string"
  | integer => "integer"
  | number => "number"
  | boolean => "boolean"
  | array => "array"
  | object => "object"

/-- The kind with a name; integers, numbers, booleans and arrays have a second one. -/
def ofName? : String → Option Kind
  | "string" => some string
  | "integer" => some integer
  | "int" => some integer
  | "number" => some number
  | "float" => some number
  | "boolean" => some boolean
  | "bool" => some boolean
  | "array" => some array
  | "list" => some array
  | "object" => some object
  | _ => none

@[simp] theorem ofName?_name (k : Kind) : ofName? k.name = some k := by
  cases k <;> simp [name, ofName?]

/-- Scalar kinds are the ones a filter may aim at. -/
def isScalar : Kind → Bool
  | string | integer | number | boolean => true
  | array | object => false

end Kind

end QueryableApi
