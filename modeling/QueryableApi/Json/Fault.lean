import QueryableApi.Json.Cursor

/-! # What can be wrong with a JSON text

Each way in which a text fails to be JSON is a `Fault`. Its wording, and that of the complaint that
names its place, is given here and nowhere else.
-/

namespace QueryableApi.Json

/-- A reason why a text is not JSON. -/
inductive Fault
  /-- The text ends inside an array. -/
  | endInArray
  /-- The text ends inside an object. -/
  | endInObject
  /-- The text ends inside a string. -/
  | endInString
  /-- The text ends where a value should be. -/
  | endInValue
  /-- No colon follows a key. -/
  | expectedColon
  /-- Neither a comma nor the end follows an item. -/
  | expectedItemEnd
  /-- Neither a comma nor the end follows a member. -/
  | expectedMemberEnd
  /-- A word is neither `null`, `true` nor `false`. -/
  | expectedWord
  /-- No value starts with the character. -/
  | expectedValue
  /-- A backslash is followed by no known escape. -/
  | invalidEscape
  /-- A number is malformed. -/
  | invalidNumber
  /-- A number is beyond the double range. -/
  | numberOutOfRange
  /-- A control character stands unescaped in a string. -/
  | controlCharacter
  /-- A key is not a string. -/
  | keyNotString
  /-- Half of a surrogate pair stands alone. -/
  | loneSurrogate
  /-- A comma comes before the end of a list. -/
  | trailingComma
  /-- Something follows the value. -/
  | trailingCharacters
  /-- The second half of a surrogate pair is missing. -/
  | endOfEscape
  /-- Arrays and objects are nested too deeply. -/
  | tooDeep
deriving DecidableEq, Repr

/-- The wording of a fault. -/
def Fault.message : Fault → String
  | endInArray => "EOF while parsing a list"
  | endInObject => "EOF while parsing an object"
  | endInString => "EOF while parsing a string"
  | endInValue => "EOF while parsing a value"
  | expectedColon => "expected `:`"
  | expectedItemEnd => "expected `,` or `]`"
  | expectedMemberEnd => "expected `,` or `\x7d`"
  | expectedWord => "expected ident"
  | expectedValue => "expected value"
  | invalidEscape => "invalid escape"
  | invalidNumber => "invalid number"
  | numberOutOfRange => "number out of range"
  | controlCharacter => "control character (\\u0000-\\u001F) found while parsing a string"
  | keyNotString => "key must be a string"
  | loneSurrogate => "lone leading surrogate in hex escape"
  | trailingComma => "trailing comma"
  | trailingCharacters => "trailing characters"
  | endOfEscape => "unexpected end of hex escape"
  | tooDeep => "recursion limit exceeded"

/-- A fault and its place. -/
structure ReadError where
  /-- What is wrong. -/
  fault : Fault
  /-- Where. -/
  position : Position
deriving DecidableEq, Repr

/-- The wording of a complaint: the fault, then its line and column. -/
def ReadError.message (e : ReadError) : String :=
  e.fault.message ++ " at line " ++ toString e.position.line ++ " column "
    ++ toString e.position.column

end QueryableApi.Json
