import QueryableApi.Decimal.Reading
import QueryableApi.Json.Basic
import QueryableApi.Yaml.Node

/-! # Values of scalars

What a scalar stands for. A plain scalar without a tag is null, a truth value, a whole number or a decimal
if it has the form of one, and else a text; quotes make it a text. The usual tags ask for one of these
kinds, and a tag of the document's own is refused unless it cannot be read.
-/

namespace QueryableApi.Yaml

/-- Whether a text is null. -/
def isNull (text : String) : Bool := ["null", "Null", "NULL", "~"].contains text

/-- The truth value that a text has the form of. -/
def bool? (text : String) : Option Bool :=
  if ["true", "True", "TRUE"].contains text then some true
  else if ["false", "False", "FALSE"].contains text then some false
  else none

/-! ## Numbers -/

/-- The number that digits denote, of which there must be some. -/
def digits? (base : Nat) (digits : List Char) : Option Nat :=
  if digits.isEmpty then none
  else
    digits.foldl
      (fun n c => n.bind fun n =>
        (Text.hexValue? c).bind fun d => if d < base then some (n * base + d) else none)
      (some 0)

/-- Whether digits start with a zero that is not the only one. -/
def isPadded (digits : List Char) : Bool :=
  match digits with
  | '0' :: _ :: _ => digits.all Char.isDigit
  | _ => false

/-- A text without its sign, and whether the sign is minus. -/
def unsigned (text : List Char) : Bool × List Char :=
  match text with
  | '-' :: rest => (true, rest)
  | '+' :: rest => (false, rest)
  | _ => (false, text)

/-- The whole number that a text has the form of. -/
def whole? (text : List Char) : Option Int :=
  let (negative, magnitude) := unsigned text
  let value := match magnitude with
    | '0' :: 'x' :: ds => digits? 16 ds
    | '0' :: 'o' :: ds => digits? 8 ds
    | '0' :: 'b' :: ds => digits? 2 ds
    | ds => if isPadded ds then none else digits? 10 ds
  value.map fun n => if negative then -(n : Int) else n

/-- The exponent at the end of a decimal; there may be none. -/
def exponent? (text : List Char) : Option Int :=
  match text with
  | [] => some 0
  | e :: rest =>
    if e == 'e' || e == 'E' then
      let (negative, digits) := unsigned rest
      (if digits.all Char.isDigit then digits? 10 digits else none).map fun n =>
        if negative then -(n : Int) else n
    else none

/-- The finite double that a text has the form of. -/
def decimal? (text : List Char) : Option Double.Finite := do
  let (negative, magnitude) := unsigned text
  let before := magnitude.takeWhile Char.isDigit
  let rest := magnitude.dropWhile Char.isDigit
  let (after, rest) := match rest with
    | '.' :: more => (more.takeWhile Char.isDigit, more.dropWhile Char.isDigit)
    | _ => ([], rest)
  let coefficient ← digits? 10 (before ++ after)
  let exponent ← exponent? rest
  (Double.ofDecimal negative coefficient (exponent - after.length)).finite?

/-- The number that is no whole number and that a text has the form of. -/
def double? (text : String) : Option Double :=
  if [".inf", ".Inf", ".INF", "+.inf", "+.Inf", "+.INF"].contains text then some (.infinite false)
  else if ["-.inf", "-.Inf", "-.INF"].contains text then some (.infinite true)
  else if [".nan", ".NaN", ".NAN"].contains text then some .nan
  else (decimal? text.toList).map .finite

/-- Whether a whole number has too many bits to be a value, but not enough to be read as a decimal. -/
def isOversized (n : Int) : Bool := -(1 <<< 127) ≤ n && n < 1 <<< 128

/-- The value of a text with the form of a whole number: none if it has not, and no value inside if it is
oversized. -/
def wholeJson? (text : String) : Option (Option Json) :=
  (whole? text.toList).bind fun n =>
    match Json.Integer.ofInt? n with
    | some n => some (some (.number (.int n)))
    | none => if isOversized n then some none else none

/-! ## Scalars -/

/-- The value of a plain scalar without a tag. -/
def plainJson? (text : String) : Option Json :=
  if text.isEmpty || isNull text then some .null
  else
    match bool? text, wholeJson? text with
    | some b, _ => some (.bool b)
    | none, some value => value
    | none, none =>
      if isPadded (unsigned text.toList).2 then some (.string text)
      else some (((double? text).map Json.ofDouble).getD (.string text))

/-- What follows the mark of a tag of the document's own. -/
def ownName? (tag : Tag) : Option (List UInt8) :=
  if ownMark.isPrefixOf tag then some (tag.drop ownMark.length) else none

/-- Whether a tag is a readable one of the document's own. -/
def isOwnTag (tag : Tag) : Bool := (ownName? tag).any fun name => (Text.ofUtf8? name).isSome

/-- The value of a scalar with a tag. One with an unreadable tag of the document's own has the value that
it would have without. -/
def taggedJson? (tag : Tag) (style : Style) (text : String) : Option Json :=
  if isOwnTag tag then none
  else if tag == coreTag "bool" then (bool? text).map .bool
  else if tag == coreTag "int" then (wholeJson? text).join
  else if tag == coreTag "float" then (double? text).map Json.ofDouble
  else if tag == coreTag "null" then if isNull text then some .null else none
  else if (ownName? tag).isSome && style == .plain then plainJson? text
  else some (.string text)

/-- The value of a scalar. -/
def scalarJson? (tag : Option Tag) (style : Style) (text : String) : Option Json :=
  match tag, style with
  | some tag, _ => taggedJson? tag style text
  | none, .plain => plainJson? text
  | none, .quoted => some (.string text)

end QueryableApi.Yaml
