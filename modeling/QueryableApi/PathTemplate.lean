import QueryableApi.Percent
import QueryableApi.Text.Blank
import QueryableApi.Text.Quoted

/-! # Path templates

A path template is a path of which some segments are placeholders, as in `/v1/cdns/{id}/firewall`. It is
filled with one value for each placeholder, in order. A value is percent-encoded, so that it stays one
segment whatever it holds.
-/

namespace QueryableApi.PathTemplate

/-- The segments of a path. -/
def segments (path : String) : List (List Char) := path.toList.splitOn '/'

/-- The name between the braces of a placeholder. -/
def placeholder? (segment : List Char) : Option (List Char) :=
  match segment with
  | '{' :: rest => if rest.getLast? = some '}' then some rest.dropLast else none
  | _ => none

/-- Whether a segment is a placeholder. -/
def isPlaceholder (segment : List Char) : Bool := (placeholder? segment).isSome

/-- Whether a segment starts and ends with a brace. -/
def isBraced (segment : List Char) : Bool :=
  segment.head? == some '{' && segment.getLast? == some '}'

/-- The names of the placeholders of a template, trimmed. -/
def placeholders (template : String) : List String :=
  (segments template).filterMap fun s => (placeholder? s).map fun n => Text.trim (String.ofList n)

/-- The segments of a template that are neither empty nor start like a placeholder. -/
def fixedSegments (template : String) : List String :=
  ((segments template).filter fun s => !s.isEmpty && s.head? != some '{').map String.ofList

/-- A template that cannot be filled with the values given. -/
structure Mismatch where
  /-- The template. -/
  template : String
  /-- How many values it takes. -/
  expected : Nat
  /-- The values given. -/
  values : List String
deriving DecidableEq, Repr

/-- The wording of a mismatch. -/
def Mismatch.message (m : Mismatch) : String :=
  "could not resolve sub-resource path correctly '" ++ m.template
    ++ "' with the given ids - expected " ++ toString m.expected
    ++ " ids to resolve the path params properly but got " ++ toString m.values.length ++ ": "
    ++ Text.quotedList m.values

/-- Segments with those in braces replaced by values, in order, while there are any. -/
def fillSegments : List (List Char) → List String → List (List Char)
  | [], _ => []
  | s :: rest, values =>
    if isBraced s then
      match values with
      | v :: values => Percent.encodeChars v.toList :: fillSegments rest values
      | [] => s :: fillSegments rest []
    else s :: fillSegments rest values

/-- The path of a template with its placeholders replaced by values, in order. -/
def fill (template : String) (values : List String) : Except Mismatch String :=
  let expected := (placeholders template).length
  if expected = values.length then
    .ok (String.ofList (['/'].intercalate (fillSegments (segments template) values)))
  else .error ⟨template, expected, values⟩

end QueryableApi.PathTemplate
