import QueryableApi.Http
import QueryableApi.Json.Reader
import QueryableApi.Resource

/-! # Listings

A listing asks for the items of a collection and answers with a status, a body and, for the status 200,
the items. The items of a JSON body are found under a path of names if one is known and leads to an
array; else the body is the array itself, or holds it under one of the usual wrapper names, or as its
only array.
-/

namespace QueryableApi

/-- A request for the items of a collection. -/
structure ListRequest where
  /-- The name of the resource. -/
  resource : String
  /-- The path, with the parents filled in. -/
  path : String
  /-- The identifiers of the parents, outermost first. -/
  parentIds : List String
  /-- Where the items are in the body, if that is known. -/
  itemsPath : Option String
deriving DecidableEq, Repr

/-- The answer to a request for items. -/
structure ListResponse where
  /-- The status. -/
  status : Nat
  /-- The body. -/
  body : String
  /-- The items; there are none unless the status is 200. -/
  items : List Item
deriving Repr

/-- Whatever answers requests for items, or fails with a chain of messages. -/
abbrev Listing := ListRequest → Except ErrorChain ListResponse

namespace Listing

/-! ## Finding the items -/

/-- The names under which listings usually wrap their items, the likeliest first. -/
def wrapperNames : List String := ["items", "results", "data", "values", "entries", "list"]

/-- The array under a path of names joined by dots; empty names are passed over, and a path of a single
dot or of nothing is the value itself. -/
def arrayAt? (path : String) (body : Json) : Option (List Json) :=
  if path == "." || path.isEmpty then body.array?
  else
    let names := (path.toList.splitOn '.').filter fun name => !name.isEmpty
    (names.foldl (fun found name => found.bind (Json.get? (String.ofList name))) (some body)).bind
      Json.array?

/-- The array under the first wrapper name that has one. -/
def wrapped? (members : Entries Json) : Option (List Json) :=
  wrapperNames.findSome? fun name => (Entries.get? name members).bind Json.array?

/-- The only array among the members. -/
def onlyArray? (members : Entries Json) : Option (List Json) :=
  match members.filterMap fun m => m.2.array? with
  | [items] => some items
  | _ => none

/-- The items of a body. -/
def itemsOf? (itemsPath : Option String) (body : Json) : Option (List Json) :=
  match itemsPath.bind (arrayAt? · body) with
  | some items => some items
  | none =>
    match body with
    | .array items => some items
    | .object members => (wrapped? members).or (onlyArray? members)
    | _ => none

/-! ## Reading a response -/

/-- How many bytes of a body a complaint shows. -/
def previewLimit : Nat := 200

/-- The start of a body on one line: line breaks and tabs become one space, and what follows once the
limit is reached becomes an ellipsis. `done` holds the characters so far, last one first. -/
def previewFrom (bytes : Nat) (done : List Char) : List Char → List Char
  | [] => done.reverse
  | c :: rest =>
    if previewLimit ≤ bytes then done.reverse ++ ['.', '.', '.']
    else if c = '\n' ∨ c = '\r' ∨ c = '\t' then
      if done.head? = some ' ' then previewFrom bytes done rest
      else previewFrom (bytes + 1) (' ' :: done) rest
    else previewFrom (bytes + c.utf8Size) (c :: done) rest

/-- What a complaint shows of a body. -/
def preview (body : String) : String :=
  if Text.isBlankText body then "<empty>"
  else Text.trim (String.ofList (previewFrom 0 [] body.toList))

/-- A body that is not JSON. -/
structure UnreadableBody where
  /-- The status of the response, if it is known. -/
  status : Option Nat
  /-- The fault in the body. -/
  fault : Json.ReadError
  /-- The start of the body. -/
  preview : String
deriving DecidableEq, Repr

/-- The wording of an unreadable body. -/
def UnreadableBody.message (u : UnreadableBody) : String :=
  "failed to parse JSON response ("
    ++ u.status.elim "unknown status" (fun s => "status " ++ Http.statusText s) ++ "): "
    ++ u.fault.message ++ ". body preview: " ++ u.preview

/-- The JSON value of a body. -/
def readBody (status : Option Nat) (body : String) : Except UnreadableBody Json :=
  match Json.read body with
  | .ok v => .ok v
  | .error fault => .error ⟨status, fault, preview body⟩

/-- The answer that a response gives to a request; elements that are not objects are no items. -/
def answer (request : ListRequest) (response : Http.Response) : Except ErrorChain ListResponse :=
  if response.status = 200 then
    match readBody (some response.status) response.body with
    | .error unreadable => .error [unreadable.message, unreadable.fault.message]
    | .ok body =>
      match itemsOf? request.itemsPath body with
      | none =>
        .error ["response body for GET " ++ request.path ++ " does not contain a list of items"]
      | some elements =>
        .ok ⟨response.status, response.body, elements.filterMap Value.payload?⟩
  else .ok ⟨response.status, response.body, []⟩

end Listing

end QueryableApi
