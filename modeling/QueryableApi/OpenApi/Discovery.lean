import QueryableApi.Listing
import QueryableApi.OpenApi.ItemSchema
import QueryableApi.OpenApi.PathName
import QueryableApi.OpenApi.Preflight

/-! # Discovery

The collections that a document lists, in the order of its paths. A path contributes one if it has a
name, and its `get` operation answers the status 200 with an array of objects, or with an object that
wraps one. A name that an earlier path has taken is passed over.
-/

namespace QueryableApi.OpenApi

/-- A collection that a document lists. -/
structure Collection where
  /-- The name. -/
  name : String
  /-- The path template. -/
  template : String
  /-- The schema of the items. -/
  schema : Schema
  /-- The parents, if it lies below others. -/
  parents : Option Parents
  /-- The member of a response that holds the items, if they are wrapped. -/
  itemsPath : Option String
  /-- What the document says about the operation. -/
  summary : Option String
deriving Repr

/-- A collection as a resource: its schema is at hand, and its path is the template filled in. -/
def Collection.toResource (c : Collection) : Resource where
  name := c.name
  schema := .ok c.schema
  parents := c.parents
  path ids := (PathTemplate.fill c.template ids).mapError fun m => [m.message]
  itemsPath := c.itemsPath

/-- Whether a document follows the newer specification. -/
def isCurrent (document : Json) : Bool := ((document.get? "openapi").bind Json.string?).isSome

/-- A text without the slashes at its end. -/
def dropSlashes (s : String) : String :=
  String.ofList (s.toList.reverse.dropWhile (· == '/')).reverse

/-- The absolute address that a document names. -/
def baseUrl? (document : Json) : Option String :=
  if isCurrent document then
    match (document.pointer? "/servers/0/url").bind Json.string? with
    | some url =>
      if startsWith "http://" url || startsWith "https://" url then some (dropSlashes url) else none
    | none => none
  else
    let scheme := ((document.pointer? "/schemes/0").bind Json.string?).getD "https"
    ((document.get? "host").bind Json.string?).map fun host => scheme ++ "://" ++ dropSlashes host

/-- What every path of a document starts with. -/
def basePath (document : Json) : String :=
  if isCurrent document then ""
  else (((document.get? "basePath").bind Json.string?).map dropSlashes).getD ""

/-! ## Responses -/

/-- Whether a media type is some kind of JSON. -/
def isJsonType (mediaType : String) : Bool := (mediaType.splitOn "json").length != 1

/-- The media type object for JSON in the content of a response. -/
def jsonContent? (content : Entries Json) : Option Json :=
  (Entries.get? "application/json" content).or
    ((content.find? fun m => isJsonType m.1).map Prod.snd)

/-- The schema of the body that an operation answers the status 200 with. -/
def responseSchema? (document operation : Json) : Option Json := do
  let responses ← operation.get? "responses"
  let response ← responses.get? "200"
  let response := dereference document response
  if isCurrent document then
    let content ← (response.get? "content").bind Json.object?
    (← jsonContent? content).get? "schema"
  else response.get? "schema"

/-- The schema of the elements, if a schema is one of arrays of objects. -/
def objectElements? (document schema : Json) : Option Json :=
  if typeOf document schema == "array" then
    match schema.get? "items" with
    | some items => if typeOf document items == "object" then some items else none
    | none => none
  else none

/-- The members of a response that hold arrays of objects, with the schemas of the elements. -/
def wrappers (document : Json) (properties : Entries Json) : List (String × Json) :=
  properties.filterMap fun (name, schema) =>
    (objectElements? document (dereference document schema)).map fun items => (name, items)

/-- The member that holds the items: one with a usual name, else the only one. -/
def chooseWrapper? (found : List (String × Json)) : Option (String × Json) :=
  let usual := Listing.wrapperNames.findSome? fun name => found.find? fun w => w.1 == name
  match usual, found with
  | some w, _ => some w
  | none, [w] => some w
  | none, _ => none

/-- The schema of the items of a response, and the member that holds them if they are wrapped. -/
def itemSchema? (document response : Json) : Option (Json × Option String) :=
  let resolved := dereference document response
  if typeOf document resolved == "array" then
    (objectElements? document resolved).map fun items => (items, none)
  else do
    let properties ← (resolved.get? "properties").bind Json.object?
    let (name, items) ← chooseWrapper? (wrappers document properties)
    some (items, some name)

/-! ## Collections -/

/-- The schema with a required property for each parent that it does not mention. -/
def withParents (schema : Schema) (parents : Option Parents) : Schema :=
  (parents.elim [] Parents.properties).foldl
    (fun schema name =>
      if (schema.property? name).isSome then schema
      else schema ++ [{ Property.ofKind .string name with required := true, ofParent := true }])
    schema

/-- The collection at a path, if it can be listed. -/
def collectionAt? (document : Json) (path : String) (pathItem : Json) : Option Collection := do
  let operation ← pathItem.get? "get"
  let (name, parents) ← collectionName? path
  let response ← responseSchema? document operation
  let (items, itemsPath) ← itemSchema? document response
  some {
    name
    template := basePath document ++ path
    schema := withParents (objectSchema document items) parents
    parents
    itemsPath
    summary := ((operation.get? "summary").or (operation.get? "description")).bind Json.string? }

/-- Collections without those whose name an earlier one has. -/
def firstOfEachName (taken : List String) : List Collection → List Collection
  | [] => []
  | c :: rest =>
    if taken.contains c.name then firstOfEachName taken rest
    else c :: firstOfEachName (c.name :: taken) rest

/-- The collections that a document lists, if it has paths. -/
def collections? (document : Json) : Option (List Collection) :=
  ((document.get? "paths").bind Json.object?).map fun paths =>
    firstOfEachName [] (paths.filterMap fun (path, item) => collectionAt? document path item)

end QueryableApi.OpenApi
