import QueryableApi.File
import QueryableApi.Json.Reader
import QueryableApi.OpenApi.Discovery
import QueryableApi.Yaml.Reader

/-! # Catalogs

A catalog holds the collections of one document and the address that the document names. A document is
written as JSON, or else as YAML, and has to pass the preflight.
-/

namespace QueryableApi.OpenApi

/-- The document that a text is. -/
def document? (text : String) : Option Json :=
  match Json.read text with
  | .ok v => some v
  | .error _ => Yaml.read? text

/-- The collections of a document. -/
structure Catalog where
  /-- The collections, in the order of the paths. -/
  collections : List Collection
  /-- The address that the document names. -/
  baseUrl : Option String

/-- Why there is no catalog. -/
inductive CatalogFault
  /-- The text is neither JSON nor YAML. -/
  | notDocument
  /-- The document does not pass the preflight. -/
  | refused (violations : List Violation)
  /-- The document has no paths. -/
  | withoutPaths
deriving DecidableEq, Repr

/-- The wording of a fault. -/
def CatalogFault.message : CatalogFault → String
  | notDocument => "source content is not valid JSON or YAML"
  | refused violations =>
    "OpenAPI source failed preflight validation: " ++ "; ".intercalate (violations.map Violation.text)
  | withoutPaths => "OpenAPI document has no `paths` object"

/-- The collections that a document lists. -/
def collections (document : Json) : Except CatalogFault (List Collection) :=
  (collections? document).elim (.error .withoutPaths) .ok

namespace Catalog

/-- The catalog of a document. -/
def ofDocument (document : Json) : Except CatalogFault Catalog :=
  match violations document with
  | [] => do .ok ⟨← OpenApi.collections document, baseUrl? document⟩
  | vs => .error (.refused vs)

/-- The catalog of a text. -/
def ofText (text : String) : Except CatalogFault Catalog :=
  (document? text).elim (.error .notDocument) ofDocument

/-- The names of the collections. -/
def names (c : Catalog) : List String := c.collections.map Collection.name

/-- The collection with exactly the given name. -/
def named? (c : Catalog) (name : String) : Option Collection :=
  c.collections.find? fun r => r.name == name

/-- A name without the lead that marks it as one of a data source. -/
def bareName (name : String) : String :=
  let lead := Resource.sourceLead.toList
  if lead.isPrefixOf name.toList then String.ofList (name.toList.drop lead.length) else name

/-- The collection with a name, which may be given as that of its data source. -/
def find? (c : Catalog) (name : String) : Option Collection :=
  (c.named? name).or (c.named? (bareName name))

/-- The catalog of the text that was read from a file at a path. -/
def load (path : String) (text : Except FileFault String) : Except ErrorChain Catalog :=
  match text with
  | .error fault => .error ["failed to read OpenAPI document " ++ path, fault.message]
  | .ok text =>
    (ofText text).mapError fun fault =>
      ["failed to load OpenAPI document " ++ path, fault.message]

end Catalog

end QueryableApi.OpenApi
