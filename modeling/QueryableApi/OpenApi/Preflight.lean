import QueryableApi.Json.Basic

/-! # Preflight

What must hold of a document before its resources are looked for: it declares a supported version, and
its paths are an object with at least one path that can be listed. Everything that does not hold is
reported at once.
-/

namespace QueryableApi.OpenApi

/-- Something that does not hold of a document. -/
inductive Violation
  /-- The version of the specification is not supported. -/
  | unsupportedVersion (version : String)
  /-- The version of the specification is not a text. -/
  | versionNotText
  /-- The version of the older specification is not supported. -/
  | unsupportedOldVersion
  /-- No version is declared. -/
  | missingVersion
  /-- The paths are not an object. -/
  | pathsNotObject
  /-- There are no paths. -/
  | missingPaths
  /-- No path can be listed. -/
  | nothingToList
deriving DecidableEq, Repr

namespace Violation

/-- Where in the document it is. -/
def path : Violation → String
  | unsupportedVersion _ | versionNotText | missingVersion => "$.openapi"
  | unsupportedOldVersion => "$.swagger"
  | pathsNotObject | missingPaths | nothingToList => "$.paths"

/-- The name of the rule that it breaks. -/
def rule : Violation → String
  | unsupportedVersion _ | versionNotText | unsupportedOldVersion | missingVersion =>
    "openapi_version"
  | pathsNotObject => "paths_type"
  | missingPaths => "paths_required"
  | nothingToList => "get_operations_presence"

/-- Its wording. -/
def message : Violation → String
  | unsupportedVersion version =>
    "unsupported OpenAPI version '" ++ version ++ "'; expected a 3.x document"
  | versionNotText => "field `openapi` must be a string and start with `3.`"
  | unsupportedOldVersion => "field `swagger` must be the string `2.0`"
  | missingVersion => "missing required `openapi` (3.x) or `swagger` (2.0) field"
  | pathsNotObject => "field `paths` must be an object"
  | missingPaths => "missing required `paths` object"
  | nothingToList => "no GET operations were found under `paths`"

/-- The place, the rule and the wording on one line. -/
def text (v : Violation) : String := v.path ++ " [" ++ v.rule ++ "]: " ++ v.message

end Violation

/-- Whether a text starts with another one. -/
def startsWith (start s : String) : Bool := start.toList.isPrefixOf s.toList

/-- What is wrong with the version that a document declares. -/
def versionViolations (document : Json) : List Violation :=
  match document.get? "openapi", document.get? "swagger" with
  | some (.string version), _ =>
    if startsWith "3." version then [] else [.unsupportedVersion version]
  | some _, _ => [.versionNotText]
  | none, some (.string version) =>
    if startsWith "2." version then [] else [.unsupportedOldVersion]
  | none, some _ => [.unsupportedOldVersion]
  | none, none => [.missingVersion]

/-- Whether a path has an operation that lists it. -/
def canBeListed (pathItem : Json) : Bool := (pathItem.get? "get").isSome

/-- What is wrong with the paths of a document. -/
def pathsViolations (document : Json) : List Violation :=
  match document.get? "paths" with
  | some (.object paths) => if paths.any fun p => canBeListed p.2 then [] else [.nothingToList]
  | some _ => [.pathsNotObject]
  | none => [.missingPaths]

/-- Everything that does not hold of a document. -/
def violations (document : Json) : List Violation :=
  versionViolations document ++ pathsViolations document

end QueryableApi.OpenApi
