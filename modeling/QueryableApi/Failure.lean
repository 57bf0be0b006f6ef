import QueryableApi.Property

/-! # Why a read fails

Every way in which a data source can fail to describe itself or to resolve a request, with its wording
(`Failure.message`). What a collaborator says (the source of the schema, the one that resolves paths,
the one that lists items) is a chain of messages, outermost first, and is passed on word for word.
-/

namespace QueryableApi

/-- Messages from the outermost to the cause. -/
abbrev ErrorChain := List String

/-- A chain on one line. -/
def ErrorChain.text (chain : ErrorChain) : String := ": ".intercalate chain

/-- What is wrong with the filter block of a request. -/
inductive FilterFault
  /-- The block is not a list. -/
  | notList (kind : String)
  /-- An entry is not a block. -/
  | notBlock (index : Nat) (kind : String)
  /-- An entry has no name. -/
  | missingName (index : Nat)
  /-- A value is not a scalar. -/
  | nonScalarValue (name kind : String)
  /-- The values are not a list. -/
  | valuesNotList (name kind : String)
deriving DecidableEq, Repr

/-- The wording of a fault in the filter block. -/
def FilterFault.message : FilterFault → String
  | notList kind => "'filter' must be a list of blocks, got " ++ kind
  | notBlock index kind => "filter entry #" ++ toString index ++ " must be a block, got " ++ kind
  | missingName index => "filter entry #" ++ toString index ++ " is missing 'name'"
  | nonScalarValue name kind => "filter '" ++ name ++ "' has a non scalar value of type " ++ kind
  | valuesNotList name kind => "filter '" ++ name ++ "' field 'values' must be a list, got " ++ kind

/-- Why a data source cannot describe itself or resolve a request. -/
inductive Failure
  /-- No resource is configured. -/
  | missingResource
  /-- The schema cannot be had. -/
  | schemaSource (chain : ErrorChain)
  /-- The request does not name a parent. -/
  | missingParent (property : String)
  /-- The path cannot be resolved. -/
  | pathResolution (chain : ErrorChain)
  /-- A property has an unsupported type. -/
  | unsupportedType (type : UnsupportedType)
  /-- The elements of a list have an unsupported type. -/
  | unsupportedListItem (property items : String)
  /-- A filter names no property. -/
  | unknownFilter (name : String)
  /-- A filter aims at a property that is not scalar. -/
  | unsupportedFilter (name : String)
  /-- A filter has several values. -/
  | multiValueFilter
  /-- A filter has no value. -/
  | missingFilterValue (name : String)
  /-- The filter block is malformed. -/
  | invalidFilter (fault : FilterFault)
  /-- The listing fails. -/
  | listing (chain : ErrorChain)
  /-- The listing answers with another status than 200. -/
  | unexpectedStatus (resource path : String) (status : Nat) (body : String)
  /-- No item matches. -/
  | noResults
  /-- Several items match. -/
  | ambiguousResult
  /-- The matching item has no identifier. -/
  | missingIdentifier (property : String)
deriving DecidableEq, Repr

/-- The wording of a failure. -/
def Failure.message : Failure → String
  | missingResource => "missing openAPI resource configuration"
  | schemaSource chain | pathResolution chain | listing chain => ErrorChain.text chain
  | missingParent property =>
    "could not find ID value in the state file for subresource parent property '" ++ property ++ "'"
  | unsupportedType type => type.message
  | unsupportedListItem property items =>
    "non supported list item type '" ++ items ++ "' for property '" ++ property ++ "'"
  | unknownFilter name =>
    "filter name does not match any of the schema properties: property with name '" ++ name
      ++ "' not existing in resource schema definition"
  | unsupportedFilter name => "property not supported as as filter: " ++ name
  | multiValueFilter =>
    "filters for primitive properties can not have more than one value in the values field"
  | missingFilterValue name =>
    "filter for property '" ++ name ++ "' does not contain any value in the values field"
  | invalidFilter fault => "invalid filter input: " ++ fault.message
  | unexpectedStatus resource path status body =>
    "[data source='" ++ resource ++ "'] GET " ++ path ++ " failed: [resource='" ++ resource
      ++ "'] HTTP Response Status Code " ++ toString status ++ " not matching expected one [200] ("
      ++ body ++ ")"
  | noResults =>
    "your query returned no results. Please change your search criteria and try again"
  | ambiguousResult =>
    "your query returned contains more than one result. Please change your search criteria to make "
      ++ "it more specific"
  | missingIdentifier property =>
    "response object returned from the API is missing mandatory identifier property '" ++ property
      ++ "'"

end QueryableApi
