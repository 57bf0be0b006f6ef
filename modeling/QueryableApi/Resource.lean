import QueryableApi.Failure

/-! # Resources

A resource is a remote collection whose items a schema describes. Its schema and its path come from a
source that may fail. A collection below another one, such as the firewall rules of a CDN, has parents,
and a request gives the identifier of each under the parent's property.
-/

namespace QueryableApi

/-- The parents of a collection. -/
structure Parents where
  /-- The names of the parents, outermost first. -/
  names : List String
  /-- The name of the immediate parent. -/
  fullName : String
deriving DecidableEq, Repr

/-- The property that carries the identifier of a parent. -/
def Parents.propertyOf (name : String) : String := name ++ "_id"

/-- The properties that carry the identifiers of the parents, outermost first. -/
def Parents.properties (p : Parents) : List String := p.names.map Parents.propertyOf

/-- A collection that can be listed. -/
structure Resource where
  /-- Its name. -/
  name : String
  /-- The schema of its items. -/
  schema : Except ErrorChain Schema
  /-- Its parents, if it lies below others. -/
  parents : Option Parents
  /-- Its path for the identifiers of its parents, outermost first. -/
  path : List String → Except ErrorChain String
  /-- Where the items are in a listing, if that is known. -/
  itemsPath : Option String

namespace Resource

/-- What the name of every data source starts with. -/
def sourceLead : String := "data_"

/-- The name of the data source of a resource. -/
def sourceName (r : Resource) : String := sourceLead ++ r.name

/-- The properties that carry the identifiers of the parents. -/
def parentProperties (r : Resource) : List String := r.parents.elim [] Parents.properties

end Resource

end QueryableApi
