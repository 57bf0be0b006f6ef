import QueryableApi.Listing
import QueryableApi.Projection
import QueryableApi.Telemetry

/-! # Data sources

A data source answers a request with the one item of a collection that matches the filters of the
request. Reading has two stages. `Plan.make` takes everything from the request that does not need the
listing: the parents, the path, the schema and the filters. `Plan.finish` takes the answer of the listing
to the state that the read leaves: the identifier of the item, and its projection written over the
attributes. `read` joins them, and reports besides the result what was listed and what was submitted.
A read that fails leaves the state as it was and submits nothing.
-/

namespace QueryableApi

/-- The request to a data source and what a read leaves: an identifier and attributes. -/
structure SourceState where
  /-- The identifier of the item that was read. -/
  id : Option String := none
  /-- The attributes, in order. -/
  attributes : Entries Value := []
deriving Repr

/-- A read before the listing. -/
structure Plan where
  /-- What to list. -/
  request : ListRequest
  /-- The schema of the items. -/
  schema : Schema
  /-- The filters that the item must match. -/
  filters : List Filter
  /-- The properties that carry the identifiers of the parents. -/
  parents : List String

namespace Plan

/-- The identifier of a parent: the text of a scalar attribute that is not blank. -/
def parentId (attributes : Entries Value) (property : String) : Except Failure String :=
  match (Entries.get? property attributes).bind Value.canonicalText with
  | some text => if Text.isBlankText text then .error (.missingParent property) else .ok text
  | none => .error (.missingParent property)

/-- The plan for the attributes of a request. -/
def make (r : Resource) (attributes : Entries Value) : Except Failure Plan := do
  let parents := r.parentProperties
  let parentIds ← parents.mapM (parentId attributes)
  let path ← (r.path parentIds).mapError .pathResolution
  let schema ← r.schema.mapError .schemaSource
  let entries ← requestedFilters attributes
  let filters ← validFilters schema entries
  .ok ⟨⟨r.name, path, parentIds, r.itemsPath⟩, schema, filters, parents⟩

/-- The items of a listing, if it went well. -/
def items (plan : Plan) (response : Except ErrorChain ListResponse) : Except Failure (List Item) :=
  match response with
  | .error chain => .error (.listing chain)
  | .ok response =>
    if response.status = 200 then .ok response.items
    else
      .error (.unexpectedStatus plan.request.resource plan.request.path response.status
        response.body)

/-- The one item that matches every filter. -/
def choose (plan : Plan) (items : List Item) : Except Failure Item :=
  match items.filter fun item => Filter.acceptAll plan.schema item plan.filters with
  | [item] => .ok item
  | [] => .error .noResults
  | _ => .error .ambiguousResult

/-- The name of the property that identifies items. -/
def identifierName (plan : Plan) : String := (plan.schema.identifier?.map Property.name).getD "id"

/-- The identifier of an item: the text of a scalar. -/
def identify (plan : Plan) (item : Item) : Except Failure String :=
  match (Entries.get? plan.identifierName item).bind Value.canonicalText with
  | some id => .ok id
  | none => .error (.missingIdentifier plan.identifierName)

/-- What is handed out of an item. -/
def project (plan : Plan) (item : Item) : Entries Value :=
  plan.schema.project (Queryable.isParent plan.parents) item

/-- The state that a read leaves, given the answer of the listing. -/
def finish (plan : Plan) (response : Except ErrorChain ListResponse) (state : SourceState) :
    Except Failure SourceState := do
  let items ← plan.items response
  let item ← plan.choose items
  let id ← plan.identify item
  .ok ⟨some id, Entries.extend state.attributes (plan.project item)⟩

end Plan

/-- What a read did. -/
structure ReadReport where
  /-- The failure, if there was one. -/
  result : Except Failure Unit
  /-- The state it left. -/
  state : SourceState
  /-- What it listed. -/
  listed : List ListRequest
  /-- What it submitted. -/
  submitted : List Submission

/-- A data source: a resource, or nothing to read from yet. -/
structure DataSource where
  /-- The resource. -/
  resource : Option Resource

namespace DataSource

/-- The resource, or the failure that there is none. -/
def resourceOr (d : DataSource) : Except Failure Resource := d.resource.elim (.error .missingResource) .ok

/-- What users may ask of a data source. -/
def queryable (d : DataSource) : Except Failure Queryable := do
  let r ← d.resourceOr
  let schema ← r.schema.mapError .schemaSource
  schema.queryable r.parentProperties

/-- The filters of a request. -/
def filters (d : DataSource) (state : SourceState) : Except Failure (List Filter) := do
  let r ← d.resourceOr
  let schema ← r.schema.mapError .schemaSource
  let entries ← requestedFilters state.attributes
  validFilters schema entries

/-- Reads the one item that a request asks for. -/
def read (d : DataSource) (listing : Listing) (state : SourceState) : ReadReport :=
  match d.resource with
  | none => ⟨.error .missingResource, state, [], []⟩
  | some r =>
    match Plan.make r state.attributes with
    | .error failure => ⟨.error failure, state, [], []⟩
    | .ok plan =>
      match plan.finish (listing plan.request) state with
      | .error failure => ⟨.error failure, state, [plan.request], []⟩
      | .ok state => ⟨.ok (), state, [plan.request], [⟨r.sourceName, .read⟩]⟩

end DataSource

end QueryableApi
