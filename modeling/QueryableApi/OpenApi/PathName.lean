import QueryableApi.PathTemplate
import QueryableApi.Resource
import QueryableApi.Text.SnakeCase

/-! # Names of collections

The name of a collection is read off its path template. The last fixed segment before a placeholder, or
before the end, names a collection; a version segment before it is put behind it. A placeholder turns
the collection before it into a parent, whose name starts the names that follow: `/v1/cdns` is
`cdns_v1`, and `/v1/cdns/{id}/firewall` is `cdns_v1_firewall` with the parent `cdns_v1`. A template that
ends in a placeholder addresses single items and has no name.
-/

namespace QueryableApi.OpenApi

/-- Whether a segment is a version, such as `v1`. -/
def isVersion (segment : List Char) : Bool :=
  match segment with
  | 'v' :: digits => !digits.isEmpty && digits.all Char.isDigit
  | _ => false

/-- A name below another one, if there is one. -/
def joinName (outer : Option String) (name : String) : String :=
  outer.elim name fun parent => parent ++ "_" ++ name

/-- What the segments read so far say. -/
structure Naming where
  /-- A version that the next collection takes. -/
  version : Option (List Char) := none
  /-- The collection named since the last placeholder. -/
  collection : Option String := none
  /-- The full name of the collection before the last placeholder. -/
  fullName : Option String := none
  /-- The parents, outermost first. -/
  parents : List String := []
deriving Repr

namespace Naming

/-- What a further segment says; none if it is a placeholder with no collection before it. -/
def read (n : Naming) (segment : List Char) : Option Naming :=
  if PathTemplate.isBraced segment then
    n.collection.map fun name =>
      let parent := joinName n.fullName name
      ⟨none, none, some parent, n.parents ++ [parent]⟩
  else if isVersion segment then some { n with version := some segment }
  else
    let name := Text.snakeCase (String.ofList segment)
    let full := n.version.elim name fun v => name ++ "_" ++ String.ofList v
    some { n with version := none, collection := some full }

/-- What all segments of a path say. -/
def ofSegments (n : Naming) : List (List Char) → Option Naming
  | [] => some n
  | s :: rest => (n.read s).bind fun n => ofSegments n rest

end Naming

/-- The name and the parents of the collection at a path. -/
def collectionName? (path : String) : Option (String × Option Parents) := do
  let segments := (PathTemplate.segments path).filter fun s => !s.isEmpty
  let naming ← Naming.ofSegments {} segments
  let name ← naming.collection
  some (joinName naming.fullName name, naming.fullName.map fun full => ⟨naming.parents, full⟩)

end QueryableApi.OpenApi
