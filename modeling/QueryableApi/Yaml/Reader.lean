import QueryableApi.Yaml.Resolution

/-! # Reading YAML

The JSON value that a YAML text stands for (`Yaml.read?`). Keys are the texts of scalars as written; a key
that comes twice keeps its first place and takes its last value. Aliases are expanded; collections may be
nested `maxDepth` deep, and the aliases followed may be at most a hundred for each part of the document.
-/

namespace QueryableApi.Yaml

namespace Node

/-- The node with its anchor, if it has one. -/
def anchored (n : Node) (properties : Properties) : List (Nat × Node) :=
  properties.anchor.toList.map (·, n)

mutual

/-- The anchored nodes in the order in which they start. -/
def anchors : Node → List (Nat × Node)
  | .scalar p style text => anchored (.scalar p style text) p
  | .sequence p items => anchored (.sequence p items) p ++ anchorsOfItems items
  | .mapping p members => anchored (.mapping p members) p ++ anchorsOfMembers members
  | .alias _ => []

/-- The anchored nodes among items. -/
def anchorsOfItems : List Node → List (Nat × Node)
  | [] => []
  | n :: rest => anchors n ++ anchorsOfItems rest

/-- The anchored nodes among members. -/
def anchorsOfMembers : List (Node × Node) → List (Nat × Node)
  | [] => []
  | (k, v) :: rest => anchors k ++ anchors v ++ anchorsOfMembers rest

end

mutual

/-- The number of parts of a node: a collection has a start and an end. -/
def partCount : Node → Nat
  | .scalar .. | .alias _ => 1
  | .sequence _ items => 2 + partCountOfItems items
  | .mapping _ members => 2 + partCountOfMembers members

/-- The number of parts of items. -/
def partCountOfItems : List Node → Nat
  | [] => 0
  | n :: rest => partCount n + partCountOfItems rest

/-- The number of parts of members. -/
def partCountOfMembers : List (Node × Node) → Nat
  | [] => 0
  | (k, v) :: rest => partCount k + partCount v + partCountOfMembers rest

end

end Node

/-- How deep collections may be nested. -/
def maxDepth : Nat := 128

/-- How many aliases may be followed for each part of a document. -/
def aliasesPerPart : Nat := 100

/-- A step that may follow aliases as long as there are any left to follow. -/
abbrev Expansion := StateT Nat Option

/-- No value. -/
def Expansion.fail {α : Type} : Expansion α := fun _ => none

/-- The node that stands for a node: for an alias, the last one with its number. -/
def target (anchors : List (Nat × Node)) (n : Node) : Expansion Node := fun left =>
  match n, left with
  | .alias _, 0 => none
  | .alias number, left + 1 => (anchors.reverse.lookup number).map fun n => (n, left)
  | _, left => some (n, left)

/-- The text of a key. -/
def keyText (anchors : List (Nat × Node)) (n : Node) : Expansion String := do
  match ← target anchors n with
  | .scalar _ _ text => pure text
  | _ => .fail

/-- Whether a collection has a tag of the document's own. -/
def hasOwnTag (p : Properties) : Bool := p.tag.any isOwnTag

/-- The value of a node with so many levels of nesting left. -/
def value (anchors : List (Nat × Node)) : Nat → Node → Expansion Json
  | depth, n => do
    match ← target anchors n, depth with
    | .scalar p style text, _ => fun left => (scalarJson? p.tag style text).map (·, left)
    | .sequence p items, depth + 1 =>
      if hasOwnTag p then .fail else .array <$> items.mapM (value anchors depth)
    | .mapping p members, depth + 1 =>
      if hasOwnTag p then .fail
      else
        let entries ← members.mapM fun (k, v) => do
          let key ← keyText anchors k
          return (key, ← value anchors depth v)
        pure (.object (Entries.ofList entries))
    | _, _ => .fail

/-- The value of a document. -/
def Node.toJson? (root : Node) : Option Json :=
  (value root.anchors maxDepth root (aliasesPerPart * root.partCount)).map Prod.fst

/-- The value that a text stands for. -/
def read? (text : String) : Option Json := do
  let tokens ← tokens? text
  match ← Node.ofTokens? tokens with
  | some root => root.toJson?
  | none => some .null

end QueryableApi.Yaml
