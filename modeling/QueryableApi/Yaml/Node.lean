import QueryableApi.Entries
import QueryableApi.Yaml.Layout

/-! # Nodes

The tree that the tokens of a document describe. An anchored node carries a number, and an alias has the
number that its name has at that place: anchoring a name gives it the number of names anchored before.
`Node.ofTokens?` reads the one document of a text; a text without any has no node.
-/

namespace QueryableApi.Yaml

/-- What may precede the content of a node. -/
structure Properties where
  /-- The number of its anchor. -/
  anchor : Option Nat := none
  /-- Its tag in full. -/
  tag : Option Tag := none
deriving DecidableEq, Repr

/-- A node of a document. -/
inductive Node
  /-- A scalar. -/
  | scalar (properties : Properties) (style : Style) (text : String)
  /-- A sequence of nodes. -/
  | sequence (properties : Properties) (items : List Node)
  /-- A sequence of keys and values. -/
  | mapping (properties : Properties) (members : List (Node × Node))
  /-- The node with an anchor of a number. -/
  | alias (number : Nat)
deriving Repr

/-- A scalar of no characters. -/
def Node.empty (properties : Properties) : Node := .scalar properties .plain ""

/-- What is known while tokens are read. -/
structure Feed where
  /-- The tokens still to be read. -/
  tokens : List Token
  /-- The numbers of the names anchored so far. -/
  anchors : Entries Nat := []
  /-- What tag handles stand for. -/
  handles : List (String × Tag)

/-- A step that reads tokens, unless they are malformed. -/
abbrev Reading := StateT Feed Option

namespace Reading

/-- The next token. -/
def peek? : Reading (Option Token) := fun f => some (f.tokens.head?, f)

/-- Passes over the next token. -/
def skip : Reading Unit := fun f => some ((), { f with tokens := f.tokens.tail })

/-- The tokens are malformed. -/
def fail {α : Type} : Reading α := fun _ => none

/-- Passes over the next token, which must be the given one. -/
def expect (t : Token) : Reading Unit := do
  if (← peek?) == some t then skip else fail

/-- Passes over the next token if it is the given one, and tells whether it is. -/
def accept (t : Token) : Reading Bool := do
  if (← peek?) == some t then
    skip
    pure true
  else pure false

/-- Anchors a name. -/
def anchor (name : String) : Reading Nat := fun f =>
  let number := f.anchors.length
  some (number, { f with anchors := Entries.insert name number f.anchors })

/-- The number of an anchored name. -/
def numberOf (name : String) : Reading Nat := fun f =>
  (Entries.get? name f.anchors).map fun number => (number, f)

/-- The tag that a handle and a suffix stand for. -/
def resolve (handle : String) (suffix : Tag) : Reading Tag := fun f =>
  if handle.isEmpty then some (suffix, f)
  else (f.handles.lookup handle).map fun start => (start ++ suffix, f)

/-- The anchor at the cursor, if there is one. -/
def optionalAnchor : Reading (Option Nat) := do
  match ← peek? with
  | some (.anchor name) =>
    skip
    some <$> anchor name
  | _ => pure none

/-- The tag at the cursor, if there is one. -/
def optionalTag : Reading (Option Tag) := do
  match ← peek? with
  | some (.tag handle suffix) =>
    skip
    some <$> resolve handle suffix
  | _ => pure none

/-- An anchor, a tag, or both in any order. -/
def properties : Reading Properties := do
  match ← optionalAnchor with
  | some number => pure ⟨some number, ← optionalTag⟩
  | none =>
    let tag ← optionalTag
    let anchor ← if tag.isSome then optionalAnchor else pure none
    pure ⟨anchor, tag⟩

end Reading

/-! ## Collections

Each of the following reads what its name says with at most `room` nested and consecutive steps left. -/

open Reading in
mutual

/-- A node. Only in a `block` may a collection be written with indentation, and only as an `entry` of a
mapping may a sequence be indented no deeper than the mapping. -/
def node (block entry : Bool) : Nat → Reading Node
  | 0 => fail
  | room + 1 => do
    if let some (.alias name) ← peek? then
      skip
      .alias <$> numberOf name
    else
      let p ← properties
      match ← peek? with
      | some .item => if entry then .sequence p <$> entryItems room else blank p
      | some (.scalar style text) =>
        skip
        pure (.scalar p style text)
      | some .sequenceOpen =>
        skip
        .sequence p <$> flowItems true room
      | some .mappingOpen =>
        skip
        .mapping p <$> flowMembers true room
      | some .blockSequence =>
        if block then
          skip
          .sequence p <$> blockItems room
        else blank p
      | some .blockMapping =>
        if block then
          skip
          .mapping p <$> blockMembers room
        else blank p
      | _ => blank p

/-- A node without content, which must have an anchor or a tag. -/
def blank (p : Properties) : Reading Node :=
  if p.anchor.isSome || p.tag.isSome then pure (.empty p) else fail

/-- A node, or an empty scalar before one of the given tokens or the end. -/
def nodeUnless (block entry : Bool) (ends : List Token) : Nat → Reading Node
  | 0 => fail
  | room + 1 => do
    match ← peek? with
    | some t => if ends.contains t then pure (.empty {}) else node block entry room
    | none => node block entry room

/-- The items of a sequence written with indentation. -/
def blockItems : Nat → Reading (List Node)
  | 0 => fail
  | room + 1 => do
    if ← accept .item then
      let first ← nodeUnless true false [.item, .blockEnd] room
      (first :: ·) <$> blockItems room
    else
      expect .blockEnd
      pure []

/-- The items of a sequence that is indented no deeper than the mapping around it. -/
def entryItems : Nat → Reading (List Node)
  | 0 => fail
  | room + 1 => do
    if ← accept .item then
      let first ← nodeUnless true false [.item, .key, .value, .blockEnd] room
      (first :: ·) <$> entryItems room
    else pure []

/-- The members of a mapping written with indentation. -/
def blockMembers : Nat → Reading (List (Node × Node))
  | 0 => fail
  | room + 1 => do
    if ← accept .key then
      let key ← nodeUnless true true [.key, .value, .blockEnd] room
      let value ←
        if ← accept .value then nodeUnless true true [.key, .value, .blockEnd] room
        else pure (.empty {})
      ((key, value) :: ·) <$> blockMembers room
    else
      expect .blockEnd
      pure []

/-- The items up to a closing square bracket; all but the first follow a comma. -/
def flowItems (first : Bool) : Nat → Reading (List Node)
  | 0 => fail
  | room + 1 => do
    if ← accept .sequenceClose then pure []
    else
      if !first then expect .comma
      match ← peek? with
      | some .key =>
        skip
        let member ← pairMember room
        (.mapping {} [member] :: ·) <$> flowItems false room
      | some .sequenceClose =>
        skip
        pure []
      | _ =>
        let item ← node false false room
        (item :: ·) <$> flowItems false room

/-- The one member of a mapping that stands for itself between square brackets. A missing key takes the
token that shows it is missing. -/
def pairMember : Nat → Reading (Node × Node)
  | 0 => fail
  | room + 1 => do
    let key ← match ← peek? with
      | some .value | some .comma | some .sequenceClose =>
        skip
        pure (.empty {})
      | _ => node false false room
    let value ←
      if ← accept .value then nodeUnless false false [.comma, .sequenceClose] room
      else pure (.empty {})
    pure (key, value)

/-- The members up to a closing brace; all but the first follow a comma. -/
def flowMembers (first : Bool) : Nat → Reading (List (Node × Node))
  | 0 => fail
  | room + 1 => do
    if ← accept .mappingClose then pure []
    else
      if !first then expect .comma
      match ← peek? with
      | some .key =>
        skip
        let key ← nodeUnless false false [.value, .comma, .mappingClose] room
        let value ←
          if ← accept .value then nodeUnless false false [.comma, .mappingClose] room
          else pure (.empty {})
        ((key, value) :: ·) <$> flowMembers false room
      | some .mappingClose =>
        skip
        pure []
      | _ =>
        let key ← node false false room
        ((key, .empty {}) :: ·) <$> flowMembers false room

end

/-! ## Documents -/

/-- The tag of a name in the language itself. -/
def coreTag (name : String) : Tag := Text.utf8 ("tag:yaml.org,2002:" ++ name)

/-- What the usual tag handles stand for. -/
def usualHandles : List (String × Tag) := [("!", ownMark), ("!!", coreTag "")]

/-- Whether a version of the language is supported. -/
def isSupported (major minor : Nat) : Bool := major == 1 && (minor == 1 || minor == 2)

/-- The handles that directives declare, each once, and what follows the start of the document. -/
def directives? (versioned : Bool) (handles : List (String × Tag)) :
    List Token → Option (List (String × Tag) × List Token)
  | .version major minor :: rest =>
    if versioned || !isSupported major minor then none else directives? true handles rest
  | .handle handle start :: rest =>
    if (handles.lookup handle).isSome then none
    else directives? versioned ((handle, start) :: handles) rest
  | .documentStart :: rest => some (handles, rest)
  | _ => none

/-- Whether a token is where a document starts that says so. -/
def startsDocument : Token → Bool
  | .version _ _ | .handle _ _ | .documentStart => true
  | _ => false

/-- Whether a document without content comes before a token. -/
def endsDocument (t : Token) : Bool := startsDocument t || t == .documentEnd

/-- The node of a document that starts with the given tokens, where nothing but the end may follow. -/
def document? (handles : List (String × Tag)) (tokens : List Token) (mayBeEmpty : Bool) :
    Option Node := do
  let (root, left) ←
    if mayBeEmpty && tokens.head?.all endsDocument then some (.empty {}, tokens)
    else
      (node true false (2 * tokens.length + 4) { tokens, handles }).map fun (root, f) =>
        (root, f.tokens)
  if left.all (· == .documentEnd) then some root else none

/-- The node of the document in a text with the given tokens; none, inside, if there is no document. -/
def Node.ofTokens? (tokens : List Token) : Option (Option Node) :=
  match tokens with
  | [] => some none
  | t :: _ => do
    if startsDocument t then
      let (handles, rest) ← directives? false [] tokens
      some <$> document? (handles ++ usualHandles) rest true
    else some <$> document? usualHandles tokens false

end QueryableApi.Yaml
