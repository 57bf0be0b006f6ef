/-! # Tokens

What a YAML text is made of once indentation has been turned into explicit starts and ends of
collections.
-/

namespace QueryableApi.Yaml

/-- What says of what kind a node is. The escapes in it stand for bytes, which need not be text. -/
abbrev Tag := List UInt8

/-- How a scalar is written. -/
inductive Style
  /-- Without quotes. -/
  | plain
  /-- Between quotes, or as a block of lines. -/
  | quoted
deriving DecidableEq, Repr

/-- A piece of a YAML text. -/
inductive Token
  /-- The version that the document follows. -/
  | version (major minor : Nat)
  /-- What a tag handle stands for. -/
  | handle (handle : String) (start : Tag)
  /-- The start of a document. -/
  | documentStart
  /-- The end of a document. -/
  | documentEnd
  /-- The start of a sequence written with indentation. -/
  | blockSequence
  /-- The start of a mapping written with indentation. -/
  | blockMapping
  /-- The end of a collection written with indentation. -/
  | blockEnd
  /-- An opening square bracket. -/
  | sequenceOpen
  /-- A closing square bracket. -/
  | sequenceClose
  /-- An opening brace. -/
  | mappingOpen
  /-- A closing brace. -/
  | mappingClose
  /-- A dash before an item. -/
  | item
  /-- A comma. -/
  | comma
  /-- A key follows. -/
  | key
  /-- A value follows. -/
  | value
  /-- A name that stands for a node named before. -/
  | alias (name : String)
  /-- A name for the node that follows. -/
  | anchor (name : String)
  /-- A tag for the node that follows. -/
  | tag (handle : String) (suffix : Tag)
  /-- A scalar. -/
  | scalar (style : Style) (text : String)
deriving DecidableEq, Repr

end QueryableApi.Yaml
