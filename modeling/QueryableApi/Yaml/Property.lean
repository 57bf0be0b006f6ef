import QueryableApi.Text.Utf8
import QueryableApi.Yaml.Scalar.Quoted
import QueryableApi.Yaml.Token

/-! # Anchors, tags and directives

An anchor names a node and an alias repeats the node of a name. A tag says what a node is; it is written in
full between angle brackets, or as a handle and a suffix, where directives before the document say what a
handle stands for.
-/

namespace QueryableApi.Yaml

/-- The name behind the mark of an anchor or an alias, and what follows it. -/
def anchorName? (c : Cursor) : Option (String × Cursor) :=
  let (name, c) := (c.skip 1).takeWhile isNameChar
  let isEnd := c.isGapAt 0 || c.peek?.any fun x => "?:,]\x7d%@`".toList.contains x
  if name.isEmpty || !isEnd then none else some (String.ofList name, c)

/-! ## Tags -/

/-- The handle at the start of a text: exclamation mark, name and, if it is there, a second mark. -/
def tagHandle? (c : Cursor) : Option (List Char × Cursor) :=
  if c.isAt '!' then
    let (name, c) := (c.skip 1).takeWhile isNameChar
    if c.isAt '!' then some ('!' :: name ++ ['!'], c.skip 1) else some ('!' :: name, c)
  else none

/-- Whether a handle has two marks. -/
def isFullHandle (handle : List Char) : Bool :=
  match handle with
  | '!' :: rest => rest.getLast? == some '!'
  | _ => false

/-- Whether a character may stand in a tag; a tag between angle brackets may have more of them. -/
def isTagChar (verbatim : Bool) (c : Char) : Bool :=
  isNameChar c || ";/?:@&=+$.%!~*'()".toList.contains c || (verbatim && ",[]".toList.contains c)

/-- The byte that a percent sign and two hexadecimal digits stand for. -/
def escapedByte? : List Char → Option UInt8
  | '%' :: x :: y :: _ => do some (UInt8.ofNat ((← Text.hexValue? x) * 16 + (← Text.hexValue? y)))
  | _ => none

/-- How many bytes a character has that starts with the given one. -/
def byteCount? (b : UInt8) : Option Nat :=
  if b < 0x80 then some 1
  else if 0xC0 ≤ b && b < 0xE0 then some 2
  else if 0xE0 ≤ b && b < 0xF0 then some 3
  else if 0xF0 ≤ b && b < 0xF8 then some 4
  else none

/-- Bytes that continue a character, each escaped. -/
def continuation? : Nat → List Char → Option (List UInt8)
  | 0, _ => some []
  | count + 1, text => do
    let b ← escapedByte? text
    if 0x80 ≤ b && b < 0xC0 then (continuation? count (text.drop 3)).map (b :: ·) else none

/-- The bytes of the character whose first byte is escaped at the start of a text. -/
def escapedCharacter? (text : List Char) : Option (List UInt8) := do
  let b ← escapedByte? text
  let count ← byteCount? b
  (continuation? (count - 1) (text.drop 3)).map (b :: ·)

/-- The bytes of a tag at the start of a text, and how many characters it has. -/
def tagBytes? (verbatim : Bool) : Nat → List Char → Option (List UInt8 × Nat)
  | 0, _ => none
  | room + 1, text =>
    match text with
    | [] => some ([], 0)
    | x :: rest =>
      if x == '%' then do
        let bytes ← escapedCharacter? text
        let (more, length) ← tagBytes? verbatim room (text.drop (3 * bytes.length))
        some (bytes ++ more, 3 * bytes.length + length)
      else if isTagChar verbatim x then do
        let (more, length) ← tagBytes? verbatim room rest
        some (Text.utf8OfChar x ++ more, length + 1)
      else some ([], 0)

/-- The bytes that count: those before the first that is zero. -/
def beforeZero (bytes : List UInt8) : Tag := bytes.takeWhile (· != 0)

/-- The tag at the cursor, which may not be empty, and what follows. -/
def tagText? (verbatim : Bool) (room : Nat) (c : Cursor) : Option (Tag × Cursor) := do
  let (bytes, length) ← tagBytes? verbatim room c.rest
  if length == 0 then none else some (beforeZero bytes, c.skip length)

/-- The mark that tags of the document's own start with. -/
def ownMark : Tag := Text.utf8OfChar '!'

/-- A tag of a handle and a suffix, or of a single mark alone. -/
def shortTag? (room : Nat) (c : Cursor) : Option (String × Tag × Cursor) := do
  let (handle, next) ← tagHandle? c
  if isFullHandle handle then
    let (suffix, c) ← tagText? false room next
    some (String.ofList handle, suffix, c)
  else
    let (bytes, length) ← tagBytes? false room next.rest
    let suffix := (handle.drop 1).flatMap Text.utf8OfChar ++ beforeZero bytes
    let c := next.skip length
    some (if suffix.isEmpty then ("", ownMark, c) else ("!", suffix, c))

/-- The tag at the cursor as a handle and a suffix, and what follows. Between brackets a comma may follow,
elsewhere only a space, a tab or a line break. -/
def tag? (inFlow : Bool) (room : Nat) (c : Cursor) : Option (String × Tag × Cursor) := do
  let (handle, suffix, c) ←
    if c.rest[1]? == some '<' then do
      let (text, c) ← tagText? true room (c.skip 2)
      if c.isAt '>' then some ("", text, c.skip 1) else none
    else shortTag? room c
  if c.isGapAt 0 || (inFlow && c.isAt ',') then some (handle, suffix, c) else none

/-! ## Directives -/

/-- The number at the cursor, of at most nine digits. -/
def versionNumber? (c : Cursor) : Option (Nat × Cursor) :=
  let (digits, c) := c.takeWhile Char.isDigit
  if digits.isEmpty || 9 < digits.length then none
  else some (digits.foldl (fun n d => n * 10 + (d.toNat - '0'.toNat)) 0, c)

/-- The directive at the cursor, and what follows its line. -/
def directive? (room : Nat) (c : Cursor) : Option (Token × Cursor) := do
  let (name, c) := (c.skip 1).takeWhile isNameChar
  if !c.isGapAt 0 then none
  else
    let c := c.skipWhile isSpace
    match String.ofList name with
    | "YAML" =>
      let (major, c) ← versionNumber? c
      if !c.isAt '.' then none
      else
        let (minor, c) ← versionNumber? (c.skip 1)
        some (.version major minor, ← c.endLine?)
    | "TAG" =>
      let (handle, c) ← tagHandle? c
      if !(isFullHandle handle || handle == ['!']) || !c.peek?.any isSpace then none
      else
        let (start, c) ← tagText? true room (c.skipWhile isSpace)
        if !c.isGapAt 0 then none
        else some (.handle (String.ofList handle) start, ← c.endLine?)
    | _ => none

end QueryableApi.Yaml
