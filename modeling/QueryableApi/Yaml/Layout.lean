import QueryableApi.Yaml.Property
import QueryableApi.Yaml.Scalar.Block
import QueryableApi.Yaml.Scalar.Plain

/-! # Layout

From a text to its tokens (`tokens?`). Collections written with indentation start where a first item or
key is indented deeper than what is around it, and end where the indentation goes back. A node turns out
to be a key only when its colon comes, so the places where one may start are kept, one for the block and
one for each open bracket; the key token is put there later. A key and its colon are on one line and at
most 1024 characters apart.
-/

namespace QueryableApi.Yaml

/-- A place where a key may start. -/
structure KeyStart where
  /-- How many tokens are before it. -/
  count : Nat
  /-- How many characters are before it. -/
  index : Nat
  /-- Its line. -/
  line : Nat
  /-- Its column. -/
  column : Nat
  /-- Whether nothing but a key may be there. -/
  required : Bool
deriving Repr

/-- How far a key may be from its colon. -/
def maxKeyLength : Nat := 1024

/-- The key start as seen from a cursor: gone if it is too far behind, which a required key may not be. -/
def KeyStart.seenFrom? (c : Cursor) : Option KeyStart → Option (Option KeyStart)
  | none => some none
  | some k =>
    if k.line < c.line || k.index + maxKeyLength < c.index then
      if k.required then none else some none
    else some (some k)

/-- What has been read of a text. -/
structure Layout where
  /-- What is still to be read. -/
  cursor : Cursor
  /-- The tokens so far, the last one first. -/
  tokens : List Token := []
  /-- How many tokens there are. -/
  count : Nat := 0
  /-- The indentation of the open block collections, the innermost first. -/
  indents : List Nat := []
  /-- The key start in the innermost bracket, or in the block outside all brackets. -/
  keyStart : Option KeyStart := none
  /-- The key starts around it, the innermost first; one for each open bracket. -/
  outerStarts : List (Option KeyStart) := []
  /-- Whether a key may start here. -/
  keyAllowed : Bool := true

namespace Layout

/-- Whether a bracket is open. -/
def inFlow (l : Layout) : Bool := !l.outerStarts.isEmpty

/-- The indentation of the innermost block collection. -/
def indent? (l : Layout) : Option Nat := l.indents.head?

/-- The least column of a further line of a scalar. -/
def scalarIndent (l : Layout) : Nat := l.indent?.elim 0 (· + 1)

/-- Appends a token. -/
def push (l : Layout) (t : Token) : Layout :=
  { l with tokens := t :: l.tokens, count := l.count + 1 }

/-- Puts a token behind the first so many. -/
def insertAt (l : Layout) (place : Nat) (t : Token) : Layout :=
  let newer := l.count - place
  { l with tokens := l.tokens.take newer ++ t :: l.tokens.drop newer, count := l.count + 1 }

/-! ## Indentation -/

/-- Ends the block collections that are indented deeper than a column. -/
def closeDeeper (column : Nat) : List Nat → Layout → Layout
  | [], l => { l with indents := [] }
  | i :: outer, l =>
    if column < i then closeDeeper column outer (l.push .blockEnd)
    else { l with indents := i :: outer }

/-- Ends what the indentation of the cursor ends. -/
def closeToCursor (l : Layout) : Layout :=
  if l.inFlow then l else closeDeeper l.cursor.column l.indents l

/-- Ends all block collections. -/
def closeAll (l : Layout) : Layout :=
  if l.inFlow then l
  else { l.indents.foldl (fun l _ => l.push .blockEnd) l with indents := [] }

/-- Whether a block collection would start at a column. -/
def startsAt (l : Layout) (column : Nat) : Bool := !l.inFlow && l.indent?.all (· < column)

/-- Starts a block collection behind the first so many tokens, if one starts at the column. -/
def openBlock (l : Layout) (column place : Nat) (t : Token) : Layout :=
  if l.startsAt column then { l.insertAt place t with indents := column :: l.indents } else l

/-! ## Keys -/

/-- Gives up the innermost key start, unless it is required. -/
def dropKey? (l : Layout) : Option Layout :=
  if l.keyStart.any KeyStart.required then none else some { l with keyStart := none }

/-- Notes that a key may start at the cursor, if one is allowed there. -/
def saveKey? (l : Layout) : Option Layout :=
  if l.keyAllowed then
    let c := l.cursor
    let required := !l.inFlow && l.indent? == some c.column
    l.dropKey?.map fun l =>
      { l with keyStart := some ⟨l.count, c.index, c.line, c.column, required⟩ }
  else some l

/-- Gives up the key starts that are too far behind the cursor. -/
def refreshKeys? (l : Layout) : Option Layout := do
  let keyStart ← KeyStart.seenFrom? l.cursor l.keyStart
  let outerStarts ← l.outerStarts.mapM (KeyStart.seenFrom? l.cursor)
  some { l with keyStart, outerStarts }

/-! ## Between tokens -/

/-- Passes over the mark that may start a line. -/
def skipMark (c : Cursor) : Cursor := if c.column == 0 && c.isAt '\ufeff' then c.skip 1 else c

/-- Passes over spaces, comments, line breaks and the marks that start lines. Tabs count as spaces except
where a block key may start. -/
def skipGap : Nat → Layout → Layout
  | 0, l => l
  | room + 1, l =>
    let tabs := l.inFlow || !l.keyAllowed
    let c := (skipMark l.cursor).skipWhile fun x => x == ' ' || (tabs && x == '\t')
    let c := c.skipComment
    match c.lineBreak? with
    | some (_, next) =>
      skipGap room { l with cursor := next, keyAllowed := l.keyAllowed || !l.inFlow }
    | none => { l with cursor := c }

/-! ## Tokens -/

/-- A token of so many characters. -/
def mark (l : Layout) (length : Nat) (t : Token) : Layout :=
  { l.push t with cursor := l.cursor.skip length }

/-- A line that starts or ends a document. -/
def documentMark? (l : Layout) (t : Token) : Option Layout :=
  l.closeAll.dropKey?.map fun l => { l.mark 3 t with keyAllowed := false }

/-- A directive. -/
def directive? (room : Nat) (l : Layout) : Option Layout := do
  let l ← l.closeAll.dropKey?
  let (t, cursor) ← Yaml.directive? room l.cursor
  some { l.push t with cursor, keyAllowed := false }

/-- An opening bracket. -/
def openBracket? (l : Layout) (t : Token) : Option Layout :=
  l.saveKey?.map fun l =>
    { l.mark 1 t with
      keyStart := none, outerStarts := l.keyStart :: l.outerStarts, keyAllowed := true }

/-- A closing bracket. -/
def closeBracket? (l : Layout) (t : Token) : Option Layout :=
  l.dropKey?.map fun l =>
    { l.mark 1 t with
      keyStart := l.outerStarts.head?.join, outerStarts := l.outerStarts.tail, keyAllowed := false }

/-- A comma. -/
def comma? (l : Layout) : Option Layout :=
  l.dropKey?.map fun l => { l.mark 1 .comma with keyAllowed := true }

/-- Starts a block collection at the cursor, where one must be allowed outside brackets. -/
def openBlockHere? (l : Layout) (t : Token) : Option Layout :=
  if l.inFlow then some l
  else if l.keyAllowed then some (l.openBlock l.cursor.column l.count t)
  else none

/-- A dash before an item. -/
def item? (l : Layout) : Option Layout := do
  let l ← l.openBlockHere? .blockSequence
  let l ← l.dropKey?
  some { l.mark 1 .item with keyAllowed := true }

/-- A question mark before a key. -/
def key? (l : Layout) : Option Layout := do
  let l ← l.openBlockHere? .blockMapping
  let l ← l.dropKey?
  some { l.mark 1 .key with keyAllowed := !l.inFlow }

/-- A colon before a value. -/
def value? (l : Layout) : Option Layout :=
  match l.keyStart with
  | some k =>
    let l := (l.insertAt k.count .key).openBlock k.column k.count .blockMapping
    some { l.mark 1 .value with keyStart := none, keyAllowed := false }
  | none =>
    (l.openBlockHere? .blockMapping).map fun l => { l.mark 1 .value with keyAllowed := !l.inFlow }

/-- A token that may start a key and is read by the given function. -/
def node? (l : Layout) (read : Cursor → Option (Token × Cursor)) : Option Layout := do
  let l ← l.saveKey?
  let (t, cursor) ← read l.cursor
  some { l.push t with cursor, keyAllowed := false }

/-- A plain scalar; behind a line break a key may start. -/
def plain? (room : Nat) (l : Layout) : Option Layout := do
  let l ← l.saveKey?
  let (text, broken, cursor) ← Yaml.plain? l.inFlow l.scalarIndent room l.cursor
  some { l.push (.scalar .plain text) with cursor, keyAllowed := broken }

/-- A block of lines, which is never a key. -/
def block? (literal : Bool) (room : Nat) (l : Layout) : Option Layout := do
  let l ← l.dropKey?
  let (text, cursor) ← Yaml.block? literal l.indent? room l.cursor
  some { l.push (.scalar .quoted text) with cursor, keyAllowed := true }

/-- The marks that no plain scalar starts with, whatever follows them. -/
def reservedMarks : List Char := ",[]\x7b\x7d#&*!|>'\"%@`".toList

/-- Whether a plain scalar starts with a character. -/
def startsPlain (l : Layout) (x : Char) : Bool :=
  if x == '-' then !l.cursor.rest[1]?.any isSpace
  else if x == '?' || x == ':' then !l.inFlow && !l.cursor.isGapAt 1
  else !(isSpace x || isBreak x || reservedMarks.contains x)

/-- The token that starts with a character that has no meaning of its own at the start of a line. -/
def next? (room : Nat) (l : Layout) (x : Char) : Option Layout :=
  let setOff := l.cursor.isGapAt 1
  match x with
  | '[' => l.openBracket? .sequenceOpen
  | '\x7b' => l.openBracket? .mappingOpen
  | ']' => l.closeBracket? .sequenceClose
  | '\x7d' => l.closeBracket? .mappingClose
  | ',' => l.comma?
  | '*' => l.node? fun c => (anchorName? c).map fun (name, c) => (.alias name, c)
  | '&' => l.node? fun c => (anchorName? c).map fun (name, c) => (.anchor name, c)
  | '!' => l.node? fun c => (tag? l.inFlow room c).map fun (h, s, c) => (.tag h s, c)
  | '\'' | '"' => l.node? fun c => (quoted? x room c).map fun (s, c) => (.scalar .quoted s, c)
  | _ =>
    if x == '-' && setOff then l.item?
    else if x == '?' && (l.inFlow || setOff) then l.key?
    else if x == ':' && (l.inFlow || setOff) then l.value?
    else if (x == '|' || x == '>') && !l.inFlow then l.block? (x == '|') room
    else if l.startsPlain x then l.plain? room
    else none

/-- The tokens of a text, at the first character of a further token or at the end. -/
def step? (room : Nat) (l : Layout) : Option Layout :=
  match l.cursor.peek? with
  | none => some l
  | some x =>
    if l.cursor.column == 0 && x == '%' then l.directive? room
    else if l.cursor.isMarker '-' then l.documentMark? .documentStart
    else if l.cursor.isMarker '.' then l.documentMark? .documentEnd
    else l.next? room x

/-- Reads to the end of a text of at most `room` characters, with so many steps left. -/
def run? (room : Nat) : Nat → Layout → Option Layout
  | 0, _ => none
  | steps + 1, l => do
    let l ← (skipGap room l).refreshKeys?
    let l := l.closeToCursor
    if l.cursor.rest.isEmpty then l.closeAll.dropKey?
    else run? room steps (← l.step? room)

end Layout

/-- The tokens of a text. -/
def tokens? (text : String) : Option (List Token) :=
  let characters := text.toList
  if characters.all isAllowed then
    let room := characters.length + 1
    (Layout.run? room room { cursor := { rest := characters } }).map fun l => l.tokens.reverse
  else none

end QueryableApi.Yaml
