/-! # Places in a YAML text

A cursor is the text still to be read and where it starts. A line ends with a line feed, a carriage
return or both, with the next-line character, or with one of the two separator characters; read as text,
the separators stand for themselves and every other line break for one line feed.
-/

namespace QueryableApi.Yaml

/-- Whether a character is a space or a tab. -/
def isSpace (c : Char) : Bool := c == ' ' || c == '\t'

/-- Whether a character separates lines and stands for itself. -/
def isSeparator (c : Char) : Bool := c == '\u2028' || c == '\u2029'

/-- Whether a character starts a line break. -/
def isBreak (c : Char) : Bool := c == '\n' || c == '\r' || c == '\u0085' || isSeparator c

/-- Whether there is no character, or one that is a space, a tab or a line break. -/
def isGap (c : Option Char) : Bool := c.all fun c => isSpace c || isBreak c

/-- Whether a character may stand in the name of an anchor, a directive or a tag handle. -/
def isNameChar (c : Char) : Bool := c.isAlphanum || c == '_' || c == '-'

/-- Whether a character may stand in a document. -/
def isAllowed (c : Char) : Bool :=
  let n := c.toNat
  n == 0x09 || n == 0x0A || n == 0x0D || (0x20 ≤ n && n ≤ 0x7E) || n == 0x85
    || (0xA0 ≤ n && n ≤ 0xFFFD) || 0x10000 ≤ n

/-- The text still to be read, and where it starts. -/
structure Cursor where
  /-- The text still to be read. -/
  rest : List Char
  /-- How many characters are before it. -/
  index : Nat := 0
  /-- How many lines are before it. -/
  line : Nat := 0
  /-- How many characters of its line are before it. -/
  column : Nat := 0
deriving Repr

namespace Cursor

/-- The next character. -/
def peek? (c : Cursor) : Option Char := c.rest.head?

/-- Whether the next character is the given one. -/
def isAt (c : Cursor) (x : Char) : Bool := c.peek? == some x

/-- Whether the character so many places on is missing, a space, a tab or a line break. -/
def isGapAt (c : Cursor) (places : Nat) : Bool := isGap c.rest[places]?

/-- Passes over characters of the line. -/
def skip (c : Cursor) (count : Nat) : Cursor :=
  ⟨c.rest.drop count, c.index + count, c.line, c.column + count⟩

/-- Passes over the characters of the line for which a test holds, and returns them. -/
def takeWhile (c : Cursor) (test : Char → Bool) : List Char × Cursor :=
  let taken := c.rest.takeWhile test
  (taken, c.skip taken.length)

/-- Passes over the characters of the line for which a test holds. -/
def skipWhile (c : Cursor) (test : Char → Bool) : Cursor := (c.takeWhile test).2

/-- Passes over a line break, and returns the character it stands for. -/
def lineBreak? (c : Cursor) : Option (Char × Cursor) :=
  match c.rest with
  | '\r' :: '\n' :: rest => some ('\n', ⟨rest, c.index + 2, c.line + 1, 0⟩)
  | x :: rest =>
    if isBreak x then some (if isSeparator x then x else '\n', ⟨rest, c.index + 1, c.line + 1, 0⟩)
    else none
  | [] => none

/-- Passes over a line break if there is one. -/
def skipLineBreak (c : Cursor) : Cursor := c.lineBreak?.elim c Prod.snd

/-- Passes over a comment up to the end of its line, if there is one. -/
def skipComment (c : Cursor) : Cursor :=
  if c.isAt '#' then c.skipWhile fun x => !isBreak x else c

/-- Whether a line starts with three times the given character, set off from what follows. -/
def isMarker (c : Cursor) (x : Char) : Bool :=
  c.column == 0 && c.rest.take 3 == [x, x, x] && c.isGapAt 3

/-- Whether a line that starts or ends a document follows. -/
def isDocumentMarker (c : Cursor) : Bool := c.isMarker '-' || c.isMarker '.'

/-- Passes over what may follow on a line that says nothing more: spaces, a comment and the line break. -/
def endLine? (c : Cursor) : Option Cursor :=
  let c := (c.skipWhile isSpace).skipComment
  if c.rest.head?.all isBreak then some c.skipLineBreak else none

end Cursor

end QueryableApi.Yaml
