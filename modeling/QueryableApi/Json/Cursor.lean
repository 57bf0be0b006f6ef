/-! # Reading positions

A cursor is the text still to be read and where it starts: the line, and the number of bytes since the
line began. A complaint about the text names a position at the cursor (`here`), one byte behind it
(`peeked`), or a few bytes behind it (`ahead`); a line feed among those bytes starts a new line.
-/

namespace QueryableApi.Json

/-- A place in a text, lines counted from one and columns in bytes. -/
structure Position where
  /-- The line. -/
  line : Nat
  /-- The bytes since the line began. -/
  column : Nat
deriving DecidableEq, Repr

/-- The text still to be read, and where it starts. -/
structure Cursor where
  /-- The text still to be read. -/
  rest : List Char
  /-- Where it starts. -/
  position : Position
deriving DecidableEq, Repr

/-- The place one byte further when the byte belongs to the given character. -/
def Position.afterByte (p : Position) (c : Char) : Position :=
  if c = '\n' then ⟨p.line + 1, 0⟩ else ⟨p.line, p.column + 1⟩

/-- The place behind a character. -/
def Position.after (p : Position) (c : Char) : Position :=
  if c = '\n' then ⟨p.line + 1, 0⟩ else ⟨p.line, p.column + c.utf8Size⟩

namespace Cursor

/-- The start of a text. -/
def ofText (s : String) : Cursor := ⟨s.toList, ⟨1, 0⟩⟩

/-- How many characters are left. -/
def length (c : Cursor) : Nat := c.rest.length

/-- A cursor strictly behind another one. -/
abbrev After (c : Cursor) : Type := { d : Cursor // d.length < c.length }

/-- The next character and the cursor behind it. -/
def next? (c : Cursor) : Option (Char × After c) :=
  match h : c.rest with
  | [] => none
  | x :: rest => some (x, ⟨⟨rest, c.position.after x⟩, by simp [length, h]⟩)

/-- The next character. -/
def peek? (c : Cursor) : Option Char := c.rest.head?

/-- The position of the cursor. -/
def here (c : Cursor) : Position := c.position

/-- The position one byte behind the cursor, or at the end of the text. -/
def peeked (c : Cursor) : Position :=
  match c.rest with
  | [] => c.position
  | x :: _ => c.position.afterByte x

/-- The position a number of bytes behind the cursor, or at the end of the text. -/
def ahead (c : Cursor) (bytes : Nat) : Position := go c.rest c.position bytes
where
  /-- Steps over whole characters while they fit. -/
  go : List Char → Position → Nat → Position
    | [], p, _ => p
    | x :: rest, p, bytes =>
      if bytes = 0 then p
      else if x.utf8Size ≤ bytes then go rest (p.after x) (bytes - x.utf8Size)
      else ⟨p.line, p.column + bytes⟩

/-- The position of the end of the text. -/
def atEnd (c : Cursor) : Position := c.rest.foldl Position.after c.position

/-- Whether at least so many bytes are left. -/
def hasBytes (c : Cursor) (bytes : Nat) : Bool :=
  bytes ≤ (c.rest.take bytes).foldl (fun n c => n + c.utf8Size) 0

/-- Whether a character is JSON whitespace. -/
def isSpace (c : Char) : Bool := c == ' ' || c == '\n' || c == '\t' || c == '\r'

/-- Skips JSON whitespace. -/
def skipSpaces (c : Cursor) : Cursor := go c.rest c.position
where
  /-- Drops spaces and counts them. -/
  go : List Char → Position → Cursor
    | [], p => ⟨[], p⟩
    | x :: rest, p => if isSpace x then go rest (p.after x) else ⟨x :: rest, p⟩

theorem length_skipSpaces_le (c : Cursor) : c.skipSpaces.length ≤ c.length := by
  have key : ∀ (cs : List Char) (p : Position), (skipSpaces.go cs p).length ≤ cs.length := by
    intro cs
    induction cs with
    | nil => intro p; simp [skipSpaces.go, length]
    | cons x rest ih =>
      intro p
      rw [skipSpaces.go]
      split
      · exact Nat.le_succ_of_le (ih _)
      · simp [length]
  exact key c.rest c.position

/-- The cursor behind JSON whitespace, which is not before the one given. -/
def spaceless (c : Cursor) : { d : Cursor // d.length ≤ c.length } :=
  ⟨c.skipSpaces, c.length_skipSpaces_le⟩

/-- A cursor behind a later cursor is behind the earlier one. -/
def After.widen {c d : Cursor} (e : After d) (h : d.length ≤ c.length) : After c :=
  ⟨e.1, Nat.lt_of_lt_of_le e.2 h⟩

end Cursor

end QueryableApi.Json
