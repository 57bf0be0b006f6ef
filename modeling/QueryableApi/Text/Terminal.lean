import QueryableApi.Text.Utf8

/-! # Texts for a terminal

A text for a terminal may hold control sequences, which start with an escape character, and control
characters. `plain` is what such a text shows: it keeps visible characters, blanks and line breaks, and
passes over everything else. A control sequence ends with its last byte, with a byte that cancels it, or
with the escape character of the next one; a blank or a line break inside a short one is shown and ends it.
-/

namespace QueryableApi.Text.Terminal

/-- Where in a text for a terminal a byte is. -/
inductive State
  /-- Outside control sequences. -/
  | shown
  /-- Behind an escape character. -/
  | escape
  /-- Behind an escape character and bytes that qualify it. -/
  | qualified
  /-- In a sequence with parameters. -/
  | parameters
  /-- In a string for the terminal itself, which a bell ends or not. -/
  | string (bell : Bool)
deriving DecidableEq, Repr

/-- Whether a byte is a blank or a line break. -/
def isBlankByte (b : UInt8) : Bool := b == 0x09 || b == 0x0A || b == 0x0C || b == 0x0D

/-- Whether a byte is a visible character of ASCII or a space. -/
def isVisibleByte (b : UInt8) : Bool := 0x20 ≤ b && b < 0x7F

/-- What a visible byte behind an escape character leads to. -/
def State.afterEscape (b : UInt8) : State :=
  if b < 0x30 then .qualified
  else
    match Char.ofNat b.toNat with
    | '[' => .parameters
    | ']' => .string true
    | 'P' | 'X' | '^' | '_' => .string false
    | _ => .shown

/-- What follows a byte, and whether the byte is shown. -/
def State.next (s : State) (b : UInt8) : State × Bool :=
  if isContinuation b then (.shown, true)
  else if b == 0x1B then (.escape, false)
  else if b == 0x18 || b == 0x1A then (.shown, false)
  else
    match s with
    | .shown => (.shown, isVisibleByte b || isBlankByte b || 0xC0 ≤ b)
    | .string bell => (if bell && b == 0x07 then .shown else .string bell, false)
    | s =>
      if isBlankByte b then (.shown, true)
      else if !isVisibleByte b then (s, false)
      else
        match s with
        | .escape => (.afterEscape b, false)
        | .qualified => (if b < 0x30 then .qualified else .shown, false)
        | s => (if b < 0x40 then s else .shown, false)

/-- The bytes that are shown from a state on. -/
def shownBytes (s : State) : List UInt8 → List UInt8
  | [] => []
  | b :: rest =>
    let (s, isShown) := s.next b
    if isShown then b :: shownBytes s rest else shownBytes s rest

/-- What a text for a terminal shows. -/
def plain (text : String) : String := ofUtf8 (shownBytes .shown (utf8 text))

/-- A text in a style. -/
def styled (style : Nat) (text : String) : String :=
  "\x1b[" ++ toString style ++ "m" ++ text ++ "\x1b[0m"

/-- The style of what is to be written as it stands. -/
def literal : Nat := 1

/-- The style of what is wrong. -/
def wrong : Nat := 33

end QueryableApi.Text.Terminal
