import QueryableApi.Text.Hexadecimal
import QueryableApi.Yaml.Scalar.Gap

/-! # Scalars between quotes

Between single quotes a doubled quote stands for one. Between double quotes a backslash starts an escape,
and before a line break it removes the break.
-/

namespace QueryableApi.Yaml

/-- The character that a letter behind a backslash stands for. -/
def escaped? : Char → Option Char
  | '0' => some '\x00'
  | 'a' => some '\x07'
  | 'b' => some '\x08'
  | 't' | '\t' => some '\t'
  | 'n' => some '\n'
  | 'v' => some '\x0b'
  | 'f' => some '\x0c'
  | 'r' => some '\r'
  | 'e' => some '\x1b'
  | ' ' => some ' '
  | '"' => some '"'
  | '/' => some '/'
  | '\\' => some '\\'
  | 'N' => some '\u0085'
  | '_' => some '\u00a0'
  | 'L' => some '\u2028'
  | 'P' => some '\u2029'
  | _ => none

/-- How many hexadecimal digits follow a letter behind a backslash. -/
def codeLength? : Char → Option Nat
  | 'x' => some 2
  | 'u' => some 4
  | 'U' => some 8
  | _ => none

/-- The number that hexadecimal digits denote. -/
def hexNumber? (digits : List Char) : Option Nat :=
  digits.foldl (fun n c => n.bind fun n => (Text.hexValue? c).map (n * 16 + ·)) (some 0)

/-- The character with a number, if the number is one of a character. -/
def charOfNumber? (n : Nat) : Option Char := if n.isValidChar then some (Char.ofNat n) else none

/-- The character that an escape stands for, and how many characters the escape has. -/
def escape? (text : List Char) : Option (Char × Nat) :=
  match text with
  | '\\' :: letter :: rest =>
    match escaped? letter with
    | some c => some (c, 2)
    | none => do
      let length ← codeLength? letter
      let digits := rest.take length
      if digits.length < length then none
      else (hexNumber? digits).bind charOfNumber? |>.map (·, length + 2)
  | _ => none

/-- A word of a scalar between quotes: the characters, last one first, before `done`; whether an escaped
line break ends the word; and what follows. -/
def quotedWord (quote : Char) : Nat → List Char → Cursor → Option (List Char × Bool × Cursor)
  | 0, _, _ => none
  | room + 1, done, c =>
    match c.rest with
    | [] => some (done, false, c)
    | x :: rest =>
      if isSpace x || isBreak x then some (done, false, c)
      else if x == quote then
        if quote == '\'' && rest.head? == some '\'' then
          quotedWord quote room ('\'' :: done) (c.skip 2)
        else some (done, false, c)
      else if quote == '"' && x == '\\' then
        if rest.head?.any isBreak then some (done, true, (c.skip 1).skipLineBreak)
        else
          (escape? c.rest).bind fun (y, length) => quotedWord quote room (y :: done) (c.skip length)
      else quotedWord quote room (x :: done) (c.skip 1)

/-- The rest of a scalar between quotes, and what follows the closing quote. -/
def quotedFrom (quote : Char) : Nat → List Char → Cursor → Option (String × Cursor)
  | 0, _, _ => none
  | room + 1, done, c =>
    if c.isDocumentMarker || c.rest.isEmpty then none
    else do
      let (done, broken, c) ← quotedWord quote room done c
      if c.isAt quote then some (String.ofList done.reverse, c.skip 1)
      else
        let (gap, c) ← Gap.read 0 room { broken } c
        quotedFrom quote room (gap.text.reverseAux done) c

/-- The scalar between quotes at the cursor, which is at the opening quote. -/
def quoted? (quote : Char) (room : Nat) (c : Cursor) : Option (String × Cursor) :=
  quotedFrom quote room [] (c.skip 1)

end QueryableApi.Yaml
