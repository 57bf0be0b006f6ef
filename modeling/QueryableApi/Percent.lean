import QueryableApi.Text.Hexadecimal
import QueryableApi.Text.Utf8

/-! # Percent encoding

A byte that may not stand in a place of a URL is written as a percent sign and two hexadecimal digits.
`Percent.encode` keeps only the unreserved characters, so that an encoded text is always one piece of a
path; `Percent.decode?` takes such a text back to its bytes.
-/

namespace QueryableApi.Percent

/-- Whether a character is unreserved: an ASCII letter or digit, or one of `-`, `.`, `_`, `~`. -/
def isUnreserved (c : Char) : Bool :=
  c.isAlphanum || c == '-' || c == '.' || c == '_' || c == '~'

/-- A byte as an escape. -/
def escape (b : UInt8) : List Char := ['%', Text.hexChar (b.toNat / 16), Text.hexChar (b.toNat % 16)]

/-- A character with its bytes as escapes unless it is kept. -/
def encodeChar (kept : Char → Bool) (c : Char) : List Char :=
  if kept c then [c] else (Text.utf8OfChar c).flatMap escape

/-- Characters with all but the unreserved ones as escapes. -/
def encodeChars (cs : List Char) : List Char := cs.flatMap (encodeChar isUnreserved)

/-- A text with all but the unreserved characters as escapes. -/
def encode (s : String) : String := String.ofList (encodeChars s.toList)

/-- The bytes of unreserved characters and escapes. -/
def decode? : List Char → Option (List UInt8)
  | [] => some []
  | '%' :: x :: y :: rest =>
    match Text.hexValue? x, Text.hexValue? y, decode? rest with
    | some x, some y, some bytes => some (UInt8.ofNat (x * 16 + y) :: bytes)
    | _, _, _ => none
  | c :: rest => if isUnreserved c then (decode? rest).map (UInt8.ofNat c.toNat :: ·) else none

end QueryableApi.Percent
