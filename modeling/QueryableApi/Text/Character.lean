import QueryableApi.Text.Table.Alphanumeric
import QueryableApi.Text.Table.Cased
import QueryableApi.Text.Table.Unseen
import QueryableApi.Text.Table.Word

/-! # Character classes and lower case

The classes of characters that names and messages depend on. Each is a short rule for ASCII and a
table beyond it.
-/

namespace QueryableApi.Text

/-- The last code point of ASCII. -/
def asciiLast : Nat := 0x7F

/-- Whether a character is a letter or a number. -/
def isAlphanumeric (c : Char) : Bool :=
  if c.toNat ≤ asciiLast then c.isAlphanum else Table.alphanumeric.has c.toNat

/-- Whether a character is in lower case. -/
def isLower (c : Char) : Bool :=
  if c.toNat ≤ asciiLast then c.isLower else Table.lowercase.has c.toNat

/-- Whether a character is in upper case. -/
def isUpper (c : Char) : Bool :=
  if c.toNat ≤ asciiLast then c.isUpper else Table.uppercase.has c.toNat

/-- Whether a character makes up words: letters, marks, digits, connectors and joiners. -/
def isWord (c : Char) : Bool :=
  if c.toNat ≤ asciiLast then c.isAlphanum || c == '_' else Table.word.has c.toNat

/-- Whether a character does not show on its own. -/
def isUnseen (c : Char) : Bool :=
  if c.toNat ≤ asciiLast then c.toNat < 0x20 || c.toNat == 0x7F else Table.unseen.has c.toNat

/-- The character at a distance. -/
def shifted (c : Char) (distance : Int) : Char := Char.ofNat ((c.toNat : Int) + distance).toNat

/-- The lower-case form of a character. One character, the dotted capital I, has a form of two. -/
def lower (c : Char) : List Char :=
  if c.toNat ≤ asciiLast then [c.toLower]
  else if c.toNat = 0x130 then ['i', '\u0307']
  else
    match Table.lowering.find? fun (first, last, step, _) =>
        first ≤ c.toNat && c.toNat ≤ last && (c.toNat - first) % step == 0 with
    | some (_, _, _, distance) => [shifted c distance]
    | none => [c]

end QueryableApi.Text
