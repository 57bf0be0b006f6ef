import QueryableApi.Text.Character

/-! # Texts in messages

A list of texts is quoted in a message so that every character of it can be told: quotes, backslashes
and the common controls have short escapes, and characters that do not show on their own are written by
their code point, as in `["a\"b", "\u{301}"]`.
-/

namespace QueryableApi.Text

/-- A code point in hexadecimal, between braces. -/
def codePoint (c : Char) : List Char :=
  ['\\', 'u', '{'] ++ Nat.toDigits 16 c.toNat ++ ['}']

/-- A character as it is quoted. -/
def quoteChar (c : Char) : List Char :=
  match c with
  | '\x00' => ['\\', '0']
  | '\t' => ['\\', 't']
  | '\r' => ['\\', 'r']
  | '\n' => ['\\', 'n']
  | '"' => ['\\', '"']
  | '\\' => ['\\', '\\']
  | c => if isUnseen c then codePoint c else [c]

/-- A text as it is quoted. -/
def quoted (s : String) : String := "\"" ++ String.ofList (s.toList.flatMap quoteChar) ++ "\""

/-- A list of texts as it is quoted. -/
def quotedList (ss : List String) : String := "[" ++ ", ".intercalate (ss.map quoted) ++ "]"

end QueryableApi.Text
