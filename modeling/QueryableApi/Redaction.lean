import QueryableApi.Text.Blank
import QueryableApi.Text.Character

/-! # Redaction

Secrets are taken out of a text before it is shown. Three patterns are replaced one after the other: the
value behind `authorization: `, of one or two words; the value behind a name that ends in a word for a
secret and an equals sign, which goes with the value; and the quoted text behind a quoted word for a
secret and a colon. The part of a match before the value stays. Letters are compared without regard to
case.
-/

namespace QueryableApi.Redaction

/-- What stands for a secret. -/
def placeholder : List Char := "<redacted>".toList

/-- The start of a text that a pattern matches. -/
structure Found where
  /-- What stays. -/
  kept : List Char
  /-- How many characters the match has. -/
  length : Nat
deriving DecidableEq, Repr

/-- A pattern: what it matches at the start of a text. -/
abbrev Pattern := List Char → Option Found

/-- Replaces every match, from left to right; `covered` counts the characters that the match before still
covers. -/
def replaceFrom (pattern : Pattern) : Nat → List Char → List Char
  | _, [] => []
  | covered + 1, _ :: rest => replaceFrom pattern covered rest
  | 0, c :: rest =>
    match pattern (c :: rest) with
    | some found => found.kept ++ placeholder ++ replaceFrom pattern (found.length - 1) rest
    | none => c :: replaceFrom pattern 0 rest

/-! ## Letters -/

/-- A character without regard to case. Two characters beyond ASCII count as letters of it. -/
def fold (c : Char) : Char :=
  if c == '\u212A' then 'k' else if c == '\u017F' then 's' else c.toLower

/-- What follows a word at the start of a text; the word is in lower case. -/
def after? (word text : List Char) : Option (List Char) :=
  if (text.take word.length).map fold == word then some (text.drop word.length) else none

/-- Whether a text ends with a word in lower case. -/
def endsWith (word text : List Char) : Bool := word.isSuffixOf (text.map fold)

/-! ## The patterns -/

/-- Whether a character may stand in a credential. -/
def isCredential (c : Char) : Bool := Text.isWord c || "-.=:/+".toList.contains c

/-- The start of a header line with credentials. -/
def headerLead : List Char := "authorization: ".toList

/-- Credentials behind the name of their header. -/
def credentials : Pattern := fun text => do
  let value ← after? headerLead text
  let first := value.takeWhile isCredential
  let second := match value.drop first.length with
    | ' ' :: rest => rest.takeWhile isCredential
    | _ => []
  if first.isEmpty then none
  else
    let length := headerLead.length + first.length
    some ⟨text.take headerLead.length,
      if second.isEmpty then length else length + 1 + second.length⟩

/-- The words for a secret at the end of a name. -/
def secretNames : List (List Char) := ["key", "token", "secret", "password"].map String.toList

/-- Whether a character may stand in the name of a variable. -/
def isName (c : Char) : Bool :=
  let c := fold c
  ('a' ≤ c && c ≤ 'z') || c.isDigit || c == '_'

/-- The value of a variable whose name ends in a word for a secret. -/
def assignment : Pattern := fun text =>
  let name := text.takeWhile isName
  match text.drop name.length with
  | '=' :: rest =>
    let value := rest.takeWhile fun c => !Text.isBlank c
    if value.isEmpty || !secretNames.any (endsWith · name) then none
    else some ⟨name, name.length + 1 + value.length⟩
  | _ => none

/-- The members that hold a secret. -/
def secretMembers : List (List Char) := ["api_key", "token", "secret", "password"].map String.toList

/-- What follows a character at the start of a text. -/
def behind? (c : Char) : List Char → Option (List Char)
  | [] => none
  | x :: rest => if x == c then some rest else none

/-- The quoted value of a member with a name for a secret. -/
def member : Pattern := fun text => do
  let opened ← behind? '"' text
  let named ← secretMembers.findSome? (after? · opened)
  let closed ← behind? '"' named
  let colon ← behind? ':' (Text.dropBlanks closed)
  let quoted := Text.dropBlanks colon
  let value ← behind? '"' quoted
  let ending ← behind? '"' (value.dropWhile (· != '"'))
  some ⟨text.take (text.length - quoted.length), text.length - ending.length⟩

/-- The patterns, in the order in which they are applied. -/
def patterns : List Pattern := [credentials, assignment, member]

end Redaction

/-- A text with the secrets taken out. -/
def redact (text : String) : String :=
  String.ofList
    (Redaction.patterns.foldl (fun text p => Redaction.replaceFrom p 0 text) text.toList)

end QueryableApi
