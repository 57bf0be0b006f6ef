import QueryableApi.Percent
import QueryableApi.Text.Normalization
import QueryableApi.Url.Punycode
import QueryableApi.Url.Table.Direction
import QueryableApi.Url.Table.Joining
import QueryableApi.Url.Table.Name

/-! # Domain names

Domain names are compared in one form (`Domain.ofText?`): escapes are undone, each character is taken for
the usual one that it stands for, and labels beyond ASCII are written in Punycode. A label in Punycode must
be one that is written so. Beyond ASCII, no label starts with a mark, a joiner stands only where it changes
how letters look, and where a name has letters that are written from right to left, each label has a
direction of its own.
-/

namespace QueryableApi.Url.Domain

/-! ## Characters -/

/-- Whether a character may not stand in a domain name. -/
def isForbidden (c : Char) : Bool :=
  c.toNat ≤ 0x20 || c.toNat == 0x7F || "%#/:<>?@[\\]^|".toList.contains c

/-- Whether all characters are ASCII. -/
def isAscii (cs : List Char) : Bool := cs.all fun c => c.toNat < 0x80

/-- The usual characters that a character of a name stands for, if it may stand there. -/
def usual? (c : Char) : Option (List Char) :=
  let n := c.toNat
  if n < 0x80 then some [c.toLower]
  else if Table.ignored.has n then some []
  else
    match Table.usual.get? n with
    | some codes => some (codes.map Char.ofNat)
    | none => if Table.known.has n then some [c] else none

/-- Whether a character stands for itself. -/
def isUsual (c : Char) : Bool := usual? c == some [c]

/-! ## Joiners -/

/-- The mark that makes letters join. -/
def joiner : Char := '\u200D'

/-- The mark that keeps letters from joining. -/
def nonJoiner : Char := '\u200C'

/-- The combining class of the marks that take the vowel from a consonant. -/
def vowelKiller : Nat := 9

/-- Whether the first character that is not transparent joins in one of the given ways. -/
def joins (ways : List Text.Table.Ranges) (cs : List Char) : Bool :=
  (cs.dropWhile fun c => Table.transparent.has c.toNat).head?.any fun c =>
    ways.any fun way => way.has c.toNat

/-- Whether joiners stand only behind marks that take the vowel from a consonant, and non-joiners there or
between letters that would join. `before` holds the characters before, the last one first. -/
def joinersFit (before : List Char) : List Char → Bool
  | [] => true
  | c :: rest =>
    let isKilled := before.head?.any fun b => Text.combiningClass b.toNat == vowelKiller
    let isBetween :=
      joins [Table.joinsNext, Table.joinsBoth] before && joins [Table.joinsPrevious, Table.joinsBoth] rest
    let fits :=
      if c == joiner then isKilled else if c == nonJoiner then isKilled || isBetween else true
    fits && joinersFit (c :: before) rest

/-! ## Directions -/

/-- How a character takes part in the direction of a label. -/
inductive Direction
  /-- A letter that is written from left to right. -/
  | left
  /-- A letter that is written from right to left. -/
  | right
  /-- A digit of an Arabic number. -/
  | arabicNumber
  /-- A digit of a European number. -/
  | europeanNumber
  /-- A character without a direction of its own. -/
  | neutral
  /-- A mark on the character before it. -/
  | attached
deriving DecidableEq, Repr

/-- The direction of a character. -/
def Direction.ofChar (c : Char) : Direction :=
  let n := c.toNat
  if Table.right.has n then .right
  else if Table.arabicNumber.has n then .arabicNumber
  else if Table.europeanNumber.has n then .europeanNumber
  else if Table.neutral.has n then .neutral
  else if Table.attached.has n then .attached
  else .left

/-- Whether a label has a direction of its own: its first character is a letter of that direction, nothing
in it has the other one, and it ends in a letter or a digit. Written from right to left, it has numbers of
one kind. -/
def hasDirection (label : List Direction) : Bool :=
  let last := (label.reverse.dropWhile (· == .attached)).head?
  match label.head? with
  | none => true
  | some .left =>
    last.any (fun d => d == .left || d == .europeanNumber)
      && label.all fun d => d != .right && d != .arabicNumber
  | some .right =>
    last.any (fun d => d != .neutral) && label.all (· != .left)
      && !(label.contains .europeanNumber && label.contains .arabicNumber)
  | some _ => false

/-- Whether a name is written from left to right, or each of its labels has a direction of its own. -/
def directionsFit (labels : List (List Char)) : Bool :=
  let directions := labels.map fun label => label.map Direction.ofChar
  !(directions.any fun ds => ds.any fun d => d == .right || d == .arabicNumber)
    || directions.all hasDirection

/-! ## Labels -/

/-- What a label in Punycode starts with. -/
def punycodeLead : List Char := "xn--".toList

/-- How long a label beyond ASCII may be. -/
def maxLabel : Nat := 1000

/-- How long a label in Punycode may be behind its start. -/
def maxPunycode : Nat := 2000

/-- Whether a label of usual characters is well-formed beyond ASCII. -/
def isWellFormed (label : List Char) : Bool :=
  !punycodeLead.isPrefixOf label && !(label.head?.any fun c => Table.mark.has c.toNat)
    && joinersFit [] label

/-- The label beyond ASCII that is written as a label in Punycode. -/
def ofPunycode? (label : List Char) : Option (List Char) := do
  let code := label.drop punycodeLead.length
  if maxPunycode < code.length || label.getLast? == some '-' then none
  else
    let text ← Punycode.decode? code
    let isNormal := text.all isUsual && Text.normalize text == text
    if isAscii text || !isNormal || text.any (fun c => isForbidden c || c == '.') then none
    else if isWellFormed text then some text
    else none

/-- A label of usual characters in full and in ASCII. -/
def label? (label : List Char) : Option (List Char × List Char) :=
  if !isAscii label then
    if maxLabel < label.length || !isWellFormed label then none
    else some (label, punycodeLead ++ Punycode.encode label)
  else if punycodeLead.isPrefixOf label then (ofPunycode? label).map (·, label)
  else some (label, label)

/-! ## Names -/

/-- The bytes of a text with its escapes undone. -/
def unescaped : List Char → List UInt8
  | [] => []
  | '%' :: x :: y :: rest =>
    match Text.hexValue? x, Text.hexValue? y with
    | some x, some y => UInt8.ofNat (x * 16 + y) :: unescaped rest
    | _, _ => Text.utf8OfChar '%' ++ unescaped (x :: y :: rest)
  | c :: rest => Text.utf8OfChar c ++ unescaped rest
termination_by cs => cs.length

/-- The domain name that a text stands for, in ASCII. -/
def ofText? (text : List Char) : Option (List Char) := do
  let name ← Text.ofUtf8? (unescaped text)
  let parts ← name.toList.mapM usual?
  let usual := Text.normalize parts.flatten
  if usual.any isForbidden then none
  else
    let labels ← (usual.splitOn '.').mapM label?
    if directionsFit (labels.map Prod.fst) then
      some (['.'].intercalate (labels.map Prod.snd))
    else none

end QueryableApi.Url.Domain
