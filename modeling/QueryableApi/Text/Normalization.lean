import QueryableApi.Text.Table.CombiningClass
import QueryableApi.Text.Table.Decomposition

/-! # Normalization

Characters that look the same may be written in several ways: a letter with an accent is one code point, or
a letter and a combining mark behind it. `normalize` gives all of them one form, which is form C of Unicode:
each character is taken apart (`decompose`), marks are put in the order of their combining classes
(`arrange`), and what is left is put together again as far as that goes (`compose`).
-/

namespace QueryableApi.Text

/-- The combining class of a code point; it is zero for all that are not marks, and for some that are. -/
def combiningClass (n : Nat) : Nat := ((Table.combining.find? fun e => e.2.has n).map Prod.fst).getD 0

/-! ## Hangul -/

/-- The first of the syllables, which are in the order of their parts. -/
def firstSyllable : Nat := 0xAC00

/-- The first of the 19 leading consonants. -/
def firstLead : Nat := 0x1100

/-- The first of the 21 vowels. -/
def firstVowel : Nat := 0x1161

/-- The code point before the first of the 27 trailing consonants. -/
def beforeTail : Nat := 0x11A7

/-- The place of a code point among so many from a first one on. -/
def placeIn? (first count n : Nat) : Option Nat :=
  if first ≤ n && n < first + count then some (n - first) else none

/-- The place of a code point among the syllables. -/
def syllable? (n : Nat) : Option Nat := placeIn? firstSyllable (19 * 21 * 28) n

/-- The parts of the syllable at a place. -/
def syllableParts (place : Nat) : List Nat :=
  let tail := place % 28
  [firstLead + place / (21 * 28), firstVowel + place / 28 % 21]
    ++ (if tail = 0 then [] else [beforeTail + tail])

/-- The syllable of two parts: a consonant and a vowel, or a syllable without a trailing consonant and such
a consonant. -/
def joinedSyllable? (a b : Nat) : Option Nat :=
  match placeIn? firstLead 19 a, placeIn? firstVowel 21 b, syllable? a,
      placeIn? (beforeTail + 1) 27 b with
  | some lead, some vowel, _, _ => some (firstSyllable + (lead * 21 + vowel) * 28)
  | _, _, some place, some tail => if place % 28 = 0 then some (a + tail + 1) else none
  | _, _, _, _ => none

/-! ## Taking apart -/

/-- The code points that one is made of. -/
def decompose (n : Nat) : List Nat :=
  match syllable? n with
  | some place => syllableParts place
  | none => (Table.decomposition.get? n).getD [n]

/-- Puts a mark before code points, behind the marks of lower classes that they start with. -/
def placeMark (n : Nat) : List Nat → List Nat
  | [] => [n]
  | m :: rest =>
    if 0 < combiningClass m && combiningClass m < combiningClass n then m :: placeMark n rest
    else n :: m :: rest

/-- Puts each run of marks in the order of their classes. -/
def arrange (codes : List Nat) : List Nat := codes.foldr placeMark []

/-! ## Putting together -/

/-- The code point that two are put together to. -/
def joined? (a b : Nat) : Option Nat :=
  match joinedSyllable? a b with
  | some syllable => some syllable
  | none =>
    let parts := decompose a ++ [b]
    (Table.decomposition.find? fun e => e.2 == parts && !Table.uncomposed.has e.1.1).map fun e => e.1.1

/-- Puts code points together with the last one of class zero before them, unless a mark between them of
no lower class is in the way. `passed` holds the marks between them, the last one first. -/
def compose (starter : Nat) (passed : List Nat) : List Nat → List Nat
  | [] => starter :: passed.reverse
  | n :: rest =>
    let isFree := passed.head?.all fun m => combiningClass m < combiningClass n
    match if isFree then joined? starter n else none with
    | some together => compose together passed rest
    | none =>
      if combiningClass n = 0 then starter :: passed.reverse ++ compose n [] rest
      else compose starter (n :: passed) rest

/-- The form of code points that stands for all of the same look. -/
def normalizeCodes (codes : List Nat) : List Nat :=
  let parts := arrange (codes.flatMap decompose)
  let marks := parts.takeWhile fun n => combiningClass n != 0
  match parts.drop marks.length with
  | [] => marks
  | n :: rest => marks ++ compose n [] rest

/-- The form of a text that stands for all of the same look. -/
def normalize (text : List Char) : List Char :=
  (normalizeCodes (text.map Char.toNat)).map Char.ofNat

end QueryableApi.Text
