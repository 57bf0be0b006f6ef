/-! # Punycode

A label of a domain name with characters beyond ASCII is written in ASCII: first its ASCII characters, then
a hyphen, then where each of the others goes. The others are inserted in the order of their numbers, and
the distance from one insertion to the next is a number in a variable-length base 36, whose digits are
weighted by a bias that follows the distances seen so far.
-/

namespace QueryableApi.Url.Punycode

/-- The character of a digit below 36. -/
def digitChar (digit : Nat) : Char :=
  if digit < 26 then Char.ofNat (0x61 + digit) else Char.ofNat (0x30 + digit - 26)

/-- The digit that a character stands for. -/
def digit? (c : Char) : Option Nat :=
  if 'a' ≤ c ∧ c ≤ 'z' then some (c.toNat - 0x61)
  else if 'A' ≤ c ∧ c ≤ 'Z' then some (c.toNat - 0x41)
  else if '0' ≤ c ∧ c ≤ '9' then some (c.toNat - 0x30 + 26)
  else none

/-- The least digit at a place that is not the last one. -/
def threshold (place bias : Nat) : Nat := min 26 (max 1 (place - bias))

/-- A distance divided until it is small, and how often that took, in units of 36. -/
def reduce (distance : Nat) : Nat × Nat :=
  if 455 < distance then
    let (small, places) := reduce (distance / 35)
    (small, places + 36)
  else (distance, 0)
termination_by distance

/-- The bias after a distance, which is the first one or not, to the so-manieth character. -/
def adapt (distance count : Nat) (first : Bool) : Nat :=
  let scaled := if first then distance / 700 else distance / 2
  let (small, places) := reduce (scaled + scaled / count)
  places + 36 * small / (small + 38)

/-- The first character that is not written as it is. -/
def firstCode : Nat := 0x80

/-- The bias at the start. -/
def firstBias : Nat := 72

/-- The place of the first digit of a distance. -/
def firstPlace : Nat := 36

/-! ## Writing -/

/-- The digits of a distance, from a place on. -/
def digits (bias place distance : Nat) : List Char :=
  let t := threshold place bias
  if distance < t then [digitChar distance]
  else
    digitChar (t + (distance - t) % (36 - t)) :: digits bias (place + 36) ((distance - t) / (36 - t))
termination_by distance
decreasing_by
  have h1 : 1 ≤ threshold place bias := by unfold threshold; omega
  have h2 := Nat.div_le_self (distance - threshold place bias) (36 - threshold place bias)
  omega

/-- What has been written: the text, how many characters it stands for, the bias, and the distance since
the last insertion. -/
structure Progress where
  /-- The text, last character first. -/
  text : List Char
  /-- How many characters it stands for. -/
  count : Nat
  /-- The bias. -/
  bias : Nat := firstBias
  /-- The distance since the last insertion. -/
  distance : Nat := 0

/-- Passes over a character of the label while those with a number are written; `basic` is the number of
ASCII characters. -/
def Progress.pass (basic code : Nat) (p : Progress) (c : Char) : Progress :=
  if c.toNat < code then { p with distance := p.distance + 1 }
  else if c.toNat = code then {
    text := (digits p.bias firstPlace p.distance).reverseAux p.text
    count := p.count + 1
    bias := adapt p.distance (p.count + 1) (p.count == basic)
    distance := 0 }
  else p

/-- Writes the characters with the given numbers, which are increasing; `next` is the least number that is
not dealt with yet. -/
def insertions (label : List Char) (basic : Nat) : Nat → List Nat → Progress → Progress
  | _, [], p => p
  | next, code :: rest, p =>
    let p := { p with distance := p.distance + (code - next) * (p.count + 1) }
    let p := label.foldl (Progress.pass basic code) p
    insertions label basic (code + 1) rest { p with distance := p.distance + 1 }

/-- Numbers in increasing order, each once. -/
def increasing (codes : List Nat) : List Nat := codes.eraseDups.mergeSort (· ≤ ·)

/-- A label in ASCII. -/
def encode (label : List Char) : List Char :=
  let isBasic (c : Char) : Bool := c.toNat < firstCode
  let basic := label.filter isBasic
  let codes := increasing ((label.filter fun c => !isBasic c).map Char.toNat)
  let start := if basic.isEmpty then [] else '-' :: basic.reverse
  (insertions label basic.length firstCode codes ⟨start, basic.length, firstBias, 0⟩).text.reverse

/-! ## Reading -/

/-- What distances and weights stay below. -/
def limit : Nat := 1 <<< 32

/-- The distance at the start of a text, and what follows it. -/
def distance? (bias : Nat) : Nat → Nat → List Char → Option (Nat × List Char)
  | _, _, [] => none
  | place, weight, c :: rest => do
    let digit ← digit? c
    let t := threshold place bias
    if digit < t then some (digit * weight, rest)
    else if limit ≤ weight * (36 - t) then none
    else
      let (more, rest) ← distance? bias (place + 36) (weight * (36 - t)) rest
      some (digit * weight + more, rest)

/-- Inserts the characters that a text describes, of which there are at most so many. -/
def inserted? : Nat → List Char → Nat → Nat → Nat → List Char → Option (List Char)
  | _, label, _, _, _, [] => some label
  | 0, _, _, _, _, _ :: _ => none
  | room + 1, label, code, bias, place, text => do
    let (distance, rest) ← distance? bias firstPlace 1 text
    let count := label.length + 1
    let code := code + (place + distance) / count
    let target := (place + distance) % count
    if place + distance < limit && code.isValidChar then
      let label := label.take target ++ Char.ofNat code :: label.drop target
      inserted? room label code (adapt distance count (place == 0)) (target + 1) rest
    else none

/-- The label that a text in ASCII stands for. -/
def decode? (text : List Char) : Option (List Char) :=
  let tail := (text.reverse.takeWhile (· != '-')).reverse
  let basic := text.take (text.length - tail.length - 1)
  if basic.isEmpty && tail.length < text.length then none
  else inserted? text.length basic firstCode firstBias 0 tail

end QueryableApi.Url.Punycode
