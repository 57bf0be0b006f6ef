import QueryableApi.Text.Hexadecimal

/-! # Tables of characters

A set of characters is listed as ascending ranges of code points, or as ascending strides where every
second code point belongs to the set.

The longest tables are written as texts (`words`), with all numbers in hexadecimal. A word is a code point
or a range, as in `41` or `41-5A`. In a mapping an equals sign and what the first code point of the range
stands for follow, as in `DF=73+73`.
-/

namespace QueryableApi.Text.Table

/-- Ascending ranges: the first and the last code point of each. -/
abbrev Ranges := List (Nat × Nat)

/-- Whether a code point lies in one of the ranges. -/
def Ranges.has (rs : Ranges) (n : Nat) : Bool := rs.any fun (first, last) => first ≤ n && n ≤ last

/-- Ascending strides: the first and the last code point of each, and the step between members. -/
abbrev Strides := List (Nat × Nat × Nat)

/-- Whether a code point belongs to one of the strides. -/
def Strides.has (ss : Strides) (n : Nat) : Bool :=
  ss.any fun (first, last, step) => first ≤ n && n ≤ last && (n - first) % step == 0

/-- Ascending ranges of code points, and what the first one of each stands for. The code points of a longer
range stand for single ones at the same distance. -/
abbrev Mapping := List ((Nat × Nat) × List Nat)

/-- What a code point stands for, if it is listed. -/
def Mapping.get? (m : Mapping) (n : Nat) : Option (List Nat) :=
  (m.find? fun e => e.1.1 ≤ n && n ≤ e.1.2).map fun e => e.2.map (· + (n - e.1.1))

/-! ## Written tables -/

/-- The words of a written table. -/
def words (table : String) : List (List Char) :=
  (table.toList.splitOnP fun c => c == ' ' || c == '\n').filter fun word => !word.isEmpty

/-- The number that hexadecimal digits denote. -/
def numberOf (digits : List Char) : Nat :=
  digits.foldl (fun n c => n * 16 + (hexValue? c).getD 0) 0

/-- The range that a word is. -/
def rangeOf (word : List Char) : Nat × Nat :=
  let numbers := (word.splitOn '-').map numberOf
  (numbers.headD 0, numbers.getLastD 0)

/-- The ranges of a written table. -/
def Ranges.ofText (table : String) : Ranges := (words table).map rangeOf

/-- The mapping of a written table. -/
def Mapping.ofText (table : String) : Mapping :=
  (words table).map fun word =>
    let range := word.takeWhile (· != '=')
    (rangeOf range, ((word.drop (range.length + 1)).splitOn '+').map numberOf)

end QueryableApi.Text.Table
