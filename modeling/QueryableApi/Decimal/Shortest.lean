import QueryableApi.Double

/-! # The shortest decimal of a double

Many decimals round to a given double: those in the interval that reaches half-way to its two
neighbours, the ends included iff its rank is even. `shortest` takes the coarsest power of ten that
has a multiple in that interval, and of the multiples there the one nearest to the double. On every
grid only the two multiples that enclose the double can matter, and the comparison is exact integer
arithmetic.
-/

namespace QueryableApi

/-- The number `coefficient * 10 ^ exponent`. -/
structure Decimal where
  /-- The digits, as one whole number. -/
  coefficient : Nat
  /-- The power of ten that the coefficient counts. -/
  exponent : Int
deriving DecidableEq, Repr

namespace Decimal

/-- Which of two decimals equally near to a double is taken. -/
inductive Tie
  /-- The larger magnitude. -/
  | up
  /-- The one with an even coefficient. -/
  | even
deriving DecidableEq, Repr

/-- The magnitudes that round to a finite magnitude, in half units. -/
structure Interval where
  /-- Twice the lower end. -/
  low : Nat
  /-- Twice the magnitude itself. -/
  mid : Nat
  /-- Twice the upper end. -/
  high : Nat
  /-- Whether the ends belong to it. -/
  closed : Bool
deriving DecidableEq, Repr

/-- The magnitudes that round to the rank. -/
def Interval.ofRank (rank : Nat) : Interval where
  low := Double.unitsOfRank (rank - 1) + Double.unitsOfRank rank
  mid := 2 * Double.unitsOfRank rank
  high := Double.unitsOfRank rank + Double.unitsOfRank (rank + 1)
  closed := rank % 2 == 0

/-- A decimal in half units, as a quotient. -/
def halfUnits (d : Decimal) : Nat × Nat :=
  (d.coefficient * Nat.pow 10 d.exponent.toNat * (2 * Double.unitsPerOne),
    Nat.pow 10 (-d.exponent).toNat)

/-- Whether a decimal is a positive member of an interval. -/
def Interval.has (i : Interval) (d : Decimal) : Bool :=
  let (num, den) := d.halfUnits
  d.coefficient != 0 &&
    if i.closed then i.low * den ≤ num && num ≤ i.high * den
    else i.low * den < num && num < i.high * den

/-- The multiples of `10 ^ exponent` that enclose the middle of an interval. -/
def Interval.neighbours (i : Interval) (exponent : Int) : Decimal × Decimal :=
  let floor := i.mid * Nat.pow 10 (-exponent).toNat
    / (Nat.pow 10 exponent.toNat * (2 * Double.unitsPerOne))
  (⟨floor, exponent⟩, ⟨floor + 1, exponent⟩)

/-- Of two decimals that enclose the middle, whether the lower one is taken. -/
def Interval.prefersLower (i : Interval) (tie : Tie) (lower upper : Decimal) : Bool :=
  let (lowerNum, den) := lower.halfUnits
  let (upperNum, _) := upper.halfUnits
  let below := i.mid * den - lowerNum
  let above := upperNum - i.mid * den
  below < above || (below == above && tie == .even && lower.coefficient % 2 == 0)

/-- The member of an interval on one grid: the nearer neighbour if both belong to it. -/
def Interval.onGrid? (i : Interval) (tie : Tie) (exponent : Int) : Option Decimal :=
  let (lower, upper) := i.neighbours exponent
  match i.has lower, i.has upper with
  | true, true => some (if i.prefersLower tie lower upper then lower else upper)
  | true, false => some lower
  | false, true => some upper
  | false, false => none

/-- A power of ten above the magnitude of a rank. -/
def exponentAbove (rank : Nat) : Int :=
  ((Nat.log2 (Double.unitsOfRank rank) : Int) - 1073) * 30103 / 100000 + 1

/-- The exact decimal of a rank: a unit is `5 ^ 1074 / 10 ^ 1074`. -/
def exact (rank : Nat) : Decimal := ⟨Double.unitsOfRank rank * Nat.pow 5 1074, -1074⟩

/-- The decimal with the fewest digits that rounds to the rank, and the nearest such. -/
def shortest (tie : Tie) (rank : Nat) : Decimal :=
  let i := Interval.ofRank rank
  let grids := (List.range 20).map fun (k : Nat) => exponentAbove rank - (k : Int)
  (grids.findSome? (i.onGrid? tie)).getD (exact rank)

end Decimal

end QueryableApi
