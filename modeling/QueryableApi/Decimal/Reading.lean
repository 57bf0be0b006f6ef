import QueryableApi.Double

/-! # Reading decimals

Two ways to turn `coefficient * 10 ^ exponent` into a double. `Double.ofDecimal` rounds the exact
number once. `Double.scaled` is the rule of the JSON reader, which rounds the coefficient, rounds the
power of ten, and rounds their product or quotient; it refuses a number beyond the double range.
-/

namespace QueryableApi.Double

/-- The double nearest to a decimal. Numbers far outside the range are not expanded: the coefficient
lies between the powers `3 / 10` and `1 / 3` of its bit length, above and below. -/
def ofDecimal (negative : Bool) (coefficient : Nat) (exponent : Int) : Double :=
  let bits : Int := Nat.log2 coefficient
  if coefficient = 0 || exponent + (bits + 1) / 3 + 1 < -400 then ofRank negative 0
  else if 400 < exponent + 3 * bits / 10 then .infinite negative
  else
    ofRatio negative (coefficient * Nat.pow 10 exponent.toNat) (Nat.pow 10 (-exponent).toNat)

/-- The double nearest to a power of ten. -/
def powerOfTen (k : Nat) : Double := ofRatio false (Nat.pow 10 k) 1

/-- The largest power of ten that is a finite double. -/
def greatestPower : Nat := 308

/-- A double divided by a power of ten that is in range. -/
def dividedByPower (x : Double) (power : Nat) : Double :=
  match x, powerOfTen power with
  | .finite x, .finite p => x.div p
  | _, _ => .nan

/-- A coefficient of at most 64 bits divided by any power of ten, in steps that stay in range: three
steps always reach zero. -/
def scaledDown (x : Double) (power : Nat) : Double :=
  if power ≤ greatestPower then dividedByPower x power
  else if power ≤ 2 * greatestPower then
    dividedByPower (dividedByPower x greatestPower) (power - greatestPower)
  else ofRank false 0

/-- The magnitude `coefficient * 10 ^ exponent`, rounded at each step; none beyond the range. -/
def scaled? (coefficient : Nat) (exponent : Int) : Option Finite :=
  if exponent < 0 then (scaledDown (ofInt coefficient) exponent.natAbs).finite?
  else if exponent.toNat ≤ greatestPower then
    match ofInt coefficient, powerOfTen exponent.toNat with
    | .finite x, .finite p => (x.mul p).finite?
    | _, _ => none
  else if coefficient = 0 then some .zero
  else none

end QueryableApi.Double
