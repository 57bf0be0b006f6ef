/-! # Double-precision numbers

A finite double is a sign and the rank of its magnitude among all finite magnitudes. Magnitudes are
measured in units of `2 ^ -1074`, the smallest positive one, so every finite double is a whole number
of units (`Finite.units`) and two doubles denote the same number iff their units agree. Rounding an
exact quotient to the nearest double, ties to the even rank, is integer arithmetic (`ofRatio`); no
machine floating point takes part.
-/

namespace QueryableApi

/-- The number of fractions that go with an exponent, `2 ^ 52`. -/
def Double.fractionCount : Nat := 0x10000000000000

/-- The number of finite magnitudes: 2047 exponents with their fractions. -/
def Double.rankCount : Nat := 2047 * fractionCount

/-- The scale in which every finite double is a whole number. -/
def Double.unitsPerOne : Nat := 1 <<< 1074

/-- A finite double: its sign and the rank of its magnitude. Zero has two signs. -/
structure Double.Finite where
  /-- Whether the sign is minus. -/
  negative : Bool
  /-- How many finite magnitudes are smaller. -/
  rank : Fin Double.rankCount
deriving DecidableEq, Repr

/-- A double-precision number. -/
inductive Double
  /-- A number. -/
  | finite (x : Double.Finite)
  /-- An infinity with its sign. -/
  | infinite (negative : Bool)
  /-- No number. -/
  | nan
deriving DecidableEq, Repr

namespace Double

/-- Zero with the plus sign. -/
def Finite.zero : Finite := ⟨false, ⟨0, by decide⟩⟩

instance : Inhabited Finite := ⟨.zero⟩

instance : Inhabited Double := ⟨.finite default⟩

/-- The units of the magnitude with a given rank: the fraction alone at the least
exponent, then the fraction with its leading one, doubled for each further exponent. -/
def unitsOfRank (rank : Nat) : Nat :=
  if rank < fractionCount then rank
  else (fractionCount + rank % fractionCount) <<< (rank / fractionCount - 1)

/-- The magnitude in units. -/
def Finite.magnitude (x : Finite) : Nat := unitsOfRank x.rank

/-- The number denoted, in units. -/
def Finite.units (x : Finite) : Int := if x.negative then -(x.magnitude : Int) else x.magnitude

/-- The quotient rounded to a whole number, a half to the even neighbour. -/
def roundQuotient (num den : Nat) : Nat :=
  let q := num / den
  let twice := 2 * (num % den)
  if twice < den || (twice == den && q % 2 == 0) then q else q + 1

/-- The rank of the magnitude nearest to `num / den` units, a tie to the even rank. It may exceed
every finite rank. -/
def rankOfUnits (num den : Nat) : Nat :=
  let shift := Nat.log2 (num / den) - 52
  shift * fractionCount + roundQuotient num (den <<< shift)

/-- The double with a sign and a rank; past the last finite magnitude it is infinite. -/
def ofRank (negative : Bool) (rank : Nat) : Double :=
  if h : rank < rankCount then .finite ⟨negative, ⟨rank, h⟩⟩ else .infinite negative

/-- The double nearest to the quotient with the given sign. -/
def ofRatio (negative : Bool) (num den : Nat) : Double :=
  ofRank negative (rankOfUnits (num * unitsPerOne) den)

/-- The double nearest to a whole number. -/
def ofInt (n : Int) : Double := ofRatio (n < 0) n.natAbs 1

/-- The product, rounded. -/
def Finite.mul (x y : Finite) : Double :=
  ofRank (x.negative != y.negative) (rankOfUnits (x.magnitude * y.magnitude) unitsPerOne)

/-- The quotient by a positive double, rounded. -/
def Finite.div (x y : Finite) : Double :=
  ofRank (x.negative != y.negative) (rankOfUnits (x.magnitude * unitsPerOne) y.magnitude)

/-- The number with its sign changed. -/
def neg : Double → Double
  | .finite x => .finite { x with negative := !x.negative }
  | .infinite negative => .infinite (!negative)
  | .nan => .nan

/-- The finite double, if it is one. -/
def finite? : Double → Option Finite
  | .finite x => some x
  | _ => none

/-- The whole number that a finite double denotes, if it denotes one. -/
def Finite.whole? (x : Finite) : Option Int :=
  if x.magnitude % unitsPerOne = 0 then some (x.units / unitsPerOne) else none

/-- Whether the magnitude is zero. -/
def Finite.isZero (x : Finite) : Bool := x.rank.val == 0

/-! ## The 64-bit interchange format -/

/-- The sign bit, above the bits of a rank. -/
def signBit : Nat := 0x8000000000000000

/-- The double with the given bits: a sign, then the rank; the ranks from `rankCount` on are infinity
and the values that are no number. -/
def ofBits (bits : UInt64) : Double :=
  let negative := decide (signBit ≤ bits.toNat)
  let rank := bits.toNat % signBit
  if rank ≤ rankCount then ofRank negative rank else .nan

/-- The bits of a double; a value that is no number has one representative. -/
def toBits : Double → UInt64
  | .finite x => signed x.negative x.rank
  | .infinite negative => signed negative rankCount
  | .nan => UInt64.ofNat (rankCount + fractionCount / 2)
where
  /-- The sign bit above a rank. -/
  signed (negative : Bool) (rank : Nat) : UInt64 :=
    UInt64.ofNat (if negative then signBit + rank else rank)

end Double

end QueryableApi
