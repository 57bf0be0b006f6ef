import QueryableApi.Decimal.Shortest

/-! # Decimal notation

Two notations of a double are written here, and both keep a decimal point in a whole number.

* JSON notation (`jsonLayout`): the shortest digits, positional from `1e-5` up to `1e16` and with a
  signed exponent outside.
* Plain notation (`Double.plainText`): always positional. A whole number has all its digits, any other
  number its shortest ones; the values that are no numbers are `inf`, `-inf` and `NaN`.
-/

namespace QueryableApi

namespace Decimal

/-- The digits of a whole number. -/
def digits (n : Nat) : String := String.ofList (Nat.toDigits 10 n)

/-- A run of zeros. -/
def zeros (n : Nat) : String := String.ofList (List.replicate n '0')

/-- Positional notation with at least one digit on each side of the point. -/
def positional (d : Decimal) : String :=
  let ds := Nat.toDigits 10 d.coefficient
  let places := (-d.exponent).toNat
  if 0 ≤ d.exponent then String.ofList ds ++ zeros d.exponent.toNat ++ ".0"
  else if places < ds.length then
    String.ofList (ds.take (ds.length - places)) ++ "." ++ String.ofList (ds.drop (ds.length - places))
  else "0." ++ zeros (places - ds.length) ++ String.ofList ds

/-- The power of ten of the first digit. -/
def leadingExponent (d : Decimal) : Int :=
  d.exponent + (Nat.toDigits 10 d.coefficient).length - 1

/-- One digit before the point, and a signed exponent. -/
def scientific (d : Decimal) : String :=
  let e := d.leadingExponent
  let mantissa := match Nat.toDigits 10 d.coefficient with
    | first :: second :: rest => String.ofList (first :: '.' :: second :: rest)
    | ds => String.ofList ds
  mantissa ++ "e" ++ (if e < 0 then "-" else "+") ++ digits e.natAbs

/-- When a notation is positional and which of two equally near decimals it takes. -/
structure Layout where
  /-- The smallest power of the first digit that is written positionally. -/
  least : Int
  /-- The largest power of the first digit that is written positionally. -/
  greatest : Int
  /-- The choice between equally near decimals. -/
  tie : Tie

/-- The text of a finite double. -/
def Layout.text (l : Layout) (x : Double.Finite) : String :=
  let sign := if x.negative then "-" else ""
  if x.isZero then sign ++ "0.0"
  else
    let d := shortest l.tie x.rank
    let e := d.leadingExponent
    sign ++ (if l.least ≤ e && e ≤ l.greatest then d.positional else d.scientific)

/-- JSON numbers are positional from `1e-5` up to `1e16`; ties go to the even digit. -/
def jsonLayout : Layout := ⟨-5, 15, .even⟩

/-- Every power is written positionally; ties go up. -/
def plainLayout : Layout := ⟨-400, 400, .up⟩

end Decimal

/-- The plain notation of a double. -/
def Double.plainText : Double → String
  | .nan => "NaN"
  | .infinite negative => if negative then "-inf" else "inf"
  | .finite x =>
    match x.whole? with
    | some n => (if x.negative then "-" else "") ++ Decimal.digits n.natAbs ++ ".0"
    | none => Decimal.plainLayout.text x

/-- The JSON notation of a finite double. -/
def Double.Finite.jsonText (x : Double.Finite) : String := Decimal.jsonLayout.text x

end QueryableApi
