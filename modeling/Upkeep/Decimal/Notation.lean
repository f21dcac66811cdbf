import Upkeep.Decimal.Binary
import Upkeep.Text.Basic

/-!
# Doubles with a number of digits

A double is written with as many digits as are asked for. Its exact value is rounded once, a half to the
even last digit.

* `Fraction.fixed places f`: with a number of places behind the point.
* `Fraction.scientific places f`: one digit before the point, and a power of ten.
* `Fraction.hexadecimal places f`: in base sixteen, with a power of two.
* `onePlace x`: a percentage, with one place. The sign of a number below zero stays when it rounds to zero.
-/

namespace Upkeep.Decimal

/-- The size of a finite double: `numerator / 2 ^ 1074`. -/
structure Fraction where
  numerator : Nat
  deriving DecidableEq, Repr

namespace Fraction

/-- The size `mantissa * 2 ^ (exponent - 1074)`. -/
def ofParts (mantissa exponent : Nat) : Fraction := ⟨mantissa * Nat.pow 2 exponent⟩

def unit : Nat := Nat.pow 2 1074

/-- The whole number nearest to the size times `10 ^ places`. -/
def scaled (f : Fraction) (places : Int) : Nat :=
  roundDiv (f.numerator * Nat.pow 10 places.toNat) (unit * Nat.pow 10 (-places).toNat)

/-- The digits before the point and those behind it. -/
def fixed (places : Nat) (f : Fraction) : Text × Text :=
  let digits := Text.ofNat (f.scaled places)
  let digits := List.replicate (places + 1 - digits.length) '0' ++ digits
  (digits.take (digits.length - places), digits.drop (digits.length - places))

/-- The greatest `k` with `10 ^ k` at most the size, which is not zero. -/
def order (f : Fraction) : Int :=
  let whole := f.numerator / unit
  if whole ≠ 0 then ((Text.ofNat whole).length : Int) - 1
  else
    let more := (Text.ofNat (f.numerator * Nat.pow 10 400 / unit)).length
    (more : Int) - 1 - 400

/-- The first digit and `places` more of them as a number, and the power of ten of the first one. -/
def leading (places : Nat) (f : Fraction) : Nat × Int :=
  if f.numerator = 0 then (0, 0)
  else
    let k := f.order
    let n := f.scaled (places - k)
    if n = Nat.pow 10 (places + 1) then (Nat.pow 10 places, k + 1) else (n, k)

/-- The digits of `leading`: the first one, the others, and the power of ten. -/
def scientific (places : Nat) (f : Fraction) : Text × Text × Int :=
  let (n, k) := f.leading places
  let digits := Text.ofNat n
  let digits := digits ++ List.replicate (places + 1 - digits.length) '0'
  (digits.take 1, digits.drop 1, k)

end Fraction

/-- The digits of a number in base sixteen, with zeros in front. -/
def hexDigits (count n : Nat) : Text :=
  let digits := Nat.toDigits 16 n
  List.replicate (count - digits.length) '0' ++ digits

/-- A double in base sixteen: the digit before the point, those behind it, and the power of two. Without a
number of places there are as many as the double needs. -/
def hexadecimal (places : Option Nat) (mantissa exponent : Nat) : Text × Text × Int :=
  let power : Int := if mantissa = 0 then 0 else (exponent : Int) - 1074 + 52
  let show_ := fun (count n : Nat) =>
    (Nat.toDigits 16 (n / Nat.pow 16 count),
      if count = 0 then [] else hexDigits count (n % Nat.pow 16 count), power)
  match places with
  | some p =>
    if p < 13 then show_ p (roundDiv mantissa (Nat.pow 16 (13 - p)))
    else
      let (whole, behind, power) := show_ 13 mantissa
      (whole, behind ++ List.replicate (p - 13) '0', power)
  | none =>
    let (whole, behind, power) := show_ 13 mantissa
    (whole, Text.dropEndWhile (· == '0') behind, power)

/-! ## One place -/

/-- The tenths nearest to `mantissa * 2 ^ (exponent - 1074)`. -/
def tenths (mantissa exponent : Nat) : Nat :=
  roundDiv (10 * mantissa * Nat.pow 2 exponent) (Nat.pow 2 1074)

def onePlace (x : Float) : Text :=
  let sign := fun negative : Bool => if negative then ['-'] else []
  match Binary.ofBits x.toBits with
  | .notANumber => "NaN".toList
  | .infinite negative => sign negative ++ "inf".toList
  | .finite negative mantissa exponent =>
    let n := tenths mantissa exponent
    sign negative ++ Text.ofNat (n / 10) ++ '.' :: Text.ofNat (n % 10)

end Upkeep.Decimal
