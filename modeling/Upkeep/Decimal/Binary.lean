import Upkeep.Text.Basic

/-!
# Binary floating point numbers

A finite double is a sign and `mantissa * 2 ^ (exponent - 1074)`.

A double is written with the fewest digits that read back as the same double, and of those with the
nearest, a tie going to the even last digit: in positional notation with at least one digit behind the
point from `10 ^ (-5)` up to but not including `10 ^ 16`, and with a signed exponent outside of that.

A number of the grid `10 ^ k` reads back when it lies between the two midpoints to the neighbouring
doubles (`Rounding.contains`); the coarsest grid with such a number is taken. All lengths are counted in
units of a quarter of the double's last place, over a common denominator, so that they are exact.
-/

namespace Upkeep.Decimal

/-! ## Numbers taken apart -/

/-- A double: `mantissa * 2 ^ (exponent - 1074)`, an infinity, or no number. -/
inductive Binary where
  | finite (negative : Bool) (mantissa exponent : Nat)
  | infinite (negative : Bool)
  | notANumber

/-- The parts of a double with the given bits. -/
def Binary.ofBits (bits : UInt64) : Binary :=
  let n := bits.toNat
  let negative := decide (Nat.pow 2 63 ≤ n)
  let field := n / Nat.pow 2 52 % Nat.pow 2 11
  let fraction := n % Nat.pow 2 52
  if field = 2047 then if fraction = 0 then .infinite negative else .notANumber
  else if field = 0 then .finite negative fraction 0
  else .finite negative (fraction + Nat.pow 2 52) (field - 1)

/-- `n / d` rounded to the nearest natural number, a half to the even one. -/
def roundDiv (n d : Nat) : Nat :=
  let q := n / d
  let r := n % d
  if 2 * r < d then q else if d < 2 * r then q + 1 else q + q % 2

theorem roundDiv_bounds {n d : Nat} (h : 0 < d) :
    2 * n ≤ 2 * d * roundDiv n d + d ∧ 2 * d * roundDiv n d ≤ 2 * n + d := by
  have hd := Nat.div_add_mod n d
  have hm := Nat.mod_lt n h
  have e1 : 2 * d * (n / d) = 2 * (d * (n / d)) := by rw [Nat.mul_assoc]
  have e2 : 2 * d * (n / d + 1) = 2 * (d * (n / d)) + 2 * d := by rw [Nat.mul_add, e1]; omega
  unfold roundDiv
  simp only
  split
  · omega
  · split
    · omega
    · rcases Nat.mod_two_eq_zero_or_one (n / d) with h2 | h2 <;> rw [h2]
      · rw [Nat.add_zero]; omega
      · omega

/-! ## Shortest decimal writing -/

/-- A positive double as exact fractions over one denominator: the value, and the ends of the
interval of reals that round to it, which belong to it when the mantissa is even. -/
structure Rounding where
  value : Nat
  low : Nat
  high : Nat
  denominator : Nat
  closed : Bool

/-- The interval of the double `mantissa * 2 ^ (exponent - 1074)`. The double below a power of two is
only half as far away. -/
def Rounding.ofParts (mantissa exponent : Nat) : Rounding :=
  let ulp := Nat.pow 2 exponent
  let below := if mantissa = Nat.pow 2 52 ∧ 0 < exponent then ulp else 2 * ulp
  { value := 4 * mantissa * ulp
    low := 4 * mantissa * ulp - below
    high := 4 * mantissa * ulp + 2 * ulp
    denominator := 4 * Nat.pow 2 1074
    closed := mantissa % 2 = 0 }

/-- Whether `n * 10 ^ up / 10 ^ down` lies in the interval. -/
def Rounding.contains (r : Rounding) (up down n : Nat) : Bool :=
  let x := n * Nat.pow 10 up * r.denominator
  let low := r.low * Nat.pow 10 down
  let high := r.high * Nat.pow 10 down
  if r.closed then decide (low ≤ x ∧ x ≤ high) else decide (low < x ∧ x < high)

/-- The number of the grid `10 ^ up / 10 ^ down` nearest to the value among those in the interval, the
even one of two that are equally near. -/
def Rounding.nearest? (r : Rounding) (up down : Nat) : Option Nat :=
  let num := r.value * Nat.pow 10 down
  let den := r.denominator * Nat.pow 10 up
  let below := num / den
  let inBelow := r.contains up down below
  let inAbove := r.contains up down (below + 1)
  if inBelow && inAbove then some (roundDiv num den)
  else if inBelow then some below
  else if inAbove then some (below + 1)
  else none

/-- The first grid with a number in the interval, from `10 ^ up` down to one and then through the
negative powers, as the number and the two exponents of its grid. -/
def Rounding.shortest (r : Rounding) : Nat → Nat → Nat → Nat × Nat × Nat
  | 0, up, down => (r.value * Nat.pow 10 down / (r.denominator * Nat.pow 10 up), up, down)
  | fuel + 1, up, down =>
    match r.nearest? up down with
    | some n => (n, up, down)
    | none =>
      match up with
      | 0 => r.shortest fuel 0 (down + 1)
      | up + 1 => r.shortest fuel up 0

/-- `n / 10 ^ places` with at least one digit on both sides of the point. -/
def positional (n places : Nat) : Text :=
  let digits := Text.ofNat n
  let digits := List.replicate (places + 1 - digits.length) '0' ++ digits
  let whole := digits.take (digits.length - places)
  let fraction := digits.drop (digits.length - places)
  whole ++ '.' :: (if fraction.isEmpty then ['0'] else fraction)

/-- The digits of `n` with the point behind the first one, and an exponent with its sign. -/
def scientific (n : Nat) (exponent : Int) : Text :=
  let digits := Text.ofNat n
  let sign := if exponent < 0 then '-' else '+'
  digits.take 1 ++ (if digits.length = 1 then [] else '.' :: digits.drop 1) ++
    'e' :: sign :: Text.ofNat exponent.natAbs

/-- The number `n * 10 ^ up / 10 ^ down`, positional if its first digit stands no further than five
places behind the point and no further than sixteen before it. -/
def written (n up down : Nat) : Text :=
  let places : Int := (Text.ofNat n).length + up - down
  if -5 < places ∧ places ≤ 16 then positional (n * Nat.pow 10 up) down else scientific n (places - 1)

/-- A double in the fewest digits. -/
def shortest (x : Float) : Text :=
  let sign := fun negative : Bool => if negative then ['-'] else []
  match Binary.ofBits x.toBits with
  | .notANumber => "NaN".toList
  | .infinite negative => sign negative ++ "inf".toList
  | .finite negative mantissa exponent =>
    if mantissa = 0 then sign negative ++ "0.0".toList
    else
      let (n, up, down) := (Rounding.ofParts mantissa exponent).shortest 660 310 0
      sign negative ++ written n up down

end Upkeep.Decimal
