import Upkeep.Decimal.Binary

/-!
# Doubles nearest to fractions

The double nearest to a fraction is found exactly: the fraction is rounded once to the places of the double
that lies next to it, a half to the even last place.

* `nearestBits n d`: the bits of the double nearest to `n / d`.
* `ofDecimal negative n exponent`: the double nearest to `n * 10 ^ exponent`.
* `Extended.ofDecimal n e`, `Extended.shifted x`: numbers between doubles and exact numbers, of 64 binary digits.
-/

namespace Upkeep.Decimal

def infiniteBits : Nat := 2047 * Nat.pow 2 52

/-- The greatest `k` with `2 ^ k ≤ n / d`, for positive numbers. -/
def binaryOrder (n d : Nat) : Int :=
  let k : Int := (Nat.log2 n : Int) - Nat.log2 d
  if n * Nat.pow 2 (-k).toNat < d * Nat.pow 2 k.toNat then k - 1 else k

/-- The bits of the double nearest to `n / d`. What is too large is infinite. -/
def nearestBits (n d : Nat) : Nat :=
  if n = 0 ∨ d = 0 then 0
  else
    let place := max (binaryOrder n d - 52) (-1074)
    let mantissa := roundDiv (n * Nat.pow 2 (-place).toNat) (d * Nat.pow 2 place.toNat)
    min infiniteBits ((place + 1074).toNat * Nat.pow 2 52 + mantissa)

def ofSize (negative : Bool) (size : Nat) : Float :=
  Float.ofBits (UInt64.ofNat (if negative then size + Nat.pow 2 63 else size))

/-- The double nearest to `n * 10 ^ exponent`. Exponents so far out that nothing else can come of them give
zero or the infinite double. -/
def ofDecimal (negative : Bool) (n : Nat) (exponent : Int) : Float :=
  let order := exponent + Nat.log2 n / 3
  ofSize negative <|
    if n = 0 ∨ order < -400 then 0
    else if 400 < exponent then infiniteBits
    else nearestBits (n * Nat.pow 10 exponent.toNat) (Nat.pow 10 (-exponent).toNat)

/-- The double nearest to `n * 2 ^ exponent`. -/
def ofBinary (negative : Bool) (n : Nat) (exponent : Int) : Float :=
  ofSize negative <|
    if n = 0 ∨ exponent + Nat.log2 n < -1200 then 0
    else if 1200 < exponent then infiniteBits
    else nearestBits (n * Nat.pow 2 exponent.toNat) (Nat.pow 2 (-exponent).toNat)

/-!
## Numbers of 64 binary digits

A number between doubles and exact numbers: a whole number below `2 ^ 64` times a power of two. A product is
rounded once, a half to the even neighbour.

* `Extended.ofDecimal n e`: `n * 10 ^ e`, one step for each power of ten that is taken.
* `Extended.shifted x`: a number brought between `10 ^ 17` and `10 ^ 19`, and the power of ten that was taken.
-/

/-- The number `mantissa * 2 ^ exponent`. -/
structure Extended where
  mantissa : Nat
  exponent : Int
  deriving DecidableEq, Repr

namespace Extended

/-- The number nearest to `m * 2 ^ e`. -/
def rounded (m : Nat) (e : Int) : Extended :=
  let more := Nat.log2 m + 1 - 64
  ⟨roundDiv m (Nat.pow 2 more), e + more⟩

def times (a b : Extended) : Extended := rounded (a.mantissa * b.mantissa) (a.exponent + b.exponent)

/-- The number nearest to `1 / d`. -/
def inverse (d : Nat) : Extended :=
  let places := Nat.log2 d + 64
  let n := roundDiv (Nat.pow 2 places) d
  if n < Nat.pow 2 64 then ⟨n, -(places : Int)⟩ else ⟨roundDiv (Nat.pow 2 (places - 1)) d, 1 - (places : Int)⟩

def powerOfTen (e : Int) : Extended :=
  if 0 ≤ e then rounded (Nat.pow 10 e.toNat) 0 else inverse (Nat.pow 10 e.natAbs)

/-- A number multiplied by the same one some times. -/
def timesOften (x by_ : Extended) : Nat → Extended
  | 0 => x
  | n + 1 => timesOften (x.times by_) by_ n

/-- A number with some powers of ten, hundreds of them first. -/
def scaled (x : Extended) (e : Int) : Extended :=
  let sign : Int := if 0 ≤ e then 1 else -1
  let n := e.natAbs
  let x := x.timesOften (powerOfTen (100 * sign)) (n / 100)
  let x := x.timesOften (powerOfTen (10 * sign)) (n % 100 / 10)
  x.timesOften (powerOfTen sign) (n % 10)

/-- The number `n * 10 ^ e`. -/
def ofDecimal (n : Nat) (e : Int) : Extended := (rounded n 0).scaled e

def toFloat (negative : Bool) (x : Extended) : Float := ofBinary negative x.mantissa x.exponent

/-- The whole part of a number. -/
def floor (x : Extended) : Nat :=
  if 0 ≤ x.exponent then x.mantissa * Nat.pow 2 x.exponent.toNat
  else x.mantissa / Nat.pow 2 x.exponent.natAbs

/-- Whether a number is less than a power of ten. -/
def isBelow (x : Extended) (e : Int) : Bool :=
  let p := powerOfTen e
  let low := min x.exponent p.exponent
  decide (x.mantissa * Nat.pow 2 (x.exponent - low).toNat < p.mantissa * Nat.pow 2 (p.exponent - low).toNat)

/-- Multiplies by a power of ten as long as a test says so, at most some times. -/
def move (goesOn : Extended → Bool) (step : Int) : Nat → Extended × Int → Extended × Int
  | 0, x => x
  | n + 1, (x, e) =>
    if goesOn x then move goesOn step n (x.times (powerOfTen step), e - step) else (x, e)

/-- A number brought between `10 ^ 17` and `10 ^ 19`, and the power of ten that it has to be multiplied by. -/
def shifted (x : Extended) : Extended × Int :=
  if !x.isBelow 19 then
    move (!·.isBelow 19) (-1) 20 (move (!·.isBelow 29) (-10) 20 (move (!·.isBelow 119) (-100) 10 (x, 0)))
  else
    move (·.isBelow 17) 1 20 (move (·.isBelow 7) 10 20 (move (·.isBelow (-97)) 100 10 (x, 0)))

end Extended

end Upkeep.Decimal
