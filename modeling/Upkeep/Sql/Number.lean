import Upkeep.Database.Record
import Upkeep.Decimal.Notation
import Upkeep.Decimal.Reading

/-!
# Numbers in statements

Whole numbers have eight bytes with a sign; all other numbers are doubles. A text may be read as a number,
and a number is written as a text, a double with up to fifteen digits.

* `Numeral.leading? t`: the number that a text starts with.
* `Double.text x`: a double as a text.
* `Double.whole? x`: the whole number that a double is.
-/

namespace Upkeep.Sql

def leastWhole : Int := -(Nat.pow 2 63 : Nat)

def greatestWhole : Int := (Nat.pow 2 63 : Nat) - 1

def inRange (n : Int) : Bool := decide (leastWhole ≤ n ∧ n ≤ greatestWhole)

/-- The double nearest to a whole number. -/
def realOfInt (n : Int) : Float := Decimal.ofDecimal (decide (n < 0)) n.natAbs 0

/-! ## Doubles -/

namespace Double

/-- The whole part of a double, if it is finite. -/
def truncated? (x : Float) : Option Int :=
  match Decimal.Binary.ofBits x.toBits with
  | .finite negative mantissa exponent =>
    let n : Int := mantissa * Nat.pow 2 exponent / Nat.pow 2 1074
    some (if negative then -n else n)
  | _ => none

/-- The whole number nearest to a double on the way to zero. What is out of range goes to the end of it. -/
def toInt (x : Float) : Int :=
  match truncated? x with
  | some n => max leastWhole (min greatestWhole n)
  | none => if x < 0 then leastWhole else greatestWhole

/-- How a double compares with a whole number. -/
def compareInt (x : Float) (n : Int) : Ordering :=
  match Decimal.Binary.ofBits x.toBits with
  | .finite negative mantissa exponent =>
    let size : Int := mantissa * Nat.pow 2 exponent
    compare (if negative then -size else size) (n * (Nat.pow 2 1074 : Nat))
  | .infinite negative => if negative then .lt else .gt
  | .notANumber => .lt

/-- The whole number that a double is, unless it is at an end of the range. -/
def whole? (x : Float) : Option Int :=
  match truncated? x with
  | some n =>
    if compareInt x n = .eq ∧ leastWhole < n ∧ n < greatestWhole then some n else none
  | none => none

def minus (negative : Bool) : Text := if negative then ['-'] else []

/-- Digits with one more in the last place, and whether that makes a new first place. -/
def raised : Text → Text × Bool
  | [] => ([], true)
  | c :: t =>
    match raised t with
    | (t, true) => if c = '9' then ('0' :: t, true) else (Char.ofNat (c.toNat + 1) :: t, false)
    | (t, false) => (c :: t, false)

/-- Digits cut behind some of them, a half made one more. Whether there is a new first place. -/
def cut (digits : Text) (places : Nat) : Text × Bool :=
  let kept := digits.take places
  if (digits[places]?).any (fun c => decide ('5' ≤ c)) then
    match raised kept with
    | (t, true) => ('1' :: t, true)
    | (t, false) => (t, false)
  else (kept, false)

/-- The digits of a finite double's size without zeros at the end, and where the point stands among them. They
are cut behind some places of all, or of those behind the point if that is asked for, and in any case behind
`most`. -/
def digits (x : Float) (places : Nat) (behindPoint : Bool) (most : Nat) : Text × Int :=
  match Decimal.Binary.ofBits x.toBits with
  | .finite _ mantissa exponent =>
    if mantissa = 0 then (['0'], 1)
    else
      let (v, e) := (Decimal.Extended.rounded mantissa ((exponent : Int) - 1074)).shifted
      let all := Text.ofNat v.floor
      let point := (all.length : Int) + e
      let wanted := if behindPoint then point + places else places
      let (all, point, wanted) : Text × Int × Int :=
        if behindPoint && wanted == 0 && all.head?.any (fun c => decide ('5' ≤ c)) then ('0' :: all, point + 1, 1)
        else (all, point, wanted)
      let (all, point) : Text × Int :=
        if 0 < wanted ∧ (wanted < all.length ∨ most < all.length) then
          let (t, isLonger) := cut all (min wanted.toNat most)
          (t, if isLonger then point + 1 else point)
        else (all, point)
      (Text.dropEndWhile (· == '0') all, point)
  | _ => ([], 0)

def zeros (n : Nat) : Text := List.replicate n '0'

/-- A double's size as a text with up to `places` digits, and at least one of them behind the point. -/
def sizeText (places : Nat) (x : Float) : Text :=
  let (digits, point) := digits x places false 26
  let e := point - 1
  let behindPoint := fun (t : Text) => '.' :: (if t.isEmpty then ['0'] else t)
  if e < -4 ∨ (places : Int) ≤ e then
    let power := Text.ofNat e.natAbs
    digits.take 1 ++ behindPoint (digits.drop 1) ++ 'e' :: (if e < 0 then '-' else '+') ::
      zeros (2 - power.length) ++ power
  else if e < 0 then '0' :: behindPoint (zeros (e.natAbs - 1) ++ digits)
  else
    let all := digits ++ zeros (point.toNat - digits.length)
    all.take point.toNat ++ behindPoint (all.drop point.toNat)

def text (x : Float) : Text :=
  match Decimal.Binary.ofBits x.toBits with
  | .notANumber => []
  | .infinite negative => minus negative ++ "Inf".toList
  | .finite negative mantissa _ => minus (negative && mantissa != 0) ++ sizeText 15 x

end Double

def intText (n : Int) : Text := (if n < 0 then ['-'] else []) ++ Text.ofNat n.natAbs

/-! ## Numerals -/

/-- A number that is written in base ten: `digits * 10 ^ exponent`. -/
structure Numeral where
  isNegative : Bool
  digits : Nat
  exponent : Int
  /-- Whether it has neither a point nor a power. -/
  isWhole : Bool
  /-- What stands behind it. -/
  rest : Text
  deriving Repr

namespace Numeral

/-- Whether a character is passed over around numerals. -/
def isBlank (c : Char) : Bool := c == ' ' || '\t' ≤ c && c ≤ '\r'

/-- The digits that a text starts with, and the rest. -/
def span (t : Text) : Text × Text := (t.takeWhile Char.isDigit, t.dropWhile Char.isDigit)

def value (digits : Text) : Nat := digits.foldl (fun n c => 10 * n + (c.toNat - 48)) 0

/-- The power that a text starts with, and the rest. -/
def power? : Text → Option (Int × Text)
  | e :: t =>
    if e.toLower ≠ 'e' then none
    else
      let (isNegative, t) := match t with
        | '-' :: t => (true, t)
        | '+' :: t => (false, t)
        | t => (false, t)
      let (digits, rest) := span t
      if digits.isEmpty then none
      else some (if isNegative then -(value digits : Int) else value digits, rest)
  | [] => none

/-- The number that a text starts with, behind blanks. -/
def leading? (t : Text) : Option Numeral :=
  let t := t.dropWhile isBlank
  let (isNegative, t) := match t with
    | '-' :: t => (true, t)
    | '+' :: t => (false, t)
    | t => (false, t)
  let (whole, rest) := span t
  let (fraction, rest', hasPoint) := match rest with
    | '.' :: r => let (f, r) := span r; (f, r, true)
    | r => ([], r, false)
  if whole.isEmpty ∧ fraction.isEmpty then none
  else
    let digits := value (whole ++ fraction)
    match power? rest' with
    | some (e, rest'') => some ⟨isNegative, digits, e - fraction.length, false, rest''⟩
    | none => some ⟨isNegative, digits, -(fraction.length : Int), !hasPoint, rest'⟩

/-- The whole number of a numeral without point and power. -/
def int (n : Numeral) : Int := if n.isNegative then -(n.digits : Int) else n.digits

/-- The first digits of a number as far as they make a number of 64 bits, and how many are left out. -/
def significant (digits : Nat) : Nat × Nat :=
  (Text.ofNat digits).foldl (fun (n, dropped) c =>
    if n < 1844674407370955160 then (10 * n + (c.toNat - 48), dropped) else (n, dropped + 1)) (0, 0)

/-- A number with powers of ten taken into it as long as it has 64 bits. -/
def widened : Nat → Nat → Int → Nat × Int
  | 0, n, e => (n, e)
  | k + 1, n, e => if 0 < e ∧ n < 1844674407370955161 then widened k (10 * n) (e - 1) else (n, e)

/-- A number with powers of ten taken out of it that are in it. -/
def narrowed : Nat → Nat → Int → Nat × Int
  | 0, n, e => (n, e)
  | k + 1, n, e => if e < 0 ∧ n % 10 = 0 then narrowed k (n / 10) (e + 1) else (n, e)

/-- The double of a numeral: its digits as a number of 64 bits, multiplied by powers of ten. -/
def real (n : Numeral) : Float :=
  let (s, dropped) := significant n.digits
  if s = 0 then Decimal.ofBinary n.isNegative 0 0
  else
    let (s, e) := widened 20 s (n.exponent + dropped)
    let (s, e) := narrowed 20 s e
    let x := if e = 0 then Decimal.ofBinary n.isNegative s 0
      else (Decimal.Extended.ofDecimal s (max (-20000) (min 20000 e))).toFloat n.isNegative
    x

def whole? (t : Text) : Option Numeral := (leading? t).filter fun n => n.rest.all isBlank

/-- The whole number that a text starts with. What is out of range goes to the end of it. -/
def leadingInt (t : Text) : Int :=
  let t := t.dropWhile isBlank
  let (isNegative, t) := match t with
    | '-' :: t => (true, t)
    | '+' :: t => (false, t)
    | t => (false, t)
  let n := value (span t).1
  max leastWhole (min greatestWhole (if isNegative then -(n : Int) else n))

end Numeral
end Upkeep.Sql
