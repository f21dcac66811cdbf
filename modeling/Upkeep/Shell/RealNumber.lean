import Upkeep.Decimal.Notation
import Upkeep.Decimal.Reading
import Upkeep.Shell.Octets

/-!
# Real numbers in scripts

A word of a script may write a real number, in base ten or sixteen, and a format may ask for one in several
notations.

* `RealNumber.leading? o`: the number at the start of some octets.
* `RealNumber.write kind flags precision x`: the sign of a number and the rest of it in a notation.
-/

namespace Upkeep.Shell.RealNumber

def isLetter (c d : Char) : Bool := d.toLower == c

/-- What stands behind a word at the start of octets, in whatever case. -/
def behind? (word : String) (o : Octets) : Option Octets :=
  let w := word.toList
  if (o.take w.length).map Char.toLower = w then some (o.drop w.length) else none

/-- Digits with a point among them: all digits as a number, how many of them stand behind the point, how many
there are, and the rest. -/
def pointed (base : Nat) (isDigit : Char → Bool) (value : Char → Nat) (o : Octets) :
    Nat × Nat × Nat × Octets :=
  let whole := o.takeWhile isDigit
  let rest := o.drop whole.length
  let (fraction, rest) := match rest with
    | '.' :: t =>
      let f := t.takeWhile isDigit
      if whole.isEmpty && f.isEmpty then ([], rest) else (f, t.drop f.length)
    | _ => ([], rest)
  let digits := whole ++ fraction
  (digits.foldl (fun n c => base * n + value c) 0, fraction.length, digits.length, rest)

/-- The power behind a letter, and the rest. Without digits there is none. -/
def power (letter : Char) (o : Octets) : Int × Octets :=
  match o with
  | c :: t =>
    if isLetter letter c then
      let (isNegative, t) := match t with
        | '-' :: t => (true, t)
        | '+' :: t => (false, t)
        | t => (false, t)
      let digits := t.takeWhile Char.isDigit
      if digits.isEmpty then (0, o)
      else
        let n := Octets.toNat digits
        (if isNegative then -(n : Int) else n, t.drop digits.length)
    else (0, o)
  | [] => (0, o)

/-- A number that was read: its value, whether it went out of range, and the rest. -/
structure Found where
  value : Float
  isOut : Bool
  rest : Octets

/-- The number without a sign at the start of octets. -/
def unsigned? (isNegative : Bool) (o : Octets) : Option Found :=
  let ofWords : Option Found := do
    match behind? "inf" o with
    | some rest =>
      some ⟨Decimal.ofSize isNegative Decimal.infiniteBits, false, (behind? "inity" rest).getD rest⟩
    | none =>
      let rest ← behind? "nan" o
      some ⟨Decimal.ofSize isNegative (Decimal.infiniteBits + Nat.pow 2 51), false, rest⟩
  let isOut := fun (n : Nat) (x : Float) => x.isInf || n != 0 && x.abs < Decimal.ofSize false (Nat.pow 2 52)
  let hex : Option Found := do
    let t ← behind? "0x" o
    let value := fun (c : Char) =>
      if c.isDigit then c.toNat - 48 else c.toLower.toNat - 87
    let isDigit := fun (c : Char) => c.isDigit || 'a' ≤ c.toLower && c.toLower ≤ 'f'
    let (n, places, count, rest) := pointed 16 isDigit value t
    if count = 0 then none
    else
      let (e, rest) := power 'p' rest
      let x := Decimal.ofBinary isNegative n (e - 4 * places)
      some ⟨x, isOut n x, rest⟩
  let decimal : Option Found :=
    let (n, places, count, rest) := pointed 10 Char.isDigit (fun c => c.toNat - 48) o
    if count = 0 then none
    else
      let (e, rest) := power 'e' rest
      let x := Decimal.ofDecimal isNegative n (e - places)
      some ⟨x, isOut n x, rest⟩
  hex.or (decimal.or ofWords)

/-- The number at the start of octets, behind blanks and a sign. -/
def leading? (o : Octets) : Option Found :=
  match o.dropWhile fun c => " \t\n\r\x0b\x0c".toList.contains c with
  | '-' :: t => unsigned? true t
  | '+' :: t => unsigned? false t
  | t => unsigned? false t

/-! ## Notations -/

/-- A power with its sign and at least `least` digits. -/
def exponent (letter : Char) (least : Nat) (e : Int) : Octets :=
  let digits := Text.ofNat e.natAbs
  letter :: (if e < 0 then '-' else '+') :: List.replicate (least - digits.length) '0' ++ digits

/-- Digits around a point, which is left out when there are none behind it unless it is `kept`. -/
def around (isKept : Bool) (whole fraction : Octets) : Octets :=
  if fraction.isEmpty && !isKept then whole else whole ++ '.' :: fraction

/-- The size of a number in one of the notations `f`, `e`, `g` and `a`. -/
def size (kind : Char) (isKept : Bool) (precision : Option Nat) (mantissa exponent' : Nat) : Octets :=
  let f := Decimal.Fraction.ofParts mantissa exponent'
  let places := precision.getD 6
  if kind = 'f' then
    let (whole, fraction) := f.fixed places
    around isKept whole fraction
  else if kind = 'e' then
    let (whole, fraction, e) := f.scientific places
    around isKept whole fraction ++ exponent 'e' 2 e
  else if kind = 'a' then
    let (whole, fraction, e) := Decimal.hexadecimal precision mantissa exponent'
    "0x".toList ++ around isKept whole fraction ++ exponent 'p' 1 e
  else
    let digits := max places 1
    let (whole, fraction, e) := f.scientific (digits - 1)
    let trim := fun (o : Octets) => if isKept then o else Text.dropEndWhile (· == '0') o
    if e < -4 ∨ (digits : Int) ≤ e then around isKept whole (trim fraction) ++ exponent 'e' 2 e
    else
      let (whole, fraction) := f.fixed ((digits : Int) - 1 - e).toNat
      around isKept whole (trim fraction)

/-- The sign of a number, the rest of it in a notation, and whether it has digits. -/
def write (kind : Char) (isKept : Bool) (precision : Option Nat) (x : Float) : Bool × Octets × Bool :=
  let raise := fun (o : Octets) => if kind.isUpper then o.map Char.toUpper else o
  match Decimal.Binary.ofBits x.toBits with
  | .notANumber => (Nat.pow 2 63 ≤ x.toBits.toNat, raise "nan".toList, false)
  | .infinite negative => (negative, raise "inf".toList, false)
  | .finite negative mantissa e => (negative, raise (size kind.toLower isKept precision mantissa e), true)

end Upkeep.Shell.RealNumber
