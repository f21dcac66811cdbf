import Upkeep.Sql.Function.Basic

/-!
# Formats

A format is a text with places in which values are written. Widths count bytes, or characters if the format asks
for it.

* `Format.fill format values`: a format with values in its places.
-/

namespace Upkeep.Sql.Format
open Database (Value Bytes)

/-- How a value is written in a place. -/
structure Place where
  toLeft : Bool
  /-- What stands in front of a number that is not negative. -/
  sign : Option Char
  isAlternate : Bool
  /-- Whether characters are counted, and doubles are written with all their digits. -/
  isWide : Bool
  hasZeros : Bool
  hasCommas : Bool
  width : Nat
  precision : Option Nat

def Place.plain : Place := ⟨false, none, false, false, false, false, 0, none⟩

/-- The first of the values that are left as a whole number, and the others. -/
def takeInt : List Value → Int × List Value
  | [] => (0, [])
  | v :: vs => (v.toInt, vs)

/-- A number that is given as a value, in 32 bits. -/
def wrapped (n : Int) : Int := Int.bmod n (Nat.pow 2 32)

/-- Reads what is said of a place up to the letter of the kind of value. -/
def place : Nat → Place → Text → List Value → Place × Text × List Value
  | 0, p, t, vs => (p, t, vs)
  | _, p, [], vs => (p, [], vs)
  | n + 1, p, c :: t, vs =>
    match c with
    | '-' => place n { p with toLeft := true } t vs
    | '+' => place n { p with sign := some '+' } t vs
    | ' ' => place n { p with sign := some ' ' } t vs
    | '#' => place n { p with isAlternate := true } t vs
    | '!' => place n { p with isWide := true } t vs
    | '0' => place n { p with hasZeros := true } t vs
    | ',' => place n { p with hasCommas := true } t vs
    | 'l' => (p, if t.head? = some 'l' then t.drop 1 else t, vs)
    | '*' =>
      let (w, vs) := takeInt vs
      let w := wrapped w
      let p := { p with width := w.natAbs, toLeft := p.toLeft || decide (w < 0) }
      if t.head? = some '.' ∨ t.head? = some 'l' then place n p t vs else (p, t, vs)
    | '.' =>
      if t.head? = some '*' then
        let (k, vs) := takeInt vs
        ends n { p with precision := some (wrapped k).natAbs } (t.drop 1) vs
      else
        ends n { p with precision := some (Numeral.value (t.takeWhile Char.isDigit)) } (t.dropWhile Char.isDigit) vs
    | c =>
      if c.isDigit then
        let digits := (c :: t).takeWhile Char.isDigit
        let rest := (c :: t).dropWhile Char.isDigit
        let p := { p with width := Numeral.value digits }
        if rest.head? = some '.' ∨ rest.head? = some 'l' then place n p rest vs else (p, rest, vs)
      else (p, c :: t, vs)
where
  ends (n : Nat) (p : Place) (t : Text) (vs : List Value) : Place × Text × List Value :=
    if t.head? = some 'l' then place n p t vs else (p, t, vs)

/-- Digits with a comma before each three of them. -/
def withCommas (digits : Text) : Text :=
  (digits.mapIdx fun i c =>
    if i ≠ 0 ∧ (digits.length - i) % 3 = 0 then [',', c] else [c]).flatten

/-- A whole number, by its sign and its digits, with what stands in front and behind. -/
def whole (p : Place) (sign : Option Char) (mark digits tail : Text) : Text :=
  let taken := if sign.isSome then 1 else 0
  let wanted := if p.hasZeros then max (p.precision.getD 0) (p.width - taken) else p.precision.getD 0
  let digits := Double.zeros (wanted - tail.length - digits.length) ++ digits
  let digits := if p.hasCommas then withCommas digits else digits
  (if p.isAlternate then mark else []) ++ sign.toList ++ digits ++ tail

/-- The letters behind a number that counts places. -/
def ordinal (n : Nat) : Text :=
  let x := n % 10
  if 4 ≤ x ∨ n / 10 % 10 = 1 then "th".toList
  else ((["th", "st", "nd", "rd"][x]?).getD "th").toList

/-- How a double is written. -/
inductive Style where
  | fixed
  | scientific
  | shorter
  deriving DecidableEq

/-- The digits before the point, of which there is at least one. -/
def beforePoint (p : Place) (digits : Text) (e : Int) : Text :=
  if e < 0 then ['0']
  else
    let n := e.toNat + 1
    let all := digits.take n ++ Double.zeros (n - digits.length)
    if p.hasCommas then
      (all.mapIdx fun i c =>
        let left := n - 1 - i
        if left % 3 = 0 ∧ 1 < left then [c, ','] else [c]).flatten
    else all

/-- A double. -/
def real (p : Place) (style : Style) (isCapital : Bool) (x : Float) : Text :=
  let precision := p.precision.getD 6
  let precision := if style = .shorter ∧ precision = 0 then 1 else precision
  let most := if p.isWide then 26 else 16
  let isNegative := decide (x < 0)
  let special := match Decimal.Binary.ofBits x.toBits with
    | .finite .. => none
    | .infinite _ => some (!p.hasZeros)
    | .notANumber => some true
  match special with
  | some true =>
    if x.isNaN then (if p.hasZeros then "null" else "NaN").toList
    else (if isNegative then ['-'] else p.sign.toList) ++ "Inf".toList
  | _ =>
    let (digits, point) : Text × Int :=
      if special.isSome then (['9'], 1000)
      else match style with
        | .fixed => Double.digits x precision true most
        | .shorter => Double.digits x precision false most
        | .scientific => Double.digits x (precision + 1) false most
    let sign := if isNegative then ['-'] else p.sign.toList
    let e := point - 1
    let asPower := style = .scientific || style = .shorter && (decide (e < -4) || decide (precision - 1 < e))
    let places : Nat := match style with
      | .shorter => if asPower then precision - 1 else ((precision : Int) - 1 - e).toNat
      | _ => precision
    let drops := if style = .shorter then !p.isAlternate else p.isWide
    let e2 : Int := if asPower then 0 else e
    let hasPoint := decide (0 < places) || p.isAlternate || p.isWide
    let front := beforePoint p digits e2
    let used := if e2 < 0 then 0 else e2.toNat + 1
    let gap := if e2 < 0 then min places (-(e2 + 1)).toNat else 0
    let rest := places - gap
    let behind := Double.zeros gap ++ (digits.drop used).take rest ++
      Double.zeros (rest - ((digits.drop used).take rest).length)
    let tail : Text :=
      if !hasPoint then []
      else if drops then
        let kept := Text.dropEndWhile (· == '0') behind
        if kept.isEmpty then (if p.isWide then ".0".toList else []) else '.' :: kept
      else '.' :: behind
    let power : Text :=
      if asPower then
        let n := Text.ofNat e.natAbs
        (if isCapital then 'E' else 'e') :: (if e < 0 then '-' else '+') :: Double.zeros (2 - n.length) ++ n
      else []
    let size := front ++ tail ++ power
    let pad := if p.hasZeros && !p.toLeft then p.width - sign.length - size.length else 0
    sign ++ Double.zeros pad ++ size

def goesOn (b : UInt8) : Bool := decide (0x80 ≤ b ∧ b < 0xC0)

def firstChars : Nat → Bytes → Bytes
  | 0, _ => []
  | _, [] => []
  | n + 1, b :: t => b :: t.takeWhile goesOn ++ firstChars n (t.dropWhile goesOn)
termination_by _ t => t.length
decreasing_by
  have := (List.dropWhile_sublist (l := t) goesOn).length_le
  simp only [List.length_cons]
  omega

def shown (p : Place) (t : Bytes) : Bytes :=
  let t := t.takeWhile (· != 0)
  match p.precision with
  | none => t
  | some n => if p.isWide then firstChars n t else t.take n

/-- A text with blanks up to the width of a place. -/
def padded (p : Place) (countsChars : Bool) (t : Bytes) : Bytes :=
  let size := if countsChars then t.countP (!goesOn ·) else t.length
  let pad := List.replicate (p.width - size) (32 : UInt8)
  if p.toLeft then t ++ pad else pad ++ t

def bytesOf (t : Text) : Bytes := (Text.toBytes t).toList

def doubled (mark : Char) (t : Bytes) : Bytes :=
  let m := UInt8.ofNat mark.toNat
  t.flatMap fun b => if b == m then [b, b] else [b]

def unsigned (n : Int) : Nat := (n % (Nat.pow 2 64 : Nat)).toNat

/-- A value in a place, by the letter of its kind. Without a letter that is known nothing more is written. -/
def written? (p : Place) (letter : Char) (vs : List Value) : Option (Bytes × List Value) :=
  let v := vs.head?
  let left := vs.drop 1
  let text := fun (t : Text) => some (padded p false (bytesOf t), left)
  let radix := fun (base : Nat) (mark : String) (isCapital : Bool) =>
    let n := unsigned (takeInt vs).1
    let digits := Nat.toDigits base n
    text (whole { p with hasCommas := false, isAlternate := p.isAlternate && n != 0 } none mark.toList
      (if isCapital then digits.map Char.toUpper else digits) [])
  let signed := fun (isOrdinal : Bool) =>
    let n := (takeInt vs).1
    let sign := if n < 0 then some '-' else p.sign
    text (whole { p with hasCommas := p.hasCommas && !isOrdinal } sign [] (Text.ofNat n.natAbs)
      (if isOrdinal then ordinal n.natAbs else []))
  let double := fun (style : Style) (isCapital : Bool) =>
    text (real p style isCapital ((v.map Value.toReal).getD 0))
  let bytes := (v.map Value.textBytes).getD []
  let quoted := fun (mark : Char) (isWhole : Bool) =>
    let isNothing := v.all Value.isNull
    let all := if isNothing then bytesOf (if isWhole then "NULL" else "(NULL)").toList else bytes
    let inner := doubled mark (shown p all)
    let m := UInt8.ofNat mark.toNat
    some (padded p p.isWide (if isWhole && !isNothing then m :: inner ++ [m] else inner), left)
  match letter with
  | 'd' => signed false
  | 'i' => signed false
  | 'r' => signed true
  | 'u' => text (whole { p with isAlternate := false } none [] (Text.ofNat (unsigned (takeInt vs).1)) [])
  | 'x' => radix 16 "0x" false
  | 'X' => radix 16 "0X" true
  | 'p' => radix 16 "0x" false
  | 'o' => radix 8 "0" false
  | 'f' => double .fixed false
  | 'e' => double .scientific false
  | 'E' => double .scientific true
  | 'g' => double .shorter false
  | 'G' => double .shorter true
  | 'c' =>
    let one := if bytes.isEmpty then [0] else firstChars 1 bytes
    let count := max 1 (p.precision.getD 1)
    let all := (List.replicate count one).flatten
    some (padded { p with width := p.width - (count - 1) + (all.countP (!goesOn ·) - 1) } true all, left)
  | 's' => some (padded p p.isWide (shown p bytes), left)
  | 'z' => some (padded p p.isWide (shown p bytes), left)
  | 'q' => quoted '\'' false
  | 'Q' => quoted '\'' true
  | 'w' => quoted '"' false
  | '%' => some (padded p false [37], vs)
  | _ => none

/-- A format with values in its places, at most so many. -/
def filled : Nat → Text → List Value → Bytes
  | 0, _, _ => []
  | _, [], _ => []
  | n + 1, '%' :: t, vs =>
    match t with
    | [] => [37]
    | t =>
      let (p, rest, vs) := place (t.length + 1) .plain t vs
      match rest with
      | [] => []
      | letter :: rest =>
        match written? p letter vs with
        | some (b, vs) => b ++ filled n rest vs
        | none => []
  | n + 1, c :: t, vs => bytesOf [c] ++ filled n t vs

/-- A format with values in its places. -/
def fill (format : Text) (vs : List Value) : Bytes :=
  let format := format.takeWhile (· ≠ '\x00')
  filled (format.length + 1) format vs

end Upkeep.Sql.Format
