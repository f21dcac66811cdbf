import Upkeep.Sql.Function.Basic
import Upkeep.Sql.Plan

/-!
# Operators

What operators make of values, and how values compare. A condition may be undecided.

* `BinaryOp.value`: the value of an operator of two values.
* `Comparing.order?`: the order of two values, if both are something.
* `SortKey.notAfter`: the order of rows by several values.
-/

namespace Upkeep.Sql
open Database (Value Encoding)

/-! ## Conditions -/

/-- The value of a condition that may be undecided, turned around if asked for. -/
def decided (isNegated : Bool) (b : Option Bool) : Value := .ofBool? (b.map (· != isNegated))

def both : Option Bool → Option Bool → Option Bool
  | some false, _ => some false
  | _, some false => some false
  | some true, some true => some true
  | _, _ => none

def either (a b : Option Bool) : Option Bool := (both (a.map (!·)) (b.map (!·))).map (!·)

/-! ## Numbers -/

/-- A whole number with its bits moved to the left, or to the right if the places are negative. -/
def shifted (n places : Int) : Int :=
  if 0 ≤ places then
    if 64 ≤ places then 0
    else
      let m := (n * (Nat.pow 2 places.toNat : Nat)) % (Nat.pow 2 64 : Nat)
      if (Nat.pow 2 63 : Nat) ≤ m then m - (Nat.pow 2 64 : Nat) else m
  else if places ≤ -64 then (if n < 0 then -1 else 0)
  else n / (Nat.pow 2 (-places).toNat : Nat)

def wordOf (n : Int) : Nat := (n % (Nat.pow 2 64 : Nat)).toNat

/-- The whole number with some bits. -/
def ofWord (w : Nat) : Int := if Nat.pow 2 63 ≤ w then (w : Int) - (Nat.pow 2 64 : Nat) else w

/-- A result of two numbers: a whole one if both are and it is in range. -/
def arithmetic (onInts : Int → Int → Option Int) (onReals : Float → Float → Float) (v w : Value) : Value :=
  match v.toNumber, w.toNumber with
  | .null, _ => .null
  | _, .null => .null
  | .integer m, .integer n =>
    match (onInts m n).filter inRange with
    | some k => .integer k
    | none => .ofReal (onReals (realOfInt m) (realOfInt n))
  | a, b => .ofReal (onReals a.toReal b.toReal)

/-- Two values behind each other, in a file with an encoding. -/
def joinedTexts (e : Encoding) (v w : Value) : Value :=
  .text <|
    if Function.isBlob v ∨ Function.isBlob w then e.decode (v.writtenBytes e ++ w.writtenBytes e)
    else v.textBytes ++ w.textBytes

/-- The value of an operator, comparisons and conditions apart. -/
def BinaryOp.value (e : Encoding) (op : BinaryOp) (v w : Value) : Value :=
  if v.isNull ∨ w.isNull then .null
  else match op with
    | .plus => arithmetic (fun m n => some (m + n)) (· + ·) v w
    | .minus => arithmetic (fun m n => some (m - n)) (· - ·) v w
    | .times => arithmetic (fun m n => some (m * n)) (· * ·) v w
    | .divide =>
      if w.toNumber.truth? = some false then .null
      else arithmetic (fun m n => some (Int.tdiv m n)) (· / ·) v w
    | .remainder =>
      let n := w.toInt
      if n = 0 then .null
      else
        let k := Int.tmod v.toInt n
        match v.toNumber, w.toNumber with
        | .integer _, .integer _ => .integer k
        | _, _ => .ofReal (realOfInt k)
    | .bitAnd => .integer (ofWord (wordOf v.toInt &&& wordOf w.toInt))
    | .bitOr => .integer (ofWord (wordOf v.toInt ||| wordOf w.toInt))
    | .shiftLeft => .integer (shifted v.toInt w.toInt)
    | .shiftRight => .integer (shifted v.toInt (-w.toInt))
    | .join => joinedTexts e v w
    | _ => .null

/-- A number with its sign turned around. -/
def negated (v : Value) : Value :=
  if v.isNull then .null else arithmetic (fun m n => some (m - n)) (· - ·) (.integer 0) v

def UnaryOp.value (op : UnaryOp) (v : Value) : Value :=
  match op with
  | .keep => v
  | .negate => negated v
  | .invert => if v.isNull then .null else .integer (-(v.toInt) - 1)
  | .not => decided true v.truth?

/-! ## Comparisons -/

/-- Whether an order is one of those that an operator asks for. -/
def BinaryOp.holds : BinaryOp → Ordering → Bool
  | .equal, o => o == .eq
  | .differ, o => o != .eq
  | .less, o => o == .lt
  | .notMore, o => o != .gt
  | .more, o => o == .gt
  | .notLess, o => o != .lt
  | _, _ => false

namespace Comparing

/-- The order of two values, where nothing is the same as nothing. -/
def order (c : Comparing) (e : Encoding) (v w : Value) : Ordering :=
  let (v, w) := Affinity.forComparison c.left c.right v w
  Value.compare c.collation e v w

def order? (c : Comparing) (e : Encoding) (v w : Value) : Option Ordering :=
  if v.isNull || w.isNull then none else some (c.order e v w)

def same? (e : Encoding) (cs : List Comparing) (vs ws : List Value) : Option Bool :=
  ((cs.zip (vs.zip ws)).map fun (c, v, w) => (c.order? e v w).map (· == .eq)).foldl both (some true)

/-- Whether values are the same or both nothing, place by place. -/
def isSame (e : Encoding) (cs : List Comparing) (vs ws : List Value) : Bool :=
  (cs.zip (vs.zip ws)).all fun (c, v, w) => c.order e v w == .eq

/-- Whether values compare as an operator asks for: the first place that differs decides. -/
def holds? (e : Encoding) (op : BinaryOp) : List Comparing → List Value → List Value → Option Bool
  | [c], [v], [w] => (c.order? e v w).map op.holds
  | c :: cs, v :: vs, w :: ws =>
    if op = .equal then same? e (c :: cs) (v :: vs) (w :: ws)
    else if op = .differ then (same? e (c :: cs) (v :: vs) (w :: ws)).map (!·)
    else match c.order? e v w with
      | none => none
      | some .eq => holds? e op cs vs ws
      | some o => some (op.holds o)
  | _, _, _ => none

end Comparing

/-! ## Order -/

def sameValue (e : Encoding) (c : Collation) (v w : Value) : Bool := Value.compare c e v w == .eq

/-- Whether two rows are the same in all columns. Columns without a collation have the plain one. -/
def sameRow (e : Encoding) (cs : List Collation) : List Value → List Value → Bool
  | v :: vs, w :: ws =>
    sameValue e (cs.head?.getD .plain) v w && sameRow e cs.tail vs ws
  | _, _ => true

/-- A value by which rows are put in order. -/
structure SortKey where
  value : Value
  direction : Direction

namespace SortKey

/-- The order of two rows by some values. -/
def compare (e : Encoding) : List SortKey → List SortKey → Ordering
  | a :: as, b :: bs =>
    if a.value.isNull && b.value.isNull then compare e as bs
    else if a.value.isNull then (if a.direction.nullsFirst then .lt else .gt)
    else if b.value.isNull then (if a.direction.nullsFirst then .gt else .lt)
    else match Value.compare a.direction.collation e a.value b.value with
      | .eq => compare e as bs
      | o => if a.direction.isDescending then o.swap else o
  | _, _ => .eq

/-- Whether a row comes before another one or is the same, by some values. -/
def notAfter (e : Encoding) (as bs : List SortKey) : Bool := compare e as bs != .gt

end SortKey

/-- Things with their values, put in order. Those that are the same stay in the order in which they come. -/
def inOrder {α : Type} (e : Encoding) (xs : List (List SortKey × α)) : List (List SortKey × α) :=
  xs.mergeSort fun a b => SortKey.notAfter e a.1 b.1

end Upkeep.Sql
