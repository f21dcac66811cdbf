import Upkeep.Database.Encoding
import Upkeep.Sql.Number
import Upkeep.Sql.Token

/-!
# Values in statements

How values compare, what a column makes of a value that is put into it, and what a value is as a text, a
number or a condition. A text is its bytes.

* `Collation.compare c s t`: the order of two texts.
* `Value.compare c v w`: the order of all values: nothing, numbers, texts, bytes.
* `Affinity.apply a v`: a value as a column with an affinity keeps it.
* `Value.cast a v`: a value that is made one of a kind.
-/

namespace Upkeep.Database.Value
open Sql

/-! ## Texts and numbers as values -/

/-- The value of a double. What is no number is nothing. -/
def ofReal (x : Float) : Value := if x.isNaN then .null else .real (Database.bigEndian 8 x.toBits.toNat)

def realOf (bits : Bytes) : Float := Float.ofBits (UInt64.ofNat (Database.ofBigEndian bits))

/-- The value of a number that may be too large for a whole one. -/
def ofInt (n : Int) : Value := if inRange n then .integer n else ofReal (realOfInt n)

/-- The value of a condition, which may be undecided. -/
def ofBool? : Option Bool → Value
  | none => .null
  | some b => .integer (if b then 1 else 0)

def octets (bytes : Bytes) : Text := bytes.map fun b => Char.ofNat b.toNat

def isNull (v : Value) : Bool := v == .null

def textBytes : Value → Bytes
  | .null => []
  | .integer n => (Text.toBytes (intText n)).toList
  | .real bits => (Text.toBytes (Double.text (realOf bits))).toList
  | .text bytes => bytes
  | .blob bytes => bytes

def chars (v : Value) : Text := Text.ofBytesLossy ⟨(textBytes v).toArray⟩

/-- The number that a value starts with, as a double. -/
def toReal : Value → Float
  | .null => 0
  | .integer n => realOfInt n
  | .real bits => realOf bits
  | .text bytes => ((Numeral.leading? (octets bytes)).map Numeral.real).getD 0
  | .blob bytes => ((Numeral.leading? (octets bytes)).map Numeral.real).getD 0

/-- The whole number that a value starts with. -/
def toInt : Value → Int
  | .null => 0
  | .integer n => n
  | .real bits => Double.toInt (realOf bits)
  | .text bytes => Numeral.leadingInt (octets bytes)
  | .blob bytes => Numeral.leadingInt (octets bytes)

/-- Whether a value holds as a condition. -/
def truth? : Value → Option Bool
  | .null => none
  | .integer n => some (n != 0)
  | v => some (toReal v != 0)

end Upkeep.Database.Value

namespace Upkeep.Sql
open Database (Value Bytes Encoding)

/-! ## Order -/

def compareBytes : Bytes → Bytes → Ordering
  | [], [] => .eq
  | [], _ => .lt
  | _, [] => .gt
  | a :: s, b :: t => if a < b then .lt else if b < a then .gt else compareBytes s t

/-- How texts of a column compare. -/
inductive Collation where
  /-- By the bytes that the file writes for them. -/
  | plain
  /-- Without regard to the case of ASCII letters. -/
  | caseless
  /-- Without regard to blanks at the end. -/
  | trimmed
  deriving DecidableEq, Repr

namespace Collation

def ofName? (name : Text) : Option Collation :=
  [("binary", plain), ("nocase", caseless), ("rtrim", trimmed)].lookup (String.ofList (Text.toLower name))

/-- A byte with the case of ASCII letters taken away. -/
def small (b : UInt8) : UInt8 := if 65 ≤ b ∧ b ≤ 90 then b + 32 else b

/-- The order of two texts in a file with an encoding. -/
def compare (c : Collation) (e : Encoding) (s t : Bytes) : Ordering :=
  match c with
  | plain => compareBytes (e.encode s) (e.encode t)
  | caseless => compareBytes (s.map small) (t.map small)
  | trimmed =>
    let trim := fun (b : Bytes) => (b.reverse.dropWhile (· == 32)).reverse
    compareBytes (trim s) (trim t)

end Collation
end Upkeep.Sql

namespace Upkeep.Database.Value
open Sql

/-- The place of a value's type in the order of values. -/
def typeRank : Value → Nat
  | .null => 0
  | .integer _ => 1
  | .real _ => 1
  | .text _ => 2
  | .blob _ => 3

def compareReal (x y : Float) : Ordering := if x < y then .lt else if y < x then .gt else .eq

/-- The order of two values. -/
def compare (c : Collation) (e : Encoding) (v w : Value) : Ordering :=
  match v, w with
  | .integer m, .integer n => Ord.compare m n
  | .real x, .real y => compareReal (realOf x) (realOf y)
  | .real x, .integer n => Double.compareInt (realOf x) n
  | .integer n, .real x => (Double.compareInt (realOf x) n).swap
  | .text s, .text t => c.compare e s t
  | .blob s, .blob t => compareBytes s t
  | v, w => Ord.compare (typeRank v) (typeRank w)

end Upkeep.Database.Value

namespace Upkeep.Sql
open Database (Value Bytes)

/-! ## Affinities -/

/-- What a column makes of values. -/
inductive Affinity where
  /-- Of an expression that is no column: nothing. -/
  | none
  | blob
  | text
  | numeric
  | integer
  | real
  deriving DecidableEq, Repr

namespace Affinity

/-- The affinity that the words of a type ask for. -/
def ofType (type : Text) : Affinity :=
  let t := Text.toLower type
  let has := fun (w : String) => Text.contains w.toList t
  if has "int" then integer
  else if has "char" || has "clob" || has "text" then text
  else if has "blob" || type.isEmpty then blob
  else if has "real" || has "floa" || has "doub" then real
  else numeric

/-- Whether an affinity turns texts into numbers. -/
def isNumeric : Affinity → Bool
  | numeric => true
  | integer => true
  | real => true
  | _ => false

/-- The number that a numeral is: a whole one if it can be. -/
def ofNumeral (n : Numeral) : Value :=
  if n.isWhole && inRange n.int then .integer n.int
  else match Double.whole? n.real with
    | some k => .integer k
    | .none => Value.ofReal n.real

/-- A value as a column keeps it. Doubles that are whole numbers are kept as such. -/
def apply (a : Affinity) (v : Value) : Value :=
  if a.isNumeric then
    match v with
    | .text bytes => ((Numeral.whole? (Value.octets bytes)).map ofNumeral).getD v
    | .real bits => ((Double.whole? (Value.realOf bits)).map Value.integer).getD v
    | v => v
  else if a = text then
    match v with
    | .integer _ => .text (Value.textBytes v)
    | .real _ => .text (Value.textBytes v)
    | v => v
  else v

def read (a : Affinity) (v : Value) : Value :=
  match a, v with
  | real, .integer n => Value.ofReal (realOfInt n)
  | _, v => v

def keep (a : Affinity) (v : Value) : Value := a.read (a.apply v)

/-- The affinity of a comparison of two sides. -/
def joint (a b : Affinity) : Affinity :=
  if a ≠ .none ∧ b ≠ .none then (if a.isNumeric || b.isNumeric then .numeric else .blob)
  else if a ≠ .none then a else if b ≠ .none then b else .blob

/-- The two values of a comparison, by the affinities of its sides: a number is compared as a text if the other
value is one. -/
def forComparison (a b : Affinity) (v w : Value) : Value × Value :=
  let isText := fun (x : Value) => match x with
    | .text _ => true
    | _ => false
  let both := joint a b
  if both.isNumeric then
    let toNumber := fun (x : Value) => if isText x then numeric.apply x else x
    (toNumber v, toNumber w)
  else if both = text && (isText v || isText w) then (text.apply v, text.apply w)
  else (v, w)

end Affinity

end Upkeep.Sql

namespace Upkeep.Database.Value
open Sql

/-- The bytes of a value as a file with an encoding writes it: those of a text are written in the encoding. -/
def writtenBytes (e : Encoding) : Value → Bytes
  | .blob bytes => bytes
  | v => e.encode (textBytes v)

/-- A value made one of a kind, in a file with an encoding. -/
def cast (e : Encoding) (a : Affinity) (v : Value) : Value :=
  if isNull v then .null
  else match a with
    | .blob => .blob (writtenBytes e v)
    | .none => .blob (writtenBytes e v)
    | .text =>
      match v with
      | .blob bytes => .text (e.decode bytes)
      | v => .text (textBytes v)
    | .integer => .integer (toInt v)
    | .real => ofReal (toReal v)
    | .numeric =>
      match v with
      | .integer n => .integer n
      | .real bits => .real bits
      | v => ((Numeral.leading? (octets (textBytes v))).map Affinity.ofNumeral).getD (.integer 0)

/-- A value as a number: a whole one or a double. -/
def toNumber (v : Value) : Value :=
  match v with
  | .text bytes => ((Numeral.leading? (octets bytes)).map fromNumeral).getD (.integer 0)
  | .blob bytes => ((Numeral.leading? (octets bytes)).map fromNumeral).getD (.integer 0)
  | v => v
where
  fromNumeral (n : Numeral) : Value :=
    if n.isWhole && inRange n.int then .integer n.int else ofReal n.real

def typeWord : Value → Text
  | .null => "null".toList
  | .integer _ => "integer".toList
  | .real _ => "real".toList
  | .text _ => "text".toList
  | .blob _ => "blob".toList

end Upkeep.Database.Value
