import Upkeep.Database.Encoding

/-!
# Records

A row of a table and an entry of an index are records: a head with the length of the head and one code
for each value, and behind it the bytes of the values. A code tells the type of a value and its length.

* `Record.bytes vs`, `Record.ofBytes? bytes`: a row of values as a record.
-/

namespace Upkeep.Database

namespace Value

/-- The number that the bytes of an integer write, the highest bit being its sign. -/
def signed (bytes : Bytes) : Int :=
  let n := ofBigEndian bytes
  let range := Nat.pow 256 bytes.length
  if 2 * n < range then n else (n : Int) - range

def integerLengths : List (Nat × Nat) := [(1, 1), (2, 2), (3, 3), (4, 4), (5, 6), (6, 8)]

/-- Whether an integer has room in some bytes. -/
def fits (n : Int) (length : Nat) : Bool :=
  let half : Int := Nat.pow 2 (8 * length - 1)
  decide (-half ≤ n ∧ n < half)

/-- The code of a value and its bytes. -/
def coded : Value → Nat × Bytes
  | null => (0, [])
  | integer n =>
    if n = 0 then (8, [])
    else if n = 1 then (9, [])
    else
      let (code, length) := (integerLengths.find? fun (_, length) => fits n length).getD (6, 8)
      (code, bigEndian length (n % Nat.pow 256 length).toNat)
  | real bits => (7, bits)
  | text bytes => (2 * bytes.length + 13, bytes)
  | blob bytes => (2 * bytes.length + 12, bytes)

/-- How many bytes belong to a code, if there is such a code. -/
def lengthOf? (code : Nat) : Option Nat :=
  if 12 ≤ code then some ((code - 12) / 2)
  else if code = 0 ∨ code = 8 ∨ code = 9 then some 0
  else if code = 7 then some 8
  else integerLengths.lookup code

/-- The value of a code and its bytes. -/
def ofCoded (code : Nat) (bytes : Bytes) : Value :=
  if 12 ≤ code then (if code % 2 = 0 then blob bytes else text bytes)
  else match code with
    | 0 => null
    | 7 => real bytes
    | 8 => integer 0
    | 9 => integer 1
    | _ => integer (signed bytes)

end Value

def Encoding.encodeValue (e : Encoding) : Value → Value
  | .text bytes => .text (e.encode bytes)
  | v => v

def Encoding.decodeValue (e : Encoding) : Value → Value
  | .text bytes => .text (e.decode bytes)
  | v => v

namespace Record

/-- The length of a head whose codes take `n` bytes. The length is part of it. -/
def headLength (n : Nat) : Nat :=
  ([1, 2, 3].find? fun own => (compact (n + own)).length == own).getD 9 + n

def bytes (vs : List Value) : Bytes :=
  let codes := vs.flatMap fun v => compact v.coded.1
  compact (headLength codes.length) ++ codes ++ vs.flatMap fun v => v.coded.2

def codes? : Nat → Bytes → Option (List Nat)
  | _, [] => some []
  | 0, _ => none
  | room + 1, bytes => do
    let (code, rest) ← readCompact? bytes
    (code :: ·) <$> codes? room rest

/-- The values of some codes at the start of some bytes. -/
def values? : List Nat → Bytes → Option (List Value)
  | [], _ => some []
  | code :: codes, bytes => do
    let length ← Value.lengthOf? code
    if bytes.length < length then none
    else (Value.ofCoded code (bytes.take length) :: ·) <$> values? codes (bytes.drop length)

/-- The values of a record. -/
def ofBytes? (bytes : Bytes) : Option (List Value) := do
  if bytes.isEmpty then some [] else
  let (length, behind) ← readCompact? bytes
  let own := bytes.length - behind.length
  if length < own then some []
  else if bytes.length < length then none
  else values? (← codes? length (behind.take (length - own))) (bytes.drop length)

end Record
end Upkeep.Database
