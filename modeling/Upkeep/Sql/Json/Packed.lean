import Upkeep.Sql.Json.Node

/-!
# Documents as bytes

A document has a short form of bytes: in front of each node stand its type and its size, and behind them how it
is written or what is in it.

* `Json.Node.packed n`: the short form of a document.
* `Json.Node.ofPacked? bytes`: the document with a short form.
-/

namespace Upkeep.Sql.Json
open Database (Value Bytes)

/-- The bytes in front of a node with a type and a size. -/
def front (type size : Nat) : Bytes :=
  if size ≤ 11 then [UInt8.ofNat (16 * size + type)]
  else if size ≤ 0xFF then UInt8.ofNat (12 * 16 + type) :: Database.bigEndian 1 size
  else if size ≤ 0xFFFF then UInt8.ofNat (13 * 16 + type) :: Database.bigEndian 2 size
  else UInt8.ofNat (14 * 16 + type) :: Database.bigEndian 4 size

/-- A node of a type with some bytes in it. -/
def framed (type : Nat) (bytes : Bytes) : Bytes := front type bytes.length ++ bytes

/-- The number of the type of a text that is written in some form. -/
def TextForm.number : TextForm → Nat
  | .plain => 7
  | .escaped => 8
  | .loose => 9
  | .raw => 10

def TextForm.ofNumber? (n : Nat) : Option TextForm :=
  [(7, plain), (8, escaped), (9, loose), (10, raw)].lookup n

def packedText (cs : Text) (form : TextForm) : Bytes := framed form.number (Text.toBytes cs).toList

namespace Node

mutual

/-- The short form of a document. -/
def packed : Node → Bytes
  | null => framed 0 []
  | bool b => framed (if b then 1 else 2) []
  | number w isWhole isLoose =>
    framed ((if isWhole then 3 else 5) + if isLoose then 1 else 0) (Text.toBytes w).toList
  | string cs form => packedText cs form
  | list ns => framed 11 (packedItems ns)
  | object ms => framed 12 (packedMembers ms)

def packedItems : List Node → Bytes
  | [] => []
  | n :: ns => n.packed ++ packedItems ns

def packedMembers : List ((Text × TextForm) × Node) → Bytes
  | [] => []
  | ((k, form), n) :: ms => packedText k form ++ n.packed ++ packedMembers ms

end

/-- The type of the node that bytes start with, what is in it, and what stands behind it. -/
def opened? : Bytes → Option (Nat × Bytes × Bytes)
  | [] => none
  | b :: rest => do
    let size := b.toNat / 16
    let long := fun (n : Nat) =>
      if rest.length < n then none else some (Database.ofBigEndian (rest.take n), rest.drop n)
    let (count, rest) ←
      if size ≤ 11 then some (size, rest)
      else long (Nat.pow 2 (size - 12))
    if rest.length < count then none else some (b.toNat % 16, rest.take count, rest.drop count)

def paired? : List Node → Option (List ((Text × TextForm) × Node))
  | [] => some []
  | string k form :: n :: ns => do return ((k, form), n) :: (← paired? ns)
  | _ => none

mutual

/-- The nodes that bytes are. The number bounds how many steps there are. -/
def unpacked? : Nat → Bytes → Option (List Node)
  | 0, _ => none
  | _, [] => some []
  | fuel + 1, bytes => do
    let (type, own, rest) ← opened? bytes
    return (← ofParts? fuel type own) :: (← unpacked? fuel rest)

/-- The node of a type with some bytes in it. -/
def ofParts? : Nat → Nat → Bytes → Option Node
  | 0, _, _ => none
  | fuel + 1, type, own =>
    let chars := Text.ofBytesLossy ⟨own.toArray⟩
    match type with
    | 0 => if own.isEmpty then some null else none
    | 1 => if own.isEmpty then some (bool true) else none
    | 2 => if own.isEmpty then some (bool false) else none
    | 3 => some (number chars true false)
    | 4 => some (number chars true true)
    | 5 => some (number chars false false)
    | 6 => some (number chars false true)
    | 11 => list <$> unpacked? fuel own
    | 12 => object <$> (unpacked? fuel own).bind paired?
    | n => (TextForm.ofNumber? n).map (string chars)

end

/-- Whether bytes look like a document in its short form. -/
def isPacked (bytes : Bytes) : Bool :=
  (opened? bytes).any fun (type, own, rest) =>
    rest.isEmpty && decide (type ≤ 12) && (decide (2 < type) || own.isEmpty)

/-- The document with a short form. -/
def ofPacked? (bytes : Bytes) : Option Node :=
  match unpacked? (2 * bytes.length + 2) bytes with
  | some [n] => some n
  | _ => none

end Node
end Upkeep.Sql.Json
