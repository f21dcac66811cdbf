import Upkeep.Text.Basic

/-!
# Bytes of a text

Files and streams hold bytes. `ofBytes?` reads bytes that are UTF-8 throughout and `toBytes` writes
them, so that `ofBytes? (toBytes t) = some t` (`ofBytes?_toBytes`). `ofBytesLossy` reads any bytes: a
stretch that begins a code point and does not end it becomes one replacement character.
-/

namespace Upkeep.Text

def ofBytes? (bytes : ByteArray) : Option Text := (String.fromUTF8? bytes).map String.toList

def toBytes (t : Text) : ByteArray := (String.ofList t).toUTF8

theorem fromUTF8?_toUTF8 (s : String) : String.fromUTF8? s.toUTF8 = some s := by
  obtain ⟨bytes, h⟩ := s
  exact dif_pos h

theorem ofBytes?_toBytes (t : Text) : ofBytes? (toBytes t) = some t := by
  rw [ofBytes?, toBytes, fromUTF8?_toUTF8, Option.map_some, String.toList_ofList]

theorem ofBytes?_eq_some_iff {bytes : ByteArray} {t : Text} : ofBytes? bytes = some t ↔ bytes = toBytes t := by
  refine ⟨fun h => ?_, fun h => h ▸ ofBytes?_toBytes t⟩
  obtain ⟨s, hs, rfl⟩ := Option.map_eq_some_iff.mp h
  unfold String.fromUTF8? at hs
  split at hs
  · rw [← Option.some.inj hs, toBytes, String.ofList_toList]
    rfl
  · cases hs

/-- The character that stands for bytes which are no code point. -/
def replacement : Char := '\uFFFD'

/-- A code point of which some bytes have been read: the bits so far, the number of bytes to come,
and the range of the next one. -/
structure Pending where
  bits : Nat
  missing : Nat
  low : Nat
  high : Nat

namespace Pending

/-- What a byte begins: a character of its own, a longer code point, or nothing. -/
def start (b : Nat) : Text × Option Pending :=
  if b < 0x80 then ([Char.ofNat b], none)
  else if 0xC2 ≤ b ∧ b ≤ 0xDF then ([], some ⟨b - 0xC0, 1, 0x80, 0xBF⟩)
  else if b = 0xE0 then ([], some ⟨0, 2, 0xA0, 0xBF⟩)
  else if b = 0xED then ([], some ⟨0xD, 2, 0x80, 0x9F⟩)
  else if 0xE1 ≤ b ∧ b ≤ 0xEF then ([], some ⟨b - 0xE0, 2, 0x80, 0xBF⟩)
  else if b = 0xF0 then ([], some ⟨0, 3, 0x90, 0xBF⟩)
  else if 0xF1 ≤ b ∧ b ≤ 0xF3 then ([], some ⟨b - 0xF0, 3, 0x80, 0xBF⟩)
  else if b = 0xF4 then ([], some ⟨4, 3, 0x80, 0x8F⟩)
  else ([replacement], none)

/-- The effect of one more byte: what is written, and what is pending after it. -/
def step (p : Option Pending) (b : Nat) : Text × Option Pending :=
  match p with
  | none => start b
  | some ⟨bits, missing, low, high⟩ =>
    if low ≤ b ∧ b ≤ high then
      let bits := 64 * bits + (b - 0x80)
      if missing ≤ 1 then ([Char.ofNat bits], none) else ([], some ⟨bits, missing - 1, 0x80, 0xBF⟩)
    else
      let (t, next) := start b
      (replacement :: t, next)

/-- The text of bytes that follow a pending code point. -/
def finish (p : Option Pending) : List UInt8 → Text
  | [] => if p.isSome then [replacement] else []
  | b :: bytes =>
    let (t, next) := step p b.toNat
    t ++ finish next bytes

end Pending

def ofBytesLossy (bytes : ByteArray) : Text := Pending.finish none bytes.toList

/-- A stretch of bytes that is no code point. Without a length the end of the bytes cuts it. -/
structure Stretch where
  start : Nat
  length : Option Nat
  deriving DecidableEq, Repr

def Stretch.message (s : Stretch) : Text :=
  (match s.length with
  | some n => "invalid utf-8 sequence of ".toList ++ ofNat n ++ " bytes".toList
  | none => "incomplete utf-8 byte sequence".toList) ++ " from index ".toList ++ ofNat s.start

/-- The first stretch that is no code point in the bytes from a place on, when a code point that began at
`start` may be pending. -/
def Pending.stretch? (place start : Nat) (p : Option Pending) : List UInt8 → Option Stretch
  | [] => if p.isSome then some ⟨start, none⟩ else none
  | b :: bytes =>
    let (t, next) := step p b.toNat
    match p with
    | none => if t = [replacement] then some ⟨place, some 1⟩ else stretch? (place + 1) place next bytes
    | some q =>
      if q.low ≤ b.toNat ∧ b.toNat ≤ q.high then stretch? (place + 1) start next bytes
      else some ⟨start, some (place - start)⟩

/-- The first stretch that is no code point in some bytes. -/
def stretch? (bytes : List UInt8) : Option Stretch := Pending.stretch? 0 0 none bytes

end Upkeep.Text
