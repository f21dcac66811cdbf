import Upkeep.Text.Utf8

/-!
# Texts of bytes

A shell does not know characters, only bytes. Its texts are kept as texts all of whose characters stand for
the byte with their number, so that the signs of its language can be written as characters.

* `Octets.ofText t`, `Octets.toText o`: the bytes of a text, and the text of bytes.
* `Octets.ofBytes bs`, `Octets.toBytes o`: the same for rows of bytes (`toBytes_ofBytes`).
-/

namespace Upkeep.Shell

/-- A text each of whose characters stands for a byte. -/
abbrev Octets := List Char

namespace Octets

def ofBytes (bytes : List UInt8) : Octets := bytes.map fun b => Char.ofNat b.toNat

def toBytes (o : Octets) : List UInt8 := o.map fun c => UInt8.ofNat c.toNat

theorem toNat_ofNat_of_lt {n : Nat} (h : n < 256) : (Char.ofNat n).toNat = n := by
  have hv : n.isValidChar := by left; omega
  rw [Char.ofNat, dif_pos hv]
  rfl

theorem toBytes_ofBytes (bytes : List UInt8) : toBytes (ofBytes bytes) = bytes := by
  induction bytes with
  | nil => rfl
  | cons b bytes ih =>
    simp only [toBytes, ofBytes, List.map_cons] at ih ⊢
    rw [ih, toNat_ofNat_of_lt b.toNat_lt, UInt8.ofNat_toNat]

def ofText (t : Text) : Octets := ofBytes (Text.toBytes t).toList

/-- The text of some octets. Bytes that are no text are replaced. -/
def toText (o : Octets) : Text := Text.ofBytesLossy ⟨(toBytes o).toArray⟩

def ofInt (n : Int) : Octets := if n < 0 then '-' :: Text.ofNat n.natAbs else Text.ofNat n.natAbs

/-- Whether all octets are decimal digits, and there are some. -/
def isNumber (o : Octets) : Bool := !o.isEmpty && o.all Char.isDigit

def toNat (o : Octets) : Nat := Nat.ofDigitChars 10 o 0

def startsName (c : Char) : Bool := c.isAlpha || c == '_'

def inName (c : Char) : Bool := c.isAlphanum || c == '_'

def isName (o : Octets) : Bool :=
  match o with
  | [] => false
  | c :: rest => startsName c && rest.all inName

/-- The lines of some octets, without the line feeds that end them. -/
def lines (o : Octets) : List Octets := (Text.linesWithEnds o).map fun l => l.filter (· ≠ '\n')

end Octets
end Upkeep.Shell
