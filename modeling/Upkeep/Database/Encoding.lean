import Upkeep.Database.Value

/-!
# Numbers and texts in database files

Numbers of a fixed place are written with the highest byte first. Numbers inside of cells are written
in as few bytes as they need, seven bits in each byte, where the high bit says that more bytes follow; a
ninth byte holds eight bits, so that nine bytes hold every number below 2^64.

* `bigEndian count n`, `ofBigEndian bytes`: fixed numbers.
* `compact n`, `readCompact? bytes`: numbers of varying length (`readCompact?_compact`).

All texts of a database file are written in one encoding, which the head of the file names. Outside of the
file a text is the bytes of UTF-8, which need not be right.

* `Encoding.decode e bytes`, `Encoding.encode e bytes`: from the file's bytes of a text and back.
-/

namespace Upkeep.Database

/-! ## Numbers -/

/-- The lowest `count` bytes of a number, the highest of them first. -/
def bigEndian : Nat → Nat → Bytes
  | 0, _ => []
  | count + 1, n => bigEndian count (n / 256) ++ [UInt8.ofNat n]

/-- The number that some bytes write. -/
def ofBigEndian (bytes : Bytes) : Nat := bytes.foldl (fun n b => 256 * n + b.toNat) 0

theorem length_bigEndian (count n : Nat) : (bigEndian count n).length = count := by
  induction count generalizing n with
  | zero => rfl
  | succ count ih => simp [bigEndian, ih]

theorem ofBigEndian_bigEndian (count n : Nat) : ofBigEndian (bigEndian count n) = n % Nat.pow 256 count := by
  rw [Nat.pow_eq]
  induction count generalizing n with
  | zero => simp [bigEndian, ofBigEndian, Nat.mod_one]
  | succ count ih =>
    have h := ih (n / 256)
    unfold ofBigEndian at h ⊢
    rw [bigEndian, List.foldl_append, h]
    simp only [List.foldl_cons, List.foldl_nil, UInt8.toNat_ofNat']
    conv => rhs; rw [Nat.pow_succ, Nat.mul_comm _ 256, Nat.mod_mul]
    omega

/-- The bytes of a number in front of `last`, seven bits in each with the high bit set. -/
def compactFront : Nat → Bytes → Bytes
  | n, last =>
    if _h : n = 0 then last
    else compactFront (n / 128) (UInt8.ofNat (n % 128 + 128) :: last)
termination_by n => n
decreasing_by omega

/-- The bytes of a number in as few bytes as it needs. -/
def compact (n : Nat) : Bytes :=
  if n < Nat.pow 2 56 then compactFront (n / 128) [UInt8.ofNat (n % 128)]
  else
    let high := n / 256
    (List.range 8).map (fun i => UInt8.ofNat (high / Nat.pow 128 (7 - i) % 128 + 128)) ++ [UInt8.ofNat n]

/-- The number that some bytes start with behind `n`, and the bytes behind it. At most `more` bytes of
seven bits come before one of eight. -/
def readCompactFrom? : Nat → Nat → Bytes → Option (Nat × Bytes)
  | _, _, [] => none
  | 0, n, b :: bytes => some (256 * n + b.toNat, bytes)
  | more + 1, n, b :: bytes =>
    if b.toNat < 128 then some (128 * n + b.toNat, bytes)
    else readCompactFrom? more (128 * n + (b.toNat - 128)) bytes

/-- The number that some bytes start with, and the bytes behind it. -/
def readCompact? (bytes : Bytes) : Option (Nat × Bytes) := readCompactFrom? 8 0 bytes

/-- How many bytes stand in front of the last one. -/
def frontLength : Nat → Nat
  | n => if _h : n = 0 then 0 else frontLength (n / 128) + 1
termination_by n => n
decreasing_by omega

theorem frontLength_le {k n : Nat} (h : n < Nat.pow 128 k) : frontLength n ≤ k := by
  rw [Nat.pow_eq] at h
  induction k generalizing n with
  | zero =>
    have : n = 0 := by simpa using h
    subst this; simp [frontLength]
  | succ k ih =>
    rw [frontLength]
    split
    · omega
    · have := ih (n := n / 128) (by rw [Nat.pow_succ] at h; omega)
      omega

theorem readCompactFrom?_compactFront (n more : Nat) (last : Bytes) (h : frontLength n ≤ more) :
    readCompactFrom? more 0 (compactFront n last) = readCompactFrom? (more - frontLength n) n last := by
  induction n using Nat.strongRecOn generalizing last with
  | ind n ih =>
    rw [compactFront]
    rw [frontLength] at h ⊢
    split
    · next hn => subst hn; simp
    · next hn =>
      rw [dif_neg hn] at h
      rw [ih (n / 128) (by omega) _ (by omega)]
      obtain ⟨m, hm⟩ : ∃ m, more - frontLength (n / 128) = m + 1 :=
        ⟨more - (frontLength (n / 128) + 1), by omega⟩
      have hb : (UInt8.ofNat (n % 128 + 128)).toNat = n % 128 + 128 := by
        rw [UInt8.toNat_ofNat']; omega
      rw [hm, readCompactFrom?, hb, if_neg (by omega)]
      have hn : 128 * (n / 128) + (n % 128 + 128 - 128) = n := by omega
      have hk : more - (frontLength (n / 128) + 1) = m := by omega
      rw [hn, hk]

theorem compactFront_append (m : Nat) (last rest : Bytes) :
    compactFront m last ++ rest = compactFront m (last ++ rest) := by
  induction m using Nat.strongRecOn generalizing last with
  | ind m ih =>
    conv => lhs; rw [compactFront]
    conv => rhs; rw [compactFront]
    split
    · rfl
    · rw [ih (m / 128) (by omega)]; rfl

theorem readCompact?_compact {n : Nat} (h : n < Nat.pow 2 56) (rest : Bytes) :
    readCompact? (compact n ++ rest) = some (n, rest) := by
  have hl : frontLength (n / 128) ≤ 7 := frontLength_le (by rw [Nat.pow_eq] at h ⊢; omega)
  rw [compact, if_pos h, compactFront_append, readCompact?, readCompactFrom?_compactFront _ _ _ (by omega)]
  obtain ⟨m, hm⟩ : ∃ m, 8 - frontLength (n / 128) = m + 1 := ⟨7 - frontLength (n / 128), by omega⟩
  have hb : (UInt8.ofNat (n % 128)).toNat = n % 128 := by rw [UInt8.toNat_ofNat']; omega
  rw [List.cons_append, List.nil_append, hm, readCompactFrom?, hb, if_pos (by omega)]
  congr 2
  omega

/-! ## Texts -/

/-- How a file writes texts. -/
inductive Encoding where
  | octets
  /-- Two bytes for each unit, the low one first. -/
  | lowFirst
  /-- Two bytes for each unit, the high one first. -/
  | highFirst
  deriving DecidableEq, Repr

namespace Encoding

def number : Encoding → Nat
  | octets => 1
  | lowFirst => 2
  | highFirst => 3

/-- The encoding with a number. A file that has none yet gets the first. -/
def ofNumber (n : Nat) : Encoding :=
  if n % 4 = 2 then lowFirst else if n % 4 = 3 then highFirst else octets

/-- The bytes of a code point, as UTF-8 writes it. Halves of pairs are written the same way. -/
def codePointBytes (c : Nat) : Bytes :=
  let low := fun (k : Nat) => UInt8.ofNat (0x80 + c / Nat.pow 64 k % 64)
  if c < 0x80 then [UInt8.ofNat c]
  else if c < 0x800 then [UInt8.ofNat (0xC0 + c / 64), low 0]
  else if c < 0x10000 then [UInt8.ofNat (0xE0 + c / 4096), low 1, low 0]
  else [UInt8.ofNat (0xF0 + c / 262144), low 2, low 1, low 0]

/-- The units that bytes write. A last byte without a partner is none. -/
def units (isLowFirst : Bool) : Bytes → List Nat
  | a :: b :: rest =>
    (if isLowFirst then a.toNat + 256 * b.toNat else 256 * a.toNat + b.toNat) :: units isLowFirst rest
  | _ => []

/-- The code points of units. Whatever stands behind a half of a pair is taken for the other half. -/
def codePoints : List Nat → List Nat
  | u :: v :: rest =>
    if 0xD800 ≤ u ∧ u < 0xE000 then
      (v % 1024 + u % 64 * 1024 + (u % 1024 / 64 + 1) * 65536) :: codePoints rest
    else u :: codePoints (v :: rest)
  | [u] => [u]
  | [] => []

def unitsOf (c : Char) : List Nat :=
  let n := c.toNat
  if n < 0x10000 then [n] else [0xD800 + (n - 0x10000) / 1024, 0xDC00 + (n - 0x10000) % 1024]

/-- The text that the file's bytes write. -/
def decode (e : Encoding) (bytes : Bytes) : Bytes :=
  match e with
  | octets => bytes
  | lowFirst => (codePoints (units true bytes)).flatMap codePointBytes
  | highFirst => (codePoints (units false bytes)).flatMap codePointBytes

/-- The file's bytes of a text. -/
def encode (e : Encoding) (bytes : Bytes) : Bytes :=
  let wide := fun (put : Nat → Bytes) =>
    ((Text.ofBytesLossy ⟨bytes.toArray⟩).flatMap unitsOf).flatMap put
  match e with
  | octets => bytes
  | lowFirst => wide fun u => (bigEndian 2 u).reverse
  | highFirst => wide (bigEndian 2)

end Encoding
end Upkeep.Database
