import Mathlib.Algebra.Group.Nat.Defs
import Upkeep.Text.Utf8

/-!
# Texts that are read back from their bytes

`ofBytesLossy` and `stretch?` go through bytes one after the other, with a code point pending. On the bytes of a text
they find its characters and nothing else.

* `Pending.Awaits p v`: what is pending are the first bits of the code point `v`, and the next byte is in range.
* `Awaits.finish_append`, `Awaits.stretch?_append`: the rest of the bytes ends that code point.
* `encoded`: the bytes of a character are one byte of its own, or a first byte and the rest of the bytes.
* `ofBytesLossy_toBytes`, `stretch?_toBytes`: a text is read back, and no stretch of its bytes is no code point.
-/

namespace Upkeep.Text

/-! ## Bytes as a list -/

theorem toList_loop (bytes : ByteArray) (i : Nat) (front : List UInt8) :
    ByteArray.toList.loop bytes i front = front.reverse ++ bytes.data.toList.drop i := by
  induction i, front using ByteArray.toList.loop.induct bytes with
  | case1 i front hlt ih =>
    have hi : i < bytes.data.toList.length := hlt
    have hget : bytes.get! i = bytes.data.toList[i] := getElem!_pos bytes.data i hlt
    rw [ByteArray.toList.loop, if_pos hlt, ih, List.drop_eq_getElem_cons hi, hget, List.reverse_cons,
      List.append_assoc, List.singleton_append]
  | case2 i front hge =>
    have hdrop : bytes.data.toList.drop i = [] := List.drop_eq_nil_of_le (Nat.le_of_not_lt hge)
    rw [ByteArray.toList.loop, if_neg hge, hdrop, List.append_nil]

theorem toList_eq (bytes : ByteArray) : bytes.toList = bytes.data.toList := by
  rw [ByteArray.toList, toList_loop]
  rfl

theorem ofList_toList (bytes : ByteArray) : (⟨bytes.toList.toArray⟩ : ByteArray) = bytes := by
  rw [toList_eq, Array.toArray_toList]

theorem toList_toBytes (t : Text) : (toBytes t).toList = t.flatMap String.utf8EncodeChar := by
  rw [toList_eq]
  exact List.toList_data_toByteArray

/-! ## Sizes -/

theorem toBytes_append (t u : Text) : toBytes (t ++ u) = toBytes t ++ toBytes u := by simp [toBytes]

theorem size_toBytes_cons (c : Char) (t : Text) : (toBytes (c :: t)).size = c.utf8Size + (toBytes t).size := by
  rw [← List.singleton_append, toBytes_append, ByteArray.size_append]
  exact congrArg (· + _) String.utf8ByteSize_singleton

theorem size_toBytes_le {t u : Text} (h : t.Sublist u) : (toBytes t).size ≤ (toBytes u).size := by
  induction h with
  | slnil => exact Nat.le_refl _
  | @cons t u c _ ih =>
    rw [size_toBytes_cons c u]
    omega
  | @cons_cons t u c _ ih =>
    rw [size_toBytes_cons c t, size_toBytes_cons c u]
    omega

/-! ## Code points -/

namespace Pending

/-- The last `n` bytes of a code point that has more of them. -/
def trail (v : Nat) : Nat → List UInt8
  | 0 => []
  | n + 1 => UInt8.ofNat (v / 64 ^ n % 64 + 0x80) :: trail v n

/-- What is pending are the bits of a code point but those of its last `n + 1` bytes, and the next of these is in
range. -/
structure Awaits (p : Pending) (n v : Nat) : Prop where
  missing : p.missing = n + 1
  bits : p.bits = v / 64 ^ (n + 1)
  low : p.low ≤ v / 64 ^ n % 64 + 0x80
  high : v / 64 ^ n % 64 + 0x80 ≤ p.high

variable {p : Pending} {n v : Nat}

theorem toNat_byte (h : n < 256) : (UInt8.ofNat n).toNat = n := UInt8.toNat_ofNat_of_lt' h

theorem toNat_trail_byte (n v : Nat) : (UInt8.ofNat (v / 64 ^ n % 64 + 0x80)).toNat = v / 64 ^ n % 64 + 0x80 :=
  toNat_byte (by omega)

theorem awaits_mk (n v : Nat) : (⟨v / 64 ^ (n + 1), n + 1, 0x80, 0xBF⟩ : Pending).Awaits n v := by
  refine ⟨rfl, rfl, ?_, ?_⟩ <;> dsimp only <;> omega

theorem Awaits.step_eq (h : p.Awaits n v) : step (some p) (v / 64 ^ n % 64 + 0x80) =
    if n = 0 then ([Char.ofNat v], none) else ([], some ⟨v / 64 ^ n, n, 0x80, 0xBF⟩) := by
  have hbits : 64 * p.bits + v / 64 ^ n % 64 = v / 64 ^ n := by
    rw [h.bits, Nat.pow_succ, ← Nat.div_div_eq_div_mul]
    omega
  simp only [step, h.low, h.high, and_self, if_true, h.missing, Nat.add_sub_cancel, hbits]
  cases n with
  | zero => simp
  | succ n => simp

theorem Awaits.finish_append (h : p.Awaits n v) (bytes : List UInt8) :
    finish (some p) (trail v (n + 1) ++ bytes) = Char.ofNat v :: finish none bytes := by
  induction n generalizing p with
  | zero =>
    rw [trail, List.cons_append, finish, toNat_trail_byte, h.step_eq]
    rfl
  | succ n ih =>
    rw [trail, List.cons_append, finish, toNat_trail_byte, h.step_eq, if_neg (Nat.succ_ne_zero n)]
    exact ih (awaits_mk n v)

theorem Awaits.stretch?_append (h : p.Awaits n v) (place start : Nat) (bytes : List UInt8) :
    stretch? place start (some p) (trail v (n + 1) ++ bytes) = stretch? (place + (n + 1)) start none bytes := by
  induction n generalizing p place with
  | zero =>
    rw [trail, List.cons_append, stretch?, toNat_trail_byte]
    dsimp only
    rw [if_pos ⟨h.low, h.high⟩, h.step_eq]
    rfl
  | succ n ih =>
    rw [trail, List.cons_append, stretch?, toNat_trail_byte]
    dsimp only
    rw [if_pos ⟨h.low, h.high⟩, h.step_eq, if_neg (Nat.succ_ne_zero n), ih (awaits_mk n v), Nat.add_right_comm place 1]
    rfl

theorem start_of_two (hlong : 0x7F < v) (h : v ≤ 0x7FF) :
    ∃ p, start (v / 64 + 0xC0) = ([], some p) ∧ p.Awaits 0 v := by
  refine ⟨⟨v / 64, 1, 0x80, 0xBF⟩, ?_, awaits_mk 0 v⟩
  rw [start, if_neg, if_pos, Nat.add_sub_cancel] <;> omega

theorem start_of_three (hlong : 0x7FF < v) (h : v ≤ 0xFFFF) (hvalid : v < 0xD800 ∨ 0xDFFF < v) :
    ∃ p, start (v / 4096 + 0xE0) = ([], some p) ∧ p.Awaits 1 v := by
  have hpow : (64 : Nat) ^ (1 + 1) = 4096 := rfl
  by_cases hshort : v / 4096 = 0
  · exact ⟨_, by rw [hshort]; rfl, rfl, by rw [hpow, hshort], by dsimp only; omega, by dsimp only; omega⟩
  by_cases hsurrogate : v / 4096 = 0xD
  · exact ⟨_, by rw [hsurrogate]; rfl, rfl, by rw [hpow, hsurrogate], by dsimp only; omega, by dsimp only; omega⟩
  refine ⟨⟨v / 4096, 2, 0x80, 0xBF⟩, ?_, awaits_mk 1 v⟩
  rw [start, if_neg, if_neg, if_neg, if_neg, if_pos, Nat.add_sub_cancel] <;> omega

theorem start_of_four (hlong : 0xFFFF < v) (h : v < 0x110000) :
    ∃ p, start (v / 262144 + 0xF0) = ([], some p) ∧ p.Awaits 2 v := by
  have hpow : (64 : Nat) ^ (2 + 1) = 262144 := rfl
  by_cases hshort : v / 262144 = 0
  · exact ⟨_, by rw [hshort]; rfl, rfl, by rw [hpow, hshort], by dsimp only; omega, by dsimp only; omega⟩
  by_cases hlast : v / 262144 = 4
  · exact ⟨_, by rw [hlast]; rfl, rfl, by rw [hpow, hlast], by dsimp only; omega, by dsimp only; omega⟩
  refine ⟨⟨v / 262144, 3, 0x80, 0xBF⟩, ?_, awaits_mk 2 v⟩
  rw [start, if_neg, if_neg, if_neg, if_neg, if_neg, if_neg, if_pos, Nat.add_sub_cancel] <;> omega

theorem trail_one (v : Nat) : trail v 1 = [UInt8.ofNat (v % 64 + 0x80)] := by simp [trail]

/-- The bytes of a character are one that is the character, or one that begins it and the rest. -/
theorem encoded (c : Char) : (∃ b, String.utf8EncodeChar c = [b] ∧ start b.toNat = ([c], none) ∧ c ≠ replacement) ∨
    ∃ b p n, String.utf8EncodeChar c = b :: trail c.toNat (n + 1) ∧ start b.toNat = ([], some p) ∧
      p.Awaits n c.toNat := by
  have hvalid : c.toNat < 0xD800 ∨ 0xDFFF < c.toNat ∧ c.toNat < 0x110000 := c.valid
  fun_cases String.utf8EncodeChar c with
  | case1 v hv =>
    refine .inl ⟨_, rfl, ?_, ?_⟩
    · rw [toNat_byte (Nat.lt_of_le_of_lt hv (by decide)), start, if_pos (Nat.lt_of_le_of_lt hv (by decide))]
      exact congrArg (fun c => ([c], none)) (Char.ofNat_toNat c)
    · rintro rfl
      exact absurd hv (by decide)
  | case2 v hone hv =>
    obtain ⟨p, hstart, hawaits⟩ := start_of_two (v := v) (Nat.lt_of_not_le hone) hv
    have hlead : v / 64 % 0x20 = v / 64 := Nat.mod_eq_of_lt (by omega)
    rw [hlead, ← trail_one]
    exact .inr ⟨_, p, 0, rfl, by rw [toNat_byte (by omega), hstart], hawaits⟩
  | case3 v hone htwo hv =>
    obtain ⟨p, hstart, hawaits⟩ := start_of_three (v := v) (Nat.lt_of_not_le htwo) hv (hvalid.imp_right And.left)
    have hlead : v / 4096 % 0x10 = v / 4096 := Nat.mod_eq_of_lt (by omega)
    rw [hlead, ← trail_one]
    exact .inr ⟨_, p, 1, rfl, by rw [toNat_byte (by omega), hstart], hawaits⟩
  | case4 v hone htwo hv =>
    have hlt : v < 0x110000 := hvalid.elim (fun h => absurd (Nat.le_of_lt (Nat.lt_trans h (by decide))) hv) And.right
    obtain ⟨p, hstart, hawaits⟩ := start_of_four (v := v) (Nat.lt_of_not_le hv) hlt
    have hlead : v / 262144 % 0x08 = v / 262144 := Nat.mod_eq_of_lt (by omega)
    rw [hlead, ← trail_one]
    exact .inr ⟨_, p, 2, rfl, by rw [toNat_byte (by omega), hstart], hawaits⟩

theorem finish_encoded_append (c : Char) (bytes : List UInt8) :
    finish none (String.utf8EncodeChar c ++ bytes) = c :: finish none bytes := by
  obtain ⟨b, hb, hstart, -⟩ | ⟨b, p, n, hb, hstart, hawaits⟩ := encoded c
  · rw [hb, List.cons_append, finish, step, hstart]
    rfl
  · rw [hb, List.cons_append, finish, step, hstart]
    dsimp only
    rw [hawaits.finish_append, Char.ofNat_toNat, List.nil_append]

theorem stretch?_encoded_append (c : Char) (place start : Nat) (bytes : List UInt8) :
    ∃ place' start', stretch? place start none (String.utf8EncodeChar c ++ bytes) =
      stretch? place' start' none bytes := by
  obtain ⟨b, hb, hstart, hne⟩ | ⟨b, p, n, hb, hstart, hawaits⟩ := encoded c
  · refine ⟨place + 1, place, ?_⟩
    rw [hb, List.cons_append, stretch?, step, hstart]
    dsimp only
    rw [if_neg fun h => hne (List.head_eq_of_cons_eq h)]
    rfl
  · refine ⟨place + 1 + (n + 1), place, ?_⟩
    rw [hb, List.cons_append, stretch?, step, hstart]
    exact hawaits.stretch?_append _ _ _

end Pending

/-! ## Texts -/

theorem ofBytesLossy_toBytes (t : Text) : ofBytesLossy (toBytes t) = t := by
  rw [ofBytesLossy, toList_toBytes]
  induction t with
  | nil => rfl
  | cons c t ih => rw [List.flatMap_cons, Pending.finish_encoded_append, ih]

theorem Pending.stretch?_flatMap (place start : Nat) (t : Text) :
    stretch? place start none (t.flatMap String.utf8EncodeChar) = none := by
  induction t generalizing place start with
  | nil => rfl
  | cons c t ih =>
    obtain ⟨place', start', h⟩ := stretch?_encoded_append c place start (t.flatMap String.utf8EncodeChar)
    rw [List.flatMap_cons, h, ih]

theorem stretch?_toBytes (t : Text) : stretch? (toBytes t).toList = none := by
  rw [stretch?, toList_toBytes, Pending.stretch?_flatMap]

end Upkeep.Text
