import Upkeep.Text.Blank

/-!
# Reading counts

`count? t` reads a number of 64 bits: ASCII digits behind at most one plus sign.
`positive? t` reads a line or column number, which starts at one and may stand between blanks.
What `ofNat` writes is read back (`count?_ofNat`, `positive?_ofNat`).
-/

namespace Upkeep.Text

/-- The first number that 64 bits do not hold. -/
def countLimit : Nat := Nat.pow 2 64

def count? (t : Text) : Option Nat :=
  let digits := (after? ['+'] t).getD t
  let n := Nat.ofDigitChars 10 digits 0
  if digits ≠ [] ∧ digits.all Char.isDigit = true ∧ n < countLimit then some n else none

/-- A number of 64 bits other than zero, between blanks. -/
def positive? (t : Text) : Option Nat := (count? (trim t)).filter (0 < ·)

theorem isDigit_of_mem_ofNat {n : Nat} {c : Char} (h : c ∈ ofNat n) : c.isDigit = true :=
  Nat.isDigit_of_mem_toDigits (by decide) (by decide) h

theorem not_isBlank_of_isDigit {c : Char} (h : c.isDigit = true) : isBlank c = false := by
  simp only [Char.isDigit, Bool.and_eq_true, decide_eq_true_eq, ge_iff_le, UInt32.le_iff_toNat_le] at h
  have h1 : 48 ≤ c.toNat := h.1
  have h2 : c.toNat ≤ 57 := h.2
  simp [isBlank]; omega

theorem after?_plus_ofNat (n : Nat) : after? ['+'] (ofNat n) = none := by
  cases h : after? ['+'] (ofNat n) with
  | none => rfl
  | some rest =>
    have he := after?_eq_some_iff.mp h
    have hd := isDigit_of_mem_ofNat (n := n) (c := '+') (by rw [he]; simp)
    exact absurd hd (by decide)

theorem count?_ofNat {n : Nat} (h : n < countLimit) : count? (ofNat n) = some n := by
  have hv : Nat.ofDigitChars 10 (ofNat n) 0 = n := Nat.ofDigitChars_toDigits (by decide) (by decide)
  have hd : (ofNat n).all Char.isDigit = true := List.all_eq_true.mpr fun _ => isDigit_of_mem_ofNat
  simp only [count?, after?_plus_ofNat, Option.getD_none, hv]
  rw [if_pos ⟨Nat.toDigits_ne_nil, hd, h⟩]

theorem trim_ofNat (n : Nat) : trim (ofNat n) = ofNat n := by
  have hb : ∀ c ∈ ofNat n, isBlank c = false := fun c hc =>
    not_isBlank_of_isDigit (isDigit_of_mem_ofNat hc)
  have hs : trimStart (ofNat n) = ofNat n :=
    trimStart_eq_self_iff.mpr fun c rest he => hb c (by rw [he]; simp)
  rw [trim, hs]
  exact trimEnd_eq_self_iff.mpr fun before c he => hb c (by rw [he]; simp)

theorem positive?_ofNat {n : Nat} (h0 : 0 < n) (h : n < countLimit) :
    positive? (ofNat n) = some n := by
  simp [positive?, trim_ofNat, count?_ofNat h, h0]

end Upkeep.Text
