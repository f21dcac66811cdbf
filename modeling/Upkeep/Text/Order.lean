import Upkeep.Text.Basic

/-!
# The order of texts

Texts are ordered by their first different character, and a text comes before its continuations.
Characters are ordered by code point, so this is also the order of the UTF-8 bytes. The order is total
(`notAfter_total`), transitive (`notAfter_trans`) and antisymmetric (`notAfter_antisymm`).
-/

namespace Upkeep.Text

/-- Whether the first text is the second or comes before it. -/
def notAfter : Text → Text → Bool
  | [], _ => true
  | _ :: _, [] => false
  | c :: s, d :: t => if c = d then notAfter s t else decide (c.toNat < d.toNat)

theorem notAfter_refl (s : Text) : notAfter s s = true := by
  induction s with
  | nil => rfl
  | cons c s ih => simp [notAfter, ih]

theorem notAfter_total (s t : Text) : (notAfter s t || notAfter t s) = true := by
  induction s generalizing t with
  | nil => simp [notAfter]
  | cons c s ih =>
    cases t with
    | nil => simp [notAfter]
    | cons d t =>
      by_cases h : c = d
      · subst h; simpa [notAfter] using ih t
      · have hn : c.toNat ≠ d.toNat := fun e => h (Char.toNat_inj.mp e)
        simp only [notAfter, h, Ne.symm h, if_false, Bool.or_eq_true, decide_eq_true_eq]
        omega

theorem notAfter_antisymm {s t : Text} (h : notAfter s t = true) (h' : notAfter t s = true) :
    s = t := by
  induction s generalizing t with
  | nil =>
    cases t with
    | nil => rfl
    | cons d t => simp [notAfter] at h'
  | cons c s ih =>
    cases t with
    | nil => simp [notAfter] at h
    | cons d t =>
      by_cases hc : c = d
      · subst hc
        simp only [notAfter, if_true] at h h'
        rw [ih h h']
      · simp only [notAfter, hc, Ne.symm hc, if_false, decide_eq_true_eq] at h h'
        omega

theorem notAfter_trans {s t u : Text} (h : notAfter s t = true) (h' : notAfter t u = true) :
    notAfter s u = true := by
  induction s generalizing t u with
  | nil => rfl
  | cons c s ih =>
    cases t with
    | nil => simp [notAfter] at h
    | cons d t =>
      cases u with
      | nil => simp [notAfter] at h'
      | cons e u =>
        by_cases hcd : c = d
        · subst hcd
          by_cases hce : c = e
          · subst hce
            simp only [notAfter, if_true] at h h' ⊢
            exact ih h h'
          · simpa [notAfter, hce] using h'
        · by_cases hde : d = e
          · subst hde
            simpa [notAfter, hcd] using h
          · simp only [notAfter, hcd, hde, if_false, decide_eq_true_eq] at h h'
            have hce : c ≠ e := fun he => by subst he; omega
            simp only [notAfter, hce, if_false, decide_eq_true_eq]
            omega

end Upkeep.Text
