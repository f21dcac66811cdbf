import Upkeep.Text.Blank

/-!
# Trimmed texts

A text is trimmed if it neither starts nor ends with a blank. `trim_eq_self_iff` says so by halves, and
`trim_append` puts a trimmed text together from one that does not start with a blank and one that does
not end with one, whatever stands between. Trimming drops blanks only (`mem_trim`), and case does not
matter to it (`toLower_trim`).
-/

namespace Upkeep.Text

variable {t u : Text}

/-! ## Ends -/

theorem getLast?_cons_or (c : Char) (t : Text) (before? : Option Char) :
    (c :: t).getLast?.or before? = t.getLast?.or (some c) := by
  rw [← List.singleton_append, List.getLast?_append, Option.or_assoc]
  rfl

theorem dropEndWhile_eq_self {p : Char → Bool} (h : ∀ before c, t = before ++ [c] → p c = false) :
    dropEndWhile p t = t := by
  rw [dropEndWhile]
  cases hr : t.reverse with
  | nil => simpa using hr.symm
  | cons c rest =>
    have ht : t = rest.reverse ++ [c] := by simpa using congrArg List.reverse hr
    rw [List.dropWhile_cons_of_neg (by simp [h _ _ ht]), ht]
    simp

theorem dropEndWhile_append {p : Char → Bool} (h : ∀ c ∈ u, p c = true) :
    dropEndWhile p (t ++ u) = dropEndWhile p t := by
  rw [dropEndWhile, dropEndWhile, List.reverse_append, List.dropWhile_append_of_pos (by simpa using h)]

theorem dropEndWhile_append_cons {p : Char → Bool} {c : Char} (h : p c = false) :
    dropEndWhile p (t ++ c :: u) = t ++ c :: dropEndWhile p u := by
  have hreverse : (t ++ c :: u).reverse = u.reverse ++ c :: t.reverse := by simp
  rw [dropEndWhile, dropEndWhile, hreverse, List.dropWhile_append]
  split
  · next hu => simp [List.isEmpty_iff.mp hu, h]
  · simp

theorem exists_eq_dropEndWhile_append (p : Char → Bool) (t : Text) :
    ∃ u, t = dropEndWhile p t ++ u ∧ ∀ c ∈ u, p c = true := by
  refine ⟨(t.reverse.takeWhile p).reverse, ?_, fun c hc =>
    List.all_eq_true.mp List.all_takeWhile c (List.mem_reverse.mp hc)⟩
  rw [dropEndWhile, ← List.reverse_append, List.takeWhile_append_dropWhile, List.reverse_reverse]

theorem isPrefix_dropEndWhile (p : Char → Bool) (t : Text) : dropEndWhile p t <+: t := by
  obtain ⟨u, hu, -⟩ := exists_eq_dropEndWhile_append p t
  exact ⟨u, hu.symm⟩

theorem endsWith_dropEndWhile (c : Char) (t : Text) : endsWith [c] (dropEndWhile (· == c) t) = false := by
  rw [endsWith, dropEndWhile, List.reverse_reverse]
  cases h : t.reverse.dropWhile (· == c) with
  | nil => rfl
  | cons d rest =>
    have hd := List.head_dropWhile_not (· == c) (l := t.reverse) (by simp [h])
    simp only [h, List.head_cons, beq_eq_false_iff_ne] at hd
    simp [startsWith, after?, Ne.symm hd]

/-! ## Blanks at the ends -/

theorem append_inj_of_all {p : Char → Bool} {s s' rest rest' : Text} (hs : ∀ c ∈ s, p c = true)
    (hrest : rest.head?.any p = false) (hs' : ∀ c ∈ s', p c = true) (hrest' : rest'.head?.any p = false)
    (h : s ++ rest = s' ++ rest') : s = s' ∧ rest = rest' := by
  have htake : ∀ u v : Text, (∀ c ∈ u, p c = true) → v.head?.any p = false → (u ++ v).takeWhile p = u := by
    intro u v hu hv
    rw [List.takeWhile_append_of_pos hu]
    cases v with
    | nil => simp
    | cons c v =>
      have hc : p c = false := hv
      rw [List.takeWhile_cons_of_neg (by simp [hc]), List.append_nil]
  have hfront : s = s' := by rw [← htake s rest hs hrest, h, htake s' rest' hs' hrest']
  subst hfront
  exact ⟨rfl, List.append_cancel_left h⟩

theorem any_head?_trimStart (t : Text) : (trimStart t).head?.any isBlank = false := by
  have hhead := List.head?_dropWhile_not isBlank t
  rw [trimStart]
  cases h : (t.dropWhile isBlank).head? with
  | none => rfl
  | some c =>
    rw [h] at hhead
    simpa using hhead

theorem leadingBlanks_append (ht : ∀ c ∈ t, isBlank c = true) (hu : u.head?.any isBlank = false) :
    leadingBlanks (t ++ u) = t :=
  (append_inj_of_all (List.all_eq_true.mp List.all_takeWhile) (any_head?_trimStart (t ++ u)) ht hu
    (leadingBlanks_append_trimStart (t ++ u))).1

theorem trimStart_append_of_blanks (ht : ∀ c ∈ t, isBlank c = true) (hu : u.head?.any isBlank = false) :
    trimStart (t ++ u) = u :=
  (append_inj_of_all (List.all_eq_true.mp List.all_takeWhile) (any_head?_trimStart (t ++ u)) ht hu
    (leadingBlanks_append_trimStart (t ++ u))).2

theorem trim_eq_self_iff : trim t = t ↔ trimStart t = t ∧ trimEnd t = t := by
  constructor
  · intro h
    have hs : trimStart t = t := by
      refine (List.dropWhile_sublist _).eq_of_length_le ?_
      have hl : (trim t).length ≤ (trimStart t).length := by
        have := (List.dropWhile_sublist (p := isBlank) (l := (trimStart t).reverse)).length_le
        simpa [trim, trimEnd, dropEndWhile] using this
      rwa [h] at hl
    refine ⟨hs, ?_⟩
    rwa [trim, hs] at h
  · rintro ⟨hs, he⟩
    rw [trim, hs, he]

theorem trimStart_append (h : trimStart t = t) (ht : t ≠ []) : trimStart (t ++ u) = t ++ u := by
  obtain ⟨c, rest, rfl⟩ := List.exists_cons_of_ne_nil ht
  rw [trimStart_eq_self_iff] at h ⊢
  intro d rest' he
  obtain ⟨rfl, -⟩ := List.cons.inj he
  exact h _ _ rfl

theorem trimEnd_append (h : trimEnd u = u) (hu : u ≠ []) : trimEnd (t ++ u) = t ++ u := by
  rw [trimEnd_eq_self_iff] at h ⊢
  intro before c he
  rcases List.eq_nil_or_concat u with rfl | ⟨u', d, rfl⟩
  · exact absurd rfl hu
  · have hd : d = c := by simpa using congrArg List.getLast? he
    exact h u' c (by rw [List.concat_eq_append, hd])

theorem trim_append (ht : trimStart t = t) (ht' : t ≠ []) (hu : trimEnd u = u) (hu' : u ≠ [])
    (mid : Text) : trim (t ++ mid ++ u) = t ++ mid ++ u := by
  rw [trim_eq_self_iff]
  refine ⟨?_, trimEnd_append hu hu'⟩
  rw [List.append_assoc]
  exact trimStart_append ht ht'

theorem trim_append_of_blanks (hu : ∀ c ∈ u, isBlank c = true) : trim (t ++ u) = trim t := by
  have hnone : trimStart (u ++ []) = [] := trimStart_append_of_blanks hu rfl
  rw [List.append_nil] at hnone
  rw [trim, trim, trimStart, trimStart, List.dropWhile_append]
  split
  · next h => rw [List.isEmpty_iff.mp h, ← trimStart, hnone]
  · rw [trimEnd, dropEndWhile_append hu, trimEnd]

theorem trim_trimEnd (t : Text) : trim (trimEnd t) = trim t := by
  obtain ⟨blanks, ht, hblanks⟩ := exists_eq_dropEndWhile_append isBlank t
  rw [← trimEnd] at ht
  calc trim (trimEnd t) = trim (trimEnd t ++ blanks) := (trim_append_of_blanks hblanks).symm
    _ = trim t := by rw [← ht]

theorem mem_dropWhile {p : Char → Bool} {c : Char} (h : c ∈ t) (hp : p c = false) :
    c ∈ t.dropWhile p := by
  rw [← List.takeWhile_append_dropWhile (p := p) (l := t), List.mem_append] at h
  rcases h with h | h
  · have hall := List.all_eq_true.mp (List.all_takeWhile (p := p) (l := t)) c h
    rw [hp] at hall
    cases hall
  · exact h

theorem mem_trim {c : Char} (h : c ∈ t) (hc : isBlank c = false) : c ∈ trim t := by
  rw [trim, trimEnd, dropEndWhile, List.mem_reverse]
  exact mem_dropWhile (List.mem_reverse.mpr (mem_dropWhile h hc)) hc

/-! ## Case -/

theorem toLower_cases (c : Char) : c.toLower = c ∨
    (65 ≤ c.toNat ∧ c.toNat ≤ 90 ∧ c.toLower.toNat = c.toNat + 32) := by
  by_cases h : c.val ≥ 'A'.val ∧ c.val ≤ 'Z'.val
  · have h65 : 65 ≤ c.toNat := UInt32.le_iff_toNat_le.mp h.1
    have h90 : c.toNat ≤ 90 := UInt32.le_iff_toNat_le.mp h.2
    have hlower : c.toLower.toNat = (c.val + 32).toNat := congrArg Char.toNat (dif_pos h)
    have hval : c.val.toNat = c.toNat := rfl
    refine .inr ⟨h65, h90, ?_⟩
    rw [hlower, UInt32.toNat_add, hval]
    exact Nat.mod_eq_of_lt (by simp; omega)
  · exact .inl (dif_neg h)

theorem toLower_of_not_isAlpha {c : Char} (h : c.isAlpha = false) : c.toLower = c := by
  rcases toLower_cases c with hc | ⟨h65, h90, -⟩
  · exact hc
  · have hupper : c.isUpper = true :=
      decide_eq_true ⟨UInt32.le_iff_toNat_le.mpr h65, UInt32.le_iff_toNat_le.mpr h90⟩
    have halpha : c.isAlpha = true := (Bool.or_eq_true _ _).mpr (.inl hupper)
    rw [halpha] at h
    cases h

theorem isBlank_toLower (c : Char) : isBlank c.toLower = isBlank c := by
  rcases toLower_cases c with h | ⟨h65, h90, h⟩
  · rw [h]
  · have hupper : isBlank c = false := by simp [isBlank]; omega
    have hlower : isBlank c.toLower = false := by simp [isBlank, h]; omega
    rw [hupper, hlower]

theorem dropWhile_toLower (t : Text) :
    (toLower t).dropWhile isBlank = toLower (t.dropWhile isBlank) := by
  have hblank : isBlank ∘ Char.toLower = isBlank := funext isBlank_toLower
  rw [toLower, List.dropWhile_map, hblank, toLower]

theorem toLower_trim (t : Text) : toLower (trim t) = trim (toLower t) := by
  have hreverse : ∀ u : Text, toLower u.reverse = (toLower u).reverse := fun u => List.map_reverse
  rw [trim, trimEnd, dropEndWhile, trimStart, hreverse, ← dropWhile_toLower, hreverse,
    ← dropWhile_toLower, trim, trimEnd, dropEndWhile, trimStart]

theorem trim_sublist (t : Text) : (trim t).Sublist t := by
  have hend : (trim t).Sublist (trimStart t) := by
    have := (List.dropWhile_sublist (p := isBlank) (l := (trimStart t).reverse)).reverse
    rwa [List.reverse_reverse] at this
  exact hend.trans (List.dropWhile_sublist _)

theorem trim_eq_self_of_toLower (h : trim (toLower t) = toLower t) : trim t = t := by
  refine (trim_sublist t).eq_of_length ?_
  have hlength := congrArg List.length ((toLower_trim t).trans h)
  rwa [toLower, toLower, List.length_map, List.length_map] at hlength

end Upkeep.Text
