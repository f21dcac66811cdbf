import Upkeep.Text.Basic

/-!
# Cutting texts at separators

How the cuts of `Upkeep.Text` act on texts that are put together.

* `contains_iff`: a text contains a part if and only if it is the part with something on both sides.
* `breakOn?_append`: the first cut of a text is also the first cut of a longer one.
* `splitOn_append_spaced`: a mark between two blanks that joins two texts is a cut of the whole, and the
  cuts inside the two stay. The first text must not end in a blank and the mark, since the blank of
  the joint would then complete a separator of its own.
* `splitOn_intercalate_spaced`: the same for any number of joined texts.
* `splitOn_append_singleton`: a single character that joins two texts is such a cut without conditions.
* `splitUpTo_append`: a bounded number of cuts at one character, from the left.
-/

namespace Upkeep.Text

/-! ## Heads -/

theorem after?_append_of_some {head t rest : Text} (h : after? head t = some rest) (u : Text) :
    after? head (t ++ u) = some (rest ++ u) := by
  rw [after?_eq_some_iff] at h ⊢
  rw [h, List.append_assoc]

theorem after?_append_of_none {head t : Text} (h : after? head t = none)
    (hl : head.length ≤ t.length) (u : Text) : after? head (t ++ u) = none := by
  induction head generalizing t with
  | nil => simp [after?] at h
  | cons c head ih =>
    cases t with
    | nil => simp at hl
    | cons d t =>
      by_cases hcd : c = d
      · rw [after?, if_pos hcd] at h
        rw [List.cons_append, after?, if_pos hcd]
        exact ih h (by simpa using hl)
      · rw [List.cons_append, after?, if_neg hcd]

theorem after?_cons_of_ne {c d : Char} {head t : Text} (h : c ≠ d) :
    after? (c :: head) (d :: t) = none := by
  rw [after?, if_neg h]

/-! ## The first cut -/

theorem breakOn?_append {sep t before rest : Text} (h : breakOn? sep t = some (before, rest))
    (u : Text) : breakOn? sep (t ++ u) = some (before, rest ++ u) := by
  induction t generalizing before with
  | nil =>
    have he := breakOn?_eq_some h
    obtain ⟨rfl, rfl, rfl⟩ : before = [] ∧ sep = [] ∧ rest = [] := by simpa using he.symm
    cases u <;> simp [breakOn?, after?]
  | cons c t ih =>
    rw [breakOn?] at h
    rw [List.cons_append, breakOn?, ← List.cons_append]
    cases ha : after? sep (c :: t) with
    | some r =>
      rw [ha] at h
      obtain ⟨rfl, rfl⟩ : [] = before ∧ r = rest := by simpa using h
      rw [after?_append_of_some ha]
    | none =>
      rw [ha] at h
      obtain ⟨⟨b, r⟩, hb, he⟩ := Option.map_eq_some_iff.mp h
      obtain ⟨rfl, rfl⟩ : c :: b = before ∧ r = rest := by simpa using he
      have hl := congrArg List.length (breakOn?_eq_some hb)
      have hsep : sep.length ≤ (c :: t).length := by simp at hl ⊢; omega
      rw [after?_append_of_none ha hsep]
      simp only [ih hb, Option.map_some]

theorem breakOn?_isSome (a sep b : Text) : (breakOn? sep (a ++ sep ++ b)).isSome = true := by
  induction a with
  | nil =>
    rw [List.nil_append]
    cases hs : sep ++ b with
    | nil => simp_all [breakOn?]
    | cons c t =>
      have ha : after? sep (c :: t) = some b := hs ▸ after?_append sep b
      simp [breakOn?, ha]
  | cons c a ih =>
    rw [List.cons_append, List.cons_append, breakOn?]
    split
    · rfl
    · rw [Option.isSome_map]
      exact ih

theorem breakOn?_append_self (sep rest : Text) : breakOn? sep (sep ++ rest) = some ([], rest) := by
  cases h : sep ++ rest with
  | nil =>
    obtain ⟨rfl, rfl⟩ := List.append_eq_nil_iff.mp h
    rfl
  | cons c t => rw [breakOn?, ← h, after?_append]

theorem contains_iff {part t : Text} : contains part t = true ↔ ∃ a b, t = a ++ part ++ b := by
  constructor
  · intro h
    obtain ⟨⟨a, b⟩, hab⟩ := Option.isSome_iff_exists.mp h
    exact ⟨a, b, breakOn?_eq_some hab⟩
  · rintro ⟨a, b, rfl⟩
    exact breakOn?_isSome a part b

theorem contains_eq_false_iff {part t : Text} :
    contains part t = false ↔ ∀ a b, t ≠ a ++ part ++ b := by
  rw [← Bool.not_eq_true, contains_iff]
  simp only [not_exists, ne_eq]

theorem endsWith_eq_false_iff {tail t : Text} :
    endsWith tail t = false ↔ ∀ before, t ≠ before ++ tail := by
  rw [← Bool.not_eq_true, endsWith_iff]
  simp only [not_exists, ne_eq]

theorem not_contains_of_append {part t u : Text} (h : contains part (t ++ u) = false) :
    contains part u = false := by
  rw [contains_eq_false_iff] at h ⊢
  rintro a b rfl
  exact h (t ++ a) b (by simp)

theorem not_endsWith_of_append {tail t u : Text} (h : endsWith tail (t ++ u) = false) :
    endsWith tail u = false := by
  rw [endsWith_eq_false_iff] at h ⊢
  rintro a rfl
  exact h (t ++ a) (by simp)

theorem contains_of_not_mem {c : Char} {part t : Text} (hc : c ∈ part) (h : c ∉ t) :
    contains part t = false := by
  rw [contains_eq_false_iff]
  rintro a b rfl
  exact h (by simp [hc])

theorem mem_of_append_eq {before t u : Text} {c : Char} (hne : u ≠ []) (h : before ++ u = t ++ [c]) : c ∈ u := by
  rcases List.eq_nil_or_concat u with rfl | ⟨body, d, rfl⟩
  · exact absurd rfl hne
  · rw [List.concat_eq_append, ← List.append_assoc] at h
    obtain rfl := List.singleton_inj.mp (List.append_inj' h rfl).2
    simp

theorem contains_append_singleton {c : Char} {part t : Text} (hne : part ≠ []) (hc : c ∉ part) :
    contains part (t ++ [c]) = contains part t := by
  rw [Bool.eq_iff_iff, contains_iff, contains_iff]
  constructor
  · rintro ⟨a, b, h⟩
    rcases List.eq_nil_or_concat b with rfl | ⟨b, d, rfl⟩
    · -- the part would end with the character
      rw [List.append_nil] at h
      exact absurd (mem_of_append_eq hne h.symm) hc
    · rw [List.concat_eq_append, ← List.append_assoc] at h
      exact ⟨a, b, (List.append_inj' h rfl).1⟩
  · rintro ⟨a, b, rfl⟩
    exact ⟨a, b ++ [c], by simp⟩

theorem not_contains_append_cons {c : Char} {part t u : Text} (hc : c ∉ part) (ht : contains part t = false)
    (hu : contains part u = false) : contains part (t ++ c :: u) = false := by
  rw [contains_eq_false_iff] at ht hu ⊢
  intro a b h
  rcases List.append_eq_append_iff.mp h with ⟨rest, hrest, hback⟩ | ⟨rest, rfl, -⟩
  · cases rest with
    | nil => exact ht a [] (by simpa using hrest.symm)
    | cons d rest =>
      obtain ⟨rfl, rfl⟩ := List.cons.inj hback
      -- the part ends behind the character, so it starts behind it too
      rcases List.append_eq_append_iff.mp hrest with ⟨front, -, hpart⟩ | ⟨front, -, hpart⟩
      · exact hc (by rw [hpart]; simp)
      · cases front with
        | nil => exact hc (by rw [← List.nil_append part, ← hpart]; simp)
        | cons e front =>
          obtain ⟨-, rfl⟩ := List.cons.inj hpart
          exact hu front b rfl
  · exact ht a rest rfl

theorem endsWith_of_not_mem {c : Char} {tail t : Text} (hc : c ∈ tail) (h : c ∉ t) :
    endsWith tail t = false := by
  rw [endsWith_eq_false_iff]
  rintro before rfl
  exact h (List.mem_append_right before hc)

theorem breakOn?_singleton {c : Char} {t : Text} (h : c ∉ t) (u : Text) :
    breakOn? [c] (t ++ c :: u) = some (t, u) := by
  induction t with
  | nil => simp [breakOn?, after?]
  | cons d t ih =>
    obtain ⟨hcd, ht⟩ : c ≠ d ∧ c ∉ t := by simpa using h
    rw [List.cons_append, breakOn?, after?_cons_of_ne hcd]
    simp only [ih ht, Option.map_some]

theorem breakOn?_singleton_eq_none {c : Char} {t : Text} (h : c ∉ t) : breakOn? [c] t = none := by
  cases hb : breakOn? [c] t with
  | none => rfl
  | some p => exact absurd (by rw [breakOn?_eq_some hb]; simp) h

theorem breakOn?_singleton_eq_some_iff {c : Char} {t before rest : Text} :
    breakOn? [c] t = some (before, rest) ↔ c ∉ before ∧ t = before ++ c :: rest := by
  constructor
  · intro h
    have hmem : c ∈ t := by
      rw [breakOn?_eq_some h]
      simp
    obtain ⟨front, back, rfl, hfront⟩ := List.eq_append_cons_of_mem hmem
    rw [breakOn?_singleton hfront] at h
    obtain ⟨rfl, rfl⟩ := Prod.mk.inj (Option.some.inj h)
    exact ⟨hfront, rfl⟩
  · rintro ⟨hbefore, rfl⟩
    exact breakOn?_singleton hbefore rest

theorem breakAtLast?_append {c : Char} {u : Text} (h : c ∉ u) (t : Text) :
    breakAtLast? c (t ++ c :: u) = some (t, u) := by
  have hrev : (t ++ c :: u).reverse = u.reverse ++ c :: t.reverse := by simp
  rw [breakAtLast?, hrev, breakOn?_singleton (by simpa using h)]
  simp

/-! ## All cuts -/

theorem splitOn_of_not_contains {sep t : Text} (h : contains sep t = false) : splitOn sep t = [t] := by
  rw [contains, Option.isSome_eq_false_iff, Option.isNone_iff_eq_none] at h
  rw [splitOn]
  split
  · rfl
  · split
    · rfl
    · next hb => rw [h] at hb; cases hb

theorem splitOn_of_breakOn? {sep t before rest : Text} (hs : sep ≠ [])
    (h : breakOn? sep t = some (before, rest)) : splitOn sep t = before :: splitOn sep rest := by
  rw [splitOn, dif_neg hs]
  split
  · next hb => rw [h] at hb; cases hb
  · next hb =>
    rw [h] at hb
    obtain ⟨rfl, rfl⟩ := Prod.mk.inj (Option.some.inj hb)
    rfl

theorem splitOn_append_singleton (c : Char) (t u : Text) :
    splitOn [c] (t ++ c :: u) = splitOn [c] t ++ splitOn [c] u := by
  fun_induction splitOn [c] t with
  | case1 t hs => cases hs
  | case2 t hs hb =>
    have hc : c ∉ t := by
      intro hc
      obtain ⟨a, b, rfl⟩ := List.append_of_mem hc
      have := breakOn?_isSome a [c] b
      simp [hb] at this
    rw [splitOn_of_breakOn? hs (breakOn?_singleton hc u)]
    rfl
  | case3 t hs before rest hb ih =>
    rw [splitOn_of_breakOn? hs (breakOn?_append hb (c :: u)), ih, List.cons_append]

/-! ## Marks between blanks -/

/-- A mark between two blanks. -/
def spaced (c : Char) : Text := [' ', c, ' ']

theorem mem_spaced {c : Char} : c ∈ spaced c := by simp [spaced]

theorem breakOn?_spaced {c : Char} (hc : c ≠ ' ') {t : Text} (h : contains (spaced c) t = false)
    (he : endsWith [' ', c] t = false) (u : Text) :
    breakOn? (spaced c) (t ++ spaced c ++ u) = some (t, u) := by
  induction t with
  | nil =>
    rw [List.nil_append, spaced, List.cons_append, breakOn?, ← List.cons_append, after?_append]
  | cons d t ih =>
    -- a separator that starts here would lie inside `d :: t` or need its second blank from the joint
    have hhead : after? (spaced c) (d :: t ++ spaced c ++ u) = none := by
      cases ha : after? (spaced c) (d :: t ++ spaced c ++ u) with
      | none => rfl
      | some r =>
        have ht := after?_eq_some_iff.mp ha
        match t with
        | [] =>
          obtain ⟨-, hc', -⟩ : d = ' ' ∧ ' ' = c ∧ _ := by simpa [spaced] using ht
          exact absurd hc'.symm hc
        | [e] =>
          obtain ⟨rfl, rfl, -⟩ : d = ' ' ∧ e = c ∧ _ := by simpa [spaced] using ht
          exact absurd rfl (endsWith_eq_false_iff.mp he [])
        | e :: f :: t =>
          obtain ⟨rfl, rfl, rfl, -⟩ : d = ' ' ∧ e = c ∧ f = ' ' ∧ _ := by simpa [spaced] using ht
          exact absurd rfl (contains_eq_false_iff.mp h [] t)
    have hrest := not_contains_of_append (t := [d]) h
    have hend := not_endsWith_of_append (t := [d]) he
    rw [List.cons_append, List.cons_append, breakOn?, ← List.cons_append, ← List.cons_append, hhead]
    simp only [ih hrest hend, Option.map_some]

theorem splitOn_append_spaced {c : Char} (hc : c ≠ ' ') {t : Text}
    (he : endsWith [' ', c] t = false) (u : Text) :
    splitOn (spaced c) (t ++ spaced c ++ u) = splitOn (spaced c) t ++ splitOn (spaced c) u := by
  have hs : spaced c ≠ [] := by simp [spaced]
  cases hb : breakOn? (spaced c) t with
  | none =>
    have h : contains (spaced c) t = false := by simp [contains, hb]
    rw [splitOn_of_breakOn? hs (breakOn?_spaced hc h he u), splitOn_of_not_contains h]
    rfl
  | some p =>
    obtain ⟨before, rest⟩ := p
    have ht := breakOn?_eq_some hb
    have hend : endsWith [' ', c] rest = false := not_endsWith_of_append (ht ▸ he)
    have hb' := breakOn?_append hb (spaced c ++ u)
    rw [List.append_assoc, splitOn_of_breakOn? hs hb', splitOn_of_breakOn? hs hb, ← List.append_assoc,
      splitOn_append_spaced hc hend u]
    rfl
termination_by t.length
decreasing_by
  have := congrArg List.length ht
  simp [spaced] at this; omega

theorem not_contains_spaced_append {c : Char} {t u : Text} (ht : contains (spaced c) t = false)
    (hu : ' ' ∉ u) : contains (spaced c) (t ++ u) = false := by
  rw [contains_eq_false_iff] at ht ⊢
  intro a b hab
  rcases List.append_eq_append_iff.mp hab with ⟨d, hd, rfl⟩ | ⟨d, rfl, rfl⟩
  · -- `d` ends in the last blank of the separator, or is empty
    rcases List.eq_nil_or_concat d with rfl | ⟨d, e, rfl⟩
    · exact ht a [] (by simpa using hd.symm)
    · have he : ' ' = e := by simpa [spaced] using congrArg List.getLast? hd
      exact hu (by simp [← he])
  · exact ht a d rfl

theorem intercalate_cons_concat (sep part : Text) (parts : List Text) (last : Text) :
    sep.intercalate (part :: parts ++ [last]) = part ++ sep ++ sep.intercalate (parts ++ [last]) := by
  cases parts <;> exact List.intercalate_cons_cons

theorem intercalate_concat (sep : Text) (parts : List Text) (last : Text) :
    ∃ before, sep.intercalate (parts ++ [last]) = before ++ last := by
  induction parts with
  | nil => exact ⟨[], List.intercalate_singleton⟩
  | cons part parts ih =>
    obtain ⟨before, hbefore⟩ := ih
    refine ⟨part ++ sep ++ before, ?_⟩
    rw [intercalate_cons_concat, hbefore, List.append_assoc _ before]

theorem not_mem_intercalate {c : Char} {sep : Text} {parts : List Text} (hsep : c ∉ sep)
    (hparts : ∀ part ∈ parts, c ∉ part) : c ∉ sep.intercalate parts := by
  induction parts with
  | nil => simp
  | cons part parts ih =>
    obtain ⟨hpart, hparts⟩ := List.forall_mem_cons.mp hparts
    cases parts with
    | nil => rwa [List.intercalate_singleton]
    | cons next parts =>
      rw [List.intercalate_cons_cons, List.mem_append, List.mem_append, not_or, not_or]
      exact ⟨⟨hpart, hsep⟩, ih hparts⟩

/-- Joined texts are cut where they are joined and where they are cut themselves. The last one may end
in a blank and the mark. -/
theorem splitOn_intercalate_spaced {c : Char} (hc : c ≠ ' ') {parts : List Text}
    (h : ∀ part ∈ parts, endsWith [' ', c] part = false) (last : Text) :
    splitOn (spaced c) ((spaced c).intercalate (parts ++ [last])) =
      parts.flatMap (splitOn (spaced c)) ++ splitOn (spaced c) last := by
  induction parts with
  | nil => rw [List.nil_append, List.intercalate_singleton, List.flatMap_nil, List.nil_append]
  | cons part parts ih =>
    obtain ⟨hpart, hparts⟩ := List.forall_mem_cons.mp h
    rw [intercalate_cons_concat, splitOn_append_spaced hc hpart, ih hparts, List.flatMap_cons,
      List.append_assoc]

/-! ## A bounded number of cuts -/

theorem splitUpTo_append {c : Char} {t : Text} (h : c ∉ t) (n : Nat) (u : Text) :
    splitUpTo c (n + 1) (t ++ c :: u) = t :: splitUpTo c n u := by
  rw [splitUpTo, breakOn?_singleton h]

theorem splitUpTo_head {c : Char} {t : Text} (h : c ∉ t) (n : Nat) (u : Text) :
    ∃ rest pieces, splitUpTo c n (t ++ u) = (t ++ rest) :: pieces := by
  cases n with
  | zero => exact ⟨u, [], rfl⟩
  | succ n =>
    by_cases hu : c ∈ u
    · obtain ⟨front, back, rfl, hfront⟩ := List.eq_append_cons_of_mem hu
      refine ⟨front, splitUpTo c n back, ?_⟩
      rw [← List.append_assoc, splitUpTo_append (by simp [h, hfront])]
    · exact ⟨u, [], by rw [splitUpTo, breakOn?_singleton_eq_none (by simp [h, hu])]⟩

theorem splitUpTo_intercalate {c : Char} {parts : List Text} (h : ∀ part ∈ parts, c ∉ part)
    (last : Text) : splitUpTo c parts.length ([c].intercalate (parts ++ [last])) = parts ++ [last] := by
  induction parts with
  | nil => rw [List.nil_append, List.intercalate_singleton]; rfl
  | cons part parts ih =>
    obtain ⟨hpart, hparts⟩ := List.forall_mem_cons.mp h
    rw [intercalate_cons_concat, List.append_assoc, List.singleton_append, List.length_cons,
      splitUpTo_append hpart, ih hparts, List.cons_append]

end Upkeep.Text
