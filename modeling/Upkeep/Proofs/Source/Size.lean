import Mathlib.Algebra.BigOperators.Group.List.Basic
import Mathlib.Data.List.Flatten
import Upkeep.Proofs.Source.Buffer
import Upkeep.Source.ConstKeyword

/-!
# Sizes of edited buffers

An edit of a buffer can be seen at the length of its text. A new line makes it longer (`length_toText_insert`), and it
gets shorter when lines go (`length_flatten_erased`) or when a line gets shorter content (`length_toText_replace`),
such as that without a keyword (`ConstSpan.length_cut`).
-/

namespace Upkeep

open Text

theorem LineEnd.length_text_pos (e : LineEnd) : 0 < e.text.length := by
  cases e <;> decide

namespace Buffer

variable {b : Buffer} {c line : Text} {i j : Nat}

/-! ## More lines -/

theorem length_flatten_insertIdx {lines : List Text} (hi : i ≤ lines.length) :
    (lines.insertIdx i line).flatten.length = line.length + lines.flatten.length := by
  rw [List.length_flatten, ((List.perm_insertIdx line lines hi).map List.length).sum_eq, List.map_cons,
    List.sum_cons, List.length_flatten]

theorem length_toText_le_closedLines (b : Buffer) : b.toText.length ≤ b.closedLines.flatten.length := by
  rw [toText, closedLines]
  split
  · next last hlast =>
    split
    · exact Nat.le_refl _
    · obtain ⟨front, hfront⟩ := List.getLast?_eq_some_iff.mp hlast
      rw [hfront, List.dropLast_concat]
      simp
  · next hnone => simp [List.getLast?_eq_none_iff.mp hnone]

theorem length_toText_insert (b : Buffer) (i : Nat) (c : Text) :
    b.toText.length < (b.insert i c).toText.length := by
  have hpos := b.lineEnd.length_text_pos
  rw [insert]
  split
  · next hi =>
    rw [toText, toText, length_flatten_insertIdx (Nat.le_of_lt hi), List.length_append]
    omega
  · have hclosed := b.length_toText_le_closedLines
    simp only [toText, List.flatten_append, List.flatten_singleton, List.length_append] at hclosed ⊢
    omega

/-! ## Fewer lines -/

theorem flatten_eq_at {lines : List Text} (hi : i < lines.length) :
    lines.flatten = (lines.take i).flatten ++ (lines[i] ++ (lines.drop (i + 1)).flatten) := by
  rw [← List.flatten_cons, ← List.drop_eq_getElem_cons hi, ← List.flatten_append, List.take_append_drop]

theorem length_flatten_erased {lines : List Text} (hline : lines[i]? = some line) (hne : line ≠ []) (hij : i ≤ j) :
    (lines.take i ++ lines.drop (j + 1)).flatten.length < lines.flatten.length := by
  obtain ⟨hi, rfl⟩ := List.getElem?_eq_some_iff.mp hline
  have hpos := List.length_pos_iff.mpr hne
  have hrest : (lines.drop (j + 1)).flatten.length ≤ (lines.drop (i + 1)).flatten.length :=
    (List.drop_sublist_drop_left lines (Nat.succ_le_succ hij)).flatten.length_le
  rw [flatten_eq_at hi, List.flatten_append]
  simp only [List.length_append]
  omega

/-! ## Shorter lines -/

theorem length_contentOf_add_endOf (line : Text) : (contentOf line).length + (endOf line).length ≤ line.length := by
  have hopen : ∀ before : Text, contentOf (before ++ ['\n']) = contentOf before := fun before => by
    rw [contentOf, dropEndWhile_append (by simp), contentOf]
  rw [endOf]
  split
  · next h =>
    obtain ⟨before, rfl⟩ := endsWith_iff.mp h
    have hreturn : dropEndWhile (· == '\n') (before ++ ['\r']) = before ++ ['\r'] := by
      refine dropEndWhile_eq_self fun front d hd => ?_
      obtain rfl : '\r' = d := by simpa using congrArg List.getLast? hd
      rfl
    have hcontent : contentOf (before ++ ['\r', '\n']) = dropEndWhile (· == '\r') before := by
      rw [show before ++ ['\r', '\n'] = before ++ ['\r'] ++ ['\n'] by simp, hopen, contentOf, hreturn,
        dropEndWhile_append (by simp)]
    rw [hcontent, List.length_append]
    exact Nat.add_le_add_right (isPrefix_dropEndWhile _ before).length_le _
  · split
    · next h =>
      obtain ⟨before, rfl⟩ := endsWith_iff.mp h
      rw [hopen]
      simpa using (isPrefix_contentOf before).length_le
    · exact (isPrefix_contentOf line).length_le

theorem length_toText_replace (h : b.content? i = some line) (hc : c.length < line.length) :
    (b.replace i c).toText.length < b.toText.length := by
  obtain ⟨old, hold, rfl⟩ := Option.map_eq_some_iff.mp h
  obtain ⟨hi, rfl⟩ := List.getElem?_eq_some_iff.mp hold
  have hlen := length_contentOf_add_endOf b.lines[i]
  rw [toText, toText, replace, List.modify_eq_take_cons_drop hi, flatten_eq_at hi]
  simp only [List.flatten_append, List.flatten_cons, List.length_append]
  omega

end Buffer

/-! ## Cut keywords -/

namespace ConstSpan

variable {s : ConstSpan} {line : Text} {spans : List ConstSpan} {column : Nat}

theorem bounds_of_mem_allFrom {before? : Option Char} (h : s ∈ allFrom column before? line) :
    column ≤ s.column ∧ s.column < s.stop ∧ s.stop ≤ column + line.length := by
  induction line generalizing column before? with
  | nil => cases h
  | cons c rest ih =>
    have hlater : ∀ {b?}, s ∈ allFrom (column + 1) b? rest →
        column ≤ s.column ∧ s.column < s.stop ∧ s.stop ≤ column + (c :: rest).length := fun h => by
      have := ih h
      rw [List.length_cons]
      omega
    rw [allFrom] at h
    split at h
    · exact hlater h
    · next behind hbehind =>
      dsimp only at h
      split at h
      · rcases List.mem_cons.mp h with rfl | h
        · have hlen := congrArg List.length (after?_eq_some_iff.mp hbehind)
          have hblanks : (leadingBlanks behind).length ≤ behind.length := (List.takeWhile_sublist _).length_le
          have hword : keyword.length = 5 := rfl
          rw [List.length_append] at hlen
          dsimp only
          omega
        · exact hlater h
      · exact hlater h

theorem length_cut (h : s ∈ all line) : (s.cut line).length < line.length := by
  obtain ⟨-, hlt, hle⟩ := bounds_of_mem_allFrom h
  rw [cut, List.length_append, List.length_take, List.length_drop]
  omega

theorem mem_of_nearest? (h : nearest? column spans = some s) : s ∈ spans := by
  induction spans generalizing s with
  | nil => cases h
  | cons first rest ih =>
    rw [nearest?] at h
    split at h
    · obtain rfl := Option.some.inj h
      exact List.mem_cons_self
    · next t ht =>
      split at h <;> obtain rfl := Option.some.inj h
      · exact List.mem_cons_of_mem first (ih ht)
      · exact List.mem_cons_self

end ConstSpan

end Upkeep
