import Upkeep.Proofs.Text.Trimming
import Upkeep.Source.Buffer
import Upkeep.Source.ConstKeyword

/-!
# Counts of the keyword `const`

The words of a line are its stretches of name characters. `keywordCount line` is how many of them are the keyword,
whatever stands behind them, so that line ends do not matter (`keywordCount_contentOf`).

A span stands behind no name character and ends with blanks, which are none either (`mem_allFrom_iff`). So what is cut
with it is one word and no part of another (`keywordCount_cut`).
-/

namespace Upkeep.ConstSpan

open Text

variable {s : ConstSpan} {line rest front blanks back t : Text} {c : Char} {column : Nat} {before? : Option Char}

/-! ## Words -/

/-- The words of a line: its stretches between characters that names do not have, the empty ones too. -/
def words (line : Text) : List Text := line.splitOnP fun c => !isNameChar c

/-- How often the keyword stands on a line as a word of its own. -/
def keywordCount (line : Text) : Nat := (words line).count keyword

def blankPoints : List Nat :=
  [9, 10, 11, 12, 13, 0x20, 0x85, 0xA0, 0x1680, 0x2000, 0x2001, 0x2002, 0x2003, 0x2004, 0x2005, 0x2006, 0x2007, 0x2008,
    0x2009, 0x200A, 0x2028, 0x2029, 0x202F, 0x205F, 0x3000]

theorem toNat_mem_blankPoints (h : isBlank c = true) : c.toNat ∈ blankPoints := by
  simp only [isBlank, Bool.or_eq_true, Bool.and_eq_true, decide_eq_true_eq, beq_iff_eq] at h
  simp only [blankPoints, List.mem_cons]
  omega

theorem not_isNameChar_of_isBlank (h : isBlank c = true) : isNameChar c = false := by
  -- the tables are looked at as lists, on which the search is by recursion
  have hall : ∀ n ∈ blankPoints, isNameChar (Char.ofNat n) = false := by
    simp only [isNameChar, isAlphanumeric, inRanges, ← Array.any_toList]
    decide +kernel
  have hc := hall c.toNat (toNat_mem_blankPoints h)
  rwa [Char.ofNat_toNat] at hc

theorem keywordCount_append_cons (hc : isNameChar c = false) (front t : Text) :
    keywordCount (front ++ c :: t) = keywordCount front + keywordCount t := by
  rw [keywordCount, words, List.splitOnP_append_cons front t (by rw [hc]; rfl), List.count_append]
  rfl

theorem keywordCount_nil : keywordCount [] = 0 := by decide

theorem keywordCount_append_of_breaks (h : ∀ c ∈ blanks, isNameChar c = false) (t : Text) :
    keywordCount (blanks ++ t) = keywordCount t := by
  induction blanks with
  | nil => rfl
  | cons c blanks ih =>
    obtain ⟨hc, hblanks⟩ := List.forall_mem_cons.mp h
    have hcons := keywordCount_append_cons hc [] (blanks ++ t)
    rw [keywordCount_nil, Nat.zero_add, ih hblanks] at hcons
    exact hcons

theorem keywordCount_append_breaks (h : ∀ c ∈ blanks, isNameChar c = false) (t : Text) :
    keywordCount (t ++ blanks) = keywordCount t := by
  cases blanks with
  | nil => rw [List.append_nil]
  | cons c blanks =>
    obtain ⟨hc, hblanks⟩ := List.forall_mem_cons.mp h
    have hnone := keywordCount_append_of_breaks hblanks []
    rw [List.append_nil, keywordCount_nil] at hnone
    rw [keywordCount_append_cons hc, hnone, Nat.add_zero]

theorem keywordCount_append (h : front.getLast?.any isNameChar = false) (t : Text) :
    keywordCount (front ++ t) = keywordCount front + keywordCount t := by
  rcases List.eq_nil_or_concat front with rfl | ⟨front, c, rfl⟩
  · rw [keywordCount_nil, List.nil_append, Nat.zero_add]
  · rw [List.concat_eq_append] at h ⊢
    have hc : isNameChar c = false := by rwa [List.getLast?_concat, Option.any_some] at h
    rw [List.append_assoc, List.singleton_append, keywordCount_append_cons hc, keywordCount_append_cons hc,
      keywordCount_nil, Nat.add_zero]

theorem isNameChar_return : isNameChar '\r' = false := by decide

theorem isNameChar_feed : isNameChar '\n' = false := by decide

theorem keywordCount_contentOf (line : Text) : keywordCount (Buffer.contentOf line) = keywordCount line := by
  obtain ⟨feeds, hfeeds, hfeed⟩ := exists_eq_dropEndWhile_append (· == '\n') line
  obtain ⟨returns, hreturns, hreturn⟩ :=
    exists_eq_dropEndWhile_append (· == '\r') (dropEndWhile (· == '\n') line)
  have hbreaks : ∀ c ∈ returns ++ feeds, isNameChar c = false := by
    intro c hc
    rcases List.mem_append.mp hc with hc | hc
    · exact beq_iff_eq.mp (hreturn c hc) ▸ isNameChar_return
    · exact beq_iff_eq.mp (hfeed c hc) ▸ isNameChar_feed
  rw [hreturns, List.append_assoc] at hfeeds
  rw [Buffer.contentOf, ← keywordCount_append_breaks hbreaks, ← hfeeds]

theorem keywordCount_append_endOf (t line : Text) : keywordCount (t ++ Buffer.endOf line) = keywordCount t := by
  refine keywordCount_append_breaks (fun c hc => ?_) t
  rw [Buffer.endOf] at hc
  split at hc
  · rcases List.mem_cons.mp hc with rfl | hc
    · exact isNameChar_return
    · exact List.mem_singleton.mp hc ▸ isNameChar_feed
  · split at hc
    · exact List.mem_singleton.mp hc ▸ isNameChar_feed
    · cases hc

/-! ## Spans -/

/-- What stands before and behind the keyword of a span and its blanks, on a line's rest that starts at `column` behind
the character `before?`. -/
structure IsAround (s : ConstSpan) (column : Nat) (before? : Option Char) (line front blanks back : Text) : Prop where
  line_eq : line = front ++ (keyword ++ (blanks ++ back))
  column_eq : s.column = column + front.length
  stop_eq : s.stop = s.column + (keyword ++ blanks).length
  not_in_name : (front.getLast?.or before?).any isNameChar = false
  ne_nil : blanks ≠ []
  isBlank : ∀ c ∈ blanks, isBlank c = true

theorem IsAround.cons (h : s.IsAround (column + 1) (some c) rest front blanks back) (before? : Option Char) :
    s.IsAround column before? (c :: rest) (c :: front) blanks back where
  line_eq := by rw [h.line_eq, List.cons_append]
  column_eq := by
    rw [h.column_eq, List.length_cons]
    omega
  stop_eq := h.stop_eq
  not_in_name := by
    have hfront := h.not_in_name
    rw [List.getLast?_cons, Option.some_or]
    cases hlast : front.getLast? with
    | none => rwa [hlast, Option.none_or] at hfront
    | some d => rwa [hlast, Option.some_or] at hfront
  ne_nil := h.ne_nil
  isBlank := h.isBlank

theorem IsAround.tail (h : s.IsAround column before? (c :: rest) (c :: front) blanks back) :
    s.IsAround (column + 1) (some c) rest front blanks back where
  line_eq := (List.cons.inj h.line_eq).2
  column_eq := by
    rw [h.column_eq, List.length_cons]
    omega
  stop_eq := h.stop_eq
  not_in_name := by
    have hfront := h.not_in_name
    rw [List.getLast?_cons, Option.some_or] at hfront
    cases hlast : front.getLast? with
    | none => rwa [hlast] at hfront
    | some d => rwa [hlast] at hfront
  ne_nil := h.ne_nil
  isBlank := h.isBlank

/-- The spans are all the places at which the keyword stands as a word of its own, with all blanks behind it. -/
theorem mem_allFrom_iff : s ∈ allFrom column before? line ↔
    ∃ front blanks back, s.IsAround column before? line front blanks back ∧ back.head?.any Text.isBlank = false := by
  -- a span is found where the rest of the line starts with the keyword, or further on
  induction line generalizing column before? with
  | nil =>
    constructor
    · intro h
      cases h
    · rintro ⟨front, blanks, back, h, -⟩
      have hlen := congrArg List.length h.line_eq
      simp [keyword] at hlen
  | cons c rest ih =>
    constructor
    · intro h
      have hlater : s ∈ allFrom (column + 1) (some c) rest → ∃ front blanks back,
          s.IsAround column before? (c :: rest) front blanks back ∧ back.head?.any Text.isBlank = false := fun h => by
        obtain ⟨front, blanks, back, h, hback⟩ := ih.mp h
        exact ⟨c :: front, blanks, back, h.cons before?, hback⟩
      rw [allFrom] at h
      split at h
      · exact hlater h
      · next behind hbehind =>
        dsimp only at h
        split at h
        · next hspan =>
          rw [Bool.and_eq_true, decide_eq_true_eq, Bool.not_eq_true'] at hspan
          rcases List.mem_cons.mp h with rfl | h
          · refine ⟨[], leadingBlanks behind, trimStart behind, ⟨?_, rfl, ?_, hspan.1, ?_, ?_⟩, ?_⟩
            · rw [leadingBlanks_append_trimStart, List.nil_append]
              exact after?_eq_some_iff.mp hbehind
            · rw [List.length_append, Nat.add_assoc]
            · exact List.length_pos_iff.mp hspan.2
            · exact List.all_eq_true.mp List.all_takeWhile
            · exact any_head?_trimStart behind
          · exact hlater h
        · exact hlater h
    · rintro ⟨front, blanks, back, h, hback⟩
      rw [allFrom]
      cases front with
      | nil =>
        have hkeyword : after? keyword (c :: rest) = some (blanks ++ back) := after?_eq_some_iff.mpr h.line_eq
        have hblanks : leadingBlanks (blanks ++ back) = blanks := leadingBlanks_append h.isBlank hback
        have hword : before?.any isNameChar = false := h.not_in_name
        have hs : s = ⟨column, column + keyword.length + blanks.length⟩ := by
          have hcolumn := h.column_eq
          have hstop := h.stop_eq
          rw [List.length_nil, Nat.add_zero] at hcolumn
          rw [hcolumn, List.length_append, ← Nat.add_assoc] at hstop
          cases s
          simp_all
        rw [hkeyword]
        simp only [hblanks, hword, Bool.not_false, Bool.true_and, decide_eq_true_eq]
        rw [if_pos (List.length_pos_iff.mpr h.ne_nil), hs]
        exact List.mem_cons_self
      | cons d front =>
        obtain ⟨rfl, -⟩ := List.cons.inj h.line_eq
        have hlater : s ∈ allFrom (column + 1) (some c) rest := ih.mpr ⟨front, blanks, back, h.tail, hback⟩
        split
        · exact hlater
        · dsimp only
          split
          · exact List.mem_cons_of_mem _ hlater
          · exact hlater

theorem IsAround.cut_eq (h : s.IsAround 0 before? line front blanks back) : s.cut line = front ++ back := by
  rw [cut, h.stop_eq, h.column_eq, h.line_eq, Nat.zero_add, List.take_left, ← List.append_assoc keyword,
    ← List.append_assoc front, List.drop_left' List.length_append]

theorem keywordCount_cut (h : s ∈ all line) : keywordCount line = keywordCount (s.cut line) + 1 := by
  obtain ⟨front, blanks, back, h, -⟩ := mem_allFrom_iff.mp h
  have hfront := h.not_in_name
  rw [Option.or_none] at hfront
  obtain ⟨c, blanks, rfl⟩ := List.exists_cons_of_ne_nil h.ne_nil
  obtain ⟨hc, hblanks⟩ := List.forall_mem_cons.mp h.isBlank
  have hkeyword : keywordCount keyword = 1 := by decide
  rw [h.cut_eq, h.line_eq, keywordCount_append hfront, keywordCount_append hfront, List.cons_append,
    keywordCount_append_cons (not_isNameChar_of_isBlank hc), hkeyword,
    keywordCount_append_of_breaks fun d hd => not_isNameChar_of_isBlank (hblanks d hd)]
  omega

end Upkeep.ConstSpan
