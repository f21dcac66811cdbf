import Mathlib.Data.List.Sort
import Upkeep.Proofs.Source.ConstSpan
import Upkeep.Proofs.Source.Size
import Upkeep.Proofs.Text.Utf8

/-!
# Spans that a search finds

`standsAt line column` says that the keyword stands at a character of a line, without looking for it. The spans of a line
stand at these characters, each once and from left to right (`map_column_all`).

A search that goes on behind each keyword it meets, be it that of a span or not, finds the same spans (`search_eq`),
because no keyword begins inside another one.

Lines are cut by their bytes. `Covers` says which bytes of a line a span is: they start and end with a character, and
are those of the keyword and of all blanks behind it.
-/

namespace Upkeep.ConstSpan

open Text

variable {s : ConstSpan} {line rest skipped behind : Text} {column : Nat} {before? : Option Char}

/-! ## Places of the keyword -/

/-- Whether the keyword stands at a character of a line: no part of a name is before it, and a blank is behind it. -/
def standsAt (line : Text) (column : Nat) : Bool :=
  !(line.take column).getLast?.any isNameChar && startsWith keyword (line.drop column) &&
    (line.drop (column + keyword.length)).head?.any isBlank

theorem standsAt_iff : standsAt line column = true ↔ column ∈ (all line).map (·.column) := by
  simp only [standsAt, Bool.and_eq_true, Bool.not_eq_true', List.mem_map]
  constructor
  · rintro ⟨⟨hword, hkeyword⟩, hblank⟩
    obtain ⟨behind, hbehind⟩ := startsWith_iff.mp hkeyword
    have hlt : column < line.length := by
      have hlen := congrArg List.length hbehind
      have hpos : keyword.length = 5 := rfl
      rw [List.length_drop, List.length_append] at hlen
      omega
    rw [← List.drop_drop, hbehind, List.drop_left] at hblank
    have hne : leadingBlanks behind ≠ [] := by
      cases behind with
      | nil => cases hblank
      | cons c behind =>
        have hc : isBlank c = true := hblank
        simp [leadingBlanks, hc]
    refine ⟨⟨column, column + (keyword ++ leadingBlanks behind).length⟩, mem_all_iff.mpr ⟨line.take column,
      leadingBlanks behind, trimStart behind, ?_, any_head?_trimStart behind⟩, rfl⟩
    exact
      { line_eq := by rw [leadingBlanks_append_trimStart, ← hbehind, List.take_append_drop]
        column_eq := by rw [List.length_take, Nat.min_eq_left (Nat.le_of_lt hlt), Nat.zero_add]
        stop_eq := rfl
        not_in_name := by rwa [Option.or_none]
        ne_nil := hne
        isBlank := List.all_eq_true.mp List.all_takeWhile }
  · rintro ⟨s, hs, rfl⟩
    obtain ⟨front, blanks, back, h, -⟩ := mem_all_iff.mp hs
    have hcolumn : s.column = front.length := h.column_eq.trans (Nat.zero_add _)
    have hword := h.not_in_name
    rw [Option.or_none] at hword
    obtain ⟨c, blanks, rfl⟩ := List.exists_cons_of_ne_nil h.ne_nil
    rw [h.line_eq, hcolumn, List.take_left, List.drop_left, ← List.drop_drop, List.drop_left, List.drop_left]
    exact ⟨⟨hword, startsWith_iff.mpr ⟨_, rfl⟩⟩, h.isBlank c List.mem_cons_self⟩

theorem pairwise_allFrom (column : Nat) (before? : Option Char) (line : Text) :
    (allFrom column before? line).Pairwise (·.column < ·.column) := by
  induction line generalizing column before? with
  | nil => exact .nil
  | cons c rest ih =>
    rw [allFrom]
    split
    · exact ih _ _
    · dsimp only
      split
      · exact .cons (fun s hs => (bounds_of_mem_allFrom hs).1) (ih _ _)
      · exact ih _ _

theorem map_column_all (line : Text) :
    (all line).map (·.column) = (List.range line.length).filter (standsAt line) := by
  have hall : ((all line).map (·.column)).Pairwise (· < ·) := List.pairwise_map.mpr (pairwise_allFrom 0 none line)
  have hrange : ((List.range line.length).filter (standsAt line)).Pairwise (· < ·) :=
    List.pairwise_lt_range.filter _
  have hmem : ∀ k, k ∈ (all line).map (·.column) ↔ k ∈ (List.range line.length).filter (standsAt line) := by
    intro k
    rw [List.mem_filter, standsAt_iff, List.mem_range, iff_and_self, List.mem_map]
    rintro ⟨s, hs, rfl⟩
    have hbounds := bounds_of_mem_allFrom hs
    omega
  -- both lists ascend, so they are equal when they have the same members
  exact List.Perm.eq_of_pairwise (fun a b _ _ hab hba => absurd (Nat.lt_trans hab hba) (Nat.lt_irrefl a)) hall hrange
    ((List.perm_ext_iff_of_nodup (hall.imp Nat.ne_of_lt) (hrange.imp Nat.ne_of_lt)).mpr hmem)

/-! ## A search that goes on behind each keyword -/

/-- The spans that a search finds in the rest of a line behind `front`. It goes on behind each keyword, be it that of a
span or not. -/
def search (front rest : Text) : List ConstSpan :=
  match _h : breakOn? keyword rest with
  | none => []
  | some (skipped, behind) =>
    let before := front ++ skipped
    let blanks := (leadingBlanks behind).length
    let later := search (before ++ keyword) behind
    if !before.getLast?.any isNameChar && decide (0 < blanks) then
      ⟨before.length, before.length + keyword.length + blanks⟩ :: later
    else later
termination_by rest.length
decreasing_by
  have hlen := congrArg List.length (breakOn?_eq_some _h)
  have hkeyword : keyword.length = 5 := rfl
  simp only [List.length_append] at hlen
  omega

theorem allFrom_of_breakOn?_eq_none (h : breakOn? keyword rest = none) : allFrom column before? rest = [] := by
  induction rest generalizing column before? with
  | nil => rfl
  | cons c rest ih =>
    rw [breakOn?] at h
    rw [allFrom]
    cases hafter : after? keyword (c :: rest) with
    | some behind => simp [hafter] at h
    | none =>
      rw [hafter] at h
      exact ih (Option.map_eq_none_iff.mp h)

theorem allFrom_of_breakOn?_eq_some (h : breakOn? keyword rest = some (skipped, behind)) :
    allFrom column before? rest =
      allFrom (column + skipped.length) (skipped.getLast?.or before?) (keyword ++ behind) := by
  induction rest generalizing column before? skipped with
  | nil => cases h
  | cons c rest ih =>
    rw [breakOn?] at h
    cases hafter : after? keyword (c :: rest) with
    | some others =>
      rw [hafter] at h
      cases h
      rw [after?_eq_some_iff.mp hafter]
      rfl
    | none =>
      rw [hafter] at h
      obtain ⟨⟨skipped, behind⟩, hbreak, heq⟩ := Option.map_eq_some_iff.mp h
      cases heq
      have hlen : column + (c :: skipped).length = column + 1 + skipped.length := by
        rw [List.length_cons]
        omega
      rw [allFrom, hafter, getLast?_cons_or, hlen]
      exact ih hbreak

theorem allFrom_keyword (column : Nat) (before? : Option Char) (behind : Text) :
    allFrom column before? (keyword ++ behind) =
      if !before?.any isNameChar && decide (0 < (leadingBlanks behind).length) then
        ⟨column, column + keyword.length + (leadingBlanks behind).length⟩ ::
          allFrom (column + keyword.length) keyword.getLast? behind
      else allFrom (column + keyword.length) keyword.getLast? behind := by
  have hletters : allFrom (column + 1) (some 'c') ("onst".toList ++ behind) =
      allFrom (column + keyword.length) keyword.getLast? behind := rfl
  have hafter : after? keyword ('c' :: ("onst".toList ++ behind)) = some behind := after?_append keyword behind
  have hkeyword : keyword ++ behind = 'c' :: ("onst".toList ++ behind) := rfl
  rw [hkeyword, allFrom, hafter, hletters]

theorem allFrom_eq_of_breakOn? (h : breakOn? keyword rest = some (skipped, behind)) (front : Text) :
    allFrom front.length front.getLast? rest =
      if !(front ++ skipped).getLast?.any isNameChar && decide (0 < (leadingBlanks behind).length) then
        ⟨(front ++ skipped).length, (front ++ skipped).length + keyword.length + (leadingBlanks behind).length⟩ ::
          allFrom (front ++ skipped ++ keyword).length (front ++ skipped ++ keyword).getLast? behind
      else allFrom (front ++ skipped ++ keyword).length (front ++ skipped ++ keyword).getLast? behind := by
  have hlast : (front ++ skipped ++ keyword).getLast? = keyword.getLast? := by
    rw [List.getLast?_append]
    rfl
  rw [allFrom_of_breakOn?_eq_some h, ← List.getLast?_append, ← List.length_append, allFrom_keyword, hlast,
    @List.length_append _ (front ++ skipped)]

theorem search_eq (front rest : Text) : search front rest = allFrom front.length front.getLast? rest := by
  fun_induction search front rest with
  | case1 front rest h => exact (allFrom_of_breakOn?_eq_none h).symm
  | case2 front rest skipped behind h before blanks later hspan ih =>
    rw [allFrom_eq_of_breakOn? h, if_pos hspan]
    exact congrArg _ ih
  | case3 front rest skipped behind h before blanks later hspan ih =>
    rw [allFrom_eq_of_breakOn? h, if_neg hspan]
    exact ih

/-! ## Bytes of a span -/

theorem byteOffset_eq (line : Text) (column : Nat) : byteOffset line column = (toBytes (line.take column)).size := by
  rw [byteOffset]
  induction line.take column with
  | nil => rfl
  | cons c t ih => rw [List.foldr_cons, ih, size_toBytes_cons]

theorem byteOffset_append (front back : Text) : byteOffset (front ++ back) front.length = (toBytes front).size := by
  rw [byteOffset_eq, List.take_left]

theorem byteOffset_le {i j : Nat} (h : i ≤ j) (line : Text) : byteOffset line i ≤ byteOffset line j := by
  rw [byteOffset_eq, byteOffset_eq]
  exact size_toBytes_le (List.take_sublist_take_left h)

theorem isValid_byteOffset (front back : Text) :
    String.Pos.Raw.IsValid (String.ofList (front ++ back)) ⟨byteOffset (front ++ back) front.length⟩ := by
  rw [byteOffset_append]
  exact String.Pos.Raw.isValid_iff_exists_append.mpr ⟨String.ofList front, String.ofList back,
    String.ofList_append, rfl⟩

/-- Which bytes of a line a span is. They start and end with a character, and are the keyword and all blanks behind it.
Before them there are as many characters as the column says. -/
structure Covers (s : ConstSpan) (line : Text) : Prop where
  start_isValid : String.Pos.Raw.IsValid (String.ofList line) ⟨byteOffset line s.column⟩
  stop_isValid : String.Pos.Raw.IsValid (String.ofList line) ⟨byteOffset line s.stop⟩
  start_lt_stop : byteOffset line s.column < byteOffset line s.stop
  stop_le : byteOffset line s.stop ≤ (toBytes line).size
  inside : (toBytes line).extract (byteOffset line s.column) (byteOffset line s.stop) =
    toBytes (keyword ++ leadingBlanks (line.drop (s.column + keyword.length)))
  before : ∃ front : Text, (toBytes line).extract 0 (byteOffset line s.column) = toBytes front ∧ front.length = s.column

theorem covers_of_mem_all (h : s ∈ all line) : s.Covers line := by
  obtain ⟨front, blanks, back, h, hback⟩ := mem_all_iff.mp h
  have hcolumn : s.column = front.length := h.column_eq.trans (Nat.zero_add _)
  have hstop : s.stop = (front ++ (keyword ++ blanks)).length := by
    rw [h.stop_eq, hcolumn, ← List.length_append]
  have hline : line = front ++ ((keyword ++ blanks) ++ back) := by rw [h.line_eq, List.append_assoc]
  have hline' : line = (front ++ (keyword ++ blanks)) ++ back := hline.trans (List.append_assoc _ _ _).symm
  have hblanks : leadingBlanks (line.drop (s.column + keyword.length)) = blanks := by
    rw [h.line_eq, hcolumn, ← List.drop_drop, List.drop_left, List.drop_left, leadingBlanks_append h.isBlank hback]
  have hfirst : byteOffset line s.column = (toBytes front).size := by rw [hcolumn, hline, byteOffset_append]
  have hlast : byteOffset line s.stop = (toBytes front).size + (toBytes (keyword ++ blanks)).size := by
    rw [hstop, hline', byteOffset_append, toBytes_append, ByteArray.size_append]
  have hbytes : toBytes line = toBytes front ++ (toBytes (keyword ++ blanks) ++ toBytes back) := by
    rw [hline, toBytes_append, toBytes_append]
  have hpos : 0 < (toBytes (keyword ++ blanks)).size := by
    rw [toBytes_append, ByteArray.size_append]
    exact Nat.add_pos_left (by decide) _
  exact
    { start_isValid := by
        rw [hcolumn, hline]
        exact isValid_byteOffset front _
      stop_isValid := by
        rw [hstop, hline']
        exact isValid_byteOffset _ back
      start_lt_stop := by omega
      stop_le := by
        rw [hlast, hbytes, ByteArray.size_append, ByteArray.size_append]
        omega
      inside := by
        rw [hblanks, hfirst, hlast, hbytes]
        exact (ByteArray.extract_append_size_add (i := 0)).trans (ByteArray.extract_append_eq_left rfl)
      before := ⟨front, by rw [hfirst, hbytes, ByteArray.extract_append_eq_left rfl], hcolumn.symm⟩ }

/-! ## All spans -/

/-- A line has one span for each place at which the keyword stands, from left to right. Each is the keyword with all
blanks behind it, none reaches into the next one, and they are those that a search from keyword to keyword finds. -/
theorem spans_found (line : Text) :
    (all line).map (·.column) = (List.range line.length).filter (standsAt line) ∧
      (∀ s ∈ all line, s.Covers line) ∧
      ((all line).Pairwise fun s r => byteOffset line s.stop ≤ byteOffset line r.column) ∧
      all line = search [] line := by
  refine ⟨map_column_all line, fun s hs => covers_of_mem_all hs, ?_, (search_eq [] line).symm⟩
  exact (pairwise_allFrom 0 none line).imp_of_mem fun hs hr hlt => byteOffset_le (stop_le_column hs hr hlt) line

/-- A line with the keyword before blanks of one byte and of three, in a name, and at the end. -/
def wideLine : Text := "const\t\u3000myconst const".toList

/-- One keyword of the line is a span, of seven characters and nine bytes. -/
theorem spans_found_wide :
    (all wideLine).map (fun s => (s.column, s.stop, byteOffset wideLine s.column, byteOffset wideLine s.stop)) =
      [(0, 7, 0, 9)] ∧
      ∀ s ∈ all wideLine, s.Covers wideLine :=
  ⟨by decide +kernel, (spans_found wideLine).2.1⟩

end Upkeep.ConstSpan
