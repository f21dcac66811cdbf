import Upkeep.Proofs.Fix.ImportPlacement

/-!
# Foundation imports behind the fix

The fix takes away the imports of the library that stand below the header, and sees to it that the header has one then.

* `relocated b` is the buffer that it leaves (`text_fix_eq`). The header of this is the old one, with at most one line
  more (`header_relocated`), and below it the misplaced imports are gone and nothing else (`drop_headerLength_relocated`).
  This is so because the line behind the header is no import: it stays, and it still ends the header.
* `misplaced_imports_moved`: one pass puts all imports of the library in their place.
* `kept b` are the lines that stay, by their numbers (`removeMisplaced_eq_pick`). The fix judges each line on its own, so
  that the other lines of a directive stay: `whole_directive_goes_iff`. `continuation_left_behind` is a directive of two
  lines that loses the first.
-/

namespace Upkeep.FoundationImport

open Text Buffer Directive

variable {b : Buffer} {t : Text} {i k n : Nat} {line : Text}

/-- Whether line `i` imports the library from below the header. -/
def isMisplaced (b : Buffer) (i : Nat) : Bool := decide (b.headerLength ≤ i) && isImport (b.contentAt i)

/-- The lines that do not import the library, with their ends. -/
def others (b : Buffer) : List Text := b.lines.filter fun line => !isImport (contentOf line)

def relocated (b : Buffer) : Buffer :=
  if isAdded b then (removeMisplaced b).insert (pointIn b) directive else removeMisplaced b

theorem isMisplaced_iff : isMisplaced b i = true ↔
    b.headerLength ≤ i ∧ ∃ line, b.content? i = some line ∧ isImport line = true := by
  rw [isMisplaced, Bool.and_eq_true, decide_eq_true_eq]
  apply and_congr_right
  intro _
  by_cases hi : i < b.length
  · simp [content?_of_lt hi]
  · have hnone : b.content? i = none := by
      rw [content?_eq, List.getElem?_eq_none]
      rw [length_contents]
      omega
    have hempty : isImport [] = false := by decide
    simp [hnone, contentAt, hempty]

theorem misplaced_eq_zero_iff : misplaced b = 0 ↔ ∀ i, isMisplaced b i = false := by
  unfold misplaced
  rw [List.countP_eq_zero]
  constructor
  · intro hnone i
    rw [Bool.eq_false_iff]
    intro hi
    obtain ⟨hle, line, hline, himport⟩ := isMisplaced_iff.mp hi
    refine hnone line ?_ himport
    apply List.mem_of_getElem? (i := i - b.headerLength)
    rw [List.getElem?_drop, ← content?_eq, Nat.add_sub_cancel' hle, hline]
  · intro hnone line hline himport
    obtain ⟨j, hj⟩ := List.mem_iff_getElem?.mp hline
    rw [List.getElem?_drop, ← content?_eq] at hj
    have hmis := isMisplaced_iff.mpr ⟨Nat.le_add_right b.headerLength j, line, hj, himport⟩
    rw [hnone] at hmis
    cases hmis

/-! ## The buffer behind the fix -/

theorem removeMisplaced_eq_self (h : misplaced b = 0) : removeMisplaced b = b := by
  have hrest : (b.lines.drop b.headerLength).filter (fun line => !isImport (contentOf line)) =
      b.lines.drop b.headerLength := by
    rw [List.filter_eq_self]
    intro line hline
    have hnone := List.countP_eq_zero.mp h (contentOf line)
    rw [contents, ← List.map_drop] at hnone
    simpa using hnone (List.mem_map_of_mem hline)
  rw [removeMisplaced, hrest, List.take_append_drop]

theorem text_fix_eq (t : Text) : (fix t).text = (relocated (ofText t)).toText := by
  unfold relocated
  by_cases hadded : isAdded (ofText t) = true
  · rw [if_pos hadded, text_fix_of_isAdded hadded, pointIn_removeMisplaced]
  · rw [if_neg hadded]
    by_cases hm : misplaced (ofText t) = 0
    · rw [removeMisplaced_eq_self hm, toText_ofText, fix, if_pos hm, Outcome.unchanged]
    · have hheader : (ofText t).header.any isImport = true := by simpa [isAdded, hm] using hadded
      rw [fix, if_neg hm]
      simp only [if_pos hheader]

theorem framed_relocated (hb : Framed b.lines) : Framed (relocated b).lines := by
  have hfront := framed_removeMisplaced hb
  unfold relocated
  split
  · exact framed_insert hfront isContent_directive.no_feed _
  · exact hfront

theorem isImport_directive : isImport directive = true := by decide

theorem isHeaderLine_directive : isHeaderLine directive = true := isHeaderLine_of_isImport isImport_directive

theorem pointIn_le_removeMisplaced (b : Buffer) : pointIn b ≤ (removeMisplaced b).headerLength := by
  rw [← pointIn_removeMisplaced]
  exact pointIn_le _

theorem header_relocated (hb : Framed b.lines) :
    (relocated b).header = if isAdded b then b.header.insertIdx (pointIn b) directive else b.header := by
  unfold relocated
  split
  · rw [header_insert (framed_removeMisplaced hb) isContent_directive isHeaderLine_directive
      (pointIn_le_removeMisplaced b), header_removeMisplaced]
  · exact header_removeMisplaced b

theorem drop_headerLength_removeMisplaced (b : Buffer) :
    (removeMisplaced b).contents.drop (removeMisplaced b).headerLength =
      (b.contents.drop b.headerLength).filter (!isImport ·) := by
  rw [headerLength, header_removeMisplaced, contents_removeMisplaced, List.drop_left]

theorem drop_headerLength_relocated (hb : Framed b.lines) :
    (relocated b).contents.drop (relocated b).headerLength =
      (b.contents.drop b.headerLength).filter (!isImport ·) := by
  unfold relocated
  split
  · rw [drop_headerLength_insert (framed_removeMisplaced hb) isContent_directive isHeaderLine_directive
      (pointIn_le_removeMisplaced b), drop_headerLength_removeMisplaced]
  · exact drop_headerLength_removeMisplaced b

theorem misplaced_relocated (hb : Framed b.lines) : misplaced (relocated b) = 0 := by
  rw [misplaced, drop_headerLength_relocated hb, List.countP_eq_zero]
  intro line hline
  have hkept := (List.mem_filter.mp hline).2
  simpa using hkept

theorem countP_header_relocated (hb : Framed b.lines) (h : misplaced b ≠ 0) :
    (relocated b).header.countP isImport = max 1 (b.header.countP isImport) := by
  rw [header_relocated hb]
  by_cases hheader : b.header.any isImport = true
  · -- the header has one, so that none is added
    have hadded : ¬ isAdded b = true := by simp [isAdded, hheader]
    have hpos : 0 < b.header.countP isImport := List.countP_pos_iff.mpr (List.any_eq_true.mp hheader)
    rw [if_neg hadded]
    omega
  · have hadded : isAdded b = true := by simpa [isAdded, h] using hheader
    have hzero : b.header.countP isImport = 0 := by
      rw [List.countP_eq_zero]
      intro line hline himport
      exact hheader (List.any_eq_true.mpr ⟨line, hline, himport⟩)
    rw [if_pos hadded, (List.perm_insertIdx directive b.header (pointIn_le b)).countP_eq,
      List.countP_cons_of_pos isImport_directive, hzero]
    rfl

/-! ## The other lines -/

theorem others_removeMisplaced (b : Buffer) : others (removeMisplaced b) = others b := by
  have hsplit := congrArg (List.filter fun line => !isImport (contentOf line))
    (List.take_append_drop b.headerLength b.lines)
  rw [List.filter_append] at hsplit
  rw [others, removeMisplaced, List.filter_append, List.filter_filter]
  simpa [others] using hsplit

theorem headerLength_lt_removeMisplaced (h : misplaced b ≠ 0) : b.headerLength < (removeMisplaced b).length := by
  have hne : b.contents.dropWhile isHeaderLine ≠ [] := by
    intro hnil
    rw [misplaced, drop_headerLength, hnil] at h
    exact h rfl
  obtain ⟨first, rest, hrest⟩ := List.exists_cons_of_ne_nil hne
  have hfirst : isHeaderLine first = false := by
    have hhead := List.head?_dropWhile_not isHeaderLine b.contents
    rw [hrest] at hhead
    exact hhead
  have hno : isImport first = false := by
    rw [Bool.eq_false_iff]
    intro himport
    rw [isHeaderLine_of_isImport himport] at hfirst
    cases hfirst
  rw [← length_contents, contents_removeMisplaced, drop_headerLength, hrest, List.length_append, headerLength]
  simp [hno]

theorem filter_insertIdx_of_neg {p : Text → Bool} {lines : List Text} (hline : p line = false) :
    (lines.insertIdx n line).filter p = lines.filter p := by
  induction lines generalizing n with
  | nil => cases n <;> simp [hline]
  | cons first rest ih =>
    cases n with
    | zero => simp [hline]
    | succ n => rw [List.insertIdx_succ_cons, List.filter_cons, List.filter_cons, ih]

theorem others_relocated (b : Buffer) : others (relocated b) = others b := by
  unfold relocated
  split
  · next hadded =>
    have hm : misplaced b ≠ 0 := by
      intro hzero
      simp [isAdded, hzero] at hadded
    have hlt : pointIn b < (removeMisplaced b).lines.length :=
      Nat.lt_of_le_of_lt (pointIn_le b) (headerLength_lt_removeMisplaced hm)
    rw [others, Buffer.insert, if_pos hlt, filter_insertIdx_of_neg, ← others, others_removeMisplaced]
    rw [contentOf_closed isContent_directive, isImport_directive]
    rfl
  · exact others_removeMisplaced b

/-! ## One pass -/

theorem misplaced_fix (t : Text) : misplaced (ofText (fix t).text) = 0 := by
  have hb := framed_relocated (framed_ofText t)
  have hzero := misplaced_relocated (framed_ofText t)
  rw [misplaced] at hzero ⊢
  rw [text_fix_eq, contents_ofText_toText hb, headerLength_ofText_toText hb, hzero]

theorem fix_fix (t : Text) : fix (fix t).text = Outcome.unchanged (fix t).text := by
  rw [fix, if_pos (misplaced_fix t)]

theorem text_fix_eq_self_iff : (fix t).text = t ↔ misplaced (ofText t) = 0 := by
  constructor
  · intro heq
    have hzero := misplaced_fix t
    rwa [heq] at hzero
  · intro hm
    rw [fix, if_pos hm, Outcome.unchanged]

theorem text_fix_ne_iff : (fix t).text ≠ t ↔ 0 < (fix t).applied := by
  rw [Ne, text_fix_eq_self_iff, fix]
  split
  · next hm => simp [hm, Outcome.unchanged]
  · next hm => exact iff_of_true hm (Nat.pos_of_ne_zero hm)

/-- One pass puts the imports of the library in their place. None is below the header then. If one was, the header has
those that it had, and one at least; if none was, and only then, the text stays. The lines that do not import the library
are the same, in the same order and with the same ends. A second pass finds nothing. -/
theorem misplaced_imports_moved (t : Text) :
    (∀ i, isMisplaced (ofText (fix t).text) i = false) ∧
    ((∃ i, isMisplaced (ofText t) i = true) →
      (ofText (fix t).text).header.countP isImport = max 1 ((ofText t).header.countP isImport)) ∧
    ((fix t).text = t ↔ ∀ i, isMisplaced (ofText t) i = false) ∧
    others (ofText (fix t).text) = others (ofText t) ∧
    fix (fix t).text = Outcome.unchanged (fix t).text := by
  have hb := framed_relocated (framed_ofText t)
  refine ⟨misplaced_eq_zero_iff.mp (misplaced_fix t), ?_, ?_, ?_, fix_fix t⟩
  · rintro ⟨i, hi⟩
    have hm : misplaced (ofText t) ≠ 0 := by
      intro hzero
      rw [misplaced_eq_zero_iff.mp hzero i] at hi
      cases hi
    rw [text_fix_eq, header_ofText_toText hb, countP_header_relocated (framed_ofText t) hm]
  · rw [text_fix_eq_self_iff, misplaced_eq_zero_iff]
  · rw [text_fix_eq, others, lines_ofText_toText hb, ← others, others_relocated]

/-- A list with an import of the library in it, behind an import of another one. -/
def late : Text :=
  "import 'package:flutter/widgets.dart';\r\nconst names = [\n".toList ++ directive ++ "\n];".toList

/-- The header gets the import. -/
theorem misplaced_imports_moved_late :
    isMisplaced (ofText late) 2 = true ∧ (ofText (fix late).text).header.countP isImport = 1 ∧
    others (ofText (fix late).text) = ["import 'package:flutter/widgets.dart';\r\n".toList,
      "const names = [\n".toList, "];".toList] := by
  have hlate : isMisplaced (ofText late) 2 = true := by decide +kernel
  obtain ⟨-, hheader, -, hothers, -⟩ := misplaced_imports_moved late
  refine ⟨hlate, ?_, ?_⟩
  · rw [hheader ⟨2, hlate⟩]
    decide +kernel
  · rw [hothers]
    decide +kernel

/-! ## Directives of several lines -/

def kept (b : Buffer) : List Nat := (List.range b.length).filter fun k => !isMisplaced b k

theorem kept_eq (b : Buffer) : kept b = List.range' 0 b.headerLength ++
    (List.range' b.headerLength (b.length - b.headerLength)).filter fun k => !isImport (b.contentAt k) := by
  have hsplit := List.range'_append_1 (s := 0) (m := b.headerLength) (n := b.length - b.headerLength)
  rw [Nat.zero_add, Nat.add_sub_cancel' b.headerLength_le] at hsplit
  rw [kept, List.range_eq_range', ← hsplit, List.filter_append]
  congr 1
  · rw [List.filter_eq_self]
    intro k hk
    rw [List.mem_range'_1] at hk
    have hlt : ¬ b.headerLength ≤ k := by omega
    simp [isMisplaced, hlt]
  · apply List.filter_congr
    intro k hk
    rw [List.mem_range'_1] at hk
    simp [isMisplaced, hk.1]

theorem removeMisplaced_eq_pick (b : Buffer) : removeMisplaced b = b.pick (kept b) := by
  have hle : b.headerLength ≤ b.lines.length := b.headerLength_le
  have hfront := map_getD_range' b.lines 0 b.headerLength (by omega)
  have hback := map_getD_range' b.lines b.headerLength (b.lines.length - b.headerLength) (by omega)
  rw [List.drop_zero] at hfront
  rw [List.take_of_length_le (by simp)] at hback
  rw [removeMisplaced, pick, kept_eq, List.map_append, hfront, ← hback, List.filter_map]
  simp only [Function.comp_def, ← contentAt_eq, length]

theorem mem_kept_of_inside (hik : i < k) (hk : k ≤ b.directiveEnd i) : k ∈ kept b := by
  obtain ⟨line, hline, hstart⟩ := not_startsDirective hik hk
  rw [kept, List.mem_filter, List.mem_range]
  constructor
  · rw [← length_contents]
    rw [content?_eq] at hline
    exact (List.getElem?_eq_some_iff.mp hline).1
  · rw [Bool.not_eq_true', Bool.eq_false_iff]
    intro hmis
    obtain ⟨-, other, hother, himport⟩ := isMisplaced_iff.mp hmis
    obtain rfl := Option.some.inj (hline.symm.trans hother)
    rw [startsDirective_of_isImportOf himport] at hstart
    cases hstart

/-- The fix takes away the misplaced imports line by line. A directive goes as a whole if and only if it has one line;
the lines on which it goes on stay. -/
theorem whole_directive_goes_iff (t : Text) (i : Nat) (hi : isMisplaced (ofText t) i = true) :
    (fix t).text = (if isAdded (ofText t) then
        ((ofText t).pick (kept (ofText t))).insert (pointIn (ofText t)) directive
      else (ofText t).pick (kept (ofText t))).toText ∧
    ((∀ k, i ≤ k → k ≤ (ofText t).directiveEnd i → k ∉ kept (ofText t)) ↔ (ofText t).directiveEnd i = i) ∧
    i ∉ kept (ofText t) ∧ ∀ k, i < k → k ≤ (ofText t).directiveEnd i → k ∈ kept (ofText t) := by
  have hle := (ofText t).le_directiveEnd i
  have hgone : i ∉ kept (ofText t) := by
    intro hmem
    have hstays := (List.mem_filter.mp hmem).2
    simp [hi] at hstays
  refine ⟨?_, ⟨?_, ?_⟩, hgone, fun k => mem_kept_of_inside⟩
  · rw [text_fix_eq, relocated, removeMisplaced_eq_pick]
  · intro hall
    by_contra hne
    have hlt : i < (ofText t).directiveEnd i := by omega
    exact hall _ hle (Nat.le_refl _) (mem_kept_of_inside hlt (Nat.le_refl _))
  · intro hone k hik hk
    obtain rfl : k = i := by omega
    exact hgone

/-- Two copies below a class, the first on one line. -/
def scattered : Text :=
  "class A {}\n".toList ++ directive ++ "\nimport \"package:flutter/foundation.dart\"\n    hide Key;\n".toList

/-- The first copy goes as a whole, and the clause of the second one stays. -/
theorem whole_directive_goes_iff_scattered :
    isMisplaced (ofText scattered) 1 = true ∧ isMisplaced (ofText scattered) 2 = true ∧
    (∀ k, 1 ≤ k → k ≤ (ofText scattered).directiveEnd 1 → k ∉ kept (ofText scattered)) ∧
    3 ∈ kept (ofText scattered) := by
  obtain ⟨hfirst, hsecond, hone, htwo⟩ : isMisplaced (ofText scattered) 1 = true ∧
      isMisplaced (ofText scattered) 2 = true ∧ (ofText scattered).directiveEnd 1 = 1 ∧
      (ofText scattered).directiveEnd 2 = 3 := by decide +kernel
  obtain ⟨-, hwhole, -, -⟩ := whole_directive_goes_iff scattered 1 hfirst
  obtain ⟨-, -, -, hstays⟩ := whole_directive_goes_iff scattered 2 hsecond
  refine ⟨hfirst, hsecond, hwhole.mpr hone, hstays 3 (by decide) ?_⟩
  rw [htwo]

/-- An import on two lines below a class. -/
def wrapped : Text := "class A {}\nimport 'package:flutter/foundation.dart'\n    show kDebugMode;\n".toList

/-- The import goes, and its clause stays behind. -/
theorem continuation_left_behind :
    isMisplaced (ofText wrapped) 1 = true ∧ (ofText wrapped).directiveEnd 1 = 2 ∧
    (fix wrapped).text = directive ++ "\nclass A {}\n    show kDebugMode;\n".toList ∧
    ¬ ∀ k, 1 ≤ k → k ≤ (ofText wrapped).directiveEnd 1 → k ∉ kept (ofText wrapped) := by
  obtain ⟨hmisplaced, hend, htext⟩ : isMisplaced (ofText wrapped) 1 = true ∧ (ofText wrapped).directiveEnd 1 = 2 ∧
      (fix wrapped).text = directive ++ "\nclass A {}\n    show kDebugMode;\n".toList := by decide +kernel
  refine ⟨hmisplaced, hend, htext, ?_⟩
  intro hall
  rw [hend] at hall
  apply hall 2 (by decide) (Nat.le_refl 2)
  apply mem_kept_of_inside (i := 1) (by decide)
  rw [hend]

end Upkeep.FoundationImport
