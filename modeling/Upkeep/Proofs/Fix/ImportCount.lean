import Mathlib.Algebra.Order.BigOperators.Group.Finset
import Upkeep.Proofs.Fix.EditCount
import Upkeep.Proofs.Fix.UnusedImport

/-!
# Counts of imports

A removal takes one import line of the URI that its finding names, and no other import line
(`importCount_removeLines`): no directive starts on the lines behind it that go too. So how many imports of a URI are
left, and how many edits a run makes, is told by two numbers of each URI, the import lines of the text and the findings
that name it, in whatever order these come.

* `imports_accounted`: what a run leaves of the imports, and what it counts.
* `second_run_idle_iff`: a second run with the same findings has nothing to do if and only if no URI that is named has
  more imports than findings. `import_left_for_second_run` is one that has.
-/

namespace Upkeep.UnusedImport

open Buffer Directive

def importCount (b : Buffer) (uri : Text) : Nat := b.contents.countP (isImportOf uri)

/-- The number of findings that name a URI. -/
def mentions (fs : List Finding) (uri : Text) : Nat := fs.countP fun f => uri? f.message = some uri

def namedUris (fs : List Finding) : Finset Text := (fs.filterMap fun f => uri? f.message).toFinset

variable {b : Buffer} {f : Finding} {fs : List Finding} {uri line : Text} {i : Nat}

theorem mem_namedUris_iff : uri ∈ namedUris fs ↔ 0 < mentions fs uri := by
  simp [namedUris, mentions, List.countP_pos_iff]

/-! ## One removal -/

theorem isImportOf_eq (h : isImportOf uri line = true) (other : Text) :
    isImportOf other line = decide (uri = other) := by
  rw [isImportOf, beq_iff_eq] at h
  rw [isImportOf, h, Option.some_beq_some, beq_eq_decide]

theorem contents_removeLines (b : Buffer) (i j : Nat) :
    (removeLines b i j).contents = b.contents.take i ++ b.contents.drop (j + 1) := by
  rw [contents, removeLines, List.map_append, List.map_take, List.map_drop, contents]

theorem countP_behind (b : Buffer) (uri : Text) (i : Nat) :
    ((b.contents.drop (i + 1)).take (b.directiveEnd i - i)).countP (isImportOf uri) = 0 := by
  refine List.countP_eq_zero.mpr fun line hline himport => ?_
  obtain ⟨k, hk, hkline⟩ := List.mem_take_iff_getElem.mp hline
  obtain ⟨other, hother, hquiet⟩ :=
    not_startsDirective (b := b) (i := i) (k := i + 1 + k) (by omega) (by omega)
  rw [List.getElem_drop] at hkline
  rw [content?_eq, List.getElem?_eq_some_iff] at hother
  obtain ⟨_, rfl⟩ := hother
  rw [hkline] at hquiet
  rw [startsDirective_of_isImportOf himport] at hquiet
  cases hquiet

/-- One import goes, of the URI that is named. -/
theorem importCount_removeLines (hline : b.content? i = some line) (himport : isImportOf uri line = true)
    (other : Text) : importCount b other =
      importCount (removeLines b i (b.directiveEnd i)) other + if uri = other then 1 else 0 := by
  rw [content?_eq] at hline
  obtain ⟨hi, rfl⟩ := List.getElem?_eq_some_iff.mp hline
  have hle := b.le_directiveEnd i
  -- behind the import stand the lines that go with it, which import nothing, and the lines that stay
  have hbehind : b.contents.drop (i + 1) =
      (b.contents.drop (i + 1)).take (b.directiveEnd i - i) ++ b.contents.drop (b.directiveEnd i + 1) := by
    have hdrop : b.contents.drop (b.directiveEnd i + 1) =
        (b.contents.drop (i + 1)).drop (b.directiveEnd i - i) := by
      rw [List.drop_drop]
      congr 1
      omega
    rw [hdrop, List.take_append_drop]
  calc importCount b other
      = (b.contents.take i ++ b.contents[i] :: b.contents.drop (i + 1)).countP (isImportOf other) := by
        rw [← List.drop_eq_getElem_cons hi, List.take_append_drop, importCount]
    _ = _ := by
        rw [hbehind, importCount, contents_removeLines]
        simp only [List.countP_append, List.countP_cons, countP_behind, isImportOf_eq himport, decide_eq_true_eq]
        omega

theorem importCount_of_left {reason : Text} (h : step b f = .left reason) (huri : uri? f.message = some uri) :
    importCount b uri = 0 := by
  rw [step, huri] at h
  dsimp only at h
  split at h
  · next hnone =>
    rw [target?] at hnone
    split at hnone
    · cases hnone
    · exact List.countP_eq_zero.mpr fun line hline => by
        simpa using List.findIdx?_eq_none_iff.mp hnone line hline
  · cases h

/-! ## Runs -/

theorem importCount_advance (p : Edit.Progress) (f : Finding) (uri : Text) :
    importCount (Edit.advance step p f).buffer uri =
      importCount p.buffer uri - if uri? f.message = some uri then 1 else 0 := by
  rw [Edit.advance]
  split
  · next b hb =>
    obtain ⟨named, i, hnamed, htarget, rfl⟩ := of_step hb
    obtain ⟨line, hline, himport⟩ := isImportOf_of_target? htarget
    rw [importCount_removeLines hline himport, hnamed]
    simp only [Option.some.injEq, Nat.add_sub_cancel]
  · next reason hleft =>
    split
    · next huri => rw [importCount_of_left hleft huri]
    · rfl

theorem importCount_foldl (fs : List Finding) (p : Edit.Progress) (uri : Text) :
    importCount (fs.foldl (Edit.advance step) p).buffer uri = importCount p.buffer uri - mentions fs uri := by
  induction fs generalizing p with
  | nil => rfl
  | cons f fs ih =>
    rw [List.foldl_cons, ih, importCount_advance, mentions, mentions, List.countP_cons]
    simp only [decide_eq_true_eq]
    omega

theorem lines_foldl_sublist (fs : List Finding) (p : Edit.Progress) :
    (fs.foldl (Edit.advance step) p).buffer.lines.Sublist p.buffer.lines :=
  Edit.foldl_induction (fun b _ => b.lines.Sublist p.buffer.lines) (.refl _)
    fun _ _ _ _ hb hstep => (lines_step_sublist hstep).trans hb

/-! ## What a run leaves -/

variable (t : Text) (fs : List Finding)

theorem lines_fix : (ofText (fix t fs).text).lines = (fs.foldl (Edit.advance step) ⟨ofText t, 0, []⟩).buffer.lines :=
  lines_ofText_toText ((framed_ofText t).sublist (lines_foldl_sublist fs ⟨ofText t, 0, []⟩))

theorem importCount_fix (uri : Text) :
    importCount (ofText (fix t fs).text) uri = importCount (ofText t) uri - mentions fs uri := by
  have hcount := importCount_foldl fs ⟨ofText t, 0, []⟩ uri
  rwa [importCount, contents, ← lines_fix, ← contents, ← importCount] at hcount

theorem applied_fix :
    (fix t fs).applied = ∑ uri ∈ namedUris fs, min (importCount (ofText t) uri) (mentions fs uri) := by
  have hstep : ∀ f ∈ fs, ∀ b b', step b f = .edited b' → ∃ uri ∈ namedUris fs, ∀ other,
      importCount b other = importCount b' other + if uri = other then 1 else 0 := by
    intro f hf b b' hb
    obtain ⟨uri, i, huri, htarget, rfl⟩ := of_step hb
    obtain ⟨line, hline, himport⟩ := isImportOf_of_target? htarget
    exact ⟨uri, List.mem_toFinset.mpr (List.mem_filterMap.mpr ⟨f, hf, huri⟩), importCount_removeLines hline himport⟩
  calc (fix t fs).applied
      = 0 + ∑ uri ∈ namedUris fs, (importCount (ofText t) uri -
          importCount (fs.foldl (Edit.advance step) ⟨ofText t, 0, []⟩).buffer uri) :=
        (Edit.applied_foldl_eq_sum importCount (namedUris fs) hstep ⟨ofText t, 0, []⟩).2
    _ = _ := by
        rw [Nat.zero_add]
        refine Finset.sum_congr rfl fun uri _ => ?_
        rw [importCount_foldl]
        exact Nat.sub_sub_eq_min _ _

/-- Of the imports of each URI as many go as findings name it, if there are so many. These are all edits, and the other
lines stay as they are and where they are. -/
theorem imports_accounted :
    (∀ uri, importCount (ofText (fix t fs).text) uri =
      importCount (ofText t) uri - min (importCount (ofText t) uri) (mentions fs uri)) ∧
    (fix t fs).applied = ∑ uri ∈ namedUris fs, min (importCount (ofText t) uri) (mentions fs uri) ∧
    (ofText (fix t fs).text).lines.Sublist (ofText t).lines := by
  refine ⟨fun uri => ?_, applied_fix t fs, ?_⟩
  · rw [importCount_fix]
    omega
  · rw [lines_fix]
    exact lines_foldl_sublist fs ⟨ofText t, 0, []⟩

/-! ## Second runs -/

/-- A second run with the same findings takes the imports that the first one has left, as far as the findings go. It has
nothing to do if and only if no URI that is named has more imports than findings. -/
theorem second_run_idle_iff :
    (fix (fix t fs).text fs).applied =
      ∑ uri ∈ namedUris fs, min (importCount (ofText t) uri - mentions fs uri) (mentions fs uri) ∧
    ((fix (fix t fs).text fs).applied = 0 ∧ (fix (fix t fs).text fs).text = (fix t fs).text ↔
      ∀ uri ∈ namedUris fs, importCount (ofText t) uri ≤ mentions fs uri) := by
  have happlied : (fix (fix t fs).text fs).applied =
      ∑ uri ∈ namedUris fs, min (importCount (ofText t) uri - mentions fs uri) (mentions fs uri) := by
    rw [applied_fix]
    exact Finset.sum_congr rfl fun uri _ => by rw [importCount_fix]
  have hchanged := FindingFixer.text_fix_ne_iff .unusedImports (fix t fs).text fs
  have hidle : (fix (fix t fs).text fs).applied = 0 → (fix (fix t fs).text fs).text = (fix t fs).text := by
    intro hzero
    by_contra hne
    have := hchanged.mp hne
    simp only [FindingFixer.fix] at this
    omega
  refine ⟨happlied, ?_⟩
  rw [and_iff_left_of_imp hidle, happlied, Finset.sum_eq_zero_iff]
  refine forall₂_congr fun uri huri => ?_
  have := mem_namedUris_iff.mp huri
  omega

/-- A file that imports another one under two names. -/
def importedTwice : Text := "import 'a.dart' as a;\nimport 'a.dart' as b;\nb.f();\n".toList

/-- The second run takes the other import, which is in use. -/
theorem import_left_for_second_run :
    (fix importedTwice [unusedFile]).text = "import 'a.dart' as b;\nb.f();\n".toList ∧
    (fix (fix importedTwice [unusedFile]).text [unusedFile]).text = "b.f();\n".toList ∧
    ¬ ((fix (fix importedTwice [unusedFile]).text [unusedFile]).applied = 0 ∧
      (fix (fix importedTwice [unusedFile]).text [unusedFile]).text = (fix importedTwice [unusedFile]).text) := by
  decide +kernel

end Upkeep.UnusedImport
