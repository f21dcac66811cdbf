import Mathlib.Order.RelClasses
import Upkeep.Fix.Fixer
import Upkeep.Proofs.Fix.FoundationImport
import Upkeep.Proofs.Fix.Outcome
import Upkeep.Proofs.Source.Size

/-!
# Edits and changed texts

A fixer that counts an edit has changed the text, and one that counts none has not.

* The fixers that follow findings edit in one direction. An unused import and an invalid keyword make the text shorter
  (`UnusedImport.length_step`, `InvalidConst.length_step`), a guard makes it longer (`MountedGuard.length_step`).
* `ConstructorConst.length_strip`: every counted keyword takes characters away.
* `MaterialImport.text_fix_ne_iff`: an import that is added makes the text longer. Moved imports are counted in
  `FoundationImport.text_fix_ne_iff`.
-/

namespace Upkeep

open Text Buffer

variable {t : Text} {b b' : Buffer} {f : Finding}

/-! ## Steps for findings -/

theorem UnusedImport.length_step (h : step b f = .edited b') : b'.toText.length < b.toText.length := by
  obtain ⟨uri, i, -, hi, rfl⟩ := of_step h
  obtain ⟨content, hcontent, himport⟩ := isImportOf_of_target? hi
  obtain ⟨line, hline, rfl⟩ := Option.map_eq_some_iff.mp hcontent
  have hne : line ≠ [] := by
    rintro rfl
    cases himport
  exact length_flatten_erased hline hne (b.le_directiveEnd i)

theorem InvalidConst.mem_of_choose? {spans : List ConstSpan} {column : Nat} {s : ConstSpan}
    (h : choose? spans column = some s) : s ∈ spans := by
  rcases Option.or_eq_some_iff.mp h with h | ⟨-, h⟩
  · exact List.mem_of_mem_filter (ConstSpan.mem_of_nearest? h)
  · exact List.mem_of_mem_head? h

theorem InvalidConst.length_step (h : step b f = .edited b') : b'.toText.length < b.toText.length := by
  obtain ⟨line, span, hline, hspan, rfl⟩ := of_step h
  exact length_toText_replace hline (ConstSpan.length_cut (mem_of_choose? hspan))

theorem MountedGuard.length_step (h : step b f = .edited b') : b.toText.length < b'.toText.length := by
  obtain ⟨g, -, rfl⟩ := of_step h
  exact length_toText_insert b g.place g.content

/-! ## Scans -/

namespace ConstructorConst

variable {names : List Text}

/-- Without a keyword nothing is removed, and each keyword that is counted takes a character at least. -/
theorem length_strip (before? : Option Char) (skip : Nat) : ((strip names before? skip t).2 = 0 →
      (strip names before? skip t).1 = t.drop skip) ∧
    (strip names before? skip t).1.length + (strip names before? skip t).2 ≤ (t.drop skip).length := by
  induction t generalizing before? skip with
  | nil => simp [strip]
  | cons c t ih =>
    cases skip with
    | succ skip => exact ih (some c) skip
    | zero =>
      rw [strip]
      split
      · obtain ⟨hkept, hlen⟩ := ih (some c) 0
        refine ⟨fun hzero => congrArg (c :: ·) (hkept hzero), ?_⟩
        simp only [List.drop_zero, List.length_cons] at hlen ⊢
        omega
      · next more hmore =>
        obtain ⟨-, hlen⟩ := ih (some c) more
        refine ⟨fun hzero => absurd hzero (Nat.succ_ne_zero _), ?_⟩
        simp only [List.length_drop, List.length_cons, Nat.sub_zero] at hlen ⊢
        omega

theorem text_fix_ne_iff : (fix names t).text ≠ t ↔ 0 < (fix names t).applied := by
  change (strip names none 0 t).1 ≠ t ↔ 0 < (strip names none 0 t).2
  obtain ⟨hkept, hlen⟩ := length_strip none 0
  constructor
  · intro hne
    exact Nat.pos_of_ne_zero fun hzero => hne (hkept hzero)
  · intro hpos heq
    rw [heq, List.drop_zero] at hlen
    omega

end ConstructorConst

theorem MaterialImport.text_fix_ne_iff : (fix t).text ≠ t ↔ 0 < (fix t).applied := by
  by_cases h : isNeeded t = true
  · have hlen := (ofText t).length_toText_insert (ofText t).importPoint directive
    rw [toText_ofText] at hlen
    have hne : (fix t).text ≠ t := by
      rw [text_fix_of_isNeeded h]
      intro heq
      rw [heq] at hlen
      exact Nat.lt_irrefl _ hlen
    have happlied : (fix t).applied = 1 := by rw [fix, if_pos h]
    simp [hne, happlied]
  · have happlied : (fix t).applied = 0 := by rw [fix, if_neg h, Outcome.unchanged]
    simp [text_fix_of_not_isNeeded h, happlied]

/-! ## All fixers -/

theorem FindingFixer.text_fix_ne_iff (x : FindingFixer) (t : Text) (fs : List Finding) :
    (x.fix t fs).text ≠ t ↔ 0 < (x.fix t fs).applied := by
  cases x with
  | unusedImports => exact Edit.text_run_ne_iff (· > ·) fun _ _ _ => UnusedImport.length_step
  | invalidConst => exact Edit.text_run_ne_iff (· > ·) fun _ _ _ => InvalidConst.length_step
  | contextGuards => exact Edit.text_run_ne_iff (· < ·) fun _ _ _ => MountedGuard.length_step

theorem ScanFixer.text_fix_ne_iff (x : ScanFixer) (t : Text) : (x.fix t).text ≠ t ↔ 0 < (x.fix t).applied := by
  cases x with
  | constMisuse names => exact ConstructorConst.text_fix_ne_iff
  | materialImports => exact MaterialImport.text_fix_ne_iff
  | foundationImports => exact FoundationImport.text_fix_ne_iff

end Upkeep
