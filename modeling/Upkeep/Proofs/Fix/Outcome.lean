import Mathlib.Algebra.BigOperators.Group.Finset.Piecewise
import Mathlib.Order.Defs.Unbundled
import Upkeep.Fix.InvalidConst
import Upkeep.Fix.UnusedImport
import Upkeep.Proofs.Fix.MountedGuard

/-!
# Edits for findings

* `UnusedImport.of_step`, `InvalidConst.of_step`, `MountedGuard.of_step`: all that a step can edit.
* `Edit.reasons`: the findings of a run one by one, each with the reason to leave it if it is left, from which the notes
  come (`Edit.notes_run`).
* `Edit.run_induction`: what holds of the buffer and the number of edits at the start, and is kept by every edit,
  holds at the end of a run.
* `Edit.applied_foldl_eq_sum`: if every edit takes one thing of many, the edits of a run are as many as the things that
  are gone.
* `Edit.text_run_ne_iff`: a run has changed the text if and only if it has made an edit, when every edit makes the
  text shorter, or every edit makes it longer.
-/

namespace Upkeep

/-! ## Steps -/

section Steps

variable {b b' : Buffer} {f : Finding}

theorem UnusedImport.of_step (h : step b f = .edited b') : ∃ uri i, uri? f.message = some uri ∧
    target? b uri f = some i ∧ b' = removeLines b i (b.directiveEnd i) := by
  rw [step] at h
  split at h
  · cases h
  · next uri huri =>
    split at h
    · cases h
    · next i hi => exact ⟨uri, i, huri, hi, (Edit.edited.inj h).symm⟩

theorem UnusedImport.isImportOf_of_target? {uri : Text} {i : Nat} (h : target? b uri f = some i) :
    ∃ line, b.content? i = some line ∧ Directive.isImportOf uri line = true := by
  rw [target?] at h
  split at h
  · next hreported =>
    obtain rfl := Option.some.inj h
    exact (Option.any_eq_true _ _).mp hreported
  · obtain ⟨hi, himport, -⟩ := List.findIdx?_eq_some_iff_getElem.mp h
    exact ⟨_, by rw [Buffer.content?_eq, List.getElem?_eq_getElem hi], himport⟩

theorem UnusedImport.lines_step_sublist (h : step b f = .edited b') : b'.lines.Sublist b.lines := by
  obtain ⟨uri, i, -, -, rfl⟩ := of_step h
  have hdrop := List.drop_sublist_drop_left b.lines (Nat.le_succ_of_le (b.le_directiveEnd i))
  have happ := (List.Sublist.refl (b.lines.take i)).append hdrop
  rwa [List.take_append_drop] at happ

theorem InvalidConst.of_step (h : step b f = .edited b') : ∃ line span, b.content? f.lineIndex = some line ∧
    choose? (ConstSpan.all line) f.column = some span ∧ b' = b.replace f.lineIndex (span.cut line) := by
  rw [step] at h
  split at h
  · cases h
  · next line hline =>
    split at h
    · cases h
    · next span hspan => exact ⟨line, span, hline, hspan, (Edit.edited.inj h).symm⟩

theorem MountedGuard.of_step (h : step b f = .edited b') :
    ∃ g, IsGuardAt b f.lineIndex g ∧ b' = b.insert g.place g.content := by
  cases hg : guardAt? b f.lineIndex with
  | none =>
    obtain ⟨reason, hreason⟩ := step_of_guardAt?_eq_none hg
    rw [hreason] at h
    cases h
  | some g =>
    rw [step_of_guardAt?_eq_some hg] at h
    exact ⟨g, guardAt?_eq_some_iff.mp hg, (Edit.edited.inj h).symm⟩

end Steps

/-! ## Runs -/

namespace Edit

variable {step : Buffer → Finding → Edit} {t : Text} {fs : List Finding}

theorem foldl_induction (P : Buffer → Nat → Prop) {p : Progress} (hstart : P p.buffer p.applied)
    (hstep : ∀ b n f b', P b n → step b f = .edited b' → P b' (n + 1)) :
    P (fs.foldl (advance step) p).buffer (fs.foldl (advance step) p).applied := by
  induction fs generalizing p with
  | nil => exact hstart
  | cons f fs ih =>
    refine ih ?_
    rw [advance]
    split
    · next b hb => exact hstep _ _ f b hstart hb
    · exact hstart

theorem run_induction (P : Buffer → Nat → Prop) (hstart : P (Buffer.ofText t) 0)
    (hstep : ∀ b n f b', P b n → step b f = .edited b' → P b' (n + 1)) :
    ∃ b, (run step t fs).text = b.toText ∧ P b (run step t fs).applied :=
  ⟨_, rfl, foldl_induction (p := ⟨Buffer.ofText t, 0, []⟩) P hstart hstep⟩

/-- Why findings are left in a run, in turn, and nothing for those that ask for an edit. -/
def reasons (step : Buffer → Finding → Edit) : Buffer → List Finding → List (Option Text)
  | _, [] => []
  | b, f :: fs =>
    match step b f with
    | edited b' => none :: reasons step b' fs
    | left reason => some reason :: reasons step b fs

theorem length_reasons (step : Buffer → Finding → Edit) (b : Buffer) (fs : List Finding) :
    (reasons step b fs).length = fs.length := by
  induction fs generalizing b with
  | nil => rfl
  | cons f fs ih =>
    rw [reasons]
    split <;> rw [List.length_cons, List.length_cons, ih]

theorem notes_foldl (p : Progress) : (fs.foldl (advance step) p).notes =
    p.notes ++ (fs.zip (reasons step p.buffer fs)).filterMap fun (f, r?) => r?.map (note f) := by
  induction fs generalizing p with
  | nil => exact (List.append_nil _).symm
  | cons f fs ih =>
    rw [List.foldl_cons, ih, reasons]
    cases hf : step p.buffer f with
    | edited b => simp [advance, hf]
    | left reason => simp [advance, hf]

theorem notes_run (step : Buffer → Finding → Edit) (t : Text) (fs : List Finding) : (run step t fs).notes =
    (fs.zip (reasons step (Buffer.ofText t) fs)).filterMap fun (f, r?) => r?.map (note f) :=
  notes_foldl ⟨Buffer.ofText t, 0, []⟩

/-- If each edit makes one of some counts less by one, the edits are as many as the counts get less in all. -/
theorem applied_foldl_eq_sum {κ : Type} [DecidableEq κ] (count : Buffer → κ → Nat) (s : Finset κ)
    (hstep : ∀ f ∈ fs, ∀ b b', step b f = .edited b' →
      ∃ k ∈ s, ∀ j, count b j = count b' j + if k = j then 1 else 0) (p : Progress) :
    (∀ j, count (fs.foldl (advance step) p).buffer j ≤ count p.buffer j) ∧
    (fs.foldl (advance step) p).applied =
      p.applied + ∑ j ∈ s, (count p.buffer j - count (fs.foldl (advance step) p).buffer j) := by
  induction fs generalizing p with
  | nil =>
    refine ⟨fun _ => Nat.le_refl _, ?_⟩
    simp only [List.foldl_nil, Nat.sub_self, Finset.sum_const_zero, Nat.add_zero]
  | cons f fs ih =>
    obtain ⟨hle, happlied⟩ := ih (fun g hg => hstep g (List.mem_cons_of_mem f hg)) (advance step p f)
    rw [List.foldl_cons, happlied]
    cases hf : step p.buffer f with
    | left reason =>
      simp only [advance, hf, and_true] at hle ⊢
      exact hle
    | edited b =>
      obtain ⟨k, hk, hcount⟩ := hstep f List.mem_cons_self p.buffer b hf
      simp only [advance, hf, hcount] at hle ⊢
      refine ⟨fun j => Nat.le_add_right_of_le (hle j), ?_⟩
      have hone : ∑ j ∈ s, (if k = j then 1 else 0) = 1 := by rw [Finset.sum_ite_eq, if_pos hk]
      rw [Finset.sum_congr rfl fun j _ => Nat.sub_add_comm (hle j), Finset.sum_add_distrib, hone]
      omega

/-- Edits that all change the length of the text in one direction do not cancel out. -/
theorem text_run_ne_iff (R : Nat → Nat → Prop) [IsStrictOrder Nat R]
    (hstep : ∀ b f b', step b f = .edited b' → R b.toText.length b'.toText.length) :
    (run step t fs).text ≠ t ↔ 0 < (run step t fs).applied := by
  obtain ⟨b, htext, hnone, hsome⟩ : ∃ b : Buffer, (run step t fs).text = b.toText ∧
      ((run step t fs).applied = 0 → b.toText = t) ∧
      (0 < (run step t fs).applied → R t.length b.toText.length) := by
    refine run_induction (fun b n => (n = 0 → b.toText = t) ∧ (0 < n → R t.length b.toText.length))
      ⟨fun _ => Buffer.toText_ofText t, fun h => absurd h (Nat.lt_irrefl 0)⟩ ?_
    rintro b n f b' ⟨hnone, hsome⟩ hb
    refine ⟨fun h => absurd h (Nat.succ_ne_zero n), fun _ => ?_⟩
    rcases Nat.eq_zero_or_pos n with hn | hn
    · exact hnone hn ▸ hstep b f b' hb
    · exact Trans.trans (hsome hn) (hstep b f b' hb)
  rw [htext]
  constructor
  · intro hne
    exact Nat.pos_of_ne_zero fun h => hne (hnone h)
  · intro hpos heq
    exact irrefl_of R t.length (heq ▸ hsome hpos)

end Edit
end Upkeep
