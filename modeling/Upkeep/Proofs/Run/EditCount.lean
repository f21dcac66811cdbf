import Upkeep.Proofs.Fix.EditCount
import Upkeep.Proofs.Run.Isolation
import Upkeep.Sha256

/-!
# What a report counts

A report counts a file as changed if and only if it counts an edit in it, whatever the fixer and whatever the run:
`CountsEdits`. Every entry of a report comes from a visit of a file (`changed_iff_of_fixFile`), and the entries of a
run are gathered one after the other (`countsEdits_runFindings`, `countsEdits_runScan`).

`edits_counted` says the same of the fixers themselves.
-/

namespace Upkeep.Run

/-- The changed files of a report are those with an edit. Their number can also be told from the fingerprints of the
texts, unless two texts of one file have the same one. -/
structure CountsEdits (r : Report) : Prop where
  changed_iff : ∀ c ∈ r.files, c.changed = true ↔ 0 < c.applied
  filesChanged_eq : r.filesChanged = r.files.countP fun c => decide (0 < c.applied)
  fingerprints : (∀ c ∈ r.files, fingerprint c.before = fingerprint c.after → c.before = c.after) →
    r.files.countP (fun c => decide (fingerprint c.before ≠ fingerprint c.after)) = r.filesChanged

variable {s : Settings} {w : Workspace} {path : Path} {fix : Text → Outcome} {dryRun : Bool} {c : FileChange}
  {r : Report}

theorem countsEdits_of_changed_iff (h : ∀ c ∈ r.files, c.changed = true ↔ 0 < c.applied) : CountsEdits r where
  changed_iff := h
  filesChanged_eq := List.countP_congr fun c hc => (h c hc).trans decide_eq_true_iff.symm
  fingerprints hinj := List.countP_congr fun c hc => by
    rw [FileChange.changed, decide_eq_true_iff, decide_eq_true_iff]
    exact not_congr ⟨hinj c hc, congrArg fingerprint⟩

/-! ## One file -/

theorem changed_iff_of_fixFile (hfix : ∀ t, (fix t).text ≠ t ↔ 0 < (fix t).applied)
    (h : (fixFile w path dryRun fix).2 = .ok c) : c.changed = true ↔ 0 < c.applied := by
  rw [fixFile_snd] at h
  cases hread : w.readText path with
  | error reason =>
    rw [hread] at h
    cases h
  | ok before =>
    rw [hread] at h
    obtain rfl := Except.ok.inj h
    rw [FileChange.changed, decide_eq_true_iff]
    exact ne_comm.trans (hfix before)

theorem mem_files_record {result : Except Failure FileChange} (h : c ∈ (r.record path result).files) :
    c ∈ r.files ∨ result = .ok c := by
  cases result with
  | error failure => exact .inl h
  | ok change =>
    rcases List.mem_append.mp h with h | h
    · exact .inl h
    · exact .inr (by rw [List.mem_singleton.mp h])

/-! ## Runs -/

theorem changed_iff_foldl {α : Type} {visit : Workspace × Report → α → Workspace × Report}
    (hvisit : ∀ w r a c, c ∈ (visit (w, r) a).2.files → c ∈ r.files ∨ (c.changed = true ↔ 0 < c.applied))
    (as : List α) (w : Workspace) (h : ∀ c ∈ r.files, c.changed = true ↔ 0 < c.applied) :
    ∀ c ∈ (as.foldl visit (w, r)).2.files, c.changed = true ↔ 0 < c.applied := by
  induction as generalizing w r with
  | nil => exact h
  | cons a as ih => exact ih _ fun c hc => (hvisit w r a c hc).elim (h c) id

theorem changed_iff_fixGroup (s : Settings) (x : FindingFixer) (dryRun : Bool) (w : Workspace) (r : Report)
    (g : FileGroup) (c : FileChange) (h : c ∈ (fixGroup s x dryRun (w, r) g).2.files) :
    c ∈ r.files ∨ (c.changed = true ↔ 0 < c.applied) := by
  unfold fixGroup at h
  dsimp only at h
  split at h
  · exact (mem_files_record h).imp_right (changed_iff_of_fixFile fun t => x.text_fix_ne_iff t g.findings)
  · exact .inl h

theorem changed_iff_scanFile (x : ScanFixer) (dryRun : Bool) (w : Workspace) (r : Report) (path : Path)
    (c : FileChange) (h : c ∈ (scanFile x dryRun (w, r) path).2.files) :
    c ∈ r.files ∨ (c.changed = true ↔ 0 < c.applied) := by
  unfold scanFile at h
  dsimp only at h
  split at h
  · next change hchange =>
    split at h
    · exact (mem_files_record h).imp_right fun hc => changed_iff_of_fixFile x.text_fix_ne_iff (hchange.trans hc)
    · exact .inl h
  · next e he => exact (mem_files_record h).imp_right fun hc => by cases hc

theorem countsEdits_runFindings {source : Analyzer.Source} {x : FindingFixer} {o : Options}
    (h : (runFindings s w source x o).2 = .ok r) : CountsEdits r := by
  refine countsEdits_of_changed_iff ?_
  unfold runFindings at h
  dsimp only at h
  split at h
  · cases h
  · next w' groups counts hcollect =>
    have hgroups := fun start : Report => changed_iff_foldl (r := start) (changed_iff_fixGroup s x o.dryRun) groups w'
    split at h
    · split at h
      · cases h
      · obtain rfl := Except.ok.inj h
        exact hgroups _ fun c hc => by cases hc
    · obtain rfl := Except.ok.inj h
      exact hgroups _ fun c hc => by cases hc

theorem countsEdits_runScan (w : Workspace) (root : Path) (x : ScanFixer) (dryRun : Bool) :
    CountsEdits (runScan w root x dryRun).2 :=
  countsEdits_of_changed_iff
    (changed_iff_foldl (changed_iff_scanFile x dryRun) (w.dartFiles root) w fun c hc => by cases hc)

end Upkeep.Run
