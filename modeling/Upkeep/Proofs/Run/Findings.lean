import Upkeep.Proofs.Finding.Groups
import Upkeep.Proofs.Run.Visit

/-!
# Runs that follow findings

What a run makes of a listing, told from the workspace in which it starts.

* `groupsOf`: the groups of a run, and `entry`: what is said of one, by the bytes of its file alone.
* `report`: the report of a run, with one entry for each group.
* `runFindings_dry`, `runFindings_real`: a run that only looks, and one that writes.
-/

namespace Upkeep

open Text Workspace

theorem Settings.resolve_eq {w v : Workspace} (h : w.SameShape v) (s : Settings) (reported : Path) :
    s.resolve v reported = s.resolve w reported := by
  simp only [resolve, h.pathExists_eq]

namespace Run

theorem selection_eq {w v : Workspace} (h : w.SameShape v) (s : Settings) (rules : List Text) :
    selection s v rules = selection s w rules := by
  simp only [selection, h.canonical?_eq]

def groupsOf (s : Settings) (w : Workspace) (t : Text) (x : FindingFixer) : List FileGroup :=
  (selection s w x.rules).groups (Listing.ofText Listing.defaultSeverity t).findings

/-- What is said of the findings in a file, by the bytes of the file. -/
def entry (x : FindingFixer) (dryRun : Bool) (path : Path) (fs : List Finding) :
    Option ByteArray → Except SkippedFile FileChange
  | none => .error ⟨path, .noFile⟩
  | some bytes => noted path dryRun (x.fix · fs) ((ofBytes? bytes).elim (.error .notUtf8) .ok)

def entryOf (s : Settings) (w : Workspace) (x : FindingFixer) (dryRun : Bool) (g : FileGroup) :
    Except SkippedFile FileChange :=
  entry x dryRun (s.resolve w g.file) g.findings (w.bytes? (s.resolve w g.file))

/-- The findings of a group whose file is there. -/
def handled (s : Settings) (w : Workspace) (g : FileGroup) : List Finding :=
  if w.isFile (s.resolve w g.file) then g.findings else []

/-- The report of a run over some groups. -/
def report (s : Settings) (w : Workspace) (t : Text) (x : FindingFixer) (dryRun : Bool)
    (remaining : Option (List Finding)) : Report :=
  let gs := groupsOf s w t x
  { fixer := x.name
    source := Analyzer.Source.describe w (.text t)
    dryRun
    counts := some (Listing.ofText Listing.defaultSeverity t).counts
    findings := gs.flatMap (handled s w)
    files := changes (gs.map (entryOf s w x dryRun))
    skipped := skips (gs.map (entryOf s w x dryRun))
    remaining }

variable {s : Settings} {w v : Workspace} {x : FindingFixer} {dryRun : Bool}

/-! ## One group -/

/-- The report with a group, by what reading its file gives. -/
def noteGroup (s : Settings) (w : Workspace) (x : FindingFixer) (dryRun : Bool) (r : Report)
    (g : FileGroup) (read : Except FileError Text) : Report :=
  let path := s.resolve w g.file
  if w.isFile path then
    let r := r.record path (verdict path dryRun (x.fix · g.findings) read)
    { r with findings := r.findings ++ g.findings }
  else { r with skipped := r.skipped ++ [⟨path, .noFile⟩] }

theorem fixGroup_eq (h : w.SameShape v) (r : Report) (g : FileGroup) : fixGroup s x dryRun (v, r) g =
    ((fixFile v (s.resolve w g.file) dryRun (x.fix · g.findings)).1,
      noteGroup s w x dryRun r g (v.readText (s.resolve w g.file))) := by
  simp only [fixGroup, noteGroup, Settings.resolve_eq h, h.isFile_eq]
  cases hf : w.isFile (s.resolve w g.file) with
  | true => simp [fixFile_snd]
  | false =>
    have hnone : v.file? (s.resolve w g.file) = none := by
      rw [h.file?_eq, ← Option.not_isSome_iff_eq_none, ← isFile_eq, hf]
      simp
    obtain ⟨reason, hr⟩ := readText_of_file?_eq_none hnone
    rw [fixFile_of_error dryRun hr]
    rfl

theorem noteGroup_eq (r : Report) (g : FileGroup) :
    noteGroup s w x dryRun r g (w.readText (s.resolve w g.file)) =
      { r with
        findings := r.findings ++ handled s w g
        files := r.files ++ changes [entryOf s w x dryRun g]
        skipped := r.skipped ++ skips [entryOf s w x dryRun g] } := by
  unfold noteGroup handled entryOf
  cases hfile : w.file? (s.resolve w g.file) with
  | none =>
    have hf : w.isFile (s.resolve w g.file) = false := by rw [isFile_eq, hfile]; rfl
    simp [hf, bytes?, hfile, entry, changes, skips, Except.toOption]
  | some place =>
    have hf : w.isFile (s.resolve w g.file) = true := by rw [isFile_eq, hfile]; rfl
    obtain ⟨-, bytes, hbytes⟩ := file?_eq_some_iff.mp hfile
    simp [hf, readText_eq hfile hbytes, bytes?_eq hfile, hbytes, entry, record_verdict]

theorem foldl_noteGroup (gs : List FileGroup) (r : Report) :
    gs.foldl (fun r g => noteGroup s w x dryRun r g (w.readText (s.resolve w g.file))) r =
      { r with
        findings := r.findings ++ gs.flatMap (handled s w)
        files := r.files ++ changes (gs.map (entryOf s w x dryRun))
        skipped := r.skipped ++ skips (gs.map (entryOf s w x dryRun)) } := by
  induction gs generalizing r with
  | nil => simp [changes, skips]
  | cons g gs ih =>
    rw [List.foldl_cons, noteGroup_eq, ih]
    simp only [changes, skips, List.map_cons, List.flatMap_cons, List.append_assoc,
      ← List.filterMap_append, List.cons_append, List.nil_append]

/-! ## Whole runs -/

theorem collect_text (s : Settings) (w : Workspace) (t : Text) (x : FindingFixer) :
    collect s w (.text t) x.rules =
      (w, .ok (groupsOf s w t x, (Listing.ofText Listing.defaultSeverity t).counts)) := rfl

theorem runFindings_dry (s : Settings) (w : Workspace) (t : Text) (x : FindingFixer) (recheck : Bool) :
    runFindings s w (.text t) x ⟨true, recheck⟩ = (w, .ok (report s w t x true none)) := by
  have hstep : ∀ r g, fixGroup s x true (w, r) g =
      (w, noteGroup s w x true r g (w.readText (s.resolve w g.file))) := by
    intro r g
    rw [fixGroup_eq (.refl w), fixFile_dry]
  have hfold := foldl_previews hstep (groupsOf s w t x)
    { Report.start x.name (Analyzer.Source.describe w (.text t)) true with
      counts := some (Listing.ofText Listing.defaultSeverity t).counts }
  simp only [runFindings, collect_text, hfold, foldl_noteGroup]
  simp [report, Report.start]

/-- A run that writes fixes every file as if alone. -/
theorem runFindings_real {t : Text} (recheck : Bool)
    (hapart : w.Apart ((groupsOf s w t x).map fun g => s.resolve w g.file)) :
    ∃ v, runFindings s w (.text t) x ⟨false, recheck⟩ =
        (v, .ok (report s w t x false
          (if recheck then some ((groupsOf s w t x).flatMap (·.findings)) else none))) ∧
      w.SameShape v ∧
      (∀ g ∈ groupsOf s w t x, ∀ q, w.file? (s.resolve w g.file) = some q →
        v.root.content? q = (w.root.content? q).map (fixedBytes (x.fix · g.findings))) ∧
      ∀ q, (∀ g ∈ groupsOf s w t x, w.file? (s.resolve w g.file) ≠ some q) →
        v.root.content? q = w.root.content? q := by
  obtain ⟨v, hv, hsame, hfixed, hkept⟩ := foldl_visits
    (fun v r g h => fixGroup_eq (x := x) h r g) hapart (.refl w) (fun _ _ _ _ => rfl)
    { Report.start x.name (Analyzer.Source.describe w (.text t)) false with
      counts := some (Listing.ofText Listing.defaultSeverity t).counts }
  refine ⟨v, ?_, hsame, hfixed, hkept⟩
  simp only [runFindings, collect_text, hv, foldl_noteGroup]
  have hagain : groupsOf s v t x = groupsOf s w t x := by rw [groupsOf, selection_eq hsame, groupsOf]
  cases recheck with
  | true => simp [report, Report.start, hagain]
  | false => simp [report, Report.start]

end Run
end Upkeep
