import Upkeep.Proofs.Fix.FoundationImport
import Upkeep.Proofs.Fix.MaterialImport
import Upkeep.Proofs.Run.Preview

/-!
# Scans that are repeated

A scan reads and writes the files that it finds, and finds the same files behind another scan, since that one keeps the
outline of the workspace (`dartFiles_runScan`). No file has to be told from another for this.

* `AllTexts P w paths`: the texts at some paths have a property. A scan keeps a property that its fix keeps
  (`AllTexts.foldl_scanFile`), and its files have one that the fix brings about (`allTexts_runScan`).
* `Idle w root x`: a scan that leaves the workspace as it is. It is idle if its fix has nothing to do for any text
  (`idle_of_allTexts`).
* `import_scans_settle`: behind a scan that moves imports and then one that adds them, both are idle.
-/

namespace Upkeep

open Text

/-! ## Both fixes of imports -/

/-- The text behind both fixes. -/
def settledImports (t : Text) : Text := (MaterialImport.fix (FoundationImport.fix t).text).text

namespace FoundationImport

open Buffer

theorem misplaced_materialImport (t : Text) :
    misplaced (ofText (MaterialImport.fix t).text) = misplaced (ofText t) := by
  rw [misplaced, MaterialImport.drop_headerLength_fix, ← misplaced]

theorem fix_materialImport {t : Text} (h : fix t = Outcome.unchanged t) :
    fix (MaterialImport.fix t).text = Outcome.unchanged (MaterialImport.fix t).text := by
  have hstays : (fix t).text = t := by rw [h, Outcome.unchanged]
  rw [text_fix_eq_self_iff, ← misplaced_materialImport] at hstays
  rw [fix, if_pos hstays]

end FoundationImport

namespace Run

open Workspace

variable {w v : Workspace} {path q root : Path} {paths : List Path} {fix : Text → Outcome} {x : ScanFixer}
  {P : Text → Prop} {t : Text}

/-! ## Texts behind a visit -/

theorem readText_fixFile (h : (fixFile w path false fix).1.readText q = .ok t) :
    ∃ before, w.readText q = .ok before ∧ t = if w.file? path = w.file? q then (fix before).text else before := by
  obtain ⟨place, bytes, hfile, hbytes, ht⟩ := readText_eq_ok h
  rw [(sameShape_fixFile w path false fix).file?_eq] at hfile
  rw [content?_fixFile] at hbytes
  rw [hfile]
  by_cases hsame : w.file? path = some place
  · rw [if_pos hsame] at hbytes
    obtain ⟨old, hold, rfl⟩ := Option.map_eq_some_iff.mp hbytes
    cases hbefore : ofBytes? old with
    | none => simp [fixedBytes, hbefore] at ht
    | some before =>
      refine ⟨before, ?_, ?_⟩
      · rw [readText_eq hfile hold, hbefore]
        rfl
      · simp only [fixedBytes, hbefore, ofBytes?_toBytes, Option.some.injEq] at ht
        rw [if_pos hsame, ht]
  · rw [if_neg hsame] at hbytes
    refine ⟨t, ?_, ?_⟩
    · rw [readText_eq hfile hbytes, ht]
      rfl
    · rw [if_neg hsame]

/-- The texts that are read at some paths have a property. -/
def AllTexts (P : Text → Prop) (w : Workspace) (paths : List Path) : Prop :=
  ∀ q ∈ paths, ∀ t, w.readText q = .ok t → P t

theorem AllTexts.fixFile (h : AllTexts P w paths) (hfix : ∀ t, P t → P (fix t).text) (path : Path) :
    AllTexts P (Run.fixFile w path false fix).1 paths := by
  intro q hq t ht
  obtain ⟨before, hbefore, rfl⟩ := readText_fixFile ht
  have hp := h q hq before hbefore
  split
  · exact hfix before hp
  · exact hp

theorem allTexts_fixFile (hfix : ∀ t, P (fix t).text) (w : Workspace) (path : Path) :
    AllTexts P (fixFile w path false fix).1 [path] := by
  intro q hq t ht
  obtain rfl := List.mem_singleton.mp hq
  obtain ⟨before, -, rfl⟩ := readText_fixFile ht
  rw [if_pos rfl]
  exact hfix before

/-! ## Scans -/

theorem AllTexts.foldl_scanFile (h : AllTexts P w paths) (hfix : ∀ t, P t → P (x.fix t).text)
    (visited : List Path) (r : Report) : AllTexts P (visited.foldl (scanFile x false) (w, r)).1 paths := by
  induction visited generalizing w r with
  | nil => exact h
  | cons path visited ih =>
    rw [List.foldl_cons, scanFile_eq]
    exact ih (h.fixFile hfix path) _

theorem allTexts_foldl_scanFile (hfix : ∀ t, P (x.fix t).text) (w : Workspace) (visited : List Path) (r : Report) :
    AllTexts P (visited.foldl (scanFile x false) (w, r)).1 visited := by
  induction visited generalizing w r with
  | nil =>
    intro q hq
    cases hq
  | cons path visited ih =>
    rw [List.foldl_cons, scanFile_eq]
    have hfirst := (allTexts_fixFile hfix w path).foldl_scanFile (fun t _ => hfix t) visited
      (noteScan x false r path (w.readText path))
    exact List.forall_mem_cons.mpr ⟨hfirst path List.mem_cons_self, ih _ _⟩

theorem outline_foldl_scanFile (w : Workspace) (dryRun : Bool) (visited : List Path) (r : Report) :
    (visited.foldl (scanFile x dryRun) (w, r)).1.outline = w.outline := by
  induction visited generalizing w r with
  | nil => rfl
  | cons path visited ih => rw [List.foldl_cons, scanFile_eq, ih, outline_fixFile]

theorem dartFiles_runScan (w : Workspace) (root : Path) (x : ScanFixer) (dryRun : Bool) (above : Path) :
    (runScan w root x dryRun).1.dartFiles above = w.dartFiles above :=
  filesWithExtension_eq (outline_foldl_scanFile w dryRun _ _) above dartExtension

theorem allTexts_runScan (hfix : ∀ t, P (x.fix t).text) (w : Workspace) (root : Path) :
    AllTexts P (runScan w root x false).1 (w.dartFiles root) :=
  allTexts_foldl_scanFile hfix w _ _

/-! ## Scans that leave all as it is -/

/-- A scan leaves the workspace as it is and tells of no changed file. -/
structure Idle (w : Workspace) (root : Path) (x : ScanFixer) : Prop where
  workspace : (runScan w root x false).1 = w
  files : (runScan w root x false).2.files = []

theorem fixFile_of_unchanged (h : ∀ t, w.readText path = .ok t → fix t = Outcome.unchanged t) :
    (fixFile w path false fix).1 = w := by
  cases hread : w.readText path with
  | error reason => rw [fixFile_of_error false hread]
  | ok before =>
    obtain ⟨place, bytes, hfile, -, -⟩ := readText_eq_ok hread
    have hstays : (fix before).text = before := by rw [h before hread, Outcome.unchanged]
    rw [fixFile_real hfile hread, if_pos hstays]

theorem files_noteScan_of_unchanged (h : ∀ t, w.readText path = .ok t → x.fix t = Outcome.unchanged t) (r : Report) :
    (noteScan x false r path (w.readText path)).files = r.files := by
  rw [noteScan_eq]
  cases hread : w.readText path with
  | error reason => simp [noted, verdict, changes, Except.mapError, Except.toOption]
  | ok before =>
    simp [noted, verdict, changes, Except.mapError, Except.toOption, h before hread, Outcome.unchanged,
      FileChange.changed]

theorem foldl_scanFile_of_unchanged (h : AllTexts (fun t => x.fix t = Outcome.unchanged t) w paths) (r : Report) :
    (paths.foldl (scanFile x false) (w, r)).1 = w ∧ (paths.foldl (scanFile x false) (w, r)).2.files = r.files := by
  induction paths generalizing r with
  | nil => exact ⟨rfl, rfl⟩
  | cons path paths ih =>
    obtain ⟨hpath, hpaths⟩ := List.forall_mem_cons.mp h
    obtain ⟨hw, hfiles⟩ := ih hpaths (noteScan x false r path (w.readText path))
    rw [List.foldl_cons, scanFile_eq, fixFile_of_unchanged hpath]
    exact ⟨hw, hfiles.trans (files_noteScan_of_unchanged hpath r)⟩

theorem idle_of_allTexts (h : AllTexts (fun t => x.fix t = Outcome.unchanged t) w (w.dartFiles root)) :
    Idle w root x := by
  obtain ⟨hw, hfiles⟩ := foldl_scanFile_of_unchanged h (Report.start x.name root false)
  exact ⟨hw, hfiles⟩

/-! ## Both scans of imports -/

/-- The workspace behind a scan that moves imports and then one that adds them. -/
def settleImports (w : Workspace) (root : Path) : Workspace :=
  (runScan (runScan w root .foundationImports false).1 root .materialImports false).1

/-- Both fixes of imports leave nothing to do for either, in each text. So a scan that moves imports and then one that
adds them leave a workspace in which both are idle, whatever stands below the directory. -/
theorem import_scans_settle :
    (∀ t, FoundationImport.fix (settledImports t) = Outcome.unchanged (settledImports t) ∧
      MaterialImport.fix (settledImports t) = Outcome.unchanged (settledImports t)) ∧
    ∀ w root, Idle (settleImports w root) root .foundationImports ∧
      Idle (settleImports w root) root .materialImports := by
  constructor
  · intro t
    exact ⟨FoundationImport.fix_materialImport (FoundationImport.fix_fix t), MaterialImport.fix_fix _⟩
  · intro w root
    -- the files that the last scan finds are those that each of them has found
    have hlast : (settleImports w root).dartFiles root = w.dartFiles root := by
      rw [settleImports, dartFiles_runScan, dartFiles_runScan]
    constructor
    · apply idle_of_allTexts
      rw [hlast]
      have hmoved : AllTexts (fun t => FoundationImport.fix t = Outcome.unchanged t)
          (runScan w root .foundationImports false).1 (w.dartFiles root) :=
        allTexts_runScan (x := .foundationImports) FoundationImport.fix_fix w root
      exact hmoved.foldl_scanFile (x := .materialImports) (fun t => FoundationImport.fix_materialImport) _ _
    · apply idle_of_allTexts
      rw [hlast, ← dartFiles_runScan w root .foundationImports false root]
      exact allTexts_runScan (x := .materialImports) MaterialImport.fix_fix _ root

end Run
end Upkeep
