import Upkeep.Proofs.Run.Isolation
import Upkeep.Proofs.Workspace.Discovery

/-!
# Dry runs

A dry run changes nothing, and its report foretells that of a run that writes.

* `Foretells`: the reports differ in what is written and in what is left, and in nothing else.
* `runScan_dry`, `runScan_real`: a scan, told from the workspace in which it starts.
* `dry_run_foretells`: every fixer, over every listing and below every directory.
-/

namespace Upkeep.Run

open Workspace

/-- A change as a run that writes makes it. -/
def FileChange.carriedOut (c : FileChange) : FileChange := { c with written := c.changed }

/-- A dry report foretells that of a run that writes. The changed files are written then, and the findings that
are left may be asked for; the rest is the same. -/
structure Foretells (dry real : Report) : Prop where
  dryRun : dry.dryRun = true
  unwritten : ∀ c ∈ dry.files, c.written = false
  remaining : dry.remaining = none
  real_eq : real = { dry with
    dryRun := false
    files := dry.files.map FileChange.carriedOut
    remaining := real.remaining }

variable {w v : Workspace} {s : Settings} {path : Path} {fix : Text → Outcome} {c : FileChange}

/-! ## Entries -/

/-- The entry of a file as a run that writes makes it. -/
def carriedOut : Except SkippedFile FileChange → Except SkippedFile FileChange :=
  Except.map FileChange.carriedOut

theorem changes_map_carriedOut (es : List (Except SkippedFile FileChange)) :
    changes (es.map carriedOut) = (changes es).map FileChange.carriedOut := by
  rw [changes, changes, List.filterMap_map, List.map_filterMap]
  refine List.filterMap_congr fun e _ => ?_
  cases e <;> rfl

theorem skips_map_carriedOut (es : List (Except SkippedFile FileChange)) :
    skips (es.map carriedOut) = skips es := by
  rw [skips, skips, List.filterMap_map]
  refine List.filterMap_congr fun e _ => ?_
  cases e <;> rfl

theorem noted_false (path : Path) (fix : Text → Outcome) (read : Except FileError Text) :
    noted path false fix read = carriedOut (noted path true fix read) := by
  cases read with
  | error reason => rfl
  | ok before =>
    simp [noted, verdict, carriedOut, Except.map, Except.mapError, FileChange.carriedOut,
      FileChange.changed, eq_comm]

theorem written_of_noted {read : Except FileError Text} (h : noted path true fix read = .ok c) :
    c.written = false := by
  cases read with
  | error reason => cases h
  | ok before =>
    obtain rfl := Except.ok.inj h
    exact Bool.and_false _

theorem entryOf_false (s : Settings) (w : Workspace) (x : FindingFixer) (g : FileGroup) :
    entryOf s w x false g = carriedOut (entryOf s w x true g) := by
  unfold entryOf
  cases w.bytes? (s.resolve w g.file) with
  | none => rfl
  | some bytes => exact noted_false _ _ _

theorem written_of_entryOf {x : FindingFixer} {g : FileGroup} (h : entryOf s w x true g = .ok c) :
    c.written = false := by
  unfold entryOf at h
  cases hbytes : w.bytes? (s.resolve w g.file) with
  | none => simp [hbytes, entry] at h
  | some bytes =>
    rw [hbytes] at h
    exact written_of_noted h

/-! ## Scans -/

/-- The report with a scanned file, by what reading it gives. -/
def noteScan (x : ScanFixer) (dryRun : Bool) (r : Report) (path : Path) (read : Except FileError Text) :
    Report :=
  match verdict path dryRun x.fix read with
  | .ok change => if change.changed then r.record path (.ok change) else r
  | .error e => r.record path (.error e)

def scanEntries (w : Workspace) (root : Path) (x : ScanFixer) (dryRun : Bool) :
    List (Except SkippedFile FileChange) :=
  (w.dartFiles root).map fun path => noted path dryRun x.fix (w.readText path)

def scanReport (w : Workspace) (root : Path) (x : ScanFixer) (dryRun : Bool) : Report :=
  { Report.start x.name root dryRun with
    files := (changes (scanEntries w root x dryRun)).filter FileChange.changed
    skipped := skips (scanEntries w root x dryRun) }

variable {x : ScanFixer} {dryRun : Bool} {root : Path}

theorem scanFile_eq (v : Workspace) (r : Report) (path : Path) : scanFile x dryRun (v, r) path =
    ((fixFile v path dryRun x.fix).1, noteScan x dryRun r path (v.readText path)) := by
  rw [noteScan, ← fixFile_snd, scanFile]
  cases fixFile v path dryRun x.fix with
  | mk u result =>
    cases result with
    | error e => rfl
    | ok change => cases h : change.changed <;> simp [h]

theorem noteScan_eq (r : Report) (path : Path) (read : Except FileError Text) :
    noteScan x dryRun r path read =
      { r with
        files := r.files ++ (changes [noted path dryRun x.fix read]).filter FileChange.changed
        skipped := r.skipped ++ skips [noted path dryRun x.fix read] } := by
  rw [noteScan, noted]
  cases verdict path dryRun x.fix read with
  | error e => simp [Report.record, Except.mapError, changes, skips, Except.toOption]
  | ok change =>
    by_cases h : change.changed = true
    · simp [h, Report.record, Except.mapError, changes, skips, Except.toOption]
    · simp [h, Except.mapError, changes, skips, Except.toOption]

theorem foldl_noteScan (paths : List Path) (r : Report) :
    paths.foldl (fun r path => noteScan x dryRun r path (w.readText path)) r =
      { r with
        files := r.files ++ (changes (paths.map fun path => noted path dryRun x.fix (w.readText path))).filter
          FileChange.changed
        skipped := r.skipped ++ skips (paths.map fun path => noted path dryRun x.fix (w.readText path)) } := by
  induction paths generalizing r with
  | nil => simp [changes, skips]
  | cons path paths ih =>
    rw [List.foldl_cons, noteScan_eq, ih]
    simp only [changes, skips, List.map_cons, List.append_assoc, ← List.filter_append,
      ← List.filterMap_append, List.cons_append, List.nil_append]

theorem runScan_dry (w : Workspace) (root : Path) (x : ScanFixer) :
    runScan w root x true = (w, scanReport w root x true) := by
  have hstep : ∀ r path, scanFile x true (w, r) path = (w, noteScan x true r path (w.readText path)) := by
    intro r path
    rw [scanFile_eq, fixFile_dry]
  have hfold := foldl_previews hstep (w.dartFiles root) (Report.start x.name root true)
  rw [runScan, hfold, foldl_noteScan]
  rfl

theorem runScan_real (hproper : w.root.Proper) (root : Path) (x : ScanFixer) :
    ∃ v, runScan w root x false = (v, scanReport w root x false) := by
  have hapart : w.Apart ((w.dartFiles root).map fun path => path) := by
    rw [List.map_id']
    exact apart_filesWithExtension hproper root dartExtension
  obtain ⟨v, hv, -⟩ := foldl_visits (fun v r path _ => scanFile_eq (x := x) v r path) hapart (.refl w)
    (fun _ _ _ _ => rfl) (Report.start x.name root false)
  refine ⟨v, ?_⟩
  rw [runScan, hv, foldl_noteScan]
  rfl

/-! ## Reports -/

theorem foretells_report (s : Settings) (w : Workspace) (t : Text) (x : FindingFixer)
    (remaining : Option (List Finding)) :
    Foretells (report s w t x true none) (report s w t x false remaining) where
  dryRun := rfl
  unwritten c hc := by
    obtain ⟨g, -, hg⟩ := List.mem_map.mp (mem_changes_iff.mp hc)
    exact written_of_entryOf hg
  remaining := rfl
  real_eq := by
    have hentries : (groupsOf s w t x).map (entryOf s w x false) =
        ((groupsOf s w t x).map (entryOf s w x true)).map carriedOut := by
      rw [List.map_map]
      exact List.map_congr_left fun g _ => entryOf_false s w x g
    simp only [report, hentries, changes_map_carriedOut, skips_map_carriedOut]

theorem foretells_scanReport (w : Workspace) (root : Path) (x : ScanFixer) :
    Foretells (scanReport w root x true) (scanReport w root x false) where
  dryRun := rfl
  unwritten c hc := by
    obtain ⟨path, -, hpath⟩ := List.mem_map.mp (mem_changes_iff.mp (List.mem_of_mem_filter hc))
    exact written_of_noted hpath
  remaining := rfl
  real_eq := by
    have hentries : scanEntries w root x false = (scanEntries w root x true).map carriedOut := by
      rw [scanEntries, scanEntries, List.map_map]
      exact List.map_congr_left fun path _ => noted_false path x.fix _
    simp only [scanReport, hentries, changes_map_carriedOut, skips_map_carriedOut, List.filter_map]
    rfl

/-- A dry run changes nothing, and its report foretells that of a run that writes from the same workspace on: for
each fixer that follows findings, whatever the listing is, if no two groups mean the same file, and for each fixer
that scans, below any directory. Each run ends with a report. -/
theorem dry_run_foretells (w : Workspace) :
    (∀ (s : Settings) (t : Text) (x : FindingFixer) (recheck recheck' : Bool),
      w.Apart ((groupsOf s w t x).map fun g => s.resolve w g.file) →
      ∃ dry v real, runFindings s w (.text t) x ⟨true, recheck⟩ = (w, .ok dry) ∧
        runFindings s w (.text t) x ⟨false, recheck'⟩ = (v, .ok real) ∧ Foretells dry real) ∧
    (w.root.Proper → ∀ (root : Path) (x : ScanFixer),
      ∃ dry v real, runScan w root x true = (w, dry) ∧ runScan w root x false = (v, real) ∧
        Foretells dry real ∧ real.remaining = none) := by
  constructor
  · intro s t x recheck recheck' hapart
    obtain ⟨v, hv, -⟩ := runFindings_real (x := x) recheck' hapart
    exact ⟨_, v, _, runFindings_dry s w t x recheck, hv, foretells_report s w t x _⟩
  · intro hproper root x
    obtain ⟨v, hv⟩ := runScan_real hproper root x
    exact ⟨_, v, _, runScan_dry w root x, hv, foretells_scanReport w root x, rfl⟩

theorem dartFiles_library : library.dartFiles "lib".toList =
    ["lib/a.dart".toList, "lib/b.dart".toList, "lib/c.dart".toList] := by
  have hlocate : library.locate "lib".toList = .ok ["lib".toList] := by decide +kernel
  have hlookup : library.root.lookup? ["lib".toList] = some (.dir (sourcesWith (Text.toBytes "f();\n".toList))) :=
    rfl
  rw [dartFiles, filesWithExtension, node_eq hlocate, hlookup]
  dsimp only
  rw [Dir.placesWithExtension, List.mergeSort_of_pairwise (by decide +kernel)]
  decide +kernel

/-- In the library the runs over a listing and below a directory are foretold. -/
theorem dry_run_foretells_library :
    library.Apart ((groupsOf .default library (listingOf ["a.dart", "b.dart", "d.dart"]) .unusedImports).map
      fun g => Settings.default.resolve library g.file) ∧
    library.root.Proper ∧
    (∃ dry v real,
      runFindings .default library (.text (listingOf ["a.dart", "b.dart", "d.dart"])) .unusedImports
        ⟨true, true⟩ = (library, .ok dry) ∧
      runFindings .default library (.text (listingOf ["a.dart", "b.dart", "d.dart"])) .unusedImports
        ⟨false, true⟩ = (v, .ok real) ∧
      Foretells dry real ∧ real.files.map (·.written) = [true]) ∧
    ∃ dry v real, runScan library "lib".toList .materialImports true = (library, dry) ∧
      runScan library "lib".toList .materialImports false = (v, real) ∧
      Foretells dry real ∧ real.skipped.map (·.path) = ["lib/b.dart".toList] := by
  have hapart : library.Apart ((groupsOf .default library (listingOf ["a.dart", "b.dart", "d.dart"])
      .unusedImports).map fun g => Settings.default.resolve library g.file) := by
    rw [groupsOf_library]
    decide +kernel
  have hproper : library.root.Proper := by decide +kernel
  obtain ⟨hfindings, hscan⟩ := dry_run_foretells library
  obtain ⟨dry, v, real, hdry, hreal, hsame⟩ := hfindings .default _ .unusedImports true true hapart
  obtain ⟨dry', v', real', hdry', hreal', hsame', -⟩ := hscan hproper "lib".toList .materialImports
  refine ⟨hapart, hproper, ⟨dry, v, real, hdry, hreal, hsame, ?_⟩, dry', v', real', hdry', hreal', hsame', ?_⟩
  · obtain rfl := Except.ok.inj (Prod.mk.inj (hdry.symm.trans (runFindings_dry _ _ _ _ _))).2
    rw [hsame.real_eq, report, groupsOf_library]
    dsimp only
    decide +kernel
  · obtain rfl := (Prod.mk.inj (hdry'.symm.trans (runScan_dry _ _ _))).2
    rw [hsame'.real_eq, scanReport, scanEntries, dartFiles_library]
    dsimp only
    decide +kernel

end Upkeep.Run
