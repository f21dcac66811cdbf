import Upkeep.Analyzer.Source
import Upkeep.Finding.Group
import Upkeep.Fix.Fixer
import Upkeep.Run.Report
import Upkeep.Workspace.Discovery

/-!
# Fix runs

A run of a fixer over the files of a project. Each file is read once and written at most once, and a
file that cannot be handled does not keep the run from the others.

* `fixFile`: one file. A dry run writes nothing.
* `runFindings`: a fixer that follows findings, over the files that a listing reports.
* `runScan`: a fixer that scans, over all sources below a directory.
-/

namespace Upkeep.Run

/-- How a run is made. -/
structure Options where
  dryRun : Bool
  /-- Whether the analyzer is asked again behind the edits. -/
  recheck : Bool
  deriving DecidableEq, Repr

/-- The workspace with one file fixed. -/
def fixFile (w : Workspace) (path : Path) (dryRun : Bool) (fix : Text → Outcome) :
    Workspace × Except Failure FileChange :=
  match w.readText path with
  | .error reason => (w, .error (.file .readSource path reason))
  | .ok before =>
    let o := fix before
    let change := fun written => FileChange.mk path o.applied written before o.text o.notes
    if o.text ≠ before ∧ dryRun = false then
      match w.writeText path o.text with
      | .ok w => (w, .ok (change true))
      | .error reason => (w, .error (.file .writeSource path reason))
    else (w, .ok (change false))

/-! ## Runs that follow findings -/

/-- The findings that a run takes: those of its rules, with paths relative to the project. -/
def selection (s : Settings) (w : Workspace) (rules : List Text) : Selection :=
  { rules
    scope := some Selection.defaultScope
    subdirectory := s.subdirectory
    baseDirs := s.projectRoot :: (w.canonical? s.projectRoot).toList }

/-- The findings of a source by file, how much of its listing was understood, and the workspace behind
reading it. -/
def collect (s : Settings) (w : Workspace) (source : Analyzer.Source) (rules : List Text) :
    Workspace × Except Failure (List FileGroup × LineCounts) :=
  match source.read w with
  | (w, .error e) => (w, .error e)
  | (w, .ok t) =>
    let listing := Listing.ofText Listing.defaultSeverity t
    (w, .ok ((selection s w rules).groups listing.findings, listing.counts))

/-- The workspace and the report behind the findings of one file. -/
def fixGroup (s : Settings) (x : FindingFixer) (dryRun : Bool) (state : Workspace × Report)
    (g : FileGroup) : Workspace × Report :=
  let (w, r) := state
  let path := s.resolve w g.file
  if w.isFile path then
    let (w, result) := fixFile w path dryRun fun t => x.fix t g.findings
    let r := r.record path result
    (w, { r with findings := r.findings ++ g.findings })
  else (w, { r with skipped := r.skipped ++ [⟨path, .noFile⟩] })

/-- A run over the files that a listing reports. -/
def runFindings (s : Settings) (w : Workspace) (source : Analyzer.Source) (x : FindingFixer)
    (o : Options) : Workspace × Except Failure Report :=
  let start := Report.start x.name (source.describe w) o.dryRun
  match collect s w source x.rules with
  | (w, .error e) => (w, .error e)
  | (w, .ok (groups, counts)) =>
    let (w, r) := groups.foldl (fixGroup s x o.dryRun) (w, { start with counts := some counts })
    if o.recheck && !o.dryRun then
      match collect s w source x.rules with
      | (w, .error e) => (w, .error e)
      | (w, .ok (groups, _)) => (w, .ok { r with remaining := some (groups.flatMap (·.findings)) })
    else (w, .ok r)

/-! ## Runs that scan -/

/-- The workspace and the report behind one scanned file. A file that stays as it is is not reported. -/
def scanFile (x : ScanFixer) (dryRun : Bool) (state : Workspace × Report) (path : Path) :
    Workspace × Report :=
  let (w, r) := state
  let (w, result) := fixFile w path dryRun x.fix
  match result with
  | .ok change => if change.changed then (w, r.record path (.ok change)) else (w, r)
  | .error e => (w, r.record path (.error e))

/-- A run over all sources at or below a path. -/
def runScan (w : Workspace) (root : Path) (x : ScanFixer) (dryRun : Bool) : Workspace × Report :=
  (w.dartFiles root).foldl (scanFile x dryRun) (w, Report.start x.name root dryRun)

end Upkeep.Run
