import Upkeep.Finding.Listing
import Upkeep.Failure

/-!
# Run reports

What a run did: the findings that were handled, the files with their texts before and after, the files
that could not be handled, and the findings that are left when the analyzer was asked again.
-/

namespace Upkeep.Run

/-- What a run made of one file. -/
structure FileChange where
  path : Path
  applied : Nat
  written : Bool
  before : Text
  after : Text
  notes : List Text
  deriving DecidableEq, Repr

/-- Whether the text of a file is another one now. -/
def FileChange.changed (c : FileChange) : Bool := c.before ≠ c.after

/-- Why a file was not handled. -/
inductive SkipReason where
  | noFile
  | failed (failure : Failure)
  deriving DecidableEq, Repr

def SkipReason.message : SkipReason → Text
  | noFile => "file not found".toList
  | failed failure => failure.chain

/-- A file that was not handled. -/
structure SkippedFile where
  path : Path
  reason : SkipReason
  deriving DecidableEq, Repr

/-- What a run did. -/
structure Report where
  fixer : Text
  source : Text
  dryRun : Bool
  counts : Option LineCounts
  findings : List Finding
  files : List FileChange
  skipped : List SkippedFile
  /-- The findings that are left, if the analyzer was asked again. -/
  remaining : Option (List Finding)
  deriving DecidableEq, Repr

namespace Report

/-- The report of a run that has not begun. -/
def start (fixer source : Text) (dryRun : Bool) : Report :=
  ⟨fixer, source, dryRun, none, [], [], [], none⟩

/-- The number of files whose text is another one now. -/
def filesChanged (r : Report) : Nat := r.files.countP FileChange.changed

def editsApplied (r : Report) : Nat := r.files.foldr (fun c n => c.applied + n) 0

/-- Whether nothing was left when the analyzer was asked again. -/
def converged (r : Report) : Option Bool := r.remaining.map List.isEmpty

/-- The report with one more file that was handled or not. -/
def record (r : Report) (path : Path) : Except Failure FileChange → Report
  | .ok change => { r with files := r.files ++ [change] }
  | .error failure => { r with skipped := r.skipped ++ [⟨path, .failed failure⟩] }

end Report
end Upkeep.Run
