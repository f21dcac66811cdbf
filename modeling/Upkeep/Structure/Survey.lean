import Upkeep.Decimal.Notation
import Upkeep.Structure.Manifest
import Upkeep.Workspace.Discovery

/-!
# Surveys of a project

A survey compares a project with a manifest: what is there, what is missing, and how many lines its
sources have. Of the critical checks that were not skipped, the share that passed is the completion,
and the verdict follows from it.
-/

namespace Upkeep.Structure

/-- What a check came to. -/
inductive Status where
  | passed
  | failed
  | warning
  | skipped
  deriving DecidableEq, Repr

def Status.word : Status → Text
  | passed => "passed".toList
  | failed => "failed".toList
  | warning => "warning".toList
  | skipped => "skipped".toList

/-- A check and what it came to. -/
structure CheckResult where
  check : Check
  status : Status
  deriving DecidableEq, Repr

/-- How many files of a target there are, and how many lines they have. -/
structure LineCount where
  label : Text
  files : Nat
  lines : Nat
  deriving DecidableEq, Repr

/-- What a survey found. -/
structure Survey where
  root : Path
  results : List CheckResult
  counts : List LineCount
  deriving DecidableEq, Repr

/-- What a check comes to below a root. -/
def Check.status (w : Workspace) (root : Path) (c : Check) : Status :=
  let there := fun path => w.pathExists (Path.join root path)
  if c.requires.any fun path => !there path then .skipped
  else if there c.path then .passed
  else if c.critical then .failed
  else .warning

/-- The lines of all files with an extension at or below a path. Files that hold no text count as files
without lines. -/
def countLines (w : Workspace) (label : Text) (dir : Path) (extension : Text) : LineCount :=
  let files := w.filesWithExtension dir extension
  let texts := files.filterMap fun path => (w.readText path).toOption
  ⟨label, files.length, texts.foldr (fun t n => (Text.lines t).length + n) 0⟩

namespace Survey

/-- A survey of the project at a root. -/
def make (w : Workspace) (root : Path) (m : Manifest) : Survey :=
  { root
    results := m.checks.map fun c => ⟨c, c.status w root⟩
    counts := m.targets.map fun t => countLines w t.label (Path.join root t.dir) t.extension }

def count (s : Survey) (status : Status) : Nat := s.results.countP (·.status == status)

def passed (s : Survey) : Nat := s.count .passed

def failed (s : Survey) : Nat := s.count .failed

def warnings (s : Survey) : List Check :=
  (s.results.filter (·.status == .warning)).map (·.check)

def totalLines (s : Survey) : Nat := s.counts.foldr (fun c n => c.lines + n) 0

/-- The share of critical checks that passed, in percent. None if there were none. -/
def completion (s : Survey) : Option Float :=
  let total := s.passed + s.failed
  if total = 0 then none else some (Float.ofNat s.passed / Float.ofNat total * 100.0)

end Survey

/-! ## Verdicts -/

/-- How complete a project is. -/
inductive Verdict where
  | complete
  | mostlyComplete
  | partly
  | incomplete
  deriving DecidableEq, Repr

namespace Verdict

def ofCompletion (x : Float) : Verdict :=
  if 100.0 ≤ x then complete
  else if 90.0 ≤ x then mostlyComplete
  else if 70.0 ≤ x then partly
  else incomplete

def word : Verdict → Text
  | complete => "complete".toList
  | mostlyComplete => "mostly_complete".toList
  | partly => "partial".toList
  | incomplete => "incomplete".toList

def sentence : Verdict → Text
  | complete => "✅ Project structure complete".toList
  | mostlyComplete => "✅ Project structure mostly complete".toList
  | partly => "⚠️  Project structure partially complete".toList
  | incomplete => "❌ Project structure incomplete".toList

end Verdict

def Survey.verdict (s : Survey) : Option Verdict := s.completion.map Verdict.ofCompletion

end Upkeep.Structure
