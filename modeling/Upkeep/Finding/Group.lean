import Upkeep.Finding
import Upkeep.Path
import Upkeep.Text.Order

/-!
# Findings by file

A run takes some of the findings, brings their paths to one spelling, and handles them file by file.

* `Selection.accept? s f`: the finding `f` with its path relative to the project, if `s` takes it.
* `Selection.groups s fs`: the accepted findings by file. Files come in ascending order; within a file
  the last line comes first, so that an edit does not move the places still to be edited, and of
  findings of one rule at one place the first one reported is kept.
-/

namespace Upkeep

/-- Which findings a run takes. No rules at all stand for every rule. -/
structure Selection where
  rules : List Text
  /-- How the accepted paths start. -/
  scope : Option Text
  /-- The start of the paths that a run above the project reports. -/
  subdirectory : Option Text
  /-- The directories that paths are made relative to, the first that fits. -/
  baseDirs : List Path

/-- The findings of one file. -/
structure FileGroup where
  file : Path
  findings : List Finding
  deriving DecidableEq, Repr

namespace Selection

/-- The scope of a run that is given none: the library sources of the project. -/
def defaultScope : Text := "lib/".toList

/-- A reported path in the spelling of the project: slashes only, relative to the first base directory
that holds it, and without the subdirectory. -/
def localPath (s : Selection) (reported : Path) : Path :=
  let path := Text.replaceChar '\\' '/' reported
  let path := match s.baseDirs.findSome? (Path.relativeTo? · path) with
    | some rest => Text.replaceChar '\\' '/' rest
    | none => path
  match s.subdirectory with
  | some head => (Text.after? head path).getD path
  | none => path

def wantsRule (s : Selection) (rule : Text) : Bool := s.rules.isEmpty || s.rules.contains rule

def inScope (s : Selection) (path : Path) : Bool :=
  match s.scope with
  | some scope => Text.startsWith scope path
  | none => true

/-- A finding with the path that it is handled under, if the run takes it. -/
def accept? (s : Selection) (f : Finding) : Option Finding :=
  let path := s.localPath f.file
  if s.wantsRule f.rule && s.inScope path then some { f with file := path } else none

end Selection

namespace Finding

/-- The order within a file: later lines first, then later columns, then rules ascending. -/
def handledBefore (a b : Finding) : Bool :=
  decide (b.line < a.line ∨ a.line = b.line ∧
    (b.column < a.column ∨ a.column = b.column ∧ Text.notAfter a.rule b.rule = true))

def samePlace (a b : Finding) : Bool :=
  a.line == b.line && a.column == b.column && a.rule == b.rule

/-- The first of each run of findings of one rule at one place. -/
def keepFirsts : List Finding → List Finding
  | [] => []
  | f :: rest => f :: (keepFirsts rest).dropWhile (samePlace f)

end Finding

namespace Selection

def files (fs : List Finding) : List Path :=
  (fs.map (·.file)).eraseDups.mergeSort Text.notAfter

/-- The accepted findings by file. -/
def groups (s : Selection) (fs : List Finding) : List FileGroup :=
  let accepted := fs.filterMap s.accept?
  (files accepted).map fun file =>
    ⟨file, Finding.keepFirsts
      ((accepted.filter (·.file == file)).mergeSort Finding.handledBefore)⟩

end Selection
end Upkeep
