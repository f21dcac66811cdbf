import Upkeep.Analyzer.Source
import Upkeep.Shell.Evaluation

/-!
# Running commands in a workspace

A runner for commands that needs no other programs: commands run inside the workspace, so that what they print
follows from it. The shell is there, and some programs; nothing can be read from the stream of input. It is one runner
among many, and nothing that is proved of listings rests on it.

* `Shell.runner`: the workspace behind a command, and what it printed.
-/

namespace Upkeep.Shell
open Analyzer (Runner Streams)

/-- How deep a command may go. -/
def depth : Nat := 100000

/-- The variables that a command finds. -/
def environment (here : Place) : List (Octets × Variable) :=
  Evaluation.startBindings <|
    [("PATH".toList, "/usr/local/sbin:/usr/local/bin:/usr/sbin:/usr/bin:/sbin:/bin".toList),
      ("PWD".toList, Octets.ofText (Workspace.pathOf here))].map
      fun (name, value) => (name, ⟨some value, true, false⟩)

/-- The rights that new files do not get at first. -/
def usualMask : Nat := 18

/-- A machine with a process that has not done anything. -/
def machine (w : Workspace) : Machine :=
  { root := Surroundings.around Evaluation.programNames w.root
    channels := [(0, .void), (1, .sink [] none), (2, .sink [] none)], nextChannel := 3, nextJob := 2, signals := []
    isStarved := false
    process :=
      { here := w.here, name := [], parameters := [], bindings := environment w.here, functions := []
        texts := [], options := [], streams := [(0, 0), (1, 1), (2, 2)], nextText := 0, line := 0
        readLine := 0, loopDepth := 0, saved := [], found := [], traps := [], aliases := [], mask := usualMask, jobs := [], lastJob := none
        optionPlace := (1, none), depth := 0, status := 0, partStatus := 0
        command := none, hasLost := false } }

/-- Why a program cannot be started. -/
def startFailure? (w : Workspace) (program : Text) : Option FileError :=
  match Evaluation.programAt? program with
  | some name => if Evaluation.isProgram name then none else some .notFound
  | none =>
    match w.node program with
    | .ok _ => some .notAllowed
    | .error e => some e

/-- The workspace behind a command in the directory of the workspace, and what it printed. -/
def run (w : Workspace) (program : Text) (args : List Text) :
    Except FileError (Workspace × Streams) :=
  match startFailure? w program with
  | some e => .error e
  | none =>
    let go := Evaluation.runProgram depth (Octets.ofText program) (args.map Octets.ofText)
    let m := (go (machine w)).2
    .ok ({ w with root := m.root }, ⟨Octets.toBytes (m.collected 1), Octets.toBytes (m.collected 2)⟩)

/-- Runs a command in a directory. -/
def runner : Runner := fun w dir program args =>
  let ran : Except FileError (Workspace × Streams) := do
    if (dir :: program :: args).any fun word => word.any (· == '\x00') then throw .zeroInWord
    let place ← w.locate dir
    if !w.root.isDirAt place then throw .notADirectory
    let (w', streams) ← run { w with here := place } program args
    return ({ w' with here := w.here }, streams)
  ran.mapError FileError.message

end Upkeep.Shell
