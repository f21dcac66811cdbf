import Upkeep.Settings

/-!
# Sources of analyzer listings

A listing comes from a file of an earlier run, from a command that is run now, or from a text at hand,
and may be saved for later runs. `Source.read` gives its text and the workspace behind the reading.

Which commands there are and what they do is up to a `Runner`. It comes from outside, as the analyzer does.
-/

namespace Upkeep.Analyzer

/-- What a command printed on its two streams. -/
structure Streams where
  out : List UInt8
  err : List UInt8

/-- Runs a program with its arguments in a directory, and gives the workspace behind it and what it printed, or why it
could not be started. -/
abbrev Runner := Workspace → Path → Text → List Text → Except Text (Workspace × Streams)

/-- Where a listing comes from. -/
inductive Source where
  | text (t : Text)
  | listing (candidates : List Path)
  | command (run : Runner) (program : Text) (args : List Text) (dir : Path)
  | saving (inner : Source) (path : Path)

namespace Source

/-- The words of a command, with a blank between each two. -/
def commandLine (program : Text) (args : List Text) : Text := [' '].intercalate (program :: args)

def firstFile? (w : Workspace) (candidates : List Path) : Option Path := candidates.find? w.isFile

/-- How a source is named in reports. -/
def describe (w : Workspace) : Source → Text
  | text _ => "<captured text>".toList
  | listing candidates => (firstFile? w candidates).getD "<no report>".toList
  | command _ program args _ => commandLine program args
  | saving inner _ => inner.describe w

/-- The text of both streams of a command: first what it printed, then its complaints on a line of
their own. -/
def merge (streams : Streams) : Text :=
  let out := Text.ofBytesLossy ⟨streams.out.toArray⟩
  if streams.err.isEmpty then out
  else
    let out := if out = [] ∨ Text.endsWith ['\n'] out = true then out else out ++ ['\n']
    out ++ Text.ofBytesLossy ⟨streams.err.toArray⟩

/-- The workspace with the directory in which a file is to be. -/
def makeParent (w : Workspace) (path : Path) : Workspace × Except Failure Unit :=
  match (Path.parent? path).filter (· ≠ []) with
  | none => (w, .ok ())
  | some dir =>
    let (w, made) := w.makeDirs dir
    (w, FileTask.makeDirectory.of dir made)

def save (w : Workspace) (path : Path) (t : Text) : Workspace × Except Failure Unit :=
  match makeParent w path with
  | (w, .error e) => (w, .error e)
  | (w, .ok ()) =>
    match w.writeText path t with
    | .ok w => (w, .ok ())
    | .error reason => (w, .error (.file .writeListing path reason))

/-- The text of a source, and the workspace behind reading it. -/
def read (w : Workspace) : Source → Workspace × Except Failure Text
  | text t => (w, .ok t)
  | listing candidates =>
    match firstFile? w candidates with
    | none => (w, .error (.noListing candidates))
    | some path => (w, FileTask.readListing.of path (w.readText path))
  | command run program args dir =>
    match run w dir program args with
    | .error reason => (w, .error (.launch (commandLine program args) reason))
    | .ok (w, streams) => (w, .ok (merge streams))
  | saving inner path =>
    match inner.read w with
    | (w, .error e) => (w, .error e)
    | (w, .ok t) =>
      match save w path t with
      | (w, .error e) => (w, .error e)
      | (w, .ok ()) => (w, .ok t)

end Source
end Upkeep.Analyzer
