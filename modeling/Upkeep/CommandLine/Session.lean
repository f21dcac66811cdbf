import Upkeep.Category.Catalogue
import Upkeep.CommandLine.Request
import Upkeep.Finding
import Upkeep.Reporting.Console
import Upkeep.Reporting.Document

/-!
# Sessions

How a request is carried out. A session is the workspace and what was printed; a job changes both and
may fail, and what it did before it failed stays.

* `Session.perform`: one command.
* `Session.run`: the program, from its arguments to how it ends.
-/

namespace Upkeep.CommandLine

/-- The workspace and what was printed. -/
structure Session where
  workspace : Workspace
  printed : Text

/-- What a run gets from its surroundings. -/
structure Surroundings where
  setting : Text → Option Text
  /-- New ids, no two of them alike. -/
  ids : Nat → Text
  /-- The present time: date, `T`, time of day with fractions, and zone. -/
  time : Text
  /-- How a character is read. -/
  reading : Char → Option Text
  runner : Analyzer.Runner
  library : Category.Library

abbrev Job := ExceptT Failure (StateM Session)

namespace Job

def say (lines : List Text) : Job Unit :=
  modify fun s => { s with printed := s.printed ++ Console.ofLines lines }

/-- Something that is found in the workspace. -/
def find {α : Type} (f : Workspace → Except Failure α) : Job α := do
  match f (← get).workspace with
  | .ok a => return a
  | .error e => throw e

/-- Something that changes the workspace. -/
def act {α : Type} (f : Workspace → Workspace × Except Failure α) : Job α := do
  let (w, result) := f (← get).workspace
  modify fun s => { s with workspace := w }
  match result with
  | .ok a => return a
  | .error e => throw e

def write (task : FileTask) (path : Path) (t : Text) : Job Unit :=
  act fun w =>
    match w.writeText path t with
    | .ok w => (w, .ok ())
    | .error reason => (w, .error (.file task path reason))

def writeDocument (path : Option Path) (d : Json.Document) : Job Unit :=
  match path with
  | none => return
  | some path => write .writeReport path d.render

open Console (line)

/-- Writes the report of a fix run, if that is asked for, and says so. -/
def writeReport (time : Text) (path : Option Path) (r : Run.Report) : Job Unit := do
  writeDocument path (r.document time)
  say (path.map fun p => line ["✓ Report written to ".toList, p]).toList

/-! ## Fixes -/

/-- Where the listing of a fix comes from. -/
def source (s : Settings) (runner : Analyzer.Runner) (c : FixChoice) : Except Failure Analyzer.Source := do
  let source ← match c.listing with
    | .file path => .ok (.listing [path])
    | .candidates => .ok (.listing s.listingCandidates)
    | .analyzer => do
      let (program, args) ← s.analyzerWords
      .ok (Analyzer.Source.command runner program args s.projectRoot)
  .ok (c.savedListing.elim source source.saving)

/-- Fixes findings. -/
def fix (s : Settings) (around : Surroundings) (x : FindingFixer) (c : FixChoice) : Job Unit := do
  find s.checkRoot
  let source ← source s around.runner c
  let r ← act fun w => Run.runFindings s w source x c.run
  say (Console.report r)
  match c.csv with
  | none => pure ()
  | some path =>
    write .writeCsv path (Finding.csv r.findings)
    say [line ["✓ Findings written to ".toList, path]]
  writeReport around.time c.json r

/-- A scanning fixer whose names have been checked. -/
def checked : ScanFixer → Except Failure ScanFixer
  | .constMisuse names =>
    ((ConstructorConst.names? names).map ScanFixer.constMisuse).mapError Failure.constructorName
  | x => .ok x

def scan (s : Settings) (time : Text) (x : ScanFixer) (apply : Bool) (json : Option Path) :
    Job Unit := do
  let x ← checked x
  find s.checkRoot
  let r ← act fun w => let (w, r) := Run.runScan w s.libDir x !apply; (w, .ok r)
  say (Console.report r)
  if !apply && 0 < r.filesChanged then say ["   (re-run with --apply to write changes)".toList]
  writeReport time json r

/-! ## Categories -/

section Categories

variable (s : Settings) (around : Surroundings)

/-- Work on a database, of which the files get what counts, also when nothing can be told of it. -/
def onDatabase {α : Type} (db : around.library.State) (work : Category.Work around.library.State α) :
    Job (around.library.State × α) :=
  let (told, db) := work.run db
  act fun w => (around.library.keep w db, told.map fun a => (db, a))

/-- Writes the document of a change of the catalogue, if one is asked for, and ends the work on the database. -/
def finish (db : around.library.State) (json : Option Path) (d : Json.Document) : Job Unit := do
  writeDocument json d
  act fun w => (around.library.close w db, .ok ())

/-- Imports the category hierarchy. -/
def importCategories (table hierarchy json : Option Path) (keepExisting : Bool) : Job Unit := do
  say [line ["🏷️  Category hierarchy → ".toList, Category.tableName], Console.rule]
  let path := hierarchy.getD s.hierarchyFile
  say [[], line ["📂 Loading ".toList, path, "...".toList]]
  let h ← find fun w => Category.Hierarchy.load w path
  let path := table.getD s.tableFile
  say [[], line ["🔧 Opening ".toList, path, "...".toList]]
  let db ← act fun w => around.library.load w path
  let clearing := (if keepExisting then "" else " (clearing existing templates)").toList
  say [[], line ["💾 Importing".toList, clearing, "...".toList]]
  let (db, report) ← onDatabase around db
    (Category.Catalogue.importHierarchy around.library.engine around.reading around.ids h !keepExisting)
  say (Console.importSummary report)
  finish around db json report.document

def updateIcons (table icons iconDir json : Option Path) : Job Unit := do
  say ["🖼️  Category icon update".toList, Console.rule]
  let map ← find fun w => Category.IconMap.load w (icons.getD s.iconMapFile)
  say [line ["✓ Found ".toList, Text.ofNat map.length, " categories with icons".toList]]
  let db ← act fun w => around.library.load w (table.getD s.tableFile)
  let w := (← get).workspace
  let present := fun file => w.pathExists (Path.join (iconDir.getD s.iconDir) file)
  let (db, report) ← onDatabase around db (Category.Catalogue.updateIcons around.library.engine present map)
  say (Console.iconSummary report)
  finish around db json report.document

end Categories

/-! ## Structure -/

/-- Surveys the project. -/
def verify (s : Settings) (manifest json : Option Path) (strict : Bool) : Job Unit := do
  find s.checkRoot
  let m ← match manifest with
    | none => pure Structure.Manifest.builtIn
    | some path => find fun w => Structure.Manifest.load w path
  let survey ← find fun w => .ok (Structure.Survey.make w s.projectRoot m)
  say (Console.survey survey)
  writeDocument json survey.document
  if strict && 0 < survey.failed then throw (.criticalChecks survey.failed)

/-- Carries out a command. -/
def perform (s : Settings) (around : Surroundings) : Command → Job Unit
  | .fix x c => fix s around x c
  | .scan x apply json => scan s around.time x apply json
  | .importCategories table hierarchy json keepExisting =>
    importCategories s around table hierarchy json keepExisting
  | .updateIcons table icons iconDir json => updateIcons s around table icons iconDir json
  | .verify manifest json strict => verify s manifest json strict

end Job

/-! ## The program -/

/-- How a run ends. -/
inductive Ending where
  | done
  | failed (failure : Failure)
  | misused

namespace Ending

def exitCode : Ending → Nat
  | done => 0
  | failed _ => 1
  | misused => 2

/-- How to use the program. -/
def usage : Text :=
  Console.ofLines
    ("Usage: jive-devtools [--root <ROOT>] <COMMAND>".toList :: [] :: "Commands:".toList ::
      Request.commandRules.map fun c => "  ".toList ++ c.name)

/-- What is printed about an ending that is not a success. -/
def complaint : Ending → Text
  | done => []
  | failed failure => Console.ofLines [Console.line ["❌ ".toList, failure.chain]]
  | misused => usage

end Ending

namespace Session

def version : Text := "jive-devtools 0.1.0".toList

def settings (around : Surroundings) (r : Request) : Settings :=
  let s := Settings.ofEnvironment around.setting
  { s with projectRoot := r.root.getD s.projectRoot }

/-- The session behind a run with some arguments, and how the run ends. -/
def run (w : Workspace) (around : Surroundings) (args : List Text) : Session × Ending :=
  match Request.ofArguments args with
  | .error .misuse => (⟨w, []⟩, .misused)
  | .error .help => (⟨w, Ending.usage⟩, .done)
  | .error .version => (⟨w, Console.ofLines [version]⟩, .done)
  | .ok r =>
    match (Job.perform (settings around r) around r.command).run ⟨w, []⟩ with
    | (.ok (), s) => (s, .done)
    | (.error failure, s) => (s, .failed failure)

end Session
end Upkeep.CommandLine
