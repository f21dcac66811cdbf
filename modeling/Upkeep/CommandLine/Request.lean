import Upkeep.CommandLine.Arguments
import Upkeep.Fix.Fixer
import Upkeep.Run.Fix

/-!
# Requests

What the arguments of the program ask for. `Request.ofArguments` reads them: the options of the program,
the name of a command, and the options of the command. The project root may be named in either place,
and the later one counts.
-/

namespace Upkeep.CommandLine

/-- Where a command takes its listing from. -/
inductive ListingChoice where
  | analyzer
  | candidates
  | file (path : Path)
  deriving DecidableEq, Repr

/-- How findings are fixed. -/
structure FixChoice where
  listing : ListingChoice
  savedListing : Option Path
  run : Run.Options
  json : Option Path
  csv : Option Path
  deriving DecidableEq, Repr

/-- What a command is to do. Paths that are left out come from the settings; the names that a scan is
given are not checked yet. -/
inductive Command where
  | fix (fixer : FindingFixer) (choice : FixChoice)
  | scan (fixer : ScanFixer) (apply : Bool) (json : Option Path)
  | importCategories (table hierarchy json : Option Path) (keepExisting : Bool)
  | updateIcons (table icons iconDir json : Option Path)
  | verify (manifest json : Option Path) (strict : Bool)

/-- A command and the project root that it was given. -/
structure Request where
  root : Option Path
  command : Command

namespace Request

/-! ## The options of the commands -/

def switch (name : String) : OptionRule := ⟨name.toList, .nothing⟩

def path (name : String) : OptionRule := ⟨name.toList, .path⟩

def programRules : List OptionRule := [path "root"]

def fixRules : List OptionRule :=
  [⟨"from-file".toList, .pathOrNothing⟩, path "save-report", switch "recheck", switch "dry-run",
    path "report-json", path "report-csv"]

def scanRules : List OptionRule := [switch "apply", path "report-json"]

def tableRules : List OptionRule := [path "db", path "report-json", path "file"]

/-! ## The commands -/

/-- A command that fixes findings. -/
def fixOf (x : FindingFixer) (g : Given) : Command :=
  .fix x
    { listing :=
        match g.values? "from-file" with
        | none => .analyzer
        | some [] => .candidates
        | some (p :: _) => .file p
      savedListing := g.value? "save-report"
      run := ⟨g.has "dry-run", g.has "recheck"⟩
      json := g.value? "report-json"
      csv := g.value? "report-csv" }

def scanOf (x : Given → ScanFixer) (g : Given) : Command :=
  .scan (x g) (g.has "apply") (g.value? "report-json")

/-- A command: its name, its options, and what it is to do by what was given. -/
structure CommandRule where
  name : Text
  rules : List OptionRule
  make : Given → Command

/-- The commands. -/
def commandRules : List CommandRule :=
  [⟨FindingFixer.unusedImports.name, fixRules, fixOf .unusedImports⟩,
    ⟨FindingFixer.invalidConst.name, fixRules, fixOf .invalidConst⟩,
    ⟨FindingFixer.contextGuards.name, fixRules, fixOf .contextGuards⟩,
    ⟨"const-misuse".toList, ⟨"targets".toList, .names⟩ :: scanRules,
      scanOf fun g => .constMisuse ((g.values? "targets").getD ConstructorConst.defaultNames)⟩,
    ⟨ScanFixer.materialImports.name, scanRules, scanOf fun _ => .materialImports⟩,
    ⟨ScanFixer.foundationImports.name, scanRules, scanOf fun _ => .foundationImports⟩,
    ⟨"import-categories".toList, switch "keep-existing" :: tableRules, fun g =>
      .importCategories (g.value? "db") (g.value? "file") (g.value? "report-json")
        (g.has "keep-existing")⟩,
    ⟨"update-icons".toList, path "icons-dir" :: tableRules, fun g =>
      .updateIcons (g.value? "db") (g.value? "file") (g.value? "icons-dir")
        (g.value? "report-json")⟩,
    ⟨"verify".toList, [path "manifest", path "report-json", switch "strict"], fun g =>
      .verify (g.value? "manifest") (g.value? "report-json") (g.has "strict")⟩]

/-- The command that tells how the others are used. -/
def helpName : Text := "help".toList

/-- What the arguments behind `help` ask for: help on the program, or on the one command that they
name. -/
def helpStop : List Text → Stop
  | [] => .help
  | [name] => if name = helpName ∨ commandRules.any (·.name == name) then .help else .misuse
  | _ => .misuse

/-- What some arguments ask for. -/
def ofArguments (args : List Text) : Except Stop Request := do
  let (outer, rest) ← Arguments.read? programRules true .start args
  match rest with
  | [] => .error .misuse
  | name :: rest =>
    match commandRules.find? (·.name == name) with
    | none => .error (if name = helpName then helpStop rest else .misuse)
    | some c =>
      let (inner, _) ← Arguments.read? (programRules ++ c.rules) false .start rest
      .ok ⟨(inner.value? "root").or (outer.value? "root"), c.make inner⟩

end Request
end Upkeep.CommandLine
