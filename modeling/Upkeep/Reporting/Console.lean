import Upkeep.Category.Catalogue
import Upkeep.Run.Report
import Upkeep.Structure.Survey

/-!
# Reports on the console

What commands print about their work, as lines.
-/

namespace Upkeep.Console

def ofLines (lines : List Text) : Text := lines.flatMap (· ++ ['\n'])

def line (pieces : List Text) : Text := pieces.flatten

def rule : Text := List.replicate 45 '━'

def listLimit : Nat := 10

/-- The first entries of a list, and how many more there are. -/
def limited (entries : List Text) : List Text :=
  entries.take listLimit ++
    if listLimit < entries.length then
      [line ["    ... and ".toList, Text.ofNat (entries.length - listLimit), " more".toList]]
    else []

open Run (Report FileChange)

def changeLines (files : List FileChange) : List Text :=
  (files.filter FileChange.changed).map fun c =>
    line ["   ".toList, (if c.written then "Fixed " else "Would fix ").toList, c.path, " (".toList,
      Text.ofNat c.applied, " edits)".toList]

/-- The lines about the findings that are left. -/
def remainingLines : Option (List Finding) → List Text
  | none => []
  | some [] => ["✅ Re-check clean: no findings left".toList]
  | some fs =>
    line ["⚠️  ".toList, Text.ofNat fs.length, " findings remain after re-check".toList] ::
      (fs.take listLimit).map fun f =>
        line ["   ".toList, f.file, [':'], Text.ofNat f.line, " - ".toList, f.message]

/-- The lines about a run. -/
def report (r : Report) : List Text :=
  [rule, line ["🩹 ".toList, r.fixer, (if r.dryRun then " (dry run)" else "").toList],
    line ["   source: ".toList, r.source]] ++
  (r.counts.map fun c =>
    line ["   analyzer lines: ".toList, Text.ofNat c.lines, " (".toList, Text.ofNat c.parsed,
      " parsed, ".toList, Text.ofNat c.unrecognized, " unrecognized)".toList]).toList ++
  [line ["   findings handled: ".toList, Text.ofNat r.findings.length]] ++
  changeLines r.files ++
  [line ["✓ ".toList, Text.ofNat r.editsApplied, " edits in ".toList, Text.ofNat r.filesChanged,
    " files".toList]] ++
  (if r.skipped.isEmpty then []
    else line ["⚠️  ".toList, Text.ofNat r.skipped.length, " files skipped:".toList] ::
      r.skipped.map fun s => line ["   - ".toList, s.path, ": ".toList, s.reason.message]) ++
  remainingLines r.remaining

open Category (IconReport ImportReport TypeCount)

def typeLines (c : TypeCount) : List Text :=
  [[], line ["  ".toList, c.word, [':']],
    line ["    - Parent categories: ".toList, Text.ofNat c.parents],
    line ["    - Child categories: ".toList, Text.ofNat c.children],
    line ["    - Total: ".toList, Text.ofNat c.total]]

def importSummary (s : ImportReport) : List Text :=
  [[], rule, "✅ Import Summary:".toList] ++
  (if s.cleared = 0 then [] else [line ["  - Cleared: ".toList, Text.ofNat s.cleared]]) ++
  [line ["  - Total categories imported: ".toList, Text.ofNat s.imported]] ++
  s.counts.flatMap typeLines

/-- The lines about an update of icons. -/
def iconSummary (s : IconReport) : List Text :=
  [[], rule, "✅ Update Summary:".toList,
    line ["  - Total categories with icons: ".toList, Text.ofNat s.mapped],
    line ["  - Records updated: ".toList, Text.ofNat s.updated],
    line ["  - Missing icon files: ".toList, Text.ofNat s.missing.length]] ++
  (if s.missing.isEmpty then []
    else [[], "⚠️  Missing icon files:".toList] ++
      limited (s.missing.map fun (name, file) => line ["    - ".toList, name, ": ".toList, file])) ++
  (if s.withoutIcon.isEmpty then []
    else [[], line ["📋 Categories without icons: ".toList, Text.ofNat s.withoutIcon.length]] ++
      limited (s.withoutIcon.map fun name => line ["    - ".toList, name]))

open Structure (Status CheckResult Survey)

/-- The mark of a status. Skipped checks have none. -/
def mark? : Status → Option Text
  | .passed => some "✓".toList
  | .failed => some "✗".toList
  | .warning => some "⚠".toList
  | .skipped => none

/-- The lines about some checks under a heading. A check with another heading opens its own. -/
def checkLines (heading : Text) : List CheckResult → List Text
  | [] => []
  | r :: rest =>
    (if r.check.heading = heading then []
      else [[], line ["=== ".toList, r.check.heading, " ===".toList]]) ++
    ((mark? r.status).map fun m => line ["  ".toList, m, [' '], r.check.label]).toList ++
    checkLines r.check.heading rest

/-- The lines about a survey. -/
def survey (s : Survey) : List Text :=
  [rule, line ["🧭 Jive project structure: ".toList, s.root]] ++
  checkLines [] s.results ++
  [[], "=== Code lines ===".toList] ++
  (s.counts.map fun c =>
    line ["  ".toList, c.label, ": ".toList, Text.ofNat c.lines, " lines in ".toList,
      Text.ofNat c.files, " files".toList]) ++
  [line ["  Total: ".toList, Text.ofNat s.totalLines, " lines".toList], [],
    line ["Passed: ".toList, Text.ofNat s.passed], line ["Failed: ".toList, Text.ofNat s.failed],
    line ["Warnings: ".toList, Text.ofNat s.warnings.length]] ++
  (s.warnings.map fun c => line ["  - ".toList, c.label]) ++
  (match s.completion with
    | none => []
    | some x =>
      [line [(Structure.Verdict.ofCompletion x).sentence, " (".toList, Decimal.onePlace x,
        "%)".toList]])

end Upkeep.Console
