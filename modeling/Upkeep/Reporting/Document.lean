import Upkeep.Category.Catalogue
import Upkeep.Json.Document
import Upkeep.Run.Report
import Upkeep.Sha256
import Upkeep.Structure.Survey

/-!
# Reports as JSON

The documents that reports are written as. Texts of files are not part of a report; their fingerprints
stand for them.
-/

namespace Upkeep
open Json (Document)

def Json.Document.textField (name : String) (t : Text) : Text × Document := (name.toList, .string t)

def Json.Document.numberField (name : String) (n : Nat) : Text × Document := (name.toList, .number n)

open Json.Document (textField numberField)

def Finding.document (f : Finding) : Document :=
  .object
    [textField "severity" f.severity.word, textField "message" f.message, textField "file" f.file,
      numberField "line" f.line, numberField "column" f.column, textField "rule" f.rule]

def Finding.documents (fs : List Finding) : Document := .array (fs.map document)

def LineCounts.document (c : LineCounts) : Document :=
  .object
    [numberField "lines" c.lines, numberField "parsed" c.parsed,
      numberField "unrecognized" c.unrecognized]

namespace Run

/-- The document of a file change. Notes are left out where there are none. -/
def FileChange.document (c : FileChange) : Document :=
  .object
    ([textField "path" c.path, numberField "applied" c.applied, ("written".toList, .bool c.written),
      textField "before" (fingerprint c.before), textField "after" (fingerprint c.after)] ++
      if c.notes.isEmpty then [] else [("notes".toList, .array (c.notes.map .string))])

def SkippedFile.document (s : SkippedFile) : Document :=
  .object [textField "path" s.path, textField "error" s.reason.message]

/-- The document of a run that was made at a time. -/
def Report.document (time : Text) (r : Report) : Document :=
  .object
    ([textField "fixer" r.fixer, textField "source" r.source, textField "generated_at" time,
      ("dry_run".toList, .bool r.dryRun)] ++
      (r.counts.map fun c => ("parse".toList, c.document)).toList ++
      [("findings".toList, Finding.documents r.findings),
        ("files".toList, .array (r.files.map FileChange.document)),
        ("failures".toList, .array (r.skipped.map SkippedFile.document))] ++
      (r.remaining.map fun fs => ("remaining".toList, Finding.documents fs)).toList)

end Run

namespace Category

def TypeCount.document (c : TypeCount) : Document :=
  .object
    [textField "category_type" c.word, numberField "total" c.total,
      numberField "parents" c.parents, numberField "children" c.children]

def ImportReport.document (r : ImportReport) : Document :=
  .object
    [numberField "cleared" r.cleared, numberField "imported" r.imported,
      numberField "parents" r.parents, numberField "children" r.children,
      ("stats".toList, .array (r.counts.map TypeCount.document))]

def IconReport.document (s : IconReport) : Document :=
  .object
    [numberField "mapped" s.mapped, numberField "updated" s.updated,
      ("missing".toList, .array (s.missing.map fun (name, file) =>
        .object [textField "category_name" name, textField "icon_file" file])),
      ("without_icon".toList, .array (s.withoutIcon.map .string))]

end Category

namespace Structure

def CheckResult.document (r : CheckResult) : Document :=
  .object
    [textField "section" r.check.heading, textField "label" r.check.label,
      textField "path" r.check.path, textField "status" r.status.word]

def LineCount.document (c : LineCount) : Document :=
  .object [textField "label" c.label, numberField "files" c.files, numberField "lines" c.lines]

def Survey.document (s : Survey) : Document :=
  .object
    [textField "root" s.root, ("checks".toList, .array (s.results.map CheckResult.document)),
      ("line_counts".toList, .array (s.counts.map LineCount.document))]

end Structure
end Upkeep
