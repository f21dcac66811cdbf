import Upkeep.Fix.Outcome
import Upkeep.Source.Directive

/-!
# Removing unused imports

The message of a finding quotes the URI of the import. The import on the reported line is removed if
it is one of that URI, else the first such import of the file, up to the line that closes the
directive. A URI that is no longer imported is left alone.
-/

namespace Upkeep.UnusedImport

/-- What stands before the URI in the analyzer's message. -/
def head : Text := "Unused import: ".toList

/-- The first stretch between two quotes of one kind. The quote that comes first counts. -/
def firstQuoted? (t : Text) : Option Text :=
  match t.dropWhile fun c => c != '\'' && c != '"' with
  | [] => none
  | q :: rest => (Text.breakOn? [q] rest).map (·.1)

/-- The URI that a message names: the one behind the head, else the first in quotes. -/
def uri? (message : Text) : Option Text :=
  match Text.breakOn? head message with
  | some (_, rest) => firstQuoted? rest
  | none => firstQuoted? message

/-- The buffer without the lines from `i` to `j`. -/
def removeLines (b : Buffer) (i j : Nat) : Buffer :=
  { b with lines := b.lines.take i ++ b.lines.drop (j + 1) }

/-- The line to remove for a finding: the reported one if it imports `uri`, else the first that does. -/
def target? (b : Buffer) (uri : Text) (f : Finding) : Option Nat :=
  if (b.content? f.lineIndex).any (Directive.isImportOf uri) then some f.lineIndex
  else b.contents.findIdx? (Directive.isImportOf uri)

/-- The removal for one finding. -/
def step (b : Buffer) (f : Finding) : Edit :=
  match uri? f.message with
  | none => .left "no import URI in message".toList
  | some uri =>
    match target? b uri f with
    | none => .left ("import '".toList ++ uri ++ "' already gone".toList)
    | some i => .edited (removeLines b i (b.directiveEnd i))

/-- The text without the imports that the findings name. -/
def fix (t : Text) (fs : List Finding) : Outcome := Edit.run step t fs

end Upkeep.UnusedImport
