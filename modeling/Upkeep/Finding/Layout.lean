import Upkeep.Finding
import Upkeep.Text.Count

/-!
# The layouts of an analyzer line

A diagnostic is written in one of these layouts, tried in this order.

* Machine: eight fields between bars, `SEVERITY|TYPE|RULE|file|line|column|length|message`.
* Bulleted: parts between ` • `, `severity • message • file:line:column • rule`.
* Dashed: the same parts between ` - `.

In the last two the location may also stand before the message, and severity and rule may be left
out. The location is the last part of the shape `file:line:column`, so that a message which quotes
another location does not redirect the finding.
-/

namespace Upkeep
namespace Finding

def machineBars : Nat := 7

def dash : Text := " - ".toList

/-- A finding in the machine layout. The message may hold bars. -/
def ofMachine? (line : Text) : Option Finding :=
  match Text.splitUpTo '|' machineBars line with
  | [severity, _, rule, file, lineNo, column, _, message] => do
    let severity ← Severity.ofWord? severity
    let lineNo ← Text.positive? lineNo
    let column ← Text.positive? column
    let file := Text.trim file
    if file = [] then none
    else some ⟨severity, Text.trim message, file, lineNo, column, Text.toLower (Text.trim rule)⟩
  | _ => none

/-- The file, line and column of a part of the shape `file:line:column`. The file may hold colons. -/
def location? (part : Text) : Option (Text × Nat × Nat) := do
  let (rest, column) ← Text.breakAtLast? ':' (Text.trim part)
  let column ← Text.positive? column
  let (file, line) ← Text.breakAtLast? ':' rest
  let line ← Text.positive? line
  let file := Text.trim file
  if file = [] then none else some (file, line, column)

/-- The last part that is a location, with the parts before and after it. -/
def splitAtLocation? : List Text → Option (List Text × (Text × Nat × Nat) × List Text)
  | [] => none
  | part :: parts =>
    match splitAtLocation? parts with
    | some (before, location, after) => some (part :: before, location, after)
    | none => (location? part).map fun location => ([], location, parts)

/-- The severity that the first part names, and the other parts; without one, all parts. -/
def splitSeverity (default : Severity) : List Text → Severity × List Text
  | [] => (default, [])
  | first :: rest =>
    match Severity.ofWord? first with
    | some severity => (severity, rest)
    | none => (default, first :: rest)

def unusedImportHead : Text := "Unused import:".toList

/-- The rule that a part names; a line without a rule may tell it by its message. -/
def ruleOf (part message : Text) : Text :=
  let rule := Text.dropEndWhile (· == '.') part
  if rule = [] ∧ Text.startsWith unusedImportHead message = true then Rule.unusedImport else rule

/-- A finding from its trimmed parts. Behind the location the last part is the rule, and what stands
before that belongs to the message. -/
def ofParts? (default : Severity) (sep : Text) (parts : List Text) : Option Finding := do
  let (before, (file, line, column), after) ← splitAtLocation? parts
  let (severity, head) := splitSeverity default before
  let message := sep.intercalate (head ++ after.dropLast)
  some ⟨severity, message, file, line, column, ruleOf (after.getLast?.getD []) message⟩

/-- A finding in the layout with `sep` between the parts. -/
def ofSeparated? (default : Severity) (sep line : Text) : Option Finding :=
  if Text.contains sep line then ofParts? default sep ((Text.splitOn sep line).map Text.trim)
  else none

/-- The finding that a line of the analyzer reports. A line that names no severity has `default`. -/
def ofLine? (default : Severity) (line : Text) : Option Finding :=
  let line := Text.trim line
  ofMachine? line
    <|> ofSeparated? default bullet line
    <|> ofSeparated? default dash line

end Finding
end Upkeep
