import Upkeep.Text.Blank

/-!
# Findings

A finding is one diagnostic of the analyzer: what is wrong, where, and by which rule. `display` is the
analyzer's own line for it, with bullets between the parts.

Each severity has one word of its own, which reads back (`Severity.ofWord?_word`), and `info` also goes by `lint` and
`hint`.

As comma-separated values findings are a line of column names, and a line for each finding. A field with a
comma, a quote or a line end stands between quotes, in which a quote is written twice. No findings
make an empty file.
-/

namespace Upkeep

/-! ## Severities -/

/-- How grave a finding is. -/
inductive Severity where
  | info
  | warning
  | error
  deriving DecidableEq, Repr

namespace Severity

def word : Severity → Text
  | info => "info".toList
  | warning => "warning".toList
  | error => "error".toList

/-- The severity that a word names, in any case and between any blanks. -/
def ofWord? (t : Text) : Option Severity :=
  let w := Text.toLower (Text.trim t)
  if w = "error".toList then some error
  else if w = "warning".toList then some warning
  else if w = "info".toList ∨ w = "lint".toList ∨ w = "hint".toList then some info
  else none

theorem ofWord?_word (s : Severity) : ofWord? s.word = some s := by
  cases s <;> decide

end Severity

/-! ## Diagnostics -/

/-- One diagnostic of the analyzer. Lines and columns count from one. -/
structure Finding where
  severity : Severity
  message : Text
  file : Text
  line : Nat
  column : Nat
  rule : Text
  deriving DecidableEq, Repr

namespace Finding

/-- The place of a finding, as `file:line:column`. -/
def location (f : Finding) : Text :=
  f.file ++ ':' :: Text.ofNat f.line ++ ':' :: Text.ofNat f.column

def lineIndex (f : Finding) : Nat := f.line - 1

/-- What stands between the parts of an analyzer line. -/
def bullet : Text := " • ".toList

/-- The analyzer's line for a finding. -/
def display (f : Finding) : Text :=
  bullet.intercalate [f.severity.word, f.message, f.location, f.rule]

end Finding

/-! ## Rules -/

namespace Rule

def unusedImport : Text := "unused_import".toList

def invalidConstant : Text := "invalid_constant".toList

/-- The rule for `const` before a constructor that is not constant. -/
def constWithNonConst : Text := "const_with_non_const".toList

def buildContextAcrossWait : Text := "use_build_context_synchronously".toList

end Rule

/-! ## Tables -/

namespace Csv

/-- The characters that a field needs quotes for. -/
def isSpecial (c : Char) : Bool := c == ',' || c == '"' || c == '\r' || c == '\n'

/-- The inside of a quoted field. -/
def doubled : Text → Text
  | [] => []
  | c :: t => if c = '"' then '"' :: '"' :: doubled t else c :: doubled t

def field (t : Text) : Text := if t.any isSpecial then '"' :: doubled t ++ ['"'] else t

def line (fields : List Text) : Text := [','].intercalate (fields.map field) ++ ['\n']

end Csv

namespace Finding

def columnNames : List Text :=
  ["severity".toList, "message".toList, "file".toList, "line".toList, "column".toList, "rule".toList]

def fields (f : Finding) : List Text :=
  [f.severity.word, f.message, f.file, Text.ofNat f.line, Text.ofNat f.column, f.rule]

def csv (fs : List Finding) : Text :=
  if fs.isEmpty then [] else Csv.line columnNames ++ fs.flatMap fun f => Csv.line f.fields

end Finding
end Upkeep
