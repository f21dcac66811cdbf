import Upkeep.Fix.Outcome
import Upkeep.Source.ConstKeyword

/-!
# Removing invalid `const` keywords

The analyzer reports a column at or near the keyword that is wrong. The keyword nearest to it within
`window` columns is cut from the line, else the first one of the line.
-/

namespace Upkeep.InvalidConst

/-- How far from the reported column a keyword is looked for first. -/
def window : Nat := 20

/-- The keyword to cut for a reported column, which counts from one. -/
def choose? (spans : List ConstSpan) (column : Nat) : Option ConstSpan :=
  let column := column - 1
  (ConstSpan.nearest? column (spans.filter fun s => decide (s.distance column ≤ window))).or
    spans.head?

/-- The cut for one finding. -/
def step (b : Buffer) (f : Finding) : Edit :=
  match b.content? f.lineIndex with
  | none => .left ("line ".toList ++ Text.ofNat f.line ++ " out of range".toList)
  | some line =>
    match choose? (ConstSpan.all line) f.column with
    | none => .left "could not find const".toList
    | some span => .edited (b.replace f.lineIndex (span.cut line))

/-- The text without the keywords that the findings point at. -/
def fix (t : Text) (fs : List Finding) : Outcome := Edit.run step t fs

end Upkeep.InvalidConst
