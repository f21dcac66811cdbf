import Upkeep.Text.Blank
import Upkeep.Text.Word

/-!
# The keyword `const` on a line

`ConstSpan.all line` are the places of a line at which `const` stands as a keyword: no letter, number,
underscore or dollar sign before it, and a blank behind it. A span reaches over the keyword and all
blanks behind it, so that cutting it leaves the constructor where the keyword was.
-/

namespace Upkeep

/-- The keyword and the blanks behind it, from the character `column` up to but not including the
character `stop`. -/
structure ConstSpan where
  column : Nat
  stop : Nat
  deriving DecidableEq, Repr

namespace ConstSpan

def keyword : Text := "const".toList

def isNameChar (c : Char) : Bool := Text.isAlphanumeric c || c == '_' || c == '$'

/-- The spans of a line's rest that starts at `column` behind the character `before?`. -/
def allFrom (column : Nat) (before? : Option Char) : Text → List ConstSpan
  | [] => []
  | c :: rest =>
    let later := allFrom (column + 1) (some c) rest
    match Text.after? keyword (c :: rest) with
    | none => later
    | some behind =>
      let blanks := (Text.leadingBlanks behind).length
      if !before?.any isNameChar && decide (0 < blanks) then
        ⟨column, column + keyword.length + blanks⟩ :: later
      else later

/-- The spans of a line, from left to right. -/
def all (line : Text) : List ConstSpan := allFrom 0 none line

def cut (s : ConstSpan) (line : Text) : Text := line.take s.column ++ line.drop s.stop

/-- The number of UTF-8 bytes before a character of a line. -/
def byteOffset (line : Text) (column : Nat) : Nat :=
  (line.take column).foldr (fun c n => c.utf8Size + n) 0

/-- How far a span starts from a column. -/
def distance (column : Nat) (s : ConstSpan) : Nat := (s.column - column) + (column - s.column)

def nearest? (column : Nat) : List ConstSpan → Option ConstSpan
  | [] => none
  | s :: rest =>
    match nearest? column rest with
    | none => some s
    | some t => if t.distance column < s.distance column then some t else some s

end ConstSpan
end Upkeep
