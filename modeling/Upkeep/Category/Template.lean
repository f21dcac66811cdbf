import Upkeep.Text.Basic
import Upkeep.Text.Blank

/-!
# Category templates

A template is one row of the category catalogue: a main category, or a child of one. `Template.make`
fills in what follows from the name and the kind; the functions behind it look rows up in a list of
templates.

* Money goes out or comes in. Each kind has a word, which reads back (`Kind.ofWord?_word`), and a colour.
* New rows are known by numbers of 122 bits, written in the form of random UUIDs: 32 hexadecimal digits in five groups,
  of which the third starts with the version and the fourth with the variant (`identifier`).
* Names are searched for by their readings: the full pinyin of a name and the first letters of its syllables. How a
  character is read is for others to say (`reading`); one without a reading stands for itself in both.
-/

namespace Upkeep.Category

/-! ## Kinds -/

/-- Whether money goes out or comes in. -/
inductive Kind where
  | expense
  | income
  deriving DecidableEq, Repr

namespace Kind

/-- The kinds, in the order of their words. -/
def all : List Kind := [expense, income]

theorem mem_all (k : Kind) : k ∈ all := by cases k <;> decide

def word : Kind → Text
  | expense => "expense".toList
  | income => "income".toList

def ofExactWord? (t : Text) : Option Kind := all.find? (·.word == t)

/-- The kind that a word names, in any case and between any blanks. -/
def ofWord? (t : Text) : Option Kind := ofExactWord? (Text.toLower (Text.trim t))

theorem ofExactWord?_word (k : Kind) : ofExactWord? k.word = some k := by cases k <;> decide

theorem ofWord?_word (k : Kind) : ofWord? k.word = some k := by cases k <;> decide

def color : Kind → Text
  | expense => "#FF5252".toList
  | income => "#4CAF50".toList

end Kind

/-! ## Pinyin -/

/-- A name in pinyin, and the first letters of its syllables. -/
structure Pinyin where
  full : Text
  short : Text
  deriving DecidableEq, Repr

/-- The pinyin of a name. The empty name has none. -/
def pinyin? (reading : Char → Option Text) (name : Text) : Option Pinyin :=
  if name = [] then none
  else some
    { full := name.flatMap fun c => (reading c).getD [c]
      short := name.flatMap fun c => ((reading c).map (·.take 1)).getD [c] }

/-! ## Templates -/

/-- One category of the catalogue. -/
structure Template where
  id : Text
  name : Text
  /-- The English name, which is the name itself until it is translated. -/
  englishName : Text
  pinyin : Option Text
  shortPinyin : Option Text
  icon : Text
  kind : Kind
  parentId : Option Text
  isActive : Bool
  color : Text
  deriving DecidableEq, Repr

namespace Template

def defaultIcon : Text := "default.png".toList

/-- The icon for a file name, which may be missing or blank. -/
def iconFor (file : Option Text) : Text :=
  let name := Text.trim (file.getD [])
  if name = [] then defaultIcon else name

theorem iconFor_ne_nil (file : Option Text) : iconFor file ≠ [] := by
  unfold iconFor
  simp only
  split
  · decide
  · assumption

/-- The template of a new category. -/
def make (reading : Char → Option Text) (id name : Text) (iconFile : Option Text) (kind : Kind)
    (parentId : Option Text) : Template :=
  { id, name, englishName := name
    pinyin := (pinyin? reading name).map (·.full)
    shortPinyin := (pinyin? reading name).map (·.short)
    icon := iconFor iconFile
    kind, parentId, isActive := true, color := kind.color }

def isRoot (t : Template) : Bool := t.parentId.isNone

/-! ## Lists of templates -/

def find? (ts : List Template) (id : Text) : Option Template := ts.find? (·.id == id)

def roots (ts : List Template) : List Template := ts.filter isRoot

def children (ts : List Template) (id : Text) : List Template := ts.filter (·.parentId == some id)

def ofKind (ts : List Template) (k : Kind) : List Template := ts.filter (·.kind == k)

/-- What stands between the name of a parent and that of its child. -/
def arrow : Text := " → ".toList

/-- The name of a template behind that of its parent, if that is among the templates. -/
def pathText (ts : List Template) (t : Template) : Text :=
  match t.parentId.bind (find? ts) with
  | some parent => parent.name ++ arrow ++ t.name
  | none => t.name

end Template

/-! ## Ids -/

/-- The last `k` hexadecimal digits of a number. -/
def hexDigits : Nat → Nat → Text
  | 0, _ => []
  | k + 1, n => hexDigits k (n / 16) ++ [Nat.digitChar (n % 16)]

theorem length_hexDigits (k n : Nat) : (hexDigits k n).length = k := by
  induction k generalizing n with
  | zero => rfl
  | succ k ih => simp [hexDigits, ih]

/-- The id of a number. -/
def identifier (n : Nat) : Text :=
  let low := n % Nat.pow 2 62 + Nat.pow 2 63
  let middle := n / Nat.pow 2 62 % Nat.pow 2 12
  let high := n / Nat.pow 2 74
  ['-'].intercalate
    [hexDigits 8 (high / Nat.pow 2 16), hexDigits 4 high, '4' :: hexDigits 3 middle,
      hexDigits 4 (low / Nat.pow 2 48), hexDigits 12 low]

theorem length_identifier (n : Nat) : (identifier n).length = 36 := by
  simp [identifier, List.intercalate, length_hexDigits]

end Upkeep.Category
