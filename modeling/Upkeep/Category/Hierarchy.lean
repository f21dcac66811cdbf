import Upkeep.Category.Template
import Upkeep.Json.Shape

/-!
# The category hierarchy

The hierarchy file names the main categories of each kind and their children. `Hierarchy.parse?` reads
it, and `Hierarchy.plan reading ids h` is the list of templates that it stands for: the expenses before the
incomes, and every main category directly before its children, in the order of the file.
-/

namespace Upkeep.Category

/-- A category of the file: its name and icon file. -/
structure Entry where
  name : Text
  iconFile : Option Text
  deriving DecidableEq, Repr

/-- A main category of the file. Its id there is not used for the catalogue. -/
structure MainEntry where
  hasId : Bool
  entry : Entry
  children : List Entry
  deriving DecidableEq, Repr

/-- The main categories of both kinds. -/
structure Hierarchy where
  expense : List MainEntry
  income : List MainEntry
  deriving DecidableEq, Repr

namespace Hierarchy

def ofKind (h : Hierarchy) : Kind → List MainEntry
  | .expense => h.expense
  | .income => h.income

/-! ## Reading the file -/

open Json (Shape Value)

def entryShape : Shape :=
  .record "ChildEntry".toList
    [("name".toList, .required, .string), ("icon_file".toList, .nullable, .string)]

def mainShape : Shape :=
  .record "PrimaryEntry".toList
    [("id".toList, .nullable, .any), ("name".toList, .required, .string),
      ("icon_file".toList, .nullable, .string), ("children".toList, .optional, .list entryShape)]

def sectionShape : Shape :=
  .record "TypeSection".toList [("primary".toList, .optional, .list mainShape)]

def shape : Shape :=
  .record "HierarchyFile".toList
    [("expense".toList, .optional, sectionShape), ("income".toList, .optional, sectionShape)]

def entryOf (v : Value) : Entry := ⟨(v.field 0).text, (v.field 1).text?⟩

def mainOf (v : Value) : MainEntry :=
  ⟨(v.field 0).isPresent, ⟨(v.field 1).text, (v.field 2).text?⟩, (v.field 3).items.map entryOf⟩

def sectionOf (v : Value) : List MainEntry := (v.field 0).items.map mainOf

def parse? (t : Text) : Except Json.Error Hierarchy :=
  (shape.parse t).map fun v => ⟨sectionOf (v.field 0), sectionOf (v.field 1)⟩

/-! ## The plan -/

section Plan

variable (reading : Char → Option Text) (ids : Nat → Text)

/-- The templates of the children of `parent`, with the ids from `n` on. -/
def planChildren (kind : Kind) (parent : Text) (n : Nat) : List Entry → List Template
  | [] => []
  | e :: es =>
    Template.make reading (ids n) e.name e.iconFile kind (some parent) :: planChildren kind parent (n + 1) es

theorem length_planChildren (kind : Kind) (parent : Text) (n : Nat) (es : List Entry) :
    (planChildren reading ids kind parent n es).length = es.length := by
  induction es generalizing n with
  | nil => rfl
  | cons e es ih => simp [planChildren, ih]

/-- The templates of a main category and its children, with the ids from `n` on. -/
def planFamily (kind : Kind) (n : Nat) (m : MainEntry) : List Template :=
  Template.make reading (ids n) m.entry.name m.entry.iconFile kind none ::
    planChildren reading ids kind (ids n) (n + 1) m.children

/-- The templates of the main categories of a kind, with the ids from `n` on. -/
def planSection (kind : Kind) (n : Nat) : List MainEntry → List Template
  | [] => []
  | m :: ms => planFamily reading ids kind n m ++ planSection kind (n + 1 + m.children.length) ms

/-- The number of categories among some main categories and their children. -/
def size (ms : List MainEntry) : Nat := ms.foldr (fun m n => 1 + m.children.length + n) 0

theorem length_planSection (kind : Kind) (n : Nat) (ms : List MainEntry) :
    (planSection reading ids kind n ms).length = size ms := by
  induction ms generalizing n with
  | nil => rfl
  | cons m ms ih => simp [planSection, planFamily, length_planChildren, ih, size]; omega

/-- The templates of a hierarchy, in the order in which they are inserted. -/
def plan (h : Hierarchy) : List Template :=
  planSection reading ids .expense 0 h.expense ++ planSection reading ids .income (size h.expense) h.income

theorem length_plan (h : Hierarchy) : (plan reading ids h).length = size h.expense + size h.income := by
  simp [plan, length_planSection]

end Plan

end Hierarchy
end Upkeep.Category
