import Upkeep.Json.Shape
import Upkeep.Text.Order

/-!
# Icon maps

The mapping file names icon files for categories. Of the mappings of one category the first that names
a file counts; the map is ordered by category.
-/

namespace Upkeep.Category

/-- One line of the mapping file. -/
structure IconMapping where
  category : Text
  iconFile : Option Text
  deriving DecidableEq, Repr

abbrev IconMap := List (Text × Text)

namespace IconMap

/-- The category and icon file of a mapping that names one. -/
def usable? (m : IconMapping) : Option (Text × Text) :=
  (m.iconFile.filter (· ≠ [])).map fun file => (m.category, file)

def ofMappings (ms : List IconMapping) : IconMap :=
  ((ms.filterMap usable?).eraseDupsBy fun a b => a.1 == b.1).mergeSort fun a b => Text.notAfter a.1 b.1

open Json (Shape Value)

def shape : Shape :=
  .list (.record "IconMapping".toList
    [("category_name".toList, .required, .string), ("icon_file".toList, .nullable, .string)])

/-- The map that a text writes. -/
def parse? (t : Text) : Except Json.Error IconMap :=
  (shape.parse t).map fun v =>
    ofMappings (v.items.map fun m => ⟨(m.field 0).text, (m.field 1).text?⟩)

end IconMap
end Upkeep.Category
