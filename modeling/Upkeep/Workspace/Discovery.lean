import Upkeep.Text.Order
import Upkeep.Workspace

/-!
# Finding source files

All files with an extension below a directory, in the order of their components. Directories of
generated or foreign files are not entered, whatever their depth; the directory that the search
starts from is entered under any name, and plain files of such a name are files like others. A directory is
read under its own path, so what lies in one whose path is too long is not found.
-/

namespace Upkeep

namespace Dir

def skippedNames : List Text :=
  [".dart_tool".toList, "build".toList, ".git".toList, "node_modules".toList]

/-- The places of the files below a directory that are reached without entering a skipped one. -/
def sourcePlaces : Dir → List Place
  | empty => []
  | file n _ rest => [n] :: rest.sourcePlaces
  | sub n entries rest =>
    (if skippedNames.contains n then [] else entries.sourcePlaces.map (n :: ·)) ++ rest.sourcePlaces

def hasExtension (extension : Text) (place : Place) : Bool :=
  place.getLast?.any fun n => Path.nameExtension? n == some extension

/-- Whether the first place is the second or comes before it, name by name. -/
def placeNotAfter : Place → Place → Bool
  | [], _ => true
  | _ :: _, [] => false
  | m :: a, n :: b => if m = n then placeNotAfter a b else Text.notAfter m n

def placesWithExtension (d : Dir) (extension : Text) : List Place :=
  (d.sourcePlaces.filter (hasExtension extension)).mergeSort placeNotAfter

end Dir

namespace Workspace

/-- Whether the directory of a place below `root` can be read under its path. -/
def readsDirOf (w : Workspace) (root : Path) (place : Place) : Bool := w.isDir (place.dropLast.foldl Path.join root)

/-- The paths of the files with an extension at or below `root`, spelled as `root` is. -/
def filesWithExtension (w : Workspace) (root : Path) (extension : Text) : List Path :=
  match w.node root with
  | .error _ => []
  | .ok (.file _) => if Path.extension? root = some extension then [root] else []
  | .ok (.dir d) =>
    ((d.placesWithExtension extension).filter (w.readsDirOf root)).map fun place => place.foldl Path.join root

def dartExtension : Text := "dart".toList

def dartFiles (w : Workspace) (root : Path) : List Path := w.filesWithExtension root dartExtension

end Workspace
end Upkeep
