import Upkeep.Shell.Machine
import Upkeep.Shell.Pattern

/-!
# From words to fields

A word whose parts are known is a row of items: octets with what may still be done with them, and the
borders between parameters. The items are parted to fields at the signs that part words, and a field
that is an open pattern stands for the paths that fit it.

* `Field.split signs items`: the fields of a word.
* `Field.paths w field`: the paths that a field stands for.
* `Field.text between items`: the octets of a word that is not parted.
-/

namespace Upkeep.Shell

/-- A piece of a word whose parts are known. -/
inductive Item where
  /-- An octet, and whether a sign that parts words parts this one. -/
  | octet (m : Marked) (parts : Bool)
  /-- A pair of quotes, which makes a field even if nothing stands between them. -/
  | quotes
  /-- The border between two parameters. -/
  | border (isQuoted : Bool)

namespace Item

def ofOctets (isQuoted parts : Bool) (o : Octets) : List Item :=
  o.map fun c => octet ⟨c, isQuoted⟩ parts

end Item

namespace Field

/-- A word on its way to be parted: the fields so far, the newest in front, the field that is open, if
there is one, and whether blanks have just ended one. -/
structure Splitting where
  fields : List (List Marked)
  current : Option (List Marked)
  endedByBlank : Bool

/-- Whether a sign that parts words is a blank. Several blanks part as one does. -/
def isBlank (c : Char) : Bool := c == ' ' || c == '\t' || c == '\n'

/-- The splitting behind one more item. -/
def step (signs : Octets) (s : Splitting) : Item → Splitting
  | .quotes => { s with current := some (s.current.getD []), endedByBlank := false }
  | .border _ =>
    match s.current with
    | some f => ⟨f :: s.fields, none, false⟩
    | none => s
  | .octet m parts =>
    if parts && !m.isQuoted && signs.contains m.octet then
      match s.current with
      | some f => ⟨f :: s.fields, none, isBlank m.octet⟩
      | none =>
        if isBlank m.octet then s
        else if s.endedByBlank then { s with endedByBlank := false }
        else { s with fields := [] :: s.fields }
    else ⟨s.fields, some (m :: s.current.getD []), false⟩

def split (signs : Octets) (items : List Item) : List (List Marked) :=
  let s := items.foldl (step signs) ⟨[], none, false⟩
  ((s.current.toList ++ s.fields).map List.reverse).reverse

/-- The marked octets of a word that is not parted. Some octets stand between parameters. -/
def marked (between : Octets) (items : List Item) : List Marked :=
  items.flatMap fun
    | .octet m _ => [m]
    | .quotes => []
    | .border isQuoted => between.map (⟨·, isQuoted⟩)

/-- The octets of a word that is not parted. -/
def text (between : Octets) (items : List Item) : Octets := (marked between items).map (·.octet)

/-! ## Paths -/

/-- A field cut at its slashes. -/
def names : List Marked → List (List Marked)
  | [] => [[]]
  | m :: ms =>
    if m.octet = '/' then [] :: names ms
    else match names ms with
      | [] => [[m]]
      | first :: rest => (m :: first) :: rest

def entryNames : Dir → List Text
  | .empty => []
  | .file n _ rest => n :: entryNames rest
  | .sub n _ rest => n :: entryNames rest

/-- The names in a directory that a pattern stands for, in order. A dot at the start of a name has to be
written out. -/
def fitting (w : Workspace) (dir : Octets) (name : List Marked) : List Octets :=
  let path := if dir.isEmpty then ['.'] else Octets.toText dir
  match w.node path with
  | .ok (.dir entries) =>
    let p := Pattern.ofMarked name
    let all := (['.'] :: ['.', '.'] :: (entryNames entries).map Octets.ofText).filter fun n =>
      (n.head? != some '.' || name.head?.map (·.octet) == some '.') && p.fits n
    all.mergeSort fun a b => decide (¬ b < a)
  | _ => []

/-- The paths that names with a start stand for. A name that is no pattern is taken as it is; there has to
be something at a path. -/
def expand (w : Workspace) (start : Octets) : List (List Marked) → List Octets
  | [] => []
  | [name] =>
    if Pattern.isOpen name then (fitting w start name).map (start ++ ·)
    else
      let path := start ++ name.map (·.octet)
      if w.pathExists (Octets.toText path) then [path] else []
  | name :: rest =>
    if Pattern.isOpen name then
      (fitting w start name).flatMap fun n => expand w (start ++ n ++ ['/']) rest
    else expand w (start ++ name.map (·.octet) ++ ['/']) rest

/-- The paths that a field stands for. One that fits none stands for itself. -/
def paths (w : Workspace) (field : List Marked) : List Octets :=
  let own := field.map (·.octet)
  if Pattern.isOpen field then
    match expand w [] (names field) with
    | [] => [own]
    | found => found
  else [own]

end Field
end Upkeep.Shell
