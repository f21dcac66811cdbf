import Upkeep.Text.Basic

/-!
# Paths

A path is a text whose slashes part its pieces. Empty pieces and inner dots say nothing, so paths are
compared by their components; a path keeps its own spelling as long as it is only joined or cut.

* `components p`: what the pieces of `p` mean.
* `join base p`: `p` below `base`; an absolute `p` stands for itself.
* `relativeTo? base p`: the rest of `p` behind the components of `base`.
* `parent? p`, `fileName? p`, `extension? p`: the parts around the last component.
-/

namespace Upkeep

abbrev Path := Text

namespace Path

/-- What one piece of a path means. -/
inductive Component where
  | root
  | here
  | up
  | name (n : Text)
  deriving DecidableEq, Repr

/-- The component of a piece behind the first. Empty pieces and dots have none. -/
def Component.ofPiece? (piece : Text) : Option Component :=
  if piece = [] ∨ piece = ['.'] then none
  else if piece = ['.', '.'] then some .up
  else some (.name piece)

/-- A piece of a path with what it means, if anything. -/
structure Piece where
  component? : Option Component
  text : Text

/-- The pieces of a path. A first piece may be the root or the dot of the current directory. -/
def pieces (p : Path) : List Piece :=
  match Text.splitOn ['/'] p with
  | [] => []
  | first :: rest =>
    let head :=
      if first = [] then (if rest = [] then none else some Component.root)
      else if first = ['.'] then some .here
      else Component.ofPiece? first
    ⟨head, first⟩ :: rest.map fun piece => ⟨Component.ofPiece? piece, piece⟩

def components (p : Path) : List Component := (pieces p).filterMap (·.component?)

def isAbsolute (p : Path) : Bool := Text.startsWith ['/'] p

/-- `p` below `base`. An absolute path stands for itself. -/
def join (base p : Path) : Path :=
  if isAbsolute p = true ∨ base = [] then p
  else if Text.endsWith ['/'] base then base ++ p
  else base ++ '/' :: p

theorem join_of_isAbsolute {p : Path} (base : Path) (h : isAbsolute p = true) : join base p = p := by
  simp [join, h]

/-- The pieces without those at the end that mean nothing. -/
def dropVoidEnd (ps : List Piece) : List Piece :=
  (ps.reverse.dropWhile (·.component?.isNone)).reverse

def ofPieces (ps : List Piece) : Path :=
  match ps with
  | [⟨some .root, _⟩] => ['/']
  | ps => ['/'].intercalate (ps.map (·.text))

/-- The pieces behind the given components. -/
def dropComponents? : List Component → List Piece → Option (List Piece)
  | [], ps => some ps
  | _ :: _, [] => none
  | c :: cs, p :: ps =>
    match p.component? with
    | none => dropComponents? (c :: cs) ps
    | some d => if c = d then dropComponents? cs ps else none

/-- The rest of `p` behind the components of `base`, in its own spelling. -/
def relativeTo? (base p : Path) : Option Path :=
  match components base with
  | [] => some (ofPieces (dropVoidEnd (pieces p)))
  | cs => (dropComponents? cs (pieces p)).map fun ps =>
      ofPieces (dropVoidEnd (ps.dropWhile (·.component?.isNone)))

/-- The path of the directory that holds the last component. -/
def parent? (p : Path) : Option Path :=
  match (dropVoidEnd (pieces p)).reverse with
  | [] => none
  | ⟨some .root, _⟩ :: _ => none
  | _ :: before => some (ofPieces (dropVoidEnd before.reverse))

def fileName? (p : Path) : Option Text :=
  match (components p).getLast? with
  | some (.name n) => some n
  | _ => none

/-- What stands behind the last dot of a name, unless the dot is its first character. -/
def nameExtension? (name : Text) : Option Text :=
  match Text.breakAtLast? '.' name with
  | some (before, after) => if before = [] then none else some after
  | none => none

def extension? (p : Path) : Option Text := (fileName? p).bind nameExtension?

end Path
end Upkeep
