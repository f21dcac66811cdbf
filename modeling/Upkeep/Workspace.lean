import Upkeep.FileTree
import Upkeep.Path

/-!
# Workspaces

A workspace is the tree of files that a command sees and the directory that relative paths start from.
Paths are followed name by name: a dot stays, two dots go up, and every name but the last has to be
a directory, as has the last one before a slash.

* `locate w p`: the place of an existing file or directory.
* `readText w p`, `write w p bytes`, `makeDirs w p`: the accesses that commands make, with the
  operating system's reasons to refuse them (`FileError`).
-/

namespace Upkeep

/-- Why a file is not read or written. -/
inductive FileError where
  | notFound
  | alreadyExists
  | notADirectory
  | isADirectory
  | notAllowed
  | nameTooLong
  | notUtf8
  /-- A zero stands in a path. -/
  | zeroInPath
  /-- A zero stands in a word of a command. -/
  | zeroInWord
  deriving DecidableEq, Repr

/-- The text of a reason. -/
def FileError.message : FileError → Text
  | notFound => "No such file or directory (os error 2)".toList
  | alreadyExists => "File exists (os error 17)".toList
  | notADirectory => "Not a directory (os error 20)".toList
  | isADirectory => "Is a directory (os error 21)".toList
  | notAllowed => "Permission denied (os error 13)".toList
  | nameTooLong => "File name too long (os error 36)".toList
  | notUtf8 => "stream did not contain valid UTF-8".toList
  | zeroInPath => "file name contained an unexpected NUL byte".toList
  | zeroInWord => "nul byte found in provided data".toList

/-- A tree of files and the place that relative paths start from. -/
structure Workspace where
  root : Dir
  here : Place

namespace Workspace

/-- The place that a path without names means. -/
def start (w : Workspace) (p : Path) : Place := if Path.isAbsolute p then [] else w.here

/-- The names, dots and double dots of a path. -/
def steps (p : Path) : List Text := (Text.splitOn ['/'] p).filter (· ≠ [])

/-- Whether a name is longer than a directory can hold. -/
def isTooLong (name : Text) : Bool := decide (255 < (Text.toBytes name).size)

/-- Why a path is refused before it is followed. -/
def flaw? (p : Path) : Option FileError :=
  if p.any (· == '\x00') then some .zeroInPath
  else if p = [] then some .notFound
  else if 4096 ≤ (Text.toBytes p).size then some .nameTooLong
  else none

/-- The place to which steps lead. A step can only be taken from a directory. -/
def follow (d : Dir) (place : Place) : List Text → Except FileError Place
  | [] => .ok place
  | step :: rest =>
    match d.lookup? place with
    | none => .error .notFound
    | some (.file _) => .error .notADirectory
    | some (.dir entries) =>
      if step = ['.'] then follow d place rest
      else if step = ['.', '.'] then follow d place.dropLast rest
      else if isTooLong step then .error .nameTooLong
      else if (entries.child? step).isSome then follow d (place ++ [step]) rest
      else .error .notFound

/-- The place of an existing file or directory. A slash at the end asks for a directory. -/
def locate (w : Workspace) (p : Path) : Except FileError Place :=
  match flaw? p with
  | some e => .error e
  | none => follow w.root (w.start p) (steps p ++ if Text.endsWith ['/'] p then [['.']] else [])

def node (w : Workspace) (p : Path) : Except FileError Node :=
  (locate w p).bind fun place =>
    match w.root.lookup? place with
    | some n => .ok n
    | none => .error .notFound

def pathExists (w : Workspace) (p : Path) : Bool := (node w p).toBool

def isFile (w : Workspace) (p : Path) : Bool :=
  match node w p with
  | .ok (.file _) => true
  | _ => false

def isDir (w : Workspace) (p : Path) : Bool :=
  match node w p with
  | .ok (.dir _) => true
  | _ => false

def pathOf (place : Place) : Path :=
  if place = [] then ['/'] else place.flatMap fun n => '/' :: n

/-- The absolute path of an existing file or directory, without dots and double dots. -/
def canonical? (w : Workspace) (p : Path) : Option Path :=
  match locate w p with
  | .ok place => some (pathOf place)
  | .error _ => none

def read (w : Workspace) (p : Path) : Except FileError ByteArray :=
  (node w p).bind fun
    | .file content => .ok content
    | .dir _ => .error .isADirectory

def readText (w : Workspace) (p : Path) : Except FileError Text :=
  (read w p).bind fun bytes =>
    match Text.ofBytes? bytes with
    | some t => .ok t
    | none => .error .notUtf8

/-! ## Writing -/

/-- The place that a new name at the end of a path has. Its directory has to exist; a path that ends in
a slash, a dot or two dots ends in no new name, which is the error `noName`. -/
def newPlace (w : Workspace) (noName : FileError) (p : Path) : Except FileError Place :=
  match flaw? p, (steps p).getLast? with
  | some e, _ => .error e
  | none, none => .error noName
  | none, some name =>
    (follow w.root (w.start p) (steps p).dropLast).bind fun dir =>
      match w.root.lookup? dir with
      | some (.dir _) =>
        if name = ['.'] ∨ name = ['.', '.'] then .error noName
        else if isTooLong name then .error .nameTooLong
        else .ok (dir ++ [name])
      | some (.file _) => .error .notADirectory
      | none => .error .notFound

def put (w : Workspace) (place : Place) (n : Node) : Workspace :=
  { w with root := w.root.put place n }

/-- The workspace with `content` in the file at a path, which may be new. -/
def write (w : Workspace) (p : Path) (content : ByteArray) : Except FileError Workspace :=
  (newPlace w .isADirectory p).bind fun place =>
    if w.root.isDirAt place || Text.endsWith ['/'] p then .error .isADirectory
    else .ok (w.put place (.file content))

def writeText (w : Workspace) (p : Path) (t : Text) : Except FileError Workspace :=
  w.write p (Text.toBytes t)

def makeDir (w : Workspace) (p : Path) : Except FileError Workspace :=
  (newPlace w .alreadyExists p).bind fun place =>
    if (w.root.lookup? place).isSome then .error .alreadyExists
    else .ok (w.put place (.dir .empty))

/-- The workspace with a directory at a path and at the given number of directories above it. What has
been made stays when a directory cannot be made. -/
def makeDirsUpTo : Nat → Workspace → Path → Workspace × Except FileError Unit
  | levels, w, p =>
    match w.makeDir p with
    | .ok w => (w, .ok ())
    | .error .notFound =>
      match levels, Path.parent? p with
      | levels + 1, some parent =>
        if p = [] then (w, .ok ())
        else match makeDirsUpTo levels w parent with
          | (w, .error e) => (w, .error e)
          | (w, .ok ()) =>
            match w.makeDir p with
            | .ok w => (w, .ok ())
            | .error e => (w, if w.isDir p then .ok () else .error e)
      | _, _ => (w, if p = [] then .ok () else .error .notFound)
    | .error e => (w, if w.isDir p then .ok () else .error e)

def makeDirs (w : Workspace) (p : Path) : Workspace × Except FileError Unit :=
  makeDirsUpTo p.length w p

end Workspace
end Upkeep
