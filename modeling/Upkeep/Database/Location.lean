import Upkeep.Text.Utf8
import Upkeep.Workspace

/-!
# Where a database is

A database is named by a path, or by a text that starts with `file:` and may go on with options behind a
question mark. A database without a file is gone with the command that made it.

* `Location.ofText? t`: what a text names, or what is wrong with it.
* `Location.place? w path`: the place of the file at a path, which is found by the names of the path
  alone: two dots drop the name before them, whatever it is.
-/

namespace Upkeep.Database

/-- Which rights to a file an option asks for. -/
structure Access where
  mayWrite : Bool
  mayCreate : Bool
  isPassing : Bool
  deriving DecidableEq, Repr

/-- Why a database is not opened: its name has a flaw, or there is no file that can be opened, or it is a
directory that cannot be read. -/
inductive LocationFlaw where
  | authority (given : Text)
  | access (given : Text)
  | cache (given : Text)
  | moreAccess (given : Text)
  | system (given : Text)
  | noFile
  | directory
  /-- The file whose rights a new one is to get is not there. -/
  | noPattern
  deriving DecidableEq, Repr

/-- The text of a flaw of the database that `name` names. -/
def LocationFlaw.message (name : Text) (flaw : LocationFlaw) : Text :=
  match flaw with
  | authority given => "invalid uri authority: ".toList ++ given ++ usual
  | access given => "no such access mode: ".toList ++ given ++ usual
  | cache given => "no such cache mode: ".toList ++ given ++ usual
  | moreAccess given =>
    "access mode not allowed: ".toList ++ given ++ ": Error code 3: Access permission denied".toList
  | system given => "no such vfs: ".toList ++ given ++ usual
  | noFile =>
    "unable to open database file: ".toList ++ name ++
      ": Error code 14: Unable to open the database file".toList
  | directory => "disk I/O error: Error code 266: Error reading from disk".toList
  | noPattern => "disk I/O error: Error code 10: Some kind of disk I/O error occurred".toList
where
  /-- The reason that most flaws have. -/
  usual : Text := ": Error code 1: SQL error or missing database".toList

/-- Where a database is, and how it is opened. -/
structure Location where
  /-- The path of its file, if it has one. -/
  file : Option Path
  /-- Whether the file is opened for writing. -/
  forWriting : Bool
  mayCreate : Bool
  /-- Whether the file is taken for one that never changes, so that nothing is logged beside it. -/
  isFixed : Bool
  /-- Whether changes can be logged beside the file. -/
  canLog : Bool
  /-- The file whose rights a new one gets. It has to be there even if the database is. -/
  pattern : Option Path
  deriving DecidableEq, Repr

namespace Location

def mayWrite (l : Location) : Bool := l.forWriting && !l.isFixed

/-- The name of a database that has no file. -/
def memory : Text := ":memory:".toList

def ofPath (path : Path) : Location :=
  { file := if path = [] ∨ path = memory then none else some path
    forWriting := true, mayCreate := true, isFixed := false, canLog := true, pattern := none }

/-! ## Paths with options -/

def ascii (c : Char) : UInt8 := UInt8.ofNat c.toNat

def hexDigit? (b : UInt8) : Option Nat :=
  let n := b.toNat
  if 48 ≤ n ∧ n ≤ 57 then some (n - 48)
  else if 65 ≤ n ∧ n ≤ 70 then some (n - 55)
  else if 97 ≤ n ∧ n ≤ 102 then some (n - 87)
  else none

/-- The byte that is written as a percent sign and two digits, and the bytes behind it. -/
def escaped? : List UInt8 → Option (UInt8 × List UInt8)
  | percent :: a :: b :: rest =>
    if percent = ascii '%' then do
      let high ← hexDigit? a
      let low ← hexDigit? b
      some (UInt8.ofNat (16 * high + low), rest)
    else none
  | _ => none

/-- Which part of a text is read: the path, the name of an option or its value. -/
inductive Part where
  | path
  | name
  | value
  deriving DecidableEq

def Part.endsAt (p : Part) (b : UInt8) : Bool :=
  match p with
  | path => b == ascii '?'
  | name => b == ascii '=' || b == ascii '&'
  | value => b == ascii '&'

/-- The part behind one that a byte ends. -/
def Part.next (p : Part) (b : UInt8) : Part :=
  if p = name ∧ b = ascii '=' then value else name

/-- The parts of a text, with the bytes of each. A name or value that is empty has a part too. An escaped
zero drops the rest of its part. An option without a name is passed over. -/
def parts : Nat → Part → List UInt8 → List UInt8 → List (Part × List UInt8)
  | 0, p, read, _ => [(p, read.reverse)]
  | _ + 1, p, read, [] => [(p, read.reverse)]
  | n + 1, p, read, b :: rest =>
    match escaped? (b :: rest) with
    | some (c, rest) =>
      if c = 0 then parts n p read (rest.dropWhile fun b => !p.endsAt b)
      else parts n p (c :: read) rest
    | none =>
      if p.endsAt b then
        if p = .name ∧ read = [] then
          parts n .name [] (if b = ascii '&' then rest else (rest.dropWhile (· ≠ ascii '&')).drop 1)
        else (p, read.reverse) :: parts n (p.next b) [] rest
      else parts n p (b :: read) rest

/-- The options among some parts. A name without a value has an empty one; options behind an empty name
are not read. -/
def options : List (Part × List UInt8) → List (Text × Text)
  | (.name, n) :: (.value, v) :: rest =>
    if n = [] then [] else (text n, text v) :: options rest
  | (.name, n) :: rest => if n = [] then [] else (text n, []) :: options rest
  | _ :: rest => options rest
  | [] => []
where
  /-- The text of some bytes. -/
  text (bytes : List UInt8) : Text := Text.ofBytesLossy ⟨bytes.toArray⟩

/-- The rights that an option may ask for, with their ranks. -/
def accesses : List (Text × Access × Nat) :=
  [("ro".toList, ⟨false, false, false⟩, 1), ("rw".toList, ⟨true, false, false⟩, 2),
    ("rwc".toList, ⟨true, true, false⟩, 6), ("memory".toList, ⟨true, true, true⟩, 0)]

/-- The highest rank that may still be asked for when an access is given. -/
def rankOf (a : Access) : Nat :=
  if a.isPassing then 128 else ((accesses.find? fun (_, b, _) => b == a).map (·.2.2)).getD 0

/-- The access behind the options. -/
def access (a : Access) : List (Text × Text) → Except LocationFlaw Access
  | [] => .ok a
  | (name, value) :: rest =>
    if name = "cache".toList then
      if value = "shared".toList ∨ value = "private".toList then access a rest
      else .error (.cache value)
    else if name = "mode".toList then
      match accesses.lookup value with
      | none => .error (.access value)
      | some (b, rank) => if rankOf a < rank then .error (.moreAccess value) else access b rest
    else access a rest

/-- The digits at the start of a text, as the number that decides whether an option is on. -/
def leadingNumber (t : Text) : Nat := Nat.ofDigitChars 10 (t.takeWhile Char.isDigit) 0

def isOn (options : List (Text × Text)) (name : Text) : Bool :=
  match options.lookup name with
  | none => false
  | some value =>
    if (value.head?.map Char.isDigit).getD false then leadingNumber value % 256 != 0
    else ["on".toList, "yes".toList, "true".toList].contains (Text.toLower value)

/-- The systems of files that can be asked for, and whether changes can be logged in them. -/
def systems : List (Text × Bool) :=
  [("unix".toList, true), ("unix-excl".toList, true), ("unix-none".toList, false),
    ("unix-dotfile".toList, false), ("memdb".toList, false)]

/-- The location of a path with options. -/
def ofOptions (path : Path) (options : List (Text × Text)) : Except LocationFlaw Location :=
  (access ⟨true, true, false⟩ options).bind fun a =>
    let system := ((options.filter (·.1 == "vfs".toList)).getLast?.map (·.2)).getD "unix".toList
    match systems.lookup system with
    | none => .error (.system system)
    | some canLog =>
      let isNamed := !a.isPassing && path != [] && path != memory
      let isFixed := isNamed && isOn options "immutable".toList
      .ok
        { file := if isNamed && system != "memdb".toList then some path else none
          forWriting := a.mayWrite, mayCreate := a.mayCreate, isFixed
          canLog := canLog && !isOn options "nolock".toList
          pattern := options.lookup "modeof".toList }

/-- The part of a text behind an authority, which has to be empty or the local host. -/
def afterAuthority (t : Text) : Except LocationFlaw Text :=
  match Text.after? ['/', '/'] t with
  | none => .ok t
  | some rest =>
    let authority := rest.takeWhile (· ≠ '/')
    if authority = [] ∨ authority = "localhost".toList then .ok (rest.dropWhile (· ≠ '/'))
    else .error (.authority authority)

def ofText (t : Text) : Except LocationFlaw Location :=
  match Text.after? "file:".toList t with
  | none => .ok (ofPath t)
  | some rest =>
    (afterAuthority rest).bind fun rest =>
      let bytes := (Text.toBytes (rest.takeWhile (· ≠ '#'))).toList
      match parts (bytes.length + 1) .path [] bytes with
      | (_, path) :: rest => ofOptions (options.text path) (options rest)
      | [] => .ok (ofPath [])

/-! ## Places -/

/-- The most bytes that the path of a file may have, with what is put behind it for files beside it. -/
def longestPath : Nat := 512 - 8

def longestName : Nat := 255

def byteLength (t : Text) : Nat := (Text.toBytes t).size

/-- Whether a place is a file or leads through one. -/
def reachesFile (d : Dir) : Place → Bool
  | [] => false
  | name :: rest =>
    match d.child? name with
    | some (.dir entries) => reachesFile entries rest
    | some (.file _) => true
    | none => false

/-- Whether a name may stand behind a place. -/
def mayGoOn (w : Workspace) (place : Place) (name : Text) : Bool :=
  !reachesFile w.root place && decide (byteLength name ≤ longestName)

/-- The place behind some names. -/
def walk (w : Workspace) (place : Place) : List Text → Option Place
  | [] => some place
  | name :: rest =>
    if name = ['.'] then walk w place rest
    else if name = ['.', '.'] then walk w place.dropLast rest
    else if mayGoOn w place name then walk w (place ++ [name]) rest
    else none

def place? (w : Workspace) (path : Path) : Option Place := do
  let place ← walk w (w.start path) (Workspace.steps path)
  if place = [] ∨ longestPath < byteLength (Workspace.pathOf place) then none else some place

end Location
end Upkeep.Database
