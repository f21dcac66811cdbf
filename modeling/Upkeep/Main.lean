import Std.Time.Format
import Upkeep.CommandLine.Session
import Upkeep.Shell.Run
import Upkeep.Sql.Connection

/-!
# The program

The outer layer. It takes the files that a run can reach into a workspace, lets the session do the work
on it, and writes back the files that the session changed. Reached are the current directory and
whatever the arguments and the settings name.
-/

namespace Upkeep.Program

def pathSettings : List String :=
  ["JIVE_PROJECT_ROOT", "JIVE_ANALYZER_REPORT", "JIVE_DB_PATH", "JIVE_HIERARCHY_FILE",
    "JIVE_ICON_MAPPINGS_FILE", "JIVE_ICONS_DIR"]

def settingNames : List String := pathSettings ++ ["JIVE_ANALYZER_CMD", "JIVE_PATH_PREFIX"]

/-- The directories whose files are only taken when they are named. -/
def leftOut (name : String) : Bool := Dir.skippedNames.contains name.toList

/-- What a directory holds of an entry of the file system. -/
partial def nodeOf? (e : IO.FS.DirEntry) : IO (Option Node) := do
  match (← e.path.metadata).type with
  | .file => return some (.file (← IO.FS.readBinFile e.path))
  | .dir =>
    let mut d := Dir.empty
    for child in ← e.path.readDir do
      if leftOut child.fileName then
        d := d.set child.fileName.toList (.dir .empty)
      else if let some n ← (nodeOf? child).toBaseIO.map (·.toOption.join) then
        d := d.set child.fileName.toList n
    return some (.dir d)
  | _ => return none

/-- The workspace with what is at a path of the file system. The directory of a path at which there is
nothing is taken without its entries. -/
def take (w : Workspace) (path : String) : IO Workspace := do
  match ← (IO.FS.realPath path).toBaseIO with
  | .ok real =>
    let place := Workspace.steps real.toString.toList
    match ← nodeOf? ⟨"/", real.toString⟩ with
    | some n =>
      let w := (w.makeDirs (Workspace.pathOf place.dropLast)).1
      return if place = [] then w else w.put place n
    | none => return w
  | .error _ =>
    match (Path.parent? path.toList).map String.ofList with
    | none => return w
    | some parent =>
      match ← (IO.FS.realPath parent).toBaseIO with
      | .ok real => return (w.makeDirs real.toString.toList).1
      | .error _ => return w

def databaseFile? (here : Place) (name : Text) : Option Path := do
  let location ← (Database.Location.ofText name).toOption
  let place ← Database.Location.place? ⟨.empty, here⟩ (← location.file)
  some (Workspace.pathOf place)

/-- The paths that a text may mean: itself, or the file of a database. -/
def meanings (here : Place) (t : Text) : List String :=
  (t :: (databaseFile? here t).toList).map String.ofList

/-- The paths that an argument may name: itself, or what stands behind its equals sign. -/
def mentioned (here : Place) (arg : String) : List String :=
  let value := ((Text.breakOn? ['='] arg.toList).map (·.2)).toList
  (arg.toList :: value).flatMap (meanings here)

/-- Writes the files of a workspace that are not those of an earlier one. -/
def writeBack (old new : Workspace) : IO Unit := do
  for (place, content) in new.root.files do
    let same := match old.root.lookup? place with
      | some (.file before) => before == content
      | _ => false
    unless same do
      IO.FS.createDirAll (String.ofList (Workspace.pathOf place.dropLast))
      IO.FS.writeBinFile (String.ofList (Workspace.pathOf place)) content

def seed : IO Nat := do
  return (← IO.getRandomBytes 15).toList.foldl (fun n b => 256 * n + b.toNat) 0

/-- The readings of characters, from a file beside the program: on each line a character, a blank and its reading. -/
def readings : IO (Char → Option Text) := do
  let path := (← IO.appDir) / "pinyin.txt"
  let lines ← match ← (IO.FS.lines path).toBaseIO with
    | .ok lines => pure lines.toList
    | .error _ => pure []
  let table := lines.filterMap fun line =>
    match line.toList with
    | c :: ' ' :: reading => some (c, reading)
    | _ => none
  return fun c => table.lookup c

def time : IO String := do
  let now := Std.Time.DateTime.ofTimestamp (← Std.Time.Timestamp.now) Std.Time.TimeZone.ZoneRules.UTC
  return now.format "uuuu-MM-dd'T'HH:mm:ss.SSSSSSSSS'Z'"

/-- A time to the second, as it stands in tables. -/
def stamp (time : Text) : Text := Text.replaceChar 'T' ' ' (time.take 19)

end Upkeep.Program

open Upkeep Program CommandLine in
/-- Runs the program with its arguments and gives its exit code. -/
def main (args : List String) : IO UInt32 := do
  let values ← settingNames.filterMapM fun name => do
    return (← IO.getEnv name).map fun value => (name, value)
  let named := (values.filter fun (name, _) => pathSettings.contains name).map (·.2)
  let usual := Settings.default.listingCandidates.map String.ofList
  let here := (← IO.currentDir).toString
  let mut w : Workspace := ⟨.empty, Workspace.steps here.toList⟩
  for path in usual ++ here :: (named ++ args).flatMap (mentioned w.here) do
    w ← take w path
  let first ← seed
  let now := (← time).toList
  let around : Surroundings :=
    { setting := fun name => (values.lookup (String.ofList name)).map String.toList
      ids := fun n => Category.identifier (first + n)
      time := now
      reading := ← readings
      runner := Shell.runner
      library := Sql.library (stamp now) }
  let (s, ending) := Session.run w around (args.map String.toList)
  writeBack w s.workspace
  IO.print (String.ofList s.printed)
  (← IO.getStderr).putStr (String.ofList ending.complaint)
  return ending.exitCode.toUInt32
