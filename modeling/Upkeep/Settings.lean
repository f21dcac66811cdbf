import Upkeep.Failure

/-!
# Settings

Where the project and its files are, and how the analyzer is run. Every setting has a default, which
the environment overrides. `Settings.resolve` finds the file that the analyzer means by a path.
-/

namespace Upkeep

/-- The settings of a run. -/
structure Settings where
  /-- The directory that holds the library sources. -/
  projectRoot : Path
  analyzerCommand : Text
  /-- The listings of earlier analyzer runs, of which the first that exists counts. -/
  listingCandidates : List Path
  tableFile : Path
  hierarchyFile : Path
  iconMapFile : Path
  iconDir : Path
  /-- Where the project lies below the directory that the analyzer was run in. -/
  subdirectory : Option Text
  deriving DecidableEq, Repr

namespace Settings

/-- The settings of an empty environment. -/
def default : Settings where
  projectRoot := ['.']
  analyzerCommand := "flutter analyze --no-fatal-infos".toList
  listingCandidates := ["/tmp/analyzer_output.txt".toList, "artifacts/analyzer_output.txt".toList]
  tableFile := "jive_money.db".toList
  hierarchyFile := "resources/category_hierarchy.json".toList
  iconMapFile := "resources/category_icon_mappings.json".toList
  iconDir := "assets/icons/categories".toList
  subdirectory := some "jive-flutter/".toList

/-- The settings of an environment. A listing named there is tried before the others, and an empty
subdirectory stands for none. -/
def ofEnvironment (lookup : Text → Option Text) : Settings :=
  let value := fun (key : String) (default : Text) => (lookup key.toList).getD default
  { projectRoot := value "JIVE_PROJECT_ROOT" default.projectRoot
    analyzerCommand := value "JIVE_ANALYZER_CMD" default.analyzerCommand
    listingCandidates := (lookup "JIVE_ANALYZER_REPORT".toList).toList ++ default.listingCandidates
    tableFile := value "JIVE_DB_PATH" default.tableFile
    hierarchyFile := value "JIVE_HIERARCHY_FILE" default.hierarchyFile
    iconMapFile := value "JIVE_ICON_MAPPINGS_FILE" default.iconMapFile
    iconDir := value "JIVE_ICONS_DIR" default.iconDir
    subdirectory :=
      match lookup "JIVE_PATH_PREFIX".toList with
      | none => default.subdirectory
      | some t => if t = [] then none else some t }

theorem ofEnvironment_none : ofEnvironment (fun _ => none) = default := rfl

def libDir (s : Settings) : Path := Path.join s.projectRoot "lib".toList

/-- The subdirectory without slashes at its end, unless nothing is left of it. -/
def subdirectoryName? (s : Settings) : Option Text :=
  (s.subdirectory.map (Text.dropEndWhile (· == '/'))).filter (· ≠ [])

/-- The path of a reported file. A relative one is looked for below the project root, and if it is not
there, below the subdirectory. -/
def resolve (s : Settings) (w : Workspace) (reported : Path) : Path :=
  if Path.isAbsolute reported then reported
  else
    let direct := Path.join s.projectRoot reported
    if w.pathExists direct then direct
    else match s.subdirectoryName? with
      | none => direct
      | some sub =>
        let below := Path.join (Path.join s.projectRoot sub) reported
        if w.pathExists below then below else direct

def analyzerWords (s : Settings) : Except Failure (Text × List Text) :=
  match Text.splitWhitespace s.analyzerCommand with
  | [] => .error .emptyCommand
  | program :: arguments => .ok (program, arguments)

def checkRoot (s : Settings) (w : Workspace) : Except Failure Unit :=
  if w.isDir s.projectRoot then .ok () else .error (.missingRoot s.projectRoot)

def truthValue (key value : Text) : Except Failure Bool :=
  let t := Text.toLower (Text.trim value)
  if t = "1".toList ∨ t = "true".toList ∨ t = "yes".toList ∨ t = "on".toList then .ok true
  else if t = "0".toList ∨ t = "false".toList ∨ t = "no".toList ∨ t = "off".toList ∨ t = [] then
    .ok false
  else .error (.invalidSetting key value)

end Settings
end Upkeep
