import Upkeep.Database.Value
import Upkeep.Fix.ConstructorConst
import Upkeep.Json.Shape
import Upkeep.Workspace

/-!
# Failures

What stops a command, by its cause. `Failure.message` is what the failure says of itself;
`Failure.chain` goes on with the cause behind it where the message does not end in it.
-/

namespace Upkeep

/-- What was tried with a file. -/
inductive FileTask where
  | readListing
  | makeDirectory
  | writeListing
  | readSource
  | writeSource
  | readHierarchy
  | readIcons
  | readManifest
  | writeReport
  | writeCsv
  deriving DecidableEq, Repr

/-- The words for a task that failed. -/
def FileTask.words : FileTask → Text
  | readListing => "Failed to read analyzer report".toList
  | makeDirectory => "Failed to create directory".toList
  | writeListing => "Failed to write analyzer report".toList
  | readSource => "Failed to read source file".toList
  | writeSource => "Failed to write source file".toList
  | readHierarchy => "Failed to read category hierarchy".toList
  | readIcons => "Failed to read icon mappings".toList
  | readManifest => "Failed to read manifest".toList
  | writeReport => "Failed to write report".toList
  | writeCsv => "Failed to create CSV".toList

/-- The JSON files that are read. -/
inductive JsonFile where
  | hierarchy
  | icons
  | manifest
  deriving DecidableEq, Repr

def JsonFile.words : JsonFile → Text
  | hierarchy => "Failed to parse category hierarchy".toList
  | icons => "Failed to parse icon mappings".toList
  | manifest => "Failed to parse manifest".toList

/-- What was tried with a statement. -/
inductive StatementTask where
  | startingImport
  | startingIcons
  | inserting (name : Text)
  | keepingImport
  | keepingIcons
  deriving DecidableEq, Repr

def StatementTask.words : StatementTask → Text
  | startingImport => "Failed to start import transaction".toList
  | startingIcons => "Failed to start icon update transaction".toList
  | inserting name => "Failed to insert category: ".toList ++ name
  | keepingImport => "Failed to commit category import".toList
  | keepingIcons => "Failed to commit icon update".toList

/-- What stops a command. -/
inductive Failure where
  | noListing (tried : List Path)
  | launch (command reason : Text)
  | emptyCommand
  | missingRoot (root : Path)
  | invalidSetting (key value : Text)
  | file (task : FileTask) (path : Path) (reason : FileError)
  | json (file : Option (JsonFile × Path)) (error : Json.Error)
  | openDatabase (path : Path) (reason : Text)
  | statement (task : Option StatementTask) (trouble : Database.Trouble)
  | constructorName (error : ConstructorConst.NameError)
  | criticalChecks (failed : Nat)
  deriving DecidableEq, Repr

namespace Failure

/-- What stands between a failure and its cause. -/
def colon : Text := ": ".toList

def tried (task : Option StatementTask) : Text := task.elim [] (·.words ++ colon)

/-- The message of a failure. -/
def message : Failure → Text
  | noListing tried =>
    "no analyzer output found (tried: ".toList ++ ", ".toList.intercalate tried ++
      "); run `flutter analyze > /tmp/analyzer_output.txt` first".toList
  | launch command reason => "failed to launch analyzer `".toList ++ command ++ "`: ".toList ++ reason
  | emptyCommand => "analyzer command is empty".toList
  | missingRoot root => "project root does not exist: ".toList ++ root
  | invalidSetting key value => "invalid value for ".toList ++ key ++ colon ++ value
  | file task path reason => task.words ++ colon ++ path ++ colon ++ reason.message
  | json none error => error.message
  | json (some (kind, path)) error => kind.words ++ colon ++ path ++ colon ++ error.message
  | openDatabase path reason => "Failed to open database: ".toList ++ path ++ colon ++ reason
  | statement task trouble => tried task ++ trouble.message
  | constructorName error => error.message
  | criticalChecks n => Text.ofNat n ++ " critical structure checks failed".toList

/-- The message with the causes behind it. A failed launch names its reason twice. -/
def chain (f : Failure) : Text :=
  match f with
  | launch _ reason => f.message ++ colon ++ reason
  | _ => f.message

end Failure

/-- A result of file access, with the task that it belongs to. -/
def FileTask.of {α : Type} (task : FileTask) (path : Path) (r : Except FileError α) :
    Except Failure α :=
  r.mapError (Failure.file task path)

end Upkeep
