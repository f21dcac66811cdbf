import Upkeep.Database.Encoding
import Upkeep.Database.Record

/-!
# What a database holds

A database is a row of objects under their names. Tables and indexes have a tree of records; views and
triggers have none. A tree may be damaged, which shows only to those who read it. What an object means is its
definition, a statement that is kept as a text.
-/

namespace Upkeep

namespace Database

/-- A record in a tree. In the tree of a table it has a number; in the others the number is zero. -/
structure Cell where
  number : Nat
  record : Bytes
  deriving DecidableEq

/-- The records of a table or an index, in their order. -/
structure Tree where
  isNumbered : Bool
  cells : List Cell
  deriving DecidableEq

/-- What an object keeps. -/
inductive Content where
  | nothing
  | tree (t : Tree)
  /-- A tree that can be read, but in which nothing can be changed. -/
  | rigid (t : Tree)
  /-- A tree that cannot be read. -/
  | damaged
  /-- A tree whose place is not in the file. -/
  | misplaced
  /-- Nothing is said of a place. -/
  | unplaced
  deriving DecidableEq

/-- A table, an index, a view or a trigger. -/
structure Object where
  kind : Text
  name : Text
  /-- The table that the object belongs to. -/
  table : Text
  definition : Option Text
  content : Content
  deriving DecidableEq

def Object.tree? (o : Object) : Option Tree :=
  match o.content with
  | .tree t => some t
  | .rigid t => some t
  | _ => none

/-- Whether nothing can be changed in the tree of an object. -/
def Object.isRigid (o : Object) : Bool :=
  match o.content with
  | .rigid _ => true
  | _ => false

/-- Whether the tree of an object has no place in the file. -/
def Object.isMisplaced (o : Object) : Bool := o.content == .misplaced

end Database

/-- A database. -/
structure Database where
  objects : List Database.Object
  /-- How often the objects were changed, and how often anything was. -/
  objectChanges : Nat
  changes : Nat
  /-- Numbers that belong to the database's owner. -/
  ownerVersion : Nat
  ownerId : Nat
  /-- Whether changes are logged beside the file before they are made in it. -/
  isLogged : Bool
  /-- Whether the file asks not to be changed by programs that do not know its format. -/
  isLocked : Bool
  encoding : Database.Encoding
  deriving DecidableEq

namespace Database

def empty : Database := ⟨[], 0, 0, 0, 0, false, false, .octets⟩

/-- Why a database is not read or not changed. -/
inductive Flaw where
  | notADatabase
  | damaged
  | unknownFormat
  /-- Changes of the database are logged beside its file, which is not possible there. -/
  | noLog
  | readOnly
  /-- Changes of the database were not finished, and cannot be undone. -/
  | unfinished
  /-- What is beside the file cannot be read. -/
  | unreadable
  deriving DecidableEq, Repr

/-- The text of a flaw. -/
def Flaw.message : Flaw → Text
  | notADatabase =>
    "file is not a database: Error code 26: File opened that is not a database file".toList
  | damaged =>
    "database disk image is malformed: Error code 11: The database disk image is malformed".toList
  | unknownFormat => "unsupported file format: Error code 1: SQL error or missing database".toList
  | noLog => "unable to open database file: Error code 14: Unable to open the database file".toList
  | readOnly =>
    "attempt to write a readonly database: Error code 8: Attempt to write a readonly database".toList
  | unfinished =>
    "attempt to write a readonly database: Error code 776: Database has hot journal, ".toList ++
      "must be rolled back before opening".toList
  | unreadable => "disk I/O error: Error code 266: Error reading from disk".toList

def object? (d : Database) (kind name : Text) : Option Object :=
  d.objects.find? fun o => o.kind == kind && o.name == name

end Database
end Upkeep
