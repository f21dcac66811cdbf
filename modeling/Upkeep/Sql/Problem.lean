import Upkeep.Text.Basic

/-!
# Problems of statements

Why a statement is not carried out, by its cause. Every problem has a code; what is wrong with the statement
itself may have a place in it.

* `Problem.message`, `Problem.code`, `Problem.place?`: what is said of a problem.
* `codeWords code`: what is said of a code.
-/

namespace Upkeep.Sql

/-- Why a statement is not carried out. -/
inductive Problem where
  | unknownColumn (name : Text) (place : Option Nat)
  | ambiguousColumn (name : Text) (place : Option Nat)
  /-- A column that a change sets, or a row is given for. -/
  | noColumnNamed (table column : Text)
  | generatedColumn (verb column : Text)
  | unknownTable (name : Text)
  | unknownFunction (name : Text) (place : Option Nat)
  /-- A function that is missed only when rows are looked at. -/
  | missingFunction (name : Text)
  | wrongArguments (name : Text) (place : Option Nat)
  | unknownCollation (name : Text)
  /-- Something that may not stand where it stands. -/
  | misplaced (what : Text) (place : Option Nat)
  | unmatchedTarget
  | mismatchedReference (table parent : Text)
  | countMismatch (message : Text)
  | notChangeable (name : Text)
  | nameTaken (kind name : Text)
  | notIndexed (kind : Text)
  | noValue (table column : Text)
  | check (name : Text)
  /-- A key that is taken: that of an index, or the number of a row. -/
  | keyTaken (what : Text) (isPrimary : Bool)
  | numberTaken (what : Text)
  | reference
  | raised (message : Text)
  | wrongType
  | notStored (type columnType table column : Text)
  | tooDeep
  | overflow
  | failed (message : Text)
  | damaged
  /-- An index does not have a row. -/
  | misindexed
  /-- A table of texts does not have the words of a row. -/
  | misworded
  /-- A row does not fit into a table that a module keeps. -/
  | unfit (isKey : Bool)
  | malformed (name : Text) (more : Option Text)
  | readOnly
  deriving DecidableEq, Repr

namespace Problem

/-- What is said of a problem. -/
def message : Problem → Text
  | unknownColumn n _ => "no such column: ".toList ++ n
  | ambiguousColumn n _ => "ambiguous column name: ".toList ++ n
  | noColumnNamed t c => "table ".toList ++ t ++ " has no column named ".toList ++ c
  | generatedColumn verb c => "cannot ".toList ++ verb ++ " generated column \"".toList ++ c ++ ['"']
  | unknownTable n => "no such table: ".toList ++ n
  | unknownFunction n _ => "no such function: ".toList ++ n
  | missingFunction n => "unknown function: ".toList ++ n ++ "()".toList
  | wrongArguments n _ => "wrong number of arguments to function ".toList ++ n ++ "()".toList
  | unknownCollation n => "no such collation sequence: ".toList ++ n
  | misplaced what _ => what
  | unmatchedTarget =>
    "ON CONFLICT clause does not match any PRIMARY KEY or UNIQUE constraint".toList
  | mismatchedReference t p =>
    "foreign key mismatch - \"".toList ++ t ++ "\" referencing \"".toList ++ p ++ ['"']
  | countMismatch m => m
  | notChangeable n => "table ".toList ++ n ++ " may not be modified".toList
  | nameTaken kind n => "there is already ".toList ++ kind ++ " named ".toList ++ n
  | notIndexed kind => kind ++ " may not be indexed".toList
  | noValue t c => "NOT NULL constraint failed: ".toList ++ t ++ '.' :: c
  | check n => "CHECK constraint failed: ".toList ++ n
  | keyTaken what _ => "UNIQUE constraint failed: ".toList ++ what
  | numberTaken what => "UNIQUE constraint failed: ".toList ++ what
  | reference => "FOREIGN KEY constraint failed".toList
  | raised m => m
  | wrongType => "datatype mismatch".toList
  | notStored type columnType t c =>
    "cannot store ".toList ++ type ++ " value in ".toList ++ columnType ++ " column ".toList ++ t ++ '.' :: c
  | tooDeep => "too many levels of trigger recursion".toList
  | overflow => "integer overflow".toList
  | failed m => m
  | damaged => "database disk image is malformed".toList
  | misindexed => "database disk image is malformed".toList
  | misworded => "database disk image is malformed".toList
  | unfit _ => "constraint failed".toList
  | malformed n more =>
    let shown := fun (t : Text) => t.takeWhile (· ≠ '\x00')
    "malformed database schema (".toList ++ shown n ++ ')' :: (more.map fun m => " - ".toList ++ shown m).getD []
  | readOnly => "attempt to write a readonly database".toList

/-- The code of a problem. -/
def code : Problem → Nat
  | unknownCollation _ => 257
  | noValue .. => 1299
  | check _ => 275
  | keyTaken _ true => 1555
  | keyTaken _ false => 2067
  | numberTaken _ => 2579
  | reference => 787
  | raised _ => 1811
  | wrongType => 20
  | notStored .. => 3091
  | damaged => 11
  | misindexed => 779
  | misworded => 267
  | unfit isKey => if isKey then 1555 else 19
  | malformed .. => 11
  | readOnly => 8
  | _ => 1

/-- Where in its statement a problem lies. -/
def place? : Problem → Option Nat
  | unknownColumn _ p => p
  | ambiguousColumn _ p => p
  | unknownFunction _ p => p
  | wrongArguments _ p => p
  | misplaced _ p => p
  | _ => none

/-- A problem without its place, as it lies in a definition and not in the statement. -/
def unplaced : Problem → Problem
  | unknownColumn n _ => unknownColumn n none
  | ambiguousColumn n _ => ambiguousColumn n none
  | unknownFunction n _ => unknownFunction n none
  | wrongArguments n _ => wrongArguments n none
  | misplaced w _ => misplaced w none
  | p => p

end Problem

def codeWords (code : Nat) : Text :=
  (([(1, "SQL error or missing database"), (8, "Attempt to write a readonly database"),
    (11, "The database disk image is malformed"), (19, "Abort due to constraint violation"),
    (20, "Data type mismatch"),
    (257, "SQLITE_ERROR_MISSING_COLLSEQ"), (267, "Content is corrupted"), (275, "A CHECK constraint failed"),
    (779, "SQLITE_CORRUPT_INDEX"), (787, "Foreign key constraint failed"), (1299, "A NOT NULL constraint failed"),
    (1555, "A PRIMARY KEY constraint failed"), (1811, "A RAISE function within a trigger fired"),
    (2067, "A UNIQUE constraint failed"), (2579, "A non-unique ROWID occurred"),
    (3091, "SQLITE_CONSTRAINT_DATATYPE")].lookup code).getD "Unknown error code").toList

/-- What is said of a problem of a statement: the statement too, when the problem has a place in it. -/
def Problem.complaint (p : Problem) (statement : Text) : Text :=
  p.message ++
    (match p.place? with
    | some n => " in ".toList ++ statement ++ " at offset ".toList ++ Text.ofNat n
    | none => []) ++
    ": Error code ".toList ++ Text.ofNat p.code ++ ": ".toList ++ codeWords p.code

end Upkeep.Sql
