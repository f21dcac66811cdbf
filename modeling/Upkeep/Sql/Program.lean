import Upkeep.Sql.Scope

/-!
# What statements do

A statement whose names are known: what it changes, the rows that it concerns and the values that they get. A
trigger whose names are known is a condition with such statements.

* `Step`: a statement.
* `Program`: a trigger.
-/

namespace Upkeep.Sql

/-- What a statement changes. The rows of a view come from its query. -/
inductive Target where
  | table (t : Table)
  | view (v : ViewDefinition) (fields : List Field) (origin : Origin)

/-- What gets a value: a column by its place, or the number of the row. -/
inductive Slot where
  | column (place : Nat)
  | number
  deriving DecidableEq, Repr

/-- What gets the values of a formula. -/
structure Setting where
  slots : List Slot
  formula : Formula

/-- A key that an insertion may meet. -/
inductive MetKey where
  | any
  | number
  | index (i : Index)

/-- What an insertion does instead when it meets a key. Its formulas see the row that is met, and the one that would
have come. -/
inductive Detour where
  | nothing
  | update (names : List Text) (settings : List Setting) (condition : Option Formula)

/-- What an insertion does when it meets a key. -/
structure Meeting where
  key : MetKey
  detour : Detour

/-- A statement whose names are known. -/
inductive Step where
  | select (p : Plan)
  /-- The rows of the target that fulfil some conditions go. -/
  | delete (t : Target) (supply : Supply) (conditions : List Formula)
  /-- The rows of the target, the first of the sources, change. The names are those of the columns as they are
  written. -/
  | update (conflict : Option Conflict) (t : Target) (names : List Text) (settings : List Setting)
      (supplies : List Supply) (conditions : List Formula) (course : Course)
  /-- Rows come into the target. Without rows one comes that has default values only. -/
  | insert (conflict : Option Conflict) (t : Target) (names : List Text) (rows : Option Plan)
      (meetings : List Meeting)

/-- The table that rows come into. -/
def Step.growing? : Step → Option Table
  | .insert _ (.table t) _ _ _ => some t
  | _ => none

/-- A trigger whose names are known. -/
structure Program where
  name : Text
  condition : Option Formula
  steps : List Step

namespace Target

def name : Target → Text
  | table t => t.name
  | view v _ _ => v.name

def fields : Target → List Field
  | table t => t.columns.map Column.field
  | view _ fs _ => fs

def column? (t : Target) (name : Text) : Option Nat := t.fields.findIdx? fun f => sameName f.name name

def hasNumbers : Target → Bool
  | table t => t.hasNumbers
  | view _ _ _ => false

def place (t : Target) (label : Text) : Place := .ofFields (some label) t.fields t.hasNumbers

/-- What is changed as a source without conditions. -/
def supply : Target → Supply
  | table t => .make (.table t .free) .inner []
  | view _ _ o => .make o .inner []

/-- What gets the value of a column with a name. -/
def slot? (t : Target) (name : Text) : Option Slot :=
  match t.column? name with
  | some i => some (.column i)
  | none => if isNumberName name && t.hasNumbers then some .number else none

end Target

/-- Whether a trigger fires at an event. A change of no columns of a list does not fire a trigger of some. -/
def TriggerDefinition.fires (d : TriggerDefinition) (timing : Timing) (event : Event) : Bool :=
  let isTimed := match timing, d.timing with
    | .before, .instead => true
    | a, b => a == b
  isTimed && match d.event, event with
    | .insert, .insert => true
    | .delete, .delete => true
    | .update [], .update _ => true
    | .update own, .update changed => own.any fun c => changed.any (sameName c)
    | _, _ => false

end Upkeep.Sql
