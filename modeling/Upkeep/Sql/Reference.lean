import Upkeep.Sql.Problem
import Upkeep.Sql.Schema

/-!
# References between tables

A reference says that the values in some columns of a table are those of a key of another table.

* `Link.make`: the columns of a reference with those of the key that they name.
-/

namespace Upkeep.Sql

/-- A reference with the key that it names: the other table, the pairs of columns, and the index of the key.
Without an index the key is the number of a row. -/
structure KeyLink where
  child : Table
  reference : Reference
  parent : Table
  pairs : List (Nat × Nat)
  index : Option Index

namespace KeyLink

def childColumn? (child : Table) (r : Reference) (key : Text) : Option Nat :=
  ((r.keys.zip r.columns).find? fun (k, _) => sameName k key).bind fun (_, c) => child.column? c

/-- The columns of a key that a reference names by its index, if the index fits. -/
def pairsBy? (child parent : Table) (r : Reference) (i : Index) : Option (List (Nat × Nat)) :=
  if !i.isUnique || i.condition.isSome || i.parts.length ≠ r.columns.length then none
  else if r.keys.isEmpty then
    if i.isPrimary then
      (i.parts.zip r.columns).mapM fun (p, c) => do return (← child.column? c, ← p.column)
    else none
  else
    i.parts.mapM fun p => do
      let key ← p.column
      let column ← parent.columns[key]?
      if sameName p.collation column.collation then
        return (← childColumn? child r column.name, key)
      else none

/-- A reference of a table with the key that it names. -/
def make (s : Schema) (child : Table) (r : Reference) : Except Problem KeyLink :=
  match s.table? r.table with
  | none => .error (.unknownTable ("main.".toList ++ r.table))
  | some parent =>
    let numberPair : Option (Nat × Nat) := do
      let i ← parent.numberColumn
      let own ← parent.columns[i]?
      match r.columns, r.keys with
      | [c], [] => return (← child.column? c, i)
      | [c], [k] => if sameName k own.name then return (← child.column? c, i) else none
      | _, _ => none
    match numberPair with
    | some p => .ok ⟨child, r, parent, [p], none⟩
    | none =>
      match parent.indexes.findSome? fun i => (pairsBy? child parent r i).map fun ps => (i, ps) with
      | some (i, ps) => .ok ⟨child, r, parent, ps, some i⟩
      | none => .error (.mismatchedReference child.name r.table)

def isOwn (l : KeyLink) : Bool := sameName l.child.name l.parent.name

end KeyLink

/-- What a statement does to columns: nothing is said when whole rows come or go. -/
abbrev Touched := Option (List Nat)

namespace Reference

def isTouched (r : Reference) (child : Table) (touched : List Nat) : Bool :=
  r.columns.any fun c => (child.column? c).any touched.contains

def isKeyTouched (r : Reference) (parent : Table) (touched : List Nat) : Bool :=
  let primary := (parent.primary?.elim [] fun i => i.parts.filterMap (·.column)) ++ parent.numberColumn.toList
  touched.any fun i =>
    if r.keys.isEmpty then primary.contains i
    else (parent.columns[i]?).any fun c => r.keys.any (sameName c.name)

/-- What happens to rows that name a row which goes, or whose key changes. -/
def action (r : Reference) (touched : Touched) : KeyAction :=
  if touched.isSome then r.onUpdate else r.onDelete

end Reference
end Upkeep.Sql
