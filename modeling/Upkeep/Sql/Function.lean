import Upkeep.Sql.Aggregate
import Upkeep.Sql.Fulltext.Finding
import Upkeep.Sql.Function.Calendar
import Upkeep.Sql.Function.Text

/-!
# Functions by their names

* `Function.find? name`: the function of values with a name.
* `Function.isKnown name`: whether any function has a name.
-/

namespace Upkeep.Sql

/-- What is known of the work that goes on. -/
inductive Fact where
  /-- How many rows the last statement changed. -/
  | changes
  /-- How many rows have been changed in all. -/
  | allChanges
  /-- The number of the row that came last. -/
  | lastNumber
  /-- A number that cannot be foreseen. -/
  | chance
  /-- Bytes that cannot be foreseen. -/
  | chanceBytes
  deriving DecidableEq, Repr

/-- The facts by the names of their functions, with the number of arguments. -/
def Fact.named : List (String × Nat × Fact) :=
  [("changes", 0, changes), ("total_changes", 0, allChanges), ("last_insert_rowid", 0, lastNumber),
    ("random", 0, chance), ("randomblob", 1, chanceBytes)]

/-- Functions that look at the rows around a row. -/
inductive Ranking where
  | rowNumber
  | rank
  | denseRank
  | percentRank
  | distribution
  | bucket
  | earlier
  | later
  | first
  | last
  | nth
  deriving DecidableEq, Repr

/-- The functions that look at the rows around a row, by their names, with the least and the greatest number of
arguments. -/
def Ranking.named : List (String × Nat × Nat × Ranking) :=
  [("row_number", 0, 0, rowNumber), ("rank", 0, 0, rank), ("dense_rank", 0, 0, denseRank),
    ("percent_rank", 0, 0, percentRank), ("cume_dist", 0, 0, distribution), ("ntile", 1, 1, bucket),
    ("lag", 1, 3, earlier), ("lead", 1, 3, later), ("first_value", 1, 1, first), ("last_value", 1, 1, last),
    ("nth_value", 2, 2, nth)]

namespace Function

/-- The functions of values by their names. -/
def all : List (String × Function) := plainOnes ++ Calendar.functions ++ ofDocuments ++ Fulltext.functions

def smallName (name : Text) : String := String.ofList (Text.toLower name)

def find? (name : Text) : Option Function := all.lookup (smallName name)

/-- The names of functions that are made of parts of expressions, with the least and the greatest number of
arguments. -/
def composed : List (String × Nat × Nat) := [("coalesce", 2, 1000), ("ifnull", 2, 2), ("iif", 3, 3)]

/-- Whether a number of arguments fits with a function that has a name, if there is one. -/
def fits? (name : Text) (count : Nat) : Option Bool :=
  let n := smallName name
  let found := [(find? name).map fun f => f.takes count,
    (Aggregate.named name).map fun a => a.takes count,
    (Fact.named.lookup n).map fun (k, _) => k == count,
    (Ranking.named.lookup n).map fun (least, most, _) => decide (least ≤ count ∧ count ≤ most),
    (composed.lookup n).map fun (least, most) => decide (least ≤ count ∧ count ≤ most)].filterMap id
  if found.isEmpty then none else some (found.any id)

def isKnown (name : Text) : Bool := (fits? name 0).isSome

end Function
end Upkeep.Sql
