import Upkeep.Database.Content
import Upkeep.Sql.Program
import Upkeep.Sql.Rule

/-!
# The state of a database that statements run on

The rows of a table are read from its object when a statement first looks at them, and then kept as values.
What goes wrong with an object shows only when it is looked at.

* `State.start`: the state of a database.
* `Run`: work on a state, which may end with a problem or leave a row out.
* `Table.rowOf?`: a row by its record.

An index has a tree of its own, which may be damaged, or may not have all rows of its table. It makes no
difference unless rows are reached through the index or have to be entered into it.

* `lookAtIndexes t isWanted`: ends work if the trees of some indexes cannot be read.
* `reached t ways rows`: the rows of a table that are reached through some indexes.
-/

namespace Upkeep.Sql
open Database (Value Bytes Cell Object)

/-- A row with its number. A table without numbers has its rows numbered anyhow, to tell them apart. -/
structure Row where
  number : Int
  values : List Value
  deriving DecidableEq

/-- The greatest number that rows of a table have had, with the number of the row that keeps it, and what it was
when the statement began. -/
structure Greatest where
  keeper : Option Int
  before : Int
  number : Int

/-- A database that statements run on. -/
structure State where
  database : Database
  schema : Schema
  /-- The rows of the tables that have been looked at. -/
  contents : List (Text × List Row)
  /-- The rules of the tables that have been looked at. -/
  rules : List (Text × Rules)
  /-- The rows of tables in the orders of indexes, by the names of tables and indexes. -/
  orders : List ((Text × Text) × List Row)
  /-- The tables whose rows have changed. -/
  changed : List Text
  /-- How many references are broken, of those that are checked behind each statement and of those that are
  checked at the end. -/
  immediate : Int
  deferred : Int
  /-- The triggers that may fire. -/
  programs : List Program
  /-- The triggers that are firing. -/
  active : List Text
  /-- The number of the row that came last. -/
  lastNumber : Int
  /-- How many rows the last statement changed, and how many have been changed in all. -/
  changes : Nat
  allChanges : Nat
  /-- The rows of queries that hang on nothing around them, by their numbers. -/
  kept : List (Nat × List (List Datum))
  /-- The greatest numbers that rows of tables have had, of those tables that never use a number again. -/
  greatest : List (Text × Greatest)
  /-- The present date and time. -/
  now : Text
  /-- What the next number that cannot be foreseen comes from. -/
  seed : Nat
  /-- The rows that are missing in indexes of the file, by the names of the indexes. -/
  lost : List (Text × Int)
  /-- The entries in indexes of the file that belong to no row. -/
  stray : List (Text × List Value)

/-- What ends work. -/
inductive Stop where
  /-- A problem, behind which what the statement did may be meant to stay. -/
  | problem (p : Problem) (keepsRows : Bool)
  /-- The row that is worked on is left out. -/
  | skipRow

abbrev Run := ExceptT Stop (StateM State)

namespace Run

def fail {α : Type} (p : Problem) : Run α := throw (.problem p false)

/-- Ends work with a problem that a rule has. -/
def refuse {α : Type} (how : Conflict) (p : Problem) : Run α := throw (.problem p (how == .fail))

def lift {α : Type} : Except Problem α → Run α
  | .ok a => pure a
  | .error p => fail p

end Run

namespace Table

/-- The columns that a record holds. -/
def stored (t : Table) : List Nat :=
  (List.range t.columns.length).filter fun i =>
    (t.columns[i]?).any fun c => c.generated.all fun (_, isStored) => isStored

/-- The columns in the order of a record of a table without numbers: those of its key first. -/
def keyFirst (t : Table) : List Nat :=
  let key := t.keyParts.filterMap (·.column)
  key ++ t.stored.filter fun i => !key.contains i

def constantDefault (c : Column) : Value :=
  c.affinity.keep <|
    match c.default? with
    | some (.constant v) => v
    | some (.unary .negate (.constant (.integer n))) => .ofInt (-n)
    | some (.unary .negate (.constant (.real bits))) => .ofReal (-(Value.realOf bits))
    | some (.unary .keep (.constant v)) => v
    | _ => .null

/-- The values of a record in the columns of a table. Columns that were added later have their default value,
and columns that are not stored have none. -/
def arrange (t : Table) (order : List Nat) (vs : List Value) : List Value :=
  t.columns.mapIdx fun i c =>
    match order.idxOf? i with
    | some k => (vs[k]?).elim (constantDefault c) c.affinity.read
    | none => .null

/-- A number that is no number is nothing. -/
def cleaned : Value → Value
  | .real bits => .ofReal (Value.realOf bits)
  | v => v

def rowOf? (t : Table) (e : Database.Encoding) (place : Nat) (cell : Cell) : Option Row := do
  let vs := (← Database.Record.ofBytes? cell.record).map fun v => cleaned (e.decodeValue v)
  if t.hasNumbers then
    let n : Int := cell.number
    let number := if (Nat.pow 2 63 : Nat) ≤ n then n - (Nat.pow 2 64 : Nat) else n
    let values := (t.arrange t.stored vs).mapIdx fun i v =>
      if t.numberColumn = some i then .integer number else v
    some ⟨number, values⟩
  else some ⟨place, t.arrange t.keyFirst vs⟩

def object? (t : Table) (d : Database) : Option Object :=
  d.objects.find? fun o => o.kind == "table".toList && sameName o.name t.name

def rows? (t : Table) (d : Database) : Option (List Row) := do
  let tree ← (← t.object? d).tree?
  if tree.isNumbered ≠ t.hasNumbers then none
  else (tree.cells.mapIdx fun i c => t.rowOf? d.encoding i c).mapM id

end Table

namespace State

/-- The state of a database with a schema. -/
def start (d : Database) (s : Schema) (now : Text) : State :=
  { database := d, schema := s, contents := [], rules := [], orders := [], changed := [], immediate := 0, deferred := 0
    programs := [], active := [], lastNumber := 0, changes := 0, allChanges := 0, kept := [], greatest := [], now
    seed := Database.ofBigEndian (Text.toBytes now).toList, lost := [], stray := [] }

/-- What the rows of a table are kept under. -/
def keyOf (t : Table) : Text := Text.toLower t.name

def withRows (s : State) (t : Table) (rows : List Row) : State :=
  { s with
    contents := (keyOf t, rows) :: s.contents.filter fun (k, _) => k != keyOf t
    orders := s.orders.filter fun ((k, _), _) => k != keyOf t }

def withChanged (s : State) (t : Table) (rows : List Row) : State :=
  { s.withRows t rows with changed := (keyOf t :: s.changed).eraseDups }

def countReference (s : State) (isDeferred : Bool) (n : Int) : State :=
  if isDeferred then { s with deferred := s.deferred + n } else { s with immediate := s.immediate + n }

def nextSeed (seed : Nat) : Nat := (6364136223846793005 * seed + 1442695040888963407) % Nat.pow 2 64

/-- A state whose seed has been used, and bytes that cannot be foreseen. -/
def drawn : Nat → State → Bytes × State
  | 0, s => ([], s)
  | n + 1, s =>
    let s := { s with seed := nextSeed s.seed }
    let (bytes, s') := drawn n s
    (UInt8.ofNat (s.seed / Nat.pow 2 40) :: bytes, s')

def listRows (s : State) : List Row :=
  s.database.objects.mapIdx fun i o =>
    ⟨i + 1, [.ofText o.kind, .ofText o.name, .ofText o.table,
      .integer (if o.content = .nothing then 0 else i + 2), .ofText? o.definition]⟩

def surrounding (s : State) (c : Collation) : Surrounding := ⟨s.database.encoding, c, s.now⟩

end State

/-! ## Damaged indexes -/

def Index.hasObject (t : Table) (i : Index) : Bool := t.hasNumbers || !i.isPrimary

namespace State

/-- Whether the tree of an index cannot be read. -/
def isDamaged (s : State) (t : Table) (i : Index) : Bool :=
  i.hasObject t && !s.database.objects.any fun o =>
    o.kind == "index".toList && sameName o.name i.name && o.tree?.any (!·.isNumbered)

/-- Whether an index does not have a row of its table. -/
def isLost (s : State) (i : Index) (number : Int) : Bool := s.lost.any fun (n, k) => k == number && sameName n i.name

end State

/-- Ends work if the trees of some indexes of a table cannot be read. -/
def lookAtIndexes (t : Table) (isWanted : Index → Bool) : Run Unit := do
  let s ← get
  if t.indexes.any fun i => isWanted i && s.isDamaged t i then Run.fail .damaged

/-- The rows of a table that are reached through some indexes. -/
def reached (t : Table) (ways : List Index) (rows : List Row) : Run (List Row) := do
  lookAtIndexes t fun i => ways.any fun j => sameName j.name i.name
  let s ← get
  return if ways.isEmpty || s.lost.isEmpty then rows
    else rows.filter fun r => ways.any fun i => !s.isLost i r.number

/-- Ends work if a table or some of its indexes cannot be changed. -/
def checkRoom (t : Table) (isWanted : Index → Bool) : Run Unit := do
  let s ← get
  let isRigid := fun (kind : String) (name : Text) =>
    s.database.objects.any fun o => o.isRigid && o.kind == kind.toList && sameName o.name name
  if isRigid "table" t.name || t.indexes.any fun i => isWanted i && isRigid "index" i.name then
    Run.fail .damaged

/-- Ends work if the entries of a row cannot be taken out of some indexes of its table. -/
def checkEntries (t : Table) (isWanted : Index → Bool) (number : Int) : Run Unit := do
  let s ← get
  if !s.lost.isEmpty && t.indexes.any fun i => isWanted i && s.isLost i number then Run.fail .misindexed
  checkRoom t isWanted

end Upkeep.Sql
