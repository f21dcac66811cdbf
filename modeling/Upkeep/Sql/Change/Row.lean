import Upkeep.Sql.Evaluation.Selection
import Upkeep.Sql.Reference
import Upkeep.Sql.State

/-!
# Rows of tables and their rules

The rows of a table stand in the order of their numbers, or of their primary key if they have none. A row has to
fulfil the rules of its table.

* `putRow`, `dropRow`: a row that comes into a table or leaves it.
* `checkTypes`, `checkMissing`, `checkConditions`: the rules that a row has to fulfil by itself.
* `rowsWithKey`: the rows that have the key of a row.

An index has an entry for every row of its table, or for those that fulfil its condition: the values of its
parts and what leads to the row.

* `keyOf? t i r`: the values of a row in the parts of an index.
* `findLost`: finds out which rows are missing in indexes of the file, and which entries belong to no row.
-/

namespace Upkeep.Sql
open Database (Value Encoding)

/-! ## Entries of indexes -/

def valuesAt (r : Row) (places : List Nat) : List Value := places.map fun i => (r.values[i]?).getD .null

def ruleOf? (t : Table) (i : Index) : Run (Option IndexRule) := do
  return (← rulesOf t).indexes.find? fun rule => sameName rule.index.name i.name

/-- The values of a row in the key of an index, unless the index leaves the row out. -/
def keyOf? (t : Table) (i : Index) (r : Row) : Run (Option (List Value)) := do
  match ← ruleOf? t i with
  | some rule => rule.key? evaluator r
  | none => return none

def plainValue : Value → Value
  | .real bits => if Value.realOf bits == realOfInt (Value.real bits).toInt then .integer (Value.real bits).toInt else .real bits
  | v => v

/-- The entries that the file has of an index. -/
def Index.kept (s : State) (i : Index) : List (List Value) :=
  match s.database.objects.find? fun o => o.kind == "index".toList && sameName o.name i.name with
  | some o =>
    ((o.tree?.map (·.cells)).getD []).map fun c =>
      ((Database.Record.ofBytes? c.record).getD []).map fun v => plainValue (s.database.encoding.decodeValue v)
  | none => []

/-- Finds out which rows are missing in an index, and which entries of it belong to no row. -/
def findLostIn (t : Table) (i : Index) : Run Unit := do
  let s ← get
  let rows ← tableRows evaluator t
  let entries ← rows.filterMapM fun r => do
    return (← keyOf? t i r).map fun key => (r.number, (r.entry t i key).map plainValue)
  let kept := i.kept s
  let isWhole := decide (entries.length = kept.length) &&
    (entries.zip kept).all fun ((_, e), k) => e == k
  if !isWhole then
    let lost := (entries.filter fun (_, e) => !kept.contains e).map fun (n, _) => (i.name, n)
    let stray := (kept.filter fun k => !entries.any fun (_, e) => e == k).map fun k => (i.name, k)
    modify fun s => { s with lost := lost ++ s.lost, stray := stray ++ s.stray }

/-- Finds out which rows are missing in indexes, and which entries of them belong to no row. -/
def findLost : Run Unit := do
  let s ← get
  s.schema.tables.forM fun t => t.indexes.forM fun i => do
    if i.hasObject t && !s.isDamaged t i then
      tryCatch (findLostIn t i) fun _ => return

/-! ## Rows -/

/-- Rows with one more, in the order of their numbers or of their keys. -/
def placeRow (notAfter : Row → Row → Bool) (r : Row) : List Row → List Row
  | [] => [r]
  | x :: xs => if notAfter x r then x :: placeRow notAfter r xs else r :: x :: xs

/-- Whether a row of a table comes before another. -/
def rowNotAfter (enc : Encoding) (t : Table) (a b : Row) : Bool :=
  if t.hasNumbers then decide (a.number ≤ b.number)
  else
    let key := fun (i : Index) (r : Row) =>
      i.parts.map fun p => ((p.column.bind fun c => r.values[c]?).getD .null)
    t.primary?.all fun i => i.keyOrder enc (key i a) (key i b) != .gt

def rowAt? (t : Table) (number : Int) : Run (Option Row) := do
  return (← tableRows evaluator t).find? (·.number == number)

/-- Puts a row into a table, in the place of one with its number. -/
def putRow (t : Table) (old : Option Int) (r : Row) : Run Unit := do
  let rows ← tableRows evaluator t
  let enc ← encoding
  modify fun s =>
    let rest := rows.filter fun x => some x.number ≠ old
    s.withChanged t (placeRow (rowNotAfter enc t) r rest)

def dropRow (t : Table) (number : Int) : Run Unit := do
  let rows ← tableRows evaluator t
  modify fun s => s.withChanged t (rows.filter (·.number ≠ number))

def defaultAt (t : Table) (i : Nat) : Run Value := do
  match (← rulesOf t).defaults[i]? with
  | some f => valueAt (Env.outermost []) f
  | none => return .null

def keepAll (t : Table) (values : List Value) : List Value :=
  (t.columns.zip values).map fun (c, v) => c.affinity.keep v

/-- What a change does to a row: the places of the columns that get values, and whether the row gets another
number. -/
structure Extent where
  columns : List Nat
  moves : Bool
  deriving DecidableEq

def Index.hangsOn (t : Table) (x : Extent) (i : Index) : Bool :=
  x.moves || i.condition.isSome || i.parts.any fun p => p.column.elim true fun c =>
    x.columns.contains c || (t.columns[c]?).any fun c => c.generated.isSome

/-! ## Rules -/

def strictTypes : List (String × List String) :=
  [("INT", ["integer"]), ("INTEGER", ["integer"]), ("REAL", ["real"]), ("TEXT", ["text"]), ("BLOB", ["blob"])]

/-- Whether the values of a row are of the types of a strict table. -/
def checkTypes (t : Table) (values : List Value) : Except Problem Unit :=
  if !t.isStrict then .ok ()
  else (t.columns.zip values).forM fun (c, v) =>
    let name := c.type.map Char.toUpper
    match strictTypes.lookup (String.ofList name) with
    | some kinds =>
      if v.isNull || kinds.contains (String.ofList v.typeWord) then .ok ()
      else .error (.notStored (v.typeWord.map Char.toUpper) name t.name c.name)
    | none => .ok ()

/-- A row whose missing values have been looked at: with default values where those replace them. Nothing is
said of columns that are not touched. -/
def checkMissing (t : Table) (touched : Option Extent) (override : Option Conflict) (r : Row) : Run Row := do
  let places := List.range t.columns.length
  let isGenerated := fun i => (t.columns[i]?).any fun c => c.generated.isSome
  let order := places.filter (!isGenerated ·) ++ places.filter isGenerated
  order.foldlM (fun r i => do
    match t.columns[i]? with
    | none => return r
    | some c =>
      let counts := (touched.elim true fun x => x.columns.contains i) || c.generated.isSome
      match c.notNull with
      | none => return r
      | some own =>
        if !counts || t.numberColumn = some i || !((r.values[i]?).getD .null).isNull then return r
        else match override.getD own with
          | .ignore => throw .skipRow
          | .replace =>
            let v ← defaultAt t i
            if v.isNull then Run.fail (.noValue t.name c.name)
            else return { r with values := r.values.set i (c.affinity.keep v) }
          | how => Run.refuse how (.noValue t.name c.name)) r

/-- Looks at the conditions that a row has to fulfil, those that hang on touched columns. -/
def checkConditions (t : Table) (touched : Option Extent) (override : Option Conflict) (r : Row) : Run Unit := do
  (← rulesOf t).checks.forM fun (c, f) => do
    let counts := touched.elim true fun x =>
      (f.columns depth).any fun i => x.columns.contains i || (t.columns[i]?).any fun c => c.generated.isSome
    if counts then
      if (← evaluator.ruled r f).truth? = some false then
        if override = some .ignore then throw .skipRow
        else Run.refuse (override.getD .abort) (.check c.name)

/-! ## Keys -/

/-- The rows that have the key of a row in an index, apart from one. -/
def rowsWithKey (t : Table) (i : Index) (r : Row) (apart : Option Int) : Run (List Row) := do
  match ← keyOf? t i r with
  | none => return []
  | some key =>
    if key.any Value.isNull then return []
    else
      let enc ← encoding
      let others := (← tableRows evaluator t).filter fun x => some x.number ≠ apart
      others.filterM fun x => do
        match ← keyOf? t i x with
        | none => return false
        | some k => return i.keyOrder enc key k == .eq

def keyName (t : Table) (i : Index) : Text :=
  if i.parts.all (·.column.isSome) then
    ", ".toList.intercalate (i.parts.map fun p =>
      t.name ++ '.' :: (((p.column.bind fun c => t.columns[c]?).map (·.name)).getD []))
  else "index '".toList ++ i.name ++ ['\'']

def numberProblem (t : Table) : Problem :=
  match t.numberColumn.bind fun i => t.columns[i]? with
  | some c => .keyTaken (t.name ++ '.' :: c.name) true
  | none => .numberTaken (t.name ++ ".rowid".toList)

end Upkeep.Sql
