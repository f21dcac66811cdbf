import Upkeep.Sql.Change

/-!
# Keeping what statements changed

The rows of a table stand in its object as records, and once more in the order of their keys in the object of
each of its indexes. What did not change is kept as it is.

* `Storage.database`: the database with the rows that statements have left.
* `Storage.addTable`, `Storage.addIndex`: the database with a new object.
-/

namespace Upkeep.Sql
open Database (Value Cell Tree Content Object)

namespace Table

/-- The record of a row. The number of the row stands beside it and not in it. -/
def cellOf (t : Table) (e : Database.Encoding) (r : Row) : Cell :=
  let order := if t.hasNumbers then t.stored else t.keyFirst
  let values := order.map fun i =>
    if t.numberColumn = some i then .null else e.encodeValue ((r.values[i]?).getD .null)
  ⟨if t.hasNumbers then wordOf r.number else 0, Database.Record.bytes values⟩

def treeOf (t : Table) (e : Database.Encoding) (rows : List Row) : Tree :=
  ⟨t.hasNumbers, rows.map (t.cellOf e)⟩

end Table

namespace Storage

def indexTree (t : Table) (i : Index) (rows : List Row) : Run Tree := do
  let s ← get
  let entries ← rows.filterMapM fun r => do
    if s.isLost i r.number then return none
    else return (← keyOf? t i r).map (r.entry t i)
  let strays := (s.stray.filter fun (n, _) => sameName n i.name).map (·.2)
  let keyed := (entries ++ strays).map fun entry => (i.entryKeys t entry, entry)
  let e := s.database.encoding
  let sorted := keyed.mergeSort fun a b => SortKey.compare e a.1 b.1 != .gt
  return ⟨false, sorted.map fun (_, entry) => ⟨0, Database.Record.bytes (entry.map e.encodeValue)⟩⟩

/-- What an object keeps for the rows of its table. -/
def content (t : Table) (rows : List Row) (o : Object) : Run Content := do
  if o.tree?.isNone || o.isRigid then return o.content
  else if o.kind == "table".toList && sameName o.name t.name then
    return .tree (t.treeOf (← get).database.encoding rows)
  else if o.kind == "index".toList then
    match t.indexes.find? fun i => sameName i.name o.name with
    | some i => return .tree (← indexTree t i rows)
    | none => return o.content
  else return o.content

/-- The database with the rows that statements have left. -/
def database : Run Database := do
  let s ← get
  let objects ← s.database.objects.mapM fun o => do
    match s.schema.table? o.table with
    | none => return o
    | some t =>
      if s.changed.contains (State.keyOf t) then
        return { o with content := ← content t (← tableRows evaluator t) o }
      else return o
  return { s.database with objects, changes := s.database.changes + 1 }

def addObject (o : Object) (schema : Schema) : Run Unit :=
  modify fun s =>
    let d := s.database
    { s with
      database := { d with objects := d.objects ++ [o], objectChanges := d.objectChanges + 1 }, schema }

/-- Adds an empty table with the indexes of its own rules. -/
def addTable (t : Table) (definition : Text) : Run Unit := do
  let s ← get
  addObject ⟨"table".toList, t.name, t.name, some definition, .tree ⟨t.hasNumbers, []⟩⟩
    { s.schema with tables := s.schema.tables ++ [t] }
  t.indexes.reverse.forM fun i => do
    let s ← get
    addObject ⟨"index".toList, i.name, t.name, none, .tree ⟨false, []⟩⟩ s.schema

def addIndex (t : Table) (i : Index) (definition : Text) : Run Unit := do
  let t := { t with indexes := Table.withIndex i t.indexes }
  modify fun s =>
    { s with
      schema := s.schema.setTable t
      rules := s.rules.filter fun (k, _) => k != State.keyOf t }
  let tree ← indexTree t i (← tableRows evaluator t)
  addObject ⟨"index".toList, i.name, t.name, some definition, .tree tree⟩ (← get).schema

end Storage
end Upkeep.Sql
