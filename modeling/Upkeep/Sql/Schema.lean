import Upkeep.Database.Content
import Upkeep.Sql.Definition
import Upkeep.Sql.Fulltext.Basic

/-!
# Schemas

The definitions of a database, taken together: its tables with their columns, rules and indexes, its views and
its triggers. Definitions are read in the order in which they were made, and each has to fit what is there.

* `Schema.ofObjects? objects`: the schema of a database, or the object that does not fit.
* `Schema.table? s name`, `Schema.view? s name`: what has a name.
-/

namespace Upkeep.Sql
open Database (Object)

/-- A column of a table. -/
structure Column where
  name : Text
  type : Text
  affinity : Affinity
  collation : Text
  notNull : Option Conflict
  default? : Option Expr
  generated : Option (Expr × Bool)
  /-- Whether a star does not show it. -/
  isHidden : Bool

/-- A part of the key of an index. -/
structure KeyPart where
  expr : Expr
  /-- The column that it is, if it is one. -/
  column : Option Nat
  collation : Text
  isDescending : Bool

/-- An index. -/
structure Index where
  name : Text
  isUnique : Bool
  isPrimary : Bool
  /-- What happens when a row has a key that is taken. -/
  conflict : Option Conflict
  parts : List KeyPart
  condition : Option Expr

/-- A table. -/
structure Table where
  name : Text
  columns : List Column
  checks : List Check
  /-- The newest first, but those that replace rows last. -/
  indexes : List Index
  /-- The newest first. -/
  references : List Reference
  /-- The column that shows the number of a row. -/
  numberColumn : Option Nat
  /-- What happens when the number of a row is taken. -/
  numberConflict : Option Conflict
  hasNumbers : Bool
  isStrict : Bool
  isAutoincrement : Bool
  /-- What it is besides, if its rows are found by their words. -/
  fulltext : Option Fulltext

/-- The definitions of a database. -/
structure Schema where
  tables : List Table
  views : List ViewDefinition
  /-- Tables that modules keep of which nothing is known. -/
  foreigns : List ModuleDefinition
  /-- The newest first. -/
  triggers : List TriggerDefinition

namespace Table

def column? (t : Table) (name : Text) : Option Nat := t.columns.findIdx? fun c => sameName c.name name

/-- The index that keeps the rows of a table without numbers, and the primary key of others. -/
def primary? (t : Table) : Option Index := t.indexes.find? (·.isPrimary)

def withIndex (i : Index) (is : List Index) : List Index :=
  let all := i :: is
  all.filter (·.conflict ≠ some .replace) ++ all.filter (·.conflict = some .replace)

def ownIndexName (t : Table) : Text :=
  "sqlite_autoindex_".toList ++ t.name ++ '_' :: Text.ofNat (t.indexes.length + 1)

end Table

def KeyPart.same (p q : KeyPart) : Bool :=
  p.column.isSome && p.column == q.column && sameName p.collation q.collation

def Table.keyParts (t : Table) : List KeyPart :=
  ((t.primary?.map (·.parts)).getD []).foldl (fun ps p => if ps.any p.same then ps else ps ++ [p]) []

/-- The parts of the primary key that lead from the key of an index to a row of a table without numbers: those that
the index does not have. -/
def Index.rest (i : Index) (t : Table) : List KeyPart :=
  if t.hasNumbers then [] else t.keyParts.filter fun p => !i.parts.any p.same

def plainCollation : Text := "BINARY".toList

/-- A part of a key of a table with some columns. -/
def KeyPart.ofTerm (columns : List Column) : Term → KeyPart
  | .make e isDescending _ =>
    let (inner, explicit) := match e with
      | .collate e c => (e, some c)
      | e => (e, none)
    let column := match inner with
      | .column n =>
        if n.table.isNone then columns.findIdx? fun c => sameName c.name n.column else none
      | .constant v => columns.findIdx? fun c => sameName c.name v.chars
      | _ => none
    let own := (column.bind fun i => columns[i]?).elim plainCollation (·.collation)
    ⟨inner, column, explicit.getD own, isDescending⟩

namespace Index

/-- Whether two indexes of a table have the same columns and collations. -/
def sameKey (i j : Index) : Bool :=
  decide (i.parts.length = j.parts.length) && i.condition.isNone && j.condition.isNone &&
    (i.parts.zip j.parts).all fun (p, q) => p.same q

end Index

namespace Table

/-- The column that a key makes the number of the rows. -/
def numberColumnOf? (columns : List Column) (k : Key) : Option Nat :=
  match k.isPrimary, k.parts with
  | true, [.make e false _] =>
    (KeyPart.ofTerm columns (.make e false none)).column.filter fun i =>
      columns[i]?.any fun c => sameName c.type "integer".toList
  | _, _ => none

/-- A table with one more rule about a key. -/
def withKey (t : Table) (k : Key) : Table :=
  match numberColumnOf? t.columns k, t.hasNumbers with
  | some i, true => { t with numberColumn := some i, numberConflict := k.conflict }
  | _, _ =>
    let i : Index :=
      { name := t.ownIndexName, isUnique := true, isPrimary := k.isPrimary, conflict := k.conflict
        parts := k.parts.map (KeyPart.ofTerm t.columns), condition := none }
    if t.indexes.any (·.sameKey i) then
      { t with
        indexes := t.indexes.map fun j =>
          if j.sameKey i then
            { j with conflict := j.conflict.or i.conflict, isPrimary := j.isPrimary || i.isPrimary }
          else j }
    else { t with indexes := withIndex i t.indexes }

/-- The table of a definition. -/
def ofDefinition (d : TableDefinition) : Table :=
  let columns := d.columns.map fun c =>
    let isAny := d.isStrict && sameName c.type "any".toList
    { name := c.name, type := c.type, affinity := if isAny then .blob else Affinity.ofType c.type
      collation := c.collation.getD plainCollation, notNull := c.notNull, default? := c.default?
      generated := c.generated, isHidden := false : Column }
  let t : Table :=
    { name := d.name, columns, checks := d.checks, indexes := [], references := d.references.reverse
      numberColumn := none, numberConflict := none, hasNumbers := !d.hasNoNumbers, isStrict := d.isStrict
      isAutoincrement := d.isAutoincrement, fulltext := none }
  let t := d.keys.foldl withKey t
  if t.hasNumbers then t
  else
    let key := (t.primary?.map (·.parts)).getD []
    { t with
      columns := t.columns.mapIdx fun i c =>
        if key.any (·.column == some i) then { c with notNull := c.notNull.or (some .abort) } else c }

def untypedColumn (name : Text) (isHidden : Bool) : Column :=
  { name, type := [], affinity := Affinity.ofType [], collation := plainCollation, notNull := none, default? := none
    generated := none, isHidden }

/-- A table of texts with a name. -/
def ofFulltext (name : Text) (f : Fulltext) : Table :=
  let (hidden, number) := f.hiddenColumns name
  let columns := f.columns.map (fun (c, _) => untypedColumn c false) ++ hidden.map fun c => untypedColumn c true
  { name, columns, checks := [], indexes := [], references := []
    numberColumn := number.bind fun n => columns.findIdx? fun c => sameName c.name n
    numberConflict := none, hasNumbers := true, isStrict := false, isAutoincrement := false, fulltext := some f }

end Table

def Index.ofDefinition (t : Table) (d : IndexDefinition) : Index :=
  { name := d.name, isUnique := d.isUnique, isPrimary := false, conflict := none
    parts := d.parts.map (KeyPart.ofTerm t.columns), condition := d.condition }

namespace Schema

def empty : Schema := ⟨[], [], [], []⟩

def table? (s : Schema) (name : Text) : Option Table := s.tables.find? fun t => sameName t.name name

def view? (s : Schema) (name : Text) : Option ViewDefinition := s.views.find? fun v => sameName v.name name

def hasRelation (s : Schema) (name : Text) : Bool :=
  (s.table? name).isSome || (s.view? name).isSome || s.foreigns.any fun d => sameName d.name name

def index? (s : Schema) (name : Text) : Option (Table × Index) :=
  s.tables.findSome? fun t => (t.indexes.find? fun i => sameName i.name name).map fun i => (t, i)

def setTable (s : Schema) (t : Table) : Schema :=
  { s with tables := s.tables.map fun u => if sameName u.name t.name then t else u }

def triggersOf (s : Schema) (table : Text) : List TriggerDefinition :=
  s.triggers.filter fun t => sameName t.table table

/-- The references to a table with the tables that have them, the newest first. -/
def referencesTo (s : Schema) (table : Text) : List (Table × Reference) :=
  s.tables.reverse.flatMap fun t =>
    (t.references.filter fun r => sameName r.table table).map fun r => (t, r)

/-- The table of texts of a definition. One that names no columns has those of the table where its rows are kept. -/
def fulltext? (s : Schema) (d : ModuleDefinition) : Option Fulltext :=
  (Fulltext.ofModule? d.moduleName d.arguments).map fun f =>
    match f.columns, f.keeper with
    | [], .elsewhere t _ =>
      { f with columns := ((s.table? t).map fun u => u.columns.map fun c => (c.name, true)).getD [] }
    | _, _ => f

/-! ## Reading objects -/

/-- Why an object does not fit, if more is said of it. -/
abbrev Misfit := Option Text

/-- Fails when something holds. -/
def refuseIf (b : Bool) (m : Misfit) : Except Misfit Unit := if b then .error m else .ok ()

/-- Whether the columns of an expression are all there. Only names that stand alone are looked at. -/
def missingColumn? (columns : List Text) : Term → Option Text
  | .make (.column n) _ _ =>
    if n.table.isNone && !n.isQuoted && !columns.any (sameName · n.column) then some n.column else none
  | .make (.collate (.column n) _) _ _ =>
    if n.table.isNone && !n.isQuoted && !columns.any (sameName · n.column) then some n.column else none
  | _ => none

/-- The first name that stands for a second time in a list. -/
def repeated? : List Text → Option Text
  | [] => none
  | n :: ns => (ns.find? (sameName n)).or (repeated? ns)

/-- A schema with what an object defines. -/
def withDefinition (s : Schema) (o : Object) (d : Definition) : Except Misfit Schema := do
  let fits := fun (kind : String) (name table : Text) =>
    o.kind == kind.toList && sameName o.name name && sameName o.table table
  let taken := fun (kind : String) (name : Text) =>
    some (kind.toList ++ ' ' :: name ++ " already exists".toList)
  match d with
  | .table d =>
    refuseIf (!fits "table" d.name d.name) none
    refuseIf (s.hasRelation d.name) (taken "table" d.name)
    match repeated? (d.columns.map (·.name)) with
    | some n => .error (some ("duplicate column name: ".toList ++ n))
    | none => pure ()
    refuseIf (1 < (d.keys.filter (·.isPrimary)).length)
      (some ("table \"".toList ++ d.name ++ "\" has more than one primary key".toList))
    .ok { s with tables := s.tables ++ [Table.ofDefinition d] }
  | .kept d =>
    refuseIf (!fits "table" d.name d.name) none
    refuseIf (s.hasRelation d.name) (taken "table" d.name)
    match s.fulltext? d with
    | some f => .ok { s with tables := s.tables ++ [Table.ofFulltext d.name f] }
    | none => .ok { s with foreigns := s.foreigns ++ [d] }
  | .view v =>
    refuseIf (!fits "view" v.name v.name) none
    refuseIf (s.hasRelation v.name) (taken "view" v.name)
    .ok { s with views := s.views ++ [v] }
  | .index d =>
    match s.table? d.table with
    | none => .error (some ("no such table: main.".toList ++ d.table))
    | some t =>
      refuseIf (!fits "index" d.name t.name) none
      refuseIf (s.index? d.name).isSome (taken "index" d.name)
      match d.parts.findSome? (missingColumn? (t.columns.map (·.name))) with
      | some c => .error (some ("no such column: ".toList ++ c))
      | none => .ok (s.setTable { t with indexes := Table.withIndex (Index.ofDefinition t d) t.indexes })
  | .trigger d =>
    refuseIf (!s.hasRelation d.table) (some ("no such table: main.".toList ++ d.table))
    refuseIf (o.kind != "trigger".toList || !sameName o.name d.name) none
    refuseIf (d.timing = .instead && (s.view? d.table).isNone)
      (some ("cannot create INSTEAD OF trigger on table: ".toList ++ d.table))
    refuseIf (d.timing ≠ .instead && (s.view? d.table).isSome)
      (some ("cannot create ".toList ++
        (if d.timing = .before then "BEFORE" else "AFTER").toList ++ " trigger on view: ".toList ++ d.table))
    .ok { s with triggers := d :: s.triggers }

/-- A schema with an object. -/
def withObject (s : Schema) (o : Object) : Except Misfit Schema :=
  let definition := o.definition.getD []
  if o.content = .unplaced then .error none
  else if (definition.take 2).map Char.toLower = "cr".toList then
    match Definition.ofText? definition with
    | .error flaw => .error (some flaw.message)
    | .ok d => do
      refuseIf o.isMisplaced (some "invalid rootpage".toList)
      s.withDefinition o d
  else if !definition.isEmpty then .error none
  else do
    refuseIf (s.index? o.name).isNone (some "orphan index".toList)
    refuseIf o.isMisplaced (some "invalid rootpage".toList)
    .ok s

/-- The schema of some objects, or the name of the first one that does not fit with what is said of it. -/
def ofObjects? : List Object → Schema → Except (Text × Misfit) Schema
  | [], s => .ok s
  | o :: os, s =>
    match s.withObject o with
    | .error m => .error (o.name, m)
    | .ok s => ofObjects? os s

end Schema
end Upkeep.Sql
