import Upkeep.Sql.Plan

/-!
# Scopes

What the names of an expression stand for. An expression stands inside of selections, each of which has sources
with columns; a name means a column of the innermost selection that has one. What an expression means is a
formula, together with how its values compare.

* `Scope.find n`: what a name stands for.
* `Kind`: how the values of an expression compare.
-/

namespace Upkeep.Sql
open Database (Value)

/-! ## Kinds -/

/-- Which types the values of an expression may have. -/
structure Types where
  numbers : Bool
  texts : Bool
  bytes : Bool
  deriving DecidableEq, Repr

namespace Types

def none : Types := ⟨false, false, false⟩

def any : Types := ⟨true, true, true⟩

def number : Types := ⟨true, false, false⟩

def ofValue : Value → Types
  | .null => none
  | .integer _ => number
  | .real _ => number
  | .text _ => ⟨false, true, false⟩
  | .blob _ => ⟨false, false, true⟩

def ofAffinity (a : Affinity) : Types :=
  if a.isNumeric then ⟨true, false, true⟩ else if a = .text then ⟨false, true, true⟩ else any

/-- The types that one of two expressions may have. -/
def or (s t : Types) : Types := ⟨s.numbers || t.numbers, s.texts || t.texts, s.bytes || t.bytes⟩

end Types

/-- How the values of an expression compare. -/
structure Kind where
  affinity : Affinity
  collation : Option Text
  /-- Whether the collation is asked for in the expression itself. -/
  isExplicit : Bool
  types : Types
  deriving DecidableEq, Repr

namespace Kind

def plain (t : Types) : Kind := ⟨.none, none, false, t⟩

/-- The collation of a comparison: one that is asked for, or the first that a side has. -/
def collationWith (a b : Kind) : Text :=
  let names := [(a, a.isExplicit), (b, b.isExplicit), (a, true), (b, true)].filterMap fun (k, counts) =>
    if counts then k.collation else none
  names.head?.getD plainCollation

/-- The kind of an expression with some parts: the first collation that is asked for among them counts. -/
def ofParts (parts : List Kind) (t : Types) : Kind :=
  match parts.find? (·.isExplicit) with
  | some k => ⟨.none, k.collation, true, t⟩
  | none => plain t

end Kind

def namedCollation (name : Text) : Except Problem Collation :=
  match Collation.ofName? name with
  | some c => .ok c
  | none => .error (.unknownCollation name)

def Kind.collationOf (k : Kind) : Except Problem Collation := namedCollation (k.collation.getD plainCollation)

def Kind.comparing (a b : Kind) : Except Problem Comparing := do
  return ⟨a.affinity, b.affinity, ← namedCollation (a.collationWith b)⟩

/-- What an expression means: the formula, how its values compare, one or those of a row, and whether it hangs on
rows that are taken together or on rows around. -/
structure Sense where
  formula : Formula
  kinds : List Kind
  hasAggregate : Bool
  hasWindow : Bool

namespace Sense

/-- A formula of one value that hangs on its own row only. -/
def simple (e : Formula) (k : Kind) : Sense := ⟨e, [k], false, false⟩

/-- How the first value compares. -/
def kind (s : Sense) : Kind := s.kinds.head?.getD (.plain .any)

/-- How many values there are. -/
def width (s : Sense) : Nat := s.kinds.length

def ofParts (e : Formula) (k : Kind) (parts : List Sense) : Sense :=
  ⟨e, [k], parts.any (·.hasAggregate), parts.any (·.hasWindow)⟩

end Sense

/-! ## Sources -/

/-- A column of a source. -/
structure Field where
  name : Text
  affinity : Affinity
  collation : Text
  /-- The label of the source inside of a group of sources that has the column. -/
  label : Option Text
  /-- Whether it stands for a column that sources inside of a group share. -/
  isShared : Bool
  /-- Whether a star does not show it. -/
  isHidden : Bool
  deriving DecidableEq

namespace Field

def plain (name : Text) (a : Affinity) (collation : Text) : Field := ⟨name, a, collation, none, false, false⟩

/-- How the values of a column compare. -/
def kind (f : Field) : Kind := ⟨f.affinity, some f.collation, false, Types.ofAffinity f.affinity⟩

end Field

def Column.field (c : Column) : Field :=
  { Field.plain c.name c.affinity c.collation with isHidden := c.isHidden }

/-- A source of a selection. -/
structure Place where
  label : Option Text
  fields : List Field
  kind : JoinKind
  /-- The columns that a join has from a source before it. -/
  shared : List Text
  /-- Whether its rows have numbers. -/
  isNumbered : Bool
  /-- Whether its columns are only found by its label. -/
  isQualified : Bool
  /-- Whether it is a group of sources. -/
  isGroup : Bool

namespace Place

def ofFields (label : Option Text) (fields : List Field) (isNumbered : Bool) : Place :=
  ⟨label, fields, .inner, [], isNumbered, false, false⟩

def hasLabel (p : Place) (label : Text) : Bool := p.label.any (sameName · label)

/-- The columns of a source that a name means: of a group those of any of its sources, unless they share one. -/
def columns (p : Place) (n : ColumnName) : List Nat :=
  let found := fun (isWanted : Field → Bool) =>
    (p.fields.zipIdx).filterMap fun (f, i) =>
      if sameName f.name n.column && isWanted f then some (f.isShared, i) else none
  let inside := if p.isGroup then
      found fun f => match n.table with
        | some t => f.label.any (sameName · t)
        | none => true
    else []
  let isSeen := match n.table with
    | some t => p.hasLabel t
    | none => !p.isQualified && !p.isGroup
  match inside with
  | (true, i) :: _ => [i]
  | [] => if isSeen then ((found fun _ => true).map (·.2)).take 1 else []
  | found => found.map (·.2)

def named? (p : Place) (name : Text) (withHidden : Bool) : Option Nat :=
  p.fields.findIdx? fun f => sameName f.name name && (withHidden || !f.isHidden)

def isNumberedFor (p : Place) (n : ColumnName) : Bool :=
  p.isNumbered &&
    match n.table with
    | some t => p.hasLabel t
    | none => !p.isQualified

end Place

def numberNames : List Text := ["_rowid_", "rowid", "oid"].map (·.toList)

def isNumberName (name : Text) : Bool := numberNames.any (sameName · name)

def ColumnName.text (n : ColumnName) : Text :=
  ['.'].intercalate ([n.database, n.table, some n.column].filterMap id)

/-- A selection around an expression. -/
structure Level where
  places : List Place
  /-- The names of its columns, where they may be used. -/
  aliases : List (Text × Sense)
  /-- Whether its rows stay the same as long as a statement runs. -/
  isFixed : Bool
  /-- Whether the selections around it are out of sight. -/
  isWall : Bool
  /-- Whether functions of many rows, and those with windows, may stand in it. -/
  mayGather : Bool
  mayLookAround : Bool
  /-- Its windows that have names. -/
  windows : List (Text × WindowDefinition)

def Level.ofPlaces (places : List Place) : Level := ⟨places, [], false, false, false, false, []⟩

/-- A selection of nothing, from which nothing but rows that stay the same is seen. -/
def Level.wall : Level := { Level.ofPlaces [] with isWall := true }

/-- A table with a name that is about to be read, among the named queries of some group counted from the last,
and what is said when it is read inside of itself. -/
structure Pending where
  group : Nat
  name : Text
  complaint : String

/-- Where an expression stands: the selections around it, the innermost first, and the named queries in groups,
the innermost group first. -/
structure Scope where
  levels : List Level
  named : List (List NamedQuery)
  pending : List Pending
  /-- The views that are about to be read. -/
  views : List Text
  /-- The table that stands for the row from which a step of a recursion goes on. -/
  current : Option (Text × List Field)
  isTrigger : Bool

def Scope.outermost : Scope := ⟨[], [], [], [], none, false⟩

/-! ## Names -/

/-- The columns that a name may mean: how many there are, and those that stand for one that is shared. -/
structure Hits where
  count : Nat
  found : List (Nat × Nat)

/-- The columns that a name may mean, with one more source. -/
def Hits.add (n : ColumnName) (h : Hits) (i : Nat) (p : Place) : Hits :=
  (p.columns n).foldl (fun h j =>
    if h.count = 0 ∨ !p.shared.any (sameName · n.column) then ⟨h.count + 1, [(i, j)]⟩
    else match p.kind with
      | .right => ⟨1, [(i, j)]⟩
      | .full => ⟨h.count + 1, h.found ++ [(i, j)]⟩
      | _ => h) h

/-- The value of the first of some columns that has one. -/
def Hits.formula (h : Hits) : Formula :=
  match h.found with
  | [(i, j)] => .column i j
  | found => .firstOf (found.map fun (i, j) => .column i j)

namespace Level

/-- The columns that a name may mean. -/
def hits (l : Level) (n : ColumnName) : Hits :=
  (l.places.zipIdx).foldl (fun h (p, i) => h.add n i p) ⟨0, []⟩

/-- What a name means among the sources of a selection. -/
def column? (l : Level) (n : ColumnName) : Except Problem (Option Sense) :=
  let h := l.hits n
  if h.count = 0 then
    match (l.places.zipIdx).filter fun (p, _) => isNumberName n.column && p.isNumberedFor n with
    | [(_, i)] => .ok (some (.simple (.number i) ⟨.integer, none, false, Types.ofAffinity .integer⟩))
    | _ => .ok none
  else if h.count = h.found.length then
    let kind := (h.found.head?.bind fun (i, j) => (l.places[i]?).bind fun p => p.fields[j]?).map Field.kind
    .ok (some (.simple h.formula (kind.getD (.plain .any))))
  else .error (.ambiguousColumn n.text (some n.start))

/-- The column of a selection that a name means. -/
def alias? (l : Level) (n : ColumnName) : Except Problem (Option Sense) :=
  if n.table.isSome then .ok none
  else match l.aliases.find? fun (a, _) => sameName a n.column with
    | none => .ok none
    | some (a, s) =>
      if s.hasAggregate && !l.mayGather then
        .error (.misplaced ("misuse of aliased aggregate ".toList ++ a) none)
      else if s.hasWindow && !l.mayLookAround then
        .error (.misplaced ("misuse of aliased window function ".toList ++ a) none)
      else if s.width ≠ 1 then .error (.misplaced "row value misused".toList none)
      else .ok (some s)

end Level

def Sense.from_ (s : Sense) (levels : Nat) : Sense :=
  if levels = 0 then s
  else { s with formula := .out levels s.formula, hasAggregate := false, hasWindow := false }

namespace Scope

/-- What a name means that is no column. -/
def otherwise (n : ColumnName) : Except Problem Sense :=
  let truth := fun (b : Bool) => .ok (.simple (.constant (.ofBool? (some b))) (.plain .number))
  if n.table.isSome then .error (.unknownColumn n.text (some n.start))
  else if n.isQuoted then .ok (.simple (.constant (.ofText n.column)) (.plain ⟨false, true, false⟩))
  else if sameName n.column "true".toList then truth true
  else if sameName n.column "false".toList then truth false
  else .error (.unknownColumn n.text (some n.start))

/-- What a name means in some selections, the first of which lies inside of others. -/
def findFrom (n : ColumnName) (fixed : Option (Nat × Level)) : Nat → List Level → Except Problem Sense
  | _, [] => otherwise n
  | k, l :: ls => do
    match ← l.column? n with
    | some s => return s.from_ k
    | none =>
      let outside ← match fixed with
        | some (i, f) => do pure ((← f.column? n).map (·.from_ i))
        | none => pure none
      match outside with
      | some s => return s
      | none =>
        match ← l.alias? n with
        | some s => return s.from_ k
        | none => if l.isWall then otherwise n else findFrom n fixed (k + 1) ls

def find (s : Scope) (n : ColumnName) : Except Problem Sense :=
  let fixed := s.levels.findIdx? (·.isFixed)
  findFrom n (fixed.bind fun i => (s.levels[i]?).map fun l => (i, l)) 0 s.levels

/-- A scope inside of one more selection. -/
def push (s : Scope) (l : Level) : Scope := { s with levels := l :: s.levels, current := none }

end Scope

/-- The columns of a source that a star shows: not those that a join has from sources before it, nor those of
which a group of sources has one that is shared. -/
def Place.shown (p : Place) : List Nat :=
  (p.fields.zipIdx).filterMap fun (f, i) =>
    let isDoubled := !f.isShared && p.fields.any fun g => g.isShared && sameName g.name f.name
    if f.isHidden || isDoubled || p.shared.any (sameName · f.name) then none else some i

/-- The columns of a source that a star behind a label shows. -/
def Place.shownFor (p : Place) (label : Text) : List Nat :=
  let all := p.fields.zipIdx
  if p.hasLabel label then all.filterMap fun (f, i) => if f.isHidden then none else some i
  else if p.isGroup then all.filterMap fun (f, i) => if f.label.any (sameName · label) then some i else none
  else []

def Table.place (t : Table) (label : Text) : Place :=
  .ofFields (some label) (t.columns.map Column.field) t.hasNumbers

/-- Columns with names, of which no two are the same: a name that comes again gets a number. -/
def distinctNames (fs : List Field) : List Field :=
  fs.foldl (fun done f => done ++ [{ f with name := free (done.map (·.name)) done.length 1 f.name f.name }]) []
where
  free (taken : List Text) : Nat → Nat → Text → Text → Text
    | 0, _, _, n => n
    | fuel + 1, k, base, n =>
      if taken.any (sameName n) then free taken fuel (k + 1) base (base ++ ':' :: Text.ofNat k) else n

/-- The columns of a query that get other names. -/
def renamed (columns : List Text) (fs : List Field) : List Field :=
  fs.mapIdx fun i f => { f with name := (columns[i]?).getD f.name }

def listNames : List Text :=
  ["sqlite_master", "sqlite_schema"].map (·.toList)

def listFields : List Field :=
  [("type", Affinity.text), ("name", .text), ("tbl_name", .text), ("rootpage", .integer), ("sql", .text)].map
    fun (n, a) => Field.plain n.toList a plainCollation

def documentFields : List Field :=
  Json.columnNames.mapIdx fun i n =>
    { Field.plain n.toList .blob plainCollation with isHidden := decide (Json.shownColumns ≤ i) }

def TableFunction.named : List (String × TableFunction) := [("json_each", .members), ("json_tree", .nodes)]

end Upkeep.Sql
