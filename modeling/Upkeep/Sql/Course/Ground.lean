import Upkeep.Sql.Plan.Rewriting
import Upkeep.Sql.Rule
import Upkeep.Text.Basic

/-!
# What is known of sources

Before rows are looked at, a source is known by how many rows it may have, how wide they are, and in which orders
they can be reached: a table in the order of its own rows and in those of its indexes. An order is a ladder, whose
rungs are the values that come one behind the other in it.

* `Ground.ofOrigin`: what is known of a source.
-/

namespace Upkeep.Sql

/-!
## Estimates

How many rows there may be and how much work they make is known only roughly, so numbers are handled by their
size: ten times the logarithm to the base two.

* `Estimate.ofNat n`: the size of a number.
* `Estimate.plus a b`: the size of a sum.
-/

/-- The size of a number: ten times its logarithm to the base two. The size of a product is a sum. -/
abbrev Estimate := Int

namespace Estimate

def eighths : List Int := [0, 2, 3, 5, 6, 7, 8, 9]

/-- The size of a number. What is less than one counts as one. -/
def ofNat (n : Nat) : Estimate :=
  if n < 2 then 0
  else
    let k := n.log2
    10 * (k : Int) + (eighths[n * 8 / Nat.pow 2 k % 8]?).getD 0

/-- What a number adds to the size of another one, by how far apart their sizes are. -/
def gains : List Int :=
  [10, 10, 9, 9, 8, 8, 7, 7, 7, 6, 6, 6, 5, 5, 5, 4, 4, 4, 4, 3, 3, 3, 3, 3, 3, 2, 2, 2, 2, 2, 2, 2]

def plus (a b : Estimate) : Estimate :=
  let large := max a b
  let apart := (large - min a b).toNat
  if 49 < apart then large else large + (gains[apart]?).getD 1

/-- The size of the number of steps in which one of many things in order is found. -/
def search (a : Estimate) : Estimate := if a ≤ 10 then 0 else ofNat a.toNat - 33

end Estimate

/-! ## Orders -/

/-- What a row is found by: a column, its number, or a value that is computed from it. -/
inductive Handle where
  | column (i : Nat)
  | number
  | value (f : Formula)

def Handle.same : Handle → Handle → Bool
  | .column i, .column j => i == j
  | .number, .number => true
  | .value f, .value g => f.isSame g
  | _, _ => false

/-- Something that rows are in the order of. -/
structure Rung where
  handle : Handle
  affinity : Affinity
  collation : Collation
  isDescending : Bool
  /-- Whether rows may have nothing there. -/
  mayMiss : Bool

/-- An order in which the rows of a source can be reached. -/
structure Ladder where
  /-- The index that has the order: none for the order of the numbers of rows. -/
  index : Option Index
  rungs : List Rung
  /-- How many of the rungs are the key of the index. Those behind lead to the row. -/
  keys : Nat
  isUnique : Bool
  condition : Option Formula
  /-- How many rows there are that agree in the first rungs: in none, in one, and so on. -/
  rows : List Estimate
  width : Estimate
  /-- Whether the rows themselves stand in this order. -/
  isOwn : Bool

namespace Ladder

/-- How many rows agree in some rungs. -/
def rowsAt (l : Ladder) (n : Nat) : Estimate := (l.rows[n]?).getD 0

def columns (l : Ladder) : List Nat :=
  l.rungs.filterMap fun r => match r.handle with
    | .column i => some i
    | _ => none

/-- Whether no row has nothing in the key. -/
def isWhole (l : Ladder) : Bool := l.isUnique && (l.rungs.take l.keys).all fun r => !r.mayMiss

def hasValues (l : Ladder) : Bool :=
  l.rungs.any fun r => match r.handle with
    | .value _ => true
    | _ => false

def ofNumbers (rows : Estimate) : Ladder :=
  ⟨none, [⟨.number, .integer, .plain, false, false⟩], 1, true, none, [rows, 0], 3, true⟩

end Ladder

/-- What is known of a source. -/
structure Ground where
  kind : JoinKind
  rows : Estimate
  width : Estimate
  numberColumn : Option Nat
  ladders : List Ladder
  /-- Whether the rows are made by a query. -/
  isMade : Bool
  /-- Whether the rows may be put in an order first. -/
  mayBeSorted : Bool
  /-- Whether only one order may be taken. -/
  isBound : Bool
  /-- The sources that the arguments hang on, if the rows are those of a function. -/
  arguments : Option (List Nat)
  /-- What it costs to make the rows, if a function makes them. -/
  making : Estimate

namespace Ground

/-! ## Widths -/

/-- The number that is written first in a text, if it is not too large. -/
def firstNumber (t : Text) : Nat :=
  let digits := (t.dropWhile fun c => !c.isDigit).takeWhile Char.isDigit
  if 10 < digits.length then 0 else Numeral.value digits

def behindWord? (word : Text) : Text → Option Text
  | [] => none
  | c :: t =>
    (behindWord? word t).or (if word.isPrefixOf (c :: t) then some ((c :: t).drop word.length) else none)

/-- How wide a column of a type is, in fours of bytes. -/
def columnWidth (type : Text) : Nat :=
  let t := Text.toLower type
  if t.isEmpty then 1
  else if (Affinity.ofType type).isNumeric then 1
  else
    let sized := (behindWord? "char".toList t).or
      ((behindWord? "blob".toList t).filter fun rest => rest.head? == some '(')
    match sized with
    | some rest => min 255 (firstNumber rest / 4 + 1)
    | none => 5

/-- How wide rows are with columns of some widths. -/
def widthOf (widths : List Nat) : Estimate := .ofNat (4 * widths.foldl (· + ·) 0)

/-! ## Tables -/

/-- How many rows there are in a table of which nothing is known. -/
def usualRows : Estimate := 200

/-- How many rows agree in the first parts of a key, where nothing is known. -/
def usualShares : List Estimate := [33, 32, 30, 28, 26]

/-- The sizes of an index by the number of parts that agree. -/
def shares (keys : Nat) (isUnique isPartial : Bool) : List Estimate :=
  let all := (List.range keys).map fun i => (usualShares[i]?).getD 23
  let all := if isUnique then all.dropLast ++ [0] else all
  (if isPartial then usualRows - 10 else usualRows) :: all

def handleOf (t : Table) (i : Nat) : Handle := if t.numberColumn = some i then .number else .column i

def rungOf (t : Table) (i : Nat) (collation : Collation) (isDescending : Bool) : Rung :=
  let c := t.columns[i]?
  ⟨handleOf t i, (c.map (·.affinity)).getD .none, collation, isDescending,
    t.numberColumn != some i && c.all (·.notNull.isNone)⟩

def rungOfPart (schema : Schema) (t : Table) (source : Nat) (p : KeyPart) : Rung :=
  let collation := (Collation.ofName? p.collation).getD .plain
  match p.column with
  | some i => rungOf t i collation p.isDescending
  | none =>
    let f := ((t.ruleFormula schema p.expr).toOption.getD default).replaced (.shift source)
    ⟨.value f, .none, collation, p.isDescending, true⟩

/-- The order of an index of a table. -/
def ladderOf (schema : Schema) (t : Table) (source : Nat) (i : Index) : Ladder :=
  let isOwn := !t.hasNumbers && i.isPrimary
  let rungs := (if isOwn then t.keyParts else i.parts).map (rungOfPart schema t source)
  let plainRung := fun (c : Nat) => rungOf t c .plain false
  let known := i.parts.filterMap (·.column)
  let behind :=
    if t.hasNumbers then [(⟨.number, .integer, .plain, false, false⟩ : Rung)]
    else if isOwn then ((List.range t.columns.length).filter (!known.contains ·)).map plainRung
    else (i.rest t).map (rungOfPart schema t source)
  let all := rungs ++ behind
  let widths := all.map fun r => match r.handle with
    | .column c => columnWidth (((t.columns[c]?).map (·.type)).getD [])
    | _ => 1
  let condition := i.condition.map fun c =>
    ((t.ruleFormula schema c).toOption.getD default).replaced (.shift source)
  ⟨some i, all, rungs.length, i.isUnique, condition, shares rungs.length i.isUnique i.condition.isSome,
    widthOf widths, isOwn⟩

/-- What is known of a table as a source. -/
def ofTable (schema : Schema) (source : Nat) (kind : JoinKind) (t : Table) (hint : Hint) : Ground :=
  let numbers := if t.hasNumbers then [Ladder.ofNumbers usualRows] else []
  let ladders := match hint with
    | .through n => (t.indexes.filter fun i => sameName i.name n).map (ladderOf schema t source)
    | .directly => if t.hasNumbers then numbers else (t.primary?.toList).map (ladderOf schema t source)
    | .free => numbers ++ t.indexes.map (ladderOf schema t source)
  let widths := t.columns.map fun c => columnWidth c.type
  let width := widthOf (if t.numberColumn.isNone then 1 :: widths else widths)
  ⟨kind, usualRows, width, t.numberColumn, ladders, false, t.hasNumbers && hint = .free,
    (match hint with | .through _ => true | _ => false), none, 0⟩

/-- How many rows a function makes, where nothing is known. -/
def madeRows : Estimate := 46

/-- What is known of rows that a function makes, by the sources that its arguments hang on. -/
def ofCall (kind : JoinKind) (making : Estimate) (args : List Formula) : Ground :=
  ⟨kind, madeRows, 1, none, [], false, false, false, some ((args.flatMap Formula.sources).eraseDups), making⟩

/-- What is known of a source, when the number of rows is known that a query makes. -/
def ofOrigin (schema : Schema) (source : Nat) (kind : JoinKind) (rows : Estimate) : Origin → Ground
  | .table t hint => if t.fulltext.isSome then ofCall kind 199 [] else ofTable schema source kind t hint
  | .objects => ⟨kind, usualRows, widthOf [5, 5, 5, 1, 5, 1], none, [.ofNumbers usualRows], false, true, false, none, 0⟩
  | .plan _ k _ => ⟨kind, rows, 1, none, [.ofNumbers rows], true, k.isSome, false, none, 0⟩
  | .current => ⟨kind, usualRows, 1, none, [.ofNumbers usualRows], true, false, false, none, 0⟩
  | .function (.search ..) args => ofCall kind 132 args
  | .function _ args => ofCall kind 0 args

end Ground

def Formula.handle? (gs : List Ground) (f : Formula) : Option (Nat × Handle) :=
  match f with
  | .column s i => some (s, if (gs[s]?).any fun g => g.numberColumn == some i then .number else .column i)
  | .number s => some (s, .number)
  | f =>
    (f.sources.find? fun s => (gs[s]?).any fun g => g.ladders.any fun l => l.rungs.any fun r =>
      r.handle.same (.value f)).map fun s => (s, .value f)

end Upkeep.Sql
