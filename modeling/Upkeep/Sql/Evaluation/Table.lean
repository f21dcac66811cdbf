import Upkeep.Sql.State
import Upkeep.Sql.Evaluation.Formula

/-!
# The rows of tables

* `tableRows e t`: the rows of a table, with the columns that are not stored.
* `orderedRows e t i`: the rows of a table in the order of an index.
* `Evaluator.ruled e r f`: the value of an expression in the definition of a table, for a row.
* `IndexRule.key? rule e r`: the values of a row in the key of an index.
-/

namespace Upkeep.Sql
open Database (Value Encoding)

def rulesOf (t : Table) : Run Rules := do
  let s ← get
  match s.rules.lookup (State.keyOf t) with
  | some rules => return rules
  | none =>
    let rules := Rules.ofTable s.schema t
    modify fun s => { s with rules := (State.keyOf t, rules) :: s.rules }
    return rules

namespace Evaluator

/-- The value of an expression in the definition of a table, for a row. -/
def ruled (e : Evaluator) (r : Row) (f : Formula) : Run Value := do
  return (← e.value ((Env.outermost []).push (.ofTuples [r.tuple])) f).value

/-- A row with its computed columns, those that are stored only if asked for. A column may hang on others that
are computed, so all are computed as often as there are some. -/
def computed (e : Evaluator) (t : Table) (withStored : Bool) (r : Row) : Run Row := do
  let all := (← rulesOf t).computed.filter fun (i, _) =>
    (t.columns[i]?).any fun c => c.generated.any fun (_, isStored) => withStored || !isStored
  (all.flatMap fun _ => all).foldlM (fun r (i, f) => do
    let v ← e.ruled r f
    let kept := (t.columns[i]?).elim v fun c => c.affinity.keep v
    return { r with values := r.values.set i kept }) r

end Evaluator

/-- The values of parts of a key as values by which rows are put in order. -/
def KeyPart.sortKeys (ps : List KeyPart) (vs : List Value) : List SortKey :=
  (ps.zip vs).map fun (p, v) =>
    ⟨v, (Collation.ofName? p.collation).getD .plain, p.isDescending, !p.isDescending⟩

/-- The entry of a row in an index, when its key is known: what leads to the row stands behind, its number or what
the index does not have of the primary key. -/
def Row.entry (r : Row) (t : Table) (i : Index) (key : List Value) : List Value :=
  key ++ if t.hasNumbers then [.integer r.number]
    else (i.rest t).map fun p => ((p.column.bind fun c => r.values[c]?).getD .null)

/-- The values of an entry of an index as values by which entries are put in order. -/
def Index.entryKeys (i : Index) (t : Table) (entry : List Value) : List SortKey :=
  let behind := entry.drop i.parts.length
  KeyPart.sortKeys i.parts entry ++
    if t.hasNumbers then behind.map fun v => ⟨v, .plain, false, true⟩ else KeyPart.sortKeys (i.rest t) behind

/-- The values of a row in the key of an index, unless the index leaves the row out. -/
def IndexRule.key? (rule : IndexRule) (e : Evaluator) (r : Row) : Run (Option (List Value)) := do
  let isIn ← match rule.condition with
    | none => pure true
    | some c => do pure ((← e.ruled r c).truth? == some true)
  if isIn then some <$> rule.parts.mapM (e.ruled r) else return none

def Index.keyOrder (i : Index) (enc : Encoding) (vs ws : List Value) : Ordering :=
  SortKey.compare enc (KeyPart.sortKeys i.parts vs) (KeyPart.sortKeys i.parts ws)

/-- The rows that a table keeps itself. Columns that are not stored are computed. -/
def ownRows (e : Evaluator) (t : Table) : Run (List Row) := do
  let s ← get
  match s.contents.lookup (State.keyOf t) with
  | some rows => return rows
  | none =>
    match t.rows? s.database with
    | none => Run.fail .damaged
    | some rows =>
      let isPlain := t.columns.all fun c => c.generated.all fun (_, isStored) => isStored
      let rows ← if isPlain then pure rows else rows.mapM (e.computed t false)
      modify fun s => s.withRows t rows
      return rows

/-! ## Tables of texts -/

/-- The table that a table of texts has beside it for some purpose. -/
def Table.aside? (t : Table) (part : String) : Run (Option Table) := do
  return (← get).schema.table? (t.name ++ '_' :: part.toList)

def Table.textRow (t : Table) (number : Int) (texts : List Value) : Row :=
  ⟨number, t.columns.mapIdx fun i _ =>
    if t.numberColumn = some i then .integer number else (texts[i]?).getD .null⟩

def markedName (n : Text) : Text := '"' :: n.flatMap (fun c => if c = '"' then ['"', '"'] else [c]) ++ ['"']

/-- The query for the rows of a table of texts in another table. -/
def Fulltext.query (f : Fulltext) (table number : Text) : Text :=
  let column := fun (n : Text) => "T.".toList ++ markedName n
  "SELECT ".toList ++ ", ".toList.intercalate (column number :: f.columns.map fun (c, _) => column c) ++
    " FROM ".toList ++ markedName table ++ " T ORDER BY ".toList ++ column number

def textRows (e : Evaluator) (q : Text) : Run (List (List Value)) := do
  match Grammar.statement? q with
  | .ok (.select q) =>
    let s ← get
    let found ← Run.lift ((Resolve.run ((Resolver.ofSchema s.schema).query .outermost q)).mapError Problem.unplaced)
    set { s with kept := [] }
    let rows ← e.firstRows (Env.outermost []) none found.plan
    modify fun now => { now with kept := s.kept }
    return rows.map fun r => r.map (·.value)
  | _ => Run.fail .damaged

/-- The rows of a table of texts. -/
def Fulltext.rows (e : Evaluator) (t : Table) (f : Fulltext) : Run (List Row) := do
  match f.keeper with
  | .beside =>
    match ← t.aside? "content" with
    | some own => return (← ownRows e own).map fun r => t.textRow r.number (r.values.drop 1 |>.take f.columns.length)
    | none => Run.fail .damaged
  | .nowhere _ =>
    match f.edition, ← t.aside? "docsize" with
    | .fifth, some own => return (← ownRows e own).map fun r => t.textRow r.number []
    | _, _ => Run.fail (.failed "SQL logic error".toList)
  | .elsewhere table number =>
    return (← textRows e (f.query table number)).map fun vs => t.textRow (vs.head?.getD .null).toInt (vs.drop 1)

def Fulltext.textsOf (f : Fulltext) (r : Row) : List Text :=
  (r.values.take f.columns.length).map fun v => if v.isNull then [] else v.chars

/-- The table beside a table of texts that keeps blocks of bytes. -/
def Fulltext.blocks? (t : Table) (f : Fulltext) : Run (Option Table) :=
  t.aside? (if f.edition = .fifth then "data" else "segments")

/-- The number of the block that has the words of a row whose texts are not kept beside the table. -/
def Fulltext.blockNumber (number : Int) : Int := (Nat.pow 2 62 : Nat) + number

/-- The rows of a table of texts whose words are known, with their texts. -/
def Fulltext.wordedRows (e : Evaluator) (t : Table) (f : Fulltext) : Run (List (Row × List Text)) := do
  let known ← match ← t.aside? "docsize" with
    | some own => do pure (some ((← ownRows e own).map (·.number)))
    | none => pure none
  match f.keeper with
  | .beside => return (← f.rows e t).map fun r => (r, f.textsOf r)
  | keeper =>
    let rows ← match keeper with
      | .elsewhere .. => f.rows e t
      | _ => pure []
    let blocks ← match ← f.blocks? t with
      | some own => ownRows e own
      | none => pure []
    return (known.getD (rows.map (·.number))).map fun n =>
      let block : Option Value := (blocks.find? (·.number == blockNumber n)).bind fun r => r.values[1]?
      let row := (rows.find? (·.number == n)).getD (t.textRow n [])
      (row, ((block.bind unpacked?).map fun vs => vs.map Value.chars).getD (f.textsOf row))

def tableRows (e : Evaluator) (t : Table) : Run (List Row) :=
  match t.fulltext with
  | none => ownRows e t
  | some f => f.rows e t

/-- The rows of a table of texts in which something is found, for each of some values in one column or in any. What
is known of how they were found stands in the hidden columns. -/
def foundRows (e : Evaluator) (t : Table) (columns : List (Option Nat)) (wanted : List Value) : Run (List Row) := do
  match t.fulltext with
  | none => return []
  | some f =>
    let sought ← (columns.zip wanted).mapM fun (c, v) => do
      if v.isNull && f.edition ≠ .fifth then return Sought.nothing
      else match Sought.ofText? f (if v.isNull then [] else v.chars) with
        | .ok s => return c.elim s fun c => s.inside [c]
        | .error m => Run.fail (.failed m)
    let rows ← f.wordedRows e t
    let all := match sought with
      | [] => Sought.nothing
      | s :: more => more.foldl Sought.both s
    let width := f.columns.length
    return (all.found f (rows.map (·.2))).filterMap fun (i, rank, known) =>
      (rows[i]?).map fun (r, _) =>
        let values := r.values.set width known
        { r with values := if f.edition = .fifth then values.set (width + 1) rank else values }

/-- The rows of a table in the order of an index, those that the index has. Rows with the same key come in the order
of what leads from it to them. -/
def orderedRows (e : Evaluator) (t : Table) (i : Index) : Run (List Row) := do
  let place := (State.keyOf t, Text.toLower i.name)
  match (← get).orders.lookup place with
  | some rows => return rows
  | none =>
    let rows ← reached t [i] (← tableRows e t)
    match (← rulesOf t).indexes.find? fun rule => sameName rule.index.name i.name with
    | none => return rows
    | some rule =>
      let enc ← encoding
      let keyed ← rows.filterMapM fun r => do
        return (← rule.key? e r).map fun key => (i.entryKeys t (r.entry t i key), r)
      let sorted := (keyed.mergeSort fun a b => SortKey.compare enc a.1 b.1 != .gt).map (·.2)
      modify fun s => { s with orders := (place, sorted) :: s.orders }
      return sorted

end Upkeep.Sql
