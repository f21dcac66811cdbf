import Upkeep.Sql.Change.Row

/-!
# Numbers of new rows

A new row has the number behind the greatest one of its table. A table may be asked never to use a number again:
the greatest number that it has had is then kept in a table of its own. It is looked up when a statement begins
and written down when the statement ends.

* `newNumber t`: the number of a new row.
* `beginNumbering`, `endNumbering`: what happens around a statement.
-/

namespace Upkeep.Sql
open Database (Value)

/-- The table that keeps the greatest numbers of tables. -/
def sequenceName : Text := "sqlite_sequence".toList

/-- Looks up the greatest number that rows of a table have had. -/
def lookUpNumber (q t : Table) : Run Unit := do
  let row := (← tableRows evaluator q).find? fun r => r.values.head? == some (.ofText t.name)
  let n := ((row.bind fun r => r.values[1]?).getD Value.null).toInt
  modify fun s => { s with greatest := (State.keyOf t, ⟨row.map (·.number), n, n⟩) :: s.greatest }

/-- Looks up the greatest numbers that rows of some tables have had. -/
def beginNumbering (ts : List Table) : Run Unit := do
  modify fun s => { s with greatest := [] }
  match (← get).schema.table? sequenceName with
  | none => return
  | some q =>
    ts.forM fun t => do
      if t.isAutoincrement && ((← get).greatest.lookup (State.keyOf t)).isNone then lookUpNumber q t

def noteNumber (t : Table) (n : Int) : Run Unit :=
  modify fun s =>
    { s with greatest := s.greatest.map fun (k, g) =>
        if k = State.keyOf t then (k, { g with number := max g.number n }) else (k, g) }

def greatestNumber? (t : Table) : Run (Option Int) := do
  return (← tableRows evaluator t).foldl (fun (m : Option Int) r => some (m.elim r.number (max r.number))) none

def newNumber (t : Table) : Run Int := do
  let greatest ← greatestNumber? t
  match (← get).greatest.lookup (State.keyOf t) with
  | some g => return max g.number (greatest.getD 0) + 1
  | none => return greatest.elim 1 (· + 1)

/-- Writes down the greatest numbers that rows of tables have had, those that are new. -/
def endNumbering : Run Unit := do
  let s ← get
  match s.schema.table? sequenceName with
  | none => return
  | some q =>
    s.greatest.reverse.forM fun (k, g) => do
      match s.schema.tables.find? fun t => State.keyOf t == k with
      | none => return
      | some t =>
        let values := [Value.ofText t.name, .integer g.number]
        match g.keeper with
        | some n => if g.before < g.number then putRow q (some n) ⟨n, values⟩
        | none => putRow q none ⟨(← greatestNumber? q).elim 1 (· + 1), values⟩

/-- The number that a value gives a row, if it gives one. -/
def numberOf : Value → Run (Option Int)
  | .null => return none
  | v =>
    match Affinity.integer.apply v with
    | .integer n => return some n
    | _ => Run.fail .wrongType

end Upkeep.Sql
