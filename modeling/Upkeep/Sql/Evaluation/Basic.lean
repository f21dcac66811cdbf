import Upkeep.Sql.Operator
import Upkeep.Sql.Rule
import Upkeep.Sql.State

/-!
# Where formulas are evaluated

A formula is evaluated inside of selections, each of which has a row of every source. Rows are handed on one by
one to whoever asks for them, who may stop at any of them.

* `Env`: the rows that a formula sees.
* `Evaluator`: the values of formulas and the rows of queries that lie one level deeper.
-/

namespace Upkeep.Sql
open Database (Value Encoding)

/-- A row of a source: its number, if it has one, and its values. -/
structure Tuple where
  number : Value
  values : List Value

namespace Tuple

/-- The row of a source that has none: it has nothing in every column. -/
def missing : Tuple := ⟨.null, []⟩

def plain (values : List Value) : Tuple := ⟨.null, values⟩

def at_ (t : Tuple) (i : Nat) : Value := (t.values[i]?).getD .null

end Tuple

/-- A row of a table as a row of a source. -/
def Row.tuple (r : Row) : Tuple := ⟨.integer r.number, r.values⟩

/-- What a formula sees of a selection: a row of every source, and the values of its functions of many rows and
of those with windows. -/
structure Sight where
  tuples : List Tuple
  totals : List Datum
  windows : List Datum

namespace Sight

def empty : Sight := ⟨[], [], []⟩

/-- A selection that has rows and has computed nothing. -/
def ofTuples (tuples : List Tuple) : Sight := ⟨tuples, [], []⟩

end Sight

/-- Where a formula is evaluated: the selections around it, the innermost first, the values of parameters, and
the row from which a step of a recursion goes on. -/
structure Env where
  sights : List Sight
  parameters : List Value
  current : Tuple

namespace Env

/-- Where no row is known. -/
def outermost (parameters : List Value) : Env := ⟨[], parameters, .missing⟩

/-- The place inside of one more selection. -/
def push (env : Env) (g : Sight) : Env := { env with sights := g :: env.sights }

def out (env : Env) (levels : Nat) : Env := { env with sights := env.sights.drop levels }

/-- The row of a source of the innermost selection. -/
def tuple (env : Env) (source : Nat) : Tuple :=
  ((env.sights.head?).bind fun f => f.tuples[source]?).getD .missing

end Env

/-- What is done with each of some rows: it makes another state, and says whether it wants more. -/
abbrev Visit (σ α : Type) := σ → α → Run (ForInStep σ)

/-- The values of formulas, of rows of values, and the rows of queries, that lie one level deeper. -/
structure Evaluator where
  value : Env → Formula → Run Datum
  cells : Env → Formula → Run (List Datum)
  visit : {σ : Type} → Env → Plan → σ → Visit σ (List Datum) → Run σ

/-- Visits rows that are there, up to the one behind which no more are wanted. -/
def visitAll {σ α : Type} (f : Visit σ α) : List α → σ → Run (ForInStep σ)
  | [], s => return .yield s
  | a :: as, s => do
    match ← f s a with
    | .done s => return .done s
    | .yield s => visitAll f as s

def behind {σ : Type} : ForInStep σ → σ
  | .done s => s
  | .yield s => s

namespace Evaluator

def holds (e : Evaluator) (env : Env) (f : Formula) : Run Bool := do
  return (← e.value env f).value.truth? == some true

def allHold (e : Evaluator) (env : Env) (fs : List Formula) : Run Bool := fs.allM (e.holds env)

def firstRows (e : Evaluator) (env : Env) (most : Option Nat) (p : Plan) : Run (List (List Datum)) := do
  let (found, _) ← e.visit env p ([], 0) fun (found, n) row =>
    return if most.any (· ≤ n + 1) then ForInStep.done (row :: found, n + 1) else .yield (row :: found, n + 1)
  return found.reverse

/-- The first rows of a query, which are kept if it hangs on nothing around it. -/
def rows (e : Evaluator) (env : Env) (k : Keeping) (most : Option Nat) (p : Plan) : Run (List (List Datum)) := do
  match k with
  | none => e.firstRows env most p
  | some n =>
    match (← get).kept.lookup n with
    | some rows => return rows
    | none =>
      let rows ← e.firstRows env most p
      modify fun s => { s with kept := (n, rows) :: s.kept }
      return rows

/-- The values by which a row is put in order. -/
def sortKeys (e : Evaluator) (env : Env) (ts : List SortTerm) : Run (List SortKey) :=
  ts.mapM fun t => do return ⟨(← e.value env t.formula).value, t.direction⟩

def values (e : Evaluator) (env : Env) (fs : List Formula) : Run (List Datum) := fs.mapM (e.value env)

end Evaluator

/-- How the file writes texts. -/
def encoding : Run Encoding := return (← get).database.encoding

end Upkeep.Sql
