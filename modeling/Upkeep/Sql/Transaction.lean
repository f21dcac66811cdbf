import Upkeep.Sql.Storage

/-!
# Statements as texts

A statement is given as a text with the values of its parameters. Several statements make a transaction: its
changes count only when it ends without a problem, and then no reference may be broken.

* `Transaction.execute`: a statement that changes rows, and how many it changed.
* `Transaction.ask`: a query, and its rows with the names of their columns.
* `Transaction.commit`: the end of a transaction.
-/

namespace Upkeep.Sql
open Database (Value Trouble Answer)

namespace Transaction

/-- How deep statements may lie in each other. -/
def fuel : Nat := 100000

/-- Work with a result, or a trouble. -/
def run {α : Type} (statement : Text) (s : State) (work : Run α) : Except Trouble (α × State) :=
  match work.run s with
  | (.ok a, s) => .ok (a, s)
  | (.error (.problem p _), _) => .error (.refused (p.complaint statement))
  | (.error .skipRow, _) => .error (.refused ((Problem.failed []).complaint statement))

def read (statement : Text) : Run Statement :=
  match Grammar.statement? statement with
  | .error flaw => Run.fail (.failed flaw.message)
  | .ok st => return st

/-- A statement that runs next, with the triggers that it may fire. -/
def begin_ (programs : List Program) : Run Unit :=
  modify fun s => { s with immediate := 0, active := [], kept := [], programs }

/-- Carries out a statement that changes rows. -/
def execute (s : State) (mayWrite : Bool) (statement : Text) (parameters : List Value) :
    Except Trouble (Nat × State) :=
  run statement s do
    let (step, programs) ← Run.lift ((← read statement).prepare (← get).schema)
    if !mayWrite then Run.fail .readOnly
    begin_ programs
    beginNumbering ((step :: programs.flatMap (·.steps)).filterMap Step.growing?)
    let work := runStep fuel (.outermost parameters) none step
    let n ← tryCatch (unlessSkipped 0 work) fun stop => do
      match stop with
      | .problem _ true => if 0 < (← get).immediate then Run.fail .reference else throw stop
      | _ => throw stop
    endNumbering
    if 0 < (← get).immediate then Run.fail .reference
    modify fun s => { s with changes := n, allChanges := s.allChanges + n }
    return n

def commit (s : State) : Except Trouble State :=
  if 0 < s.deferred then .error (.refused (Problem.reference.complaint [])) else .ok { s with deferred := 0 }

/-- The rows of a query. -/
def ask (s : State) (statement : Text) (parameters : List Value) : Except Trouble (Answer × State) :=
  run statement s do
    match ← read statement with
    | .select q =>
      let found ← Run.lift (Resolve.run ((Resolver.ofSchema (← get).schema).query .outermost q))
      begin_ []
      let rows ← planRows (.outermost parameters) (found.plan.routed (← get).schema)
      return ⟨found.fields.map (·.name), rows⟩
    | _ => return ⟨[], []⟩

def database (s : State) : Except Trouble Database := Prod.fst <$> run [] s Storage.database

end Transaction
end Upkeep.Sql
