import Upkeep.Sql.Evaluation.Table
import Upkeep.Sql.Json.Listing
import Upkeep.Sql.Plan.Flattening

/-!
# The rows of several sources

The sources of a selection are gone through one inside of the other, and every condition is looked at as soon as
the rows are there that it asks for.

* `visitJoined`: visits the rows of the sources of a selection, as far as they belong together.
-/

namespace Upkeep.Sql
open Database (Value)

/-!
## The legs of a way

The sources of a selection are gone through one inside of the other. Which comes first, and in which order the
rows of a table come, makes no difference to what is found, but to the order in which it is.

* `Route.ofSelection`: the legs of the way through the sources of a selection.
-/

/-- A leg of the way through the sources of a selection: a source, how its rows are reached, and the conditions
that can be looked at as soon as one of them is there. -/
structure Leg where
  source : Nat
  supply : Supply
  approach : Approach
  conditions : List Formula

/-- The way through the sources of a selection, with the conditions that hang on none of them. -/
structure Route where
  constants : List Formula
  legs : List Leg

namespace Route

/-- The conditions by the legs at which they can be looked at. -/
def placed (legs : List Leg) (conditions : List Formula) : List Leg :=
  let order := legs.map (·.source)
  let last := fun (f : Formula) =>
    (f.sources.map fun s => (order.idxOf? s).getD 0).foldl max 0
  let found := conditions.map fun f => (last f, f)
  legs.mapIdx fun i l => { l with conditions := (found.filter fun (k, _) => k == i).map (·.2) }

/-- The sources in the order of a course, those that it does not name last. -/
def stops (n : Nat) : Course → List (Nat × Approach)
  | .make stops _ =>
    stops ++ ((List.range n).filter fun i => !stops.any (·.1 == i)).map fun i => (i, .straight false)

/-- Conditions with those first that hang on no query. -/
def easyFirst (conditions : List Formula) : List Formula :=
  let (easy, hard) := conditions.partition fun f => f.plans.isEmpty
  easy ++ hard

/-- The way through the sources of a selection. -/
def ofSelection (supplies : List Supply) (conditions : List Formula) (course : Course) : Route :=
  let (some_, none_) := conditions.partition fun f => !f.sources.isEmpty
  let legs := (stops supplies.length course).filterMap fun (i, approach) =>
    (supplies[i]?).map fun s => (⟨i, s, approach, []⟩ : Leg)
  ⟨none_, placed legs (easyFirst some_)⟩

end Route

/-! ## Rows -/

/-- A row of a listing of a document. -/
def Json.Row.tuple (document root : Value) (i : Nat) (r : Json.Row) : Tuple :=
  let value := (Function.valueOf r.node).value
  ⟨.integer i,
    [r.key, value, .ofText r.node.typeWord, if r.node.hasParts then .null else value, .integer r.id,
      r.parent.elim .null fun n => .integer n, .ofText r.fullKey, .ofText r.path, document, root]⟩

/-- The rows that a function lists of a document. -/
def documentRows (list : Json.Node → Text → Option (List Json.Row)) (args : List Value) :
    Except Problem (List Tuple) := do
  let document := args.head?.getD .null
  let root := (args[1]?).getD (.ofText ['$'])
  match ← Function.document? document with
  | none => return []
  | some n =>
    if root.isNull then return []
    else
      let way := Function.shownChars root
      match list n way with
      | none => .error (Function.badWay way)
      | some rows => return rows.mapIdx (Json.Row.tuple document root)

def TableFunction.rows (e : Evaluator) (args : List Value) : TableFunction → Run (List Tuple)
  | .members => Run.lift (documentRows Json.members args)
  | .nodes => Run.lift (documentRows Json.nodes args)
  | .search t columns => do return (← foundRows e t columns args).map Row.tuple

/-- The rows of a source. `env` is the place outside of the selection, and `tuples` are the rows of the sources
that are there. -/
def Origin.rows (e : Evaluator) (env : Env) (tuples : List Tuple) : Origin → Run (List Tuple)
  | .table t _ => do return (← tableRows e t).map Row.tuple
  | .objects => do return (← get).listRows.map fun r => ⟨.integer r.number, r.values⟩
  | .plan _ k p => do return (← e.rows env k none p).map fun r => .plain (r.map (·.value))
  | .current => return [env.current]
  | .function f args => do
    let ds ← e.values (env.push (.ofTuples tuples)) args
    f.rows e (ds.map (·.value))

/-- Visits the rows of a source. Those of a query are made one by one, unless they are kept. -/
def Origin.visit {σ : Type} (e : Evaluator) (env : Env) (tuples : List Tuple) (o : Origin) (s : σ)
    (f : Visit σ Tuple) : Run (ForInStep σ) := do
  match o with
  | .plan _ k p =>
    let kept := (← get).kept
    match k.bind fun n => kept.lookup n with
    | some rows => visitAll f (rows.map fun r => .plain (r.map (·.value))) s
    | none =>
      e.visit env p (ForInStep.yield s) fun s row => do
        match ← f (behind s) (.plain (row.map (·.value))) with
        | .done s => return .done (.done s)
        | .yield s => return .yield (.yield s)
  | o => visitAll f (← o.rows e env tuples) s

/-- Rows put in order by their values in some columns. -/
def sortedTuples (columns : List Nat) (ts : List Tuple) : Run (List Tuple) := do
  let keyed := ts.map fun t => (columns.map fun i => (⟨t.at_ i, .up .plain⟩ : SortKey), t)
  return (inOrder (← encoding) keyed).map (·.2)

/-- The rows of a source in the order in which they are reached. Before rows are put in an order on the spot, only
those are kept that fulfil some conditions. -/
def Approach.rows (e : Evaluator) (env : Env) (tuples : List Tuple) (source : Nat) (o : Origin)
    (conditions : List Formula) : Nat → Approach → Run (List Tuple)
  | 0, _ => Run.fail .tooDeep
  | d + 1, x =>
    match x with
    | .straight isBackward => do
      let rows ← o.rows e env tuples
      return if isBackward then rows.reverse else rows
    | .through i _ isBackward =>
      match o with
      | .table t _ => do
        let rows := (← orderedRows e t i).map Row.tuple
        return if isBackward then rows.reverse else rows
      | o => o.rows e env tuples
    | .sorted columns => do
      let rows ← (← o.rows e env tuples).filterM fun t =>
        e.allHold (env.push (.ofTuples (tuples.set source t))) conditions
      sortedTuples columns rows
    | .either sides => do
      let fulfils := fun (f : Formula) (t : Tuple) => e.holds (env.push (.ofTuples (tuples.set source t))) f
      let found ← (sides.zipIdx).mapM fun ((f, x), k) => do
        (← x.rows e env tuples source o conditions d).filterM fun t => do
          if ← fulfils f t then
            let met ← (sides.take k).anyM fun (g, _) => fulfils g t
            return !met
          else return false
      return found.flatten

/-- Visits the rows of sources one inside of the other. Those of the first source may be made one by one. -/
def visitLegs {σ : Type} (e : Evaluator) (env : Env) (f : Visit σ (List Tuple)) :
    Bool → List Leg → List Tuple → σ → Run (ForInStep σ)
  | _, [], tuples, s => f s tuples
  | isFirst, leg :: legs, tuples, s => do
    let within := fun (ts : List Tuple) => env.push (.ofTuples ts)
    let goOn := fun (s : σ) (ts : List Tuple) => do
      if ← e.allHold (within ts) leg.conditions then visitLegs e env f false legs ts s else return .yield s
    let step : Visit (Bool × σ) Tuple := fun (isMet, s) t => do
      let ts := tuples.set leg.source t
      if ← e.allHold (within ts) leg.supply.conditions then
        match ← goOn s ts with
        | .done s => return .done (true, s)
        | .yield s => return .yield (true, s)
      else return .yield (isMet, s)
    let found ← match isFirst, leg.approach with
      | true, .straight false => leg.supply.origin.visit e env tuples (false, s) step
      | _, approach => do
        let conditions := if leg.supply.kind == .left then leg.supply.conditions
          else leg.supply.conditions ++ leg.conditions
        visitAll step (← approach.rows e env tuples leg.source leg.supply.origin conditions depth) (false, s)
    match found with
    | .done (_, s) => return .done s
    | .yield (isMet, s) =>
      if !isMet && leg.supply.kind == .left then goOn s (tuples.set leg.source .missing) else return .yield s

/-- The rows of sources put together, where rows of a source may be there without those before it. -/
def joinedRows (e : Evaluator) (env : Env) : List Leg → List (List Tuple) → Run (List (List Tuple))
  | [], lefts => return lefts
  | leg :: legs, lefts => do
    let ⟨origin, kind, conditions⟩ := leg.supply
    let shape := lefts.head?.getD []
    let rights ← origin.rows e env shape
    let met ← lefts.mapM fun left => do
      let rights ← match origin with
        | .function .. => origin.rows e env left
        | _ => pure rights
      let found ← (rights.zipIdx).filterM fun (t, _) =>
        e.allHold (env.push (.ofTuples (left.set leg.source t))) conditions
      let rows := found.map fun (t, _) => left.set leg.source t
      let isOpen := rows.isEmpty && (kind == .left || kind == .full)
      return (if isOpen then [left.set leg.source .missing] else rows, found.map (·.2))
    let seen := met.flatMap (·.2)
    let alone := if kind == .right || kind == .full then
        (rights.zipIdx).filterMap fun (t, i) =>
          if seen.contains i then none
          else some ((shape.map fun _ => Tuple.missing).set leg.source t)
      else []
    joinedRows e env legs (met.flatMap (·.1) ++ alone)

/-- Visits the rows of the sources of a selection, as far as they belong together. -/
def visitJoined {σ : Type} (e : Evaluator) (env : Env) (supplies : List Supply) (conditions : List Formula)
    (course : Course) (s : σ) (f : Visit σ (List Tuple)) : Run (ForInStep σ) := do
  let route := Route.ofSelection supplies conditions course
  let start := supplies.map fun _ => Tuple.missing
  if !(← e.allHold (env.push (.ofTuples start)) route.constants) then return .yield s
  else if Supply.reverses supplies then
    let rows ← joinedRows e env (route.legs) [start]
    let kept ← rows.filterM fun ts => e.allHold (env.push (.ofTuples ts)) conditions
    visitAll f kept s
  else visitLegs e env f true route.legs start s

end Upkeep.Sql
