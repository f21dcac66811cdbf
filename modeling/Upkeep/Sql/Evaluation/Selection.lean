import Upkeep.Sql.Evaluation.Join
import Upkeep.Sql.Evaluation.Window

/-!
# The rows of queries

* `Selector.visit`: visits the rows of a selection in the order of some terms.
* `Plan.visit`: visits the rows of a query.
* `evaluator`: the values of all formulas and the rows of all queries that lie no deeper in each other than a
  statement can.
-/

namespace Upkeep.Sql
open Database (Value Encoding)

/-! ## Rows that are taken together -/

/-- Things of which no two are the same: the first of them stay. -/
def firstOfSame {α : Type} (same : α → α → Bool) (xs : List α) : List α :=
  (xs.foldl (fun kept x => if kept.any (same · x) then kept else x :: kept) []).reverse

/-- The value of a function of many rows. -/
def AggregateCall.total (e : Evaluator) (env : Env) (rows : List (List Tuple)) : AggregateCall → Run Datum
  | .make f c isDistinct args order filter => do
    let enc ← encoding
    let found ← rows.filterMapM fun ts => do
      let own := env.push (.ofTuples ts)
      let isIn ← match filter with
        | none => pure true
        | some p => e.holds own p
      if isIn then return some (← e.sortKeys own order, ← e.values own args) else return none
    let found := if isDistinct then
        firstOfSame (fun a b => sameRow enc [c] (a.2.map (·.value)) (b.2.map (·.value))) found
      else found
    let sorted := if order.isEmpty then found else inOrder enc found
    Run.lift (f.gather ((← get).surrounding c) (sorted.map (·.2)))

/-- The row of a group that a function of one extreme takes its value from. As long as no row has a value, the
last one counts. -/
def AggregateCall.extremeRow (e : Evaluator) (env : Env) (wanted : Ordering) (rows : List (List Tuple)) :
    AggregateCall → Run (Option (List Tuple))
  | .make _ c _ args _ filter => do
    let enc ← encoding
    let (row, _) ← rows.foldlM (fun (best : Option (List Tuple) × Value) ts => do
      let own := env.push (.ofTuples ts)
      let isIn ← match filter with
        | none => pure true
        | some p => e.holds own p
      if !isIn then return best
      else
        let v ← match args with
          | a :: _ => do pure (← e.value own a).value
          | [] => pure .null
        let isBetter := if v.isNull then best.2.isNull
          else best.2.isNull || Value.compare c enc v best.2 == wanted
        return if isBetter then (some ts, v) else best) (none, .null)
    return row

/-- The row of a group whose columns are seen: that of an extreme, or else the first. -/
def seenRow (e : Evaluator) (env : Env) (calls : List AggregateCall)
    (rows : List (List Tuple)) : Run (Option (List Tuple)) := do
  let extreme := calls.reverse.findSome? fun c => c.function.extreme?.map fun w => (c, w)
  match extreme with
  | some (c, wanted) => return (← c.extremeRow e env wanted rows).or rows.head?
  | none => return rows.head?

/-- What is seen of the groups that rows make. The rows of a group may come one behind the other. -/
def Grouping.sights (e : Evaluator) (env : Env) (isGrouped : Bool) (shape : List Tuple)
    (rows : List (List Tuple)) : Grouping → Run (List Sight)
  | .make keys having calls => do
    let enc ← encoding
    let groups ← if keys.isEmpty then pure [rows]
      else do
        let keyed ← rows.mapM fun ts => do return (← e.sortKeys (env.push (.ofTuples ts)) keys, ts)
        let apart := (if isGrouped then keyed else inOrder enc keyed).splitBy fun a b => SortKey.compare enc a.1 b.1 == .eq
        pure (apart.map fun g => g.map (·.2))
    let found ← groups.mapM fun rows => do
      let totals ← calls.mapM (AggregateCall.total e env rows)
      let seen ← seenRow e env calls rows
      return (⟨seen.getD shape, totals, []⟩ : Sight)
    found.filterM fun g =>
      match having with
      | none => return true
      | some h => e.holds (env.push g) h

/-! ## Selections -/

/-- What is seen of the rows of a selection. -/
def sightsOf (e : Evaluator) (env : Env) (supplies : List Supply) (conditions : List Formula)
    (grouping : Option Grouping) (windows : List WindowCall) (course : Course) : Run (List Sight) := do
  let found ← visitJoined e env supplies conditions course [] fun rows ts => return .yield (ts :: rows)
  let rows := (behind found).reverse
  let sights ← match grouping with
    | none => pure (rows.map Sight.ofTuples)
    | some g => g.sights e env course.isGrouped (supplies.map fun _ => .missing) rows
  withWindows e env windows sights

/-- Visits rows in the order of their values. -/
def visitSorted {σ : Type} (f : Visit σ (List Datum)) (rows : List (List SortKey × List Datum)) (s : σ) :
    Run (ForInStep σ) := do
  visitAll f ((inOrder (← encoding) rows).map (·.2)) s

/-- Visits the rows of a selection in the order of some terms. -/
def Selector.visit {σ : Type} (e : Evaluator) (env : Env) (order : List SortTerm) (s : σ)
    (f : Visit σ (List Datum)) : Selector → Run (ForInStep σ)
  | .values rows => do
    let own := env.push .empty
    if order.isEmpty then visitAll (fun s fs => do f s (← e.values own fs)) rows s
    else
      let found ← rows.mapM fun fs => do return (← e.sortKeys own order, ← e.values own fs)
      visitSorted f found s
  | .select isDistinct results collations supplies conditions grouping windows course => do
    let enc ← encoding
    let isSeen := fun (seen : List (List Value)) (row : List Datum) =>
      isDistinct && seen.any fun r => sameRow enc collations r (row.map (·.value))
    let seenWith := fun (seen : List (List Value)) (row : List Datum) =>
      if isDistinct then row.map (·.value) :: seen else seen
    if grouping.isNone && windows.isEmpty && order.isEmpty then
      let found ← visitJoined e env supplies conditions course (([] : List (List Value)), s) fun (seen, s) ts => do
        let row ← e.values (env.push (.ofTuples ts)) results
        if isSeen seen row then return .yield (seen, s)
        else match ← f s row with
          | .done s => return .done (seen, s)
          | .yield s => return .yield (seenWith seen row, s)
      match found with
      | .done (_, s) => return .done s
      | .yield (_, s) => return .yield s
    else
      let sights ← sightsOf e env supplies conditions grouping windows course
      let (_, found) ← sights.foldlM (fun (seen, rows) g => do
        let row ← e.values (env.push g) results
        if isSeen seen row then return (seen, rows)
        else return (seenWith seen row, (← e.sortKeys (env.push g) order, row) :: rows)) ([], [])
      visitSorted f found.reverse s

/-! ## Queries -/

def Selector.rows (e : Evaluator) (env : Env) (sel : Selector) : Run (List (List Value)) := do
  let found ← sel.visit e env [] [] fun rows row => return .yield (row.map (·.value) :: rows)
  return (behind found).reverse

/-- The values of a row in some columns, by which rows are put in order. -/
def columnKeys (order : List (Nat × Direction)) (row : List Value) : List SortKey :=
  order.map fun (i, d) => ⟨(row[i]?).getD .null, d⟩

/-- An order of rows by some columns, made one by all columns. -/
def completed (collations : List Collation) (order : List (Nat × Direction)) : List (Nat × Direction) :=
  order ++ (collations.mapIdx fun i c => (i, Direction.up c)).filter fun (i, _) => !order.any (·.1 == i)

/-- The rows of two queries put together. Of rows that are the same the last one stays. -/
def SetOp.rows (enc : Encoding) (collations : List Collation) (order : List (Nat × Direction)) (op : SetOp)
    (left right : List (List Value)) : List (List Value) :=
  let same := sameRow enc collations
  let sorted := fun (rows : List (List Value)) =>
    let kept := firstOfSame same rows.reverse
    (inOrder enc (kept.map fun r => (columnKeys (completed collations order) r, r))).map (·.2)
  match op with
  | .unionAll => left ++ right
  | .union => sorted (left ++ right)
  | .except => sorted (left.filter fun r => !right.any (same r))
  | .intersect => sorted (left.filter fun r => right.any (same r))

def mostRows : Nat := 10000000

/-- Rows with one more, behind those that do not come after it. -/
def queued (enc : Encoding) (order : List (Nat × Direction)) (rows : List (List Value)) (row : List Value) :
    List (List Value) :=
  if order.isEmpty then rows ++ [row]
  else
    let key := columnKeys order
    let before := rows.takeWhile fun r => SortKey.notAfter enc (key r) (key row)
    before ++ row :: rows.drop before.length

/-- Rows that wait with some more. If no two may be the same, those that have been seen do not come again. -/
def queuedAll (enc : Encoding) (isDistinct : Bool) (collations : List Collation)
    (order : List (Nat × Direction)) (new : List (List Value)) (waiting seen : List (List Value)) :
    List (List Value) × List (List Value) :=
  new.foldl (fun (waiting, seen) row =>
    if isDistinct && seen.any (sameRow enc collations · row) then (waiting, seen)
    else (queued enc order waiting row, if isDistinct then row :: seen else seen)) (waiting, seen)

/-- Visits rows that wait, and the rows that steps make from them. -/
def visitWaiting {σ : Type} (e : Evaluator) (env : Env) (steps : List Selector)
    (more : List (List Value) → List (List Value) → List (List Value) → List (List Value) × List (List Value))
    (f : Visit σ (List Datum)) : Nat → List (List Value) → List (List Value) → σ → Run (ForInStep σ)
  | 0, _, _, _ => Run.fail .tooDeep
  | _ + 1, [], _, s => return .yield s
  | n + 1, row :: waiting, seen, s => do
    match ← f s (row.map Datum.plain) with
    | .done s => return .done s
    | .yield s =>
      let made ← steps.mapM (Selector.rows e { env with current := .plain row })
      let (waiting, seen) := more made.flatten waiting seen
      visitWaiting e env steps more f n waiting seen s

def bound (e : Evaluator) (env : Env) (f : Formula) : Run Int := do
  match Affinity.integer.apply (← e.value (env.push .empty) f).value with
  | .integer n => return n
  | _ => Run.fail .wrongType

/-- A visit that passes over some rows and takes some more at most. -/
def bounded {σ α : Type} (f : Visit σ α) : Visit (Nat × Option Nat × σ) α
  | (skip + 1, most, s), _ => return .yield (skip, most, s)
  | (0, most, s), a => do
    match ← f s a, most with
    | .done s, _ => return .done (0, most, s)
    | .yield s, none => return .yield (0, none, s)
    | .yield s, some n => return if n ≤ 1 then .done (0, some 0, s) else .yield (0, some (n - 1), s)

/-- Visits the rows of a query, without its bounds. -/
def Plan.visitOpen {σ : Type} (e : Evaluator) (env : Env) (s : σ) (f : Visit σ (List Datum)) :
    Plan → Run (ForInStep σ)
  | .single sel order _ _ => sel.visit e env order s f
  | .compound first more collations order _ _ => do
    let enc ← encoding
    if order.isEmpty && more.all fun (op, _) => op == .unionAll then
      visitAll (fun s sel => Selector.visit e env [] s f sel) (first :: more.map (·.2)) s
    else
      let start ← first.rows e env
      let all ← more.foldlM (fun left (op, sel) => do
        return op.rows enc collations order left (← sel.rows e env)) start
      let sorted := inOrder enc (all.map fun r => (columnKeys order r, r))
      visitAll f (sorted.map fun (_, r) => r.map Datum.plain) s
  | .recursion first steps isDistinct collations order _ _ => do
    let enc ← encoding
    let start := (← e.firstRows env none first).map fun r => r.map (·.value)
    let more := queuedAll enc isDistinct collations order
    let (waiting, seen) := more start [] []
    visitWaiting e env steps more f mostRows waiting seen s

def Plan.limits : Plan → Option Formula × Option Formula
  | .single _ _ limit offset => (limit, offset)
  | .compound _ _ _ _ limit offset => (limit, offset)
  | .recursion _ _ _ _ _ limit offset => (limit, offset)

def Plan.visit {σ : Type} (e : Evaluator) (env : Env) (p : Plan) (s : σ) (f : Visit σ (List Datum)) : Run σ := do
  let (limit, offset) := p.limits
  let most ← limit.mapM (bound e env)
  let skip ← offset.mapM (bound e env)
  let most := (most.filter (0 ≤ ·)).map Int.toNat
  if most = some 0 then return s
  else
    let start := ((skip.getD 0).toNat, most, s)
    return (behind (← p.visitOpen e env start (bounded f))).2.2

/-! ## All depths -/

namespace Evaluator

/-- The values of formulas and the rows of queries that are as deep as some levels. -/
def ofDepth : Nat → Evaluator
  | 0 => ⟨fun _ _ => Run.fail .tooDeep, fun _ _ => Run.fail .tooDeep, fun _ _ _ _ => Run.fail .tooDeep⟩
  | d + 1 =>
    let e := ofDepth d
    ⟨Formula.value e, Formula.cells e, fun env p s f => p.visit e env s f⟩

end Evaluator

/-- The values of formulas and the rows of queries. -/
def evaluator : Evaluator := .ofDepth 5000

def planRows (env : Env) (p : Plan) : Run (List (List Database.Value)) := do
  return (← evaluator.firstRows env none p).map fun r => r.map (·.value)

def valueAt (env : Env) (f : Formula) : Run Database.Value := do
  return (← evaluator.value env f).value

def holdsAt (env : Env) (f : Option Formula) : Run Bool := do
  match f with
  | none => return true
  | some f => evaluator.holds env f

end Upkeep.Sql
