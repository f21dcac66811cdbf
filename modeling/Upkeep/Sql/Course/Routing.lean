import Upkeep.Sql.Course.Choice
import Upkeep.Sql.Plan.Condition
import Upkeep.Sql.Plan.Merging
import Upkeep.Sql.Program

/-!
# Courses of queries

A query is made as simple as it can be, and then each of its selections gets a course. How often an inner query
is asked for counts for its course, and how many rows it makes counts for that of the selection around it.

* `Plan.routed`: a query with the courses of its selections.
* `Step.routed`: a statement with the courses of its queries.
-/

namespace Upkeep.Sql
open Database (Value)

/-! ## Demands -/

def upTerms (fs : List Formula) (collations : List Collation) : List SortTerm :=
  fs.mapIdx fun i f => .make f (.up ((collations[i]?).getD .plain))

def SortTerm.same (s t : SortTerm) : Bool := s.formula.isSame t.formula && decide (s.direction = t.direction)

def sameOrder (ss ts : List SortTerm) : Bool :=
  decide (ss.length = ts.length) && (ss.zip ts).all fun (s, t) => s.same t

/-- Keys in the directions of an order that has as many terms. -/
def turnedKeys (order keys : List SortTerm) : List SortTerm :=
  if order.length ≠ keys.length then keys
  else (keys.zip order).map fun (k, t) =>
    .make k.formula { k.direction with
      isDescending := t.direction.isDescending, nullsFirst := !t.direction.isDescending }

namespace AggregateCall

/-- The one value that a function of an extreme is of, as the order in which the extreme comes first. -/
def extremeOrder (hasNull : Formula → Bool) : AggregateCall → List SortTerm
  | .make f c _ [a] _ none =>
    match f.extreme? with
    | some .lt => [.make a ⟨c, false, !hasNull a⟩]
    | some .gt => [.make a ⟨c, true, false⟩]
    | _ => []
  | _ => []

/-- The values of which each counts once. -/
def distinctTerms : AggregateCall → List SortTerm
  | .make _ c true args _ _ => upTerms args (args.map fun _ => c)
  | _ => []

end AggregateCall

/-- The number that a bound of a query is, if that is known. -/
def Formula.most? (f : Formula) : Option Nat := (f.whole?.filter (0 ≤ ·)).map Int.toNat

/-! ## Selections -/

/-- With what courses are looked for. -/
structure Atlas where
  schema : Schema

namespace Atlas

/-- The search for the course of a selection of some sources, when the numbers of rows of those are known that are
made by queries. -/
def search (a : Atlas) (supplies : List Supply) (conditions others : List Formula) (rows : List Estimate) : Search :=
  let grounds := (supplies.zip rows).mapIdx fun i (s, n) => Ground.ofOrigin a.schema i s.kind n s.origin
  let tied := (supplies.mapIdx fun i s =>
    s.conditions.map fun c => (c, if s.kind == .inner || s.kind == .cross then none else some i)).flatten
  let clues := Clue.ofConditions grounds (conditions.map (fun c => (c, none)) ++ tied)
  let all := conditions ++ others ++ supplies.flatMap fun s => s.conditions ++ s.origin.parts
  { grounds, clues, outer := [], uses := (all.flatMap Formula.uses).eraseDups, order := [], isSide := false }

/-- Whether a formula may have no value. -/
def mayMiss (grounds : List Ground) (f : Formula) : Bool :=
  match f.bare.handle? grounds with
  | some (_, .number) => false
  | some (s, h) => !(grounds[s]?).any fun g => g.ladders.any fun l => l.rungs.any fun r => r.handle.same h && !r.mayMiss
  | none => match f with
    | .constant v => v.isNull
    | _ => true

/-- For what the rows of a selection are wanted. -/
def demand (q : Search) (isDistinct : Bool) (results : List Formula) (collations : List Collation)
    (grouping : Option Grouping) (windows : List WindowCall) (order : List SortTerm) (most : Option Estimate) :
    Demand :=
  let base := Demand.any results.length
  let order := match windows.getLast? with
    | some (.make _ _ _ _ (.make parts own _ _ _ _)) => parts ++ own
    | none => order
  let most := if windows.isEmpty then most else none
  let columns := upTerms results collations
  match grouping with
  | some (.make [] having calls) =>
    match calls with
    | [c] =>
      let extreme := if having.isSome then [] else c.extremeOrder (mayMiss q.grounds)
      let isBare := ((results ++ having.toList).flatMap Formula.uses).isEmpty
      { base with
        order := extreme, isExtreme := !extreme.isEmpty, distinct := if isBare then c.distinctTerms else [], isOfCall := true }
    | _ => base
  | some (.make keys _ calls) =>
    let keys := turnedKeys order keys
    let distinct := match calls with
      | [c] => if c.distinctTerms.isEmpty then [] else keys ++ c.distinctTerms
      | _ => []
    { base with order := keys, isGrouping := true, distinct, keepsOrder := sameOrder order keys }
  | none =>
    if !windows.isEmpty then { base with order }
    else if isDistinct && sameOrder order columns then
      { base with order := columns, isDistinct := true, keepsOrder := true }
    else { base with order, distinct := if isDistinct then columns else [], most }

/-- How many rows come out of a selection through which so many go. -/
def resultRows (isDistinct : Bool) (results : List Formula) (collations : List Collation) (grouping : Option Grouping)
    (order : List SortTerm) (most : Option Estimate) (rows : Estimate) : Estimate :=
  let limit := most.getD 320
  match grouping with
  | some (.make [] _ _) => 0
  | some _ => min limit 66
  | none =>
    if isDistinct && sameOrder order (upTerms results collations) then min limit 66
    else min limit (if isDistinct then rows - 30 else rows)

def columnsOf (fs : List Formula) (source : Nat) : List Nat :=
  (fs.flatMap Formula.uses).filterMap fun (s, i) => if s == source then some i else none

/-- A selection that has nothing in the columns that nobody asks for, if it only chooses among rows. -/
def narrowedSelector (wanted : List Nat) : Selector → Option Selector
  | .values _ => none
  | .select false results collations supplies conditions none [] course =>
    some (.select false (results.mapIdx fun i f => if wanted.contains i then f else .constant .null) collations
      supplies conditions none [] course)
  | .select .. => none

/-- A query that has nothing in the columns that nobody asks for. -/
def narrowed (wanted : List Nat) : Plan → Plan
  | .single s order limit offset => .single ((narrowedSelector wanted s).getD s) order limit offset
  | .compound first more cs order limit offset =>
    let all := first :: more.map (·.2)
    let wanted := wanted ++ order.map (·.1)
    if more.all (fun (op, _) => op == .unionAll) && all.all fun s => (narrowedSelector wanted s).isSome then
      let narrow := fun (s : Selector) => (narrowedSelector wanted s).getD s
      .compound (narrow first) (more.map fun (op, s) => (op, narrow s)) cs order limit offset
    else .compound first more cs order limit offset
  | p => p

mutual

/-- A formula with the courses of its queries, as deep as some levels. `start` is how often it is looked at. -/
def formula (a : Atlas) (start : Estimate) : Nat → Formula → Formula
  | 0, f => f
  | d + 1, f =>
    match f with
    | .out n e => .out n (formula a start d e)
    | .plan w k p => .plan w k (plan a start true d p).1
    | .holds k p => .holds k (plan a start true d p).1
    | f => f.map (formula a start d) fun p => (plan a start false d p).1

/-- The way to the rows of a source with the courses of the queries in it. -/
def approach (a : Atlas) (start : Estimate) : Nat → Approach → Approach
  | 0, x => x
  | d + 1, x =>
    match x with
    | .either sides => .either (sides.map fun (f, x) => (formula a start d f, approach a start d x))
    | x => x

/-- A source with the course of its query, and how many rows that makes. -/
def supply (a : Atlas) (start : Estimate) (all : List Formula) : Nat → Nat → Supply → Supply × Estimate
  | 0, _, s => (s, 0)
  | d + 1, i, s =>
    match s with
    | .make (.plan n k p) kind cs =>
      let (p, rows) := plan a start false d p
      let p := if n != .nameless || k.isNone then p else narrowed (columnsOf all i) p
      (.make (.plan n k p) kind cs, rows)
    | s => (s, Ground.usualRows)

/-- A selection with its course and those of the queries in it, the terms of its order, and how many rows it
makes. `most` is how many are wanted. -/
def selector (a : Atlas) (start : Estimate) (order : List SortTerm) (most : Option Estimate) :
    Nat → Selector → Selector × List SortTerm × Estimate
  | 0, s => (s, order, 0)
  | d + 1, s =>
    match s.flattened (!order.isEmpty) depth with
    | (.values rows, turn) =>
      (.values (rows.map fun fs => fs.map (formula a start d)),
        order.map (SortTerm.map fun f => formula a start d (turn f)), if rows.length = 1 then 0 else rows.length)
    | (.select isDistinct results collations supplies conditions grouping windows course, turn) =>
      let order := order.map (SortTerm.map turn)
      let split := fun (fs : List Formula) => fs.flatMap (Formula.conjuncts depth)
      let (supplies, conditions) :=
        Supply.searched (supplies.map fun s => .make s.origin s.kind (split s.conditions)) (split conditions)
      let (supplies, conditions) :=
        if Supply.reverses supplies then (supplies, conditions) else Supply.given supplies conditions
      let others := results ++ SortTerm.formulas order ++ (grouping.map Grouping.parts).getD [] ++
        windows.flatMap WindowCall.parts
      let all := others ++ conditions ++ supplies.flatMap fun s => s.conditions ++ s.origin.parts
      let made := supplies.mapIdx fun i s => supply a start all d i s
      let supplies := made.map (·.1)
      let q := a.search supplies conditions others (made.map (·.2))
      let isPlain := Supply.reverses supplies || supplies.isEmpty
      let choice := if isPlain then ⟨course, if supplies.isEmpty then 0 else 200, false⟩
        else Choice.make q (demand q isDistinct results collations grouping windows order most) start
      let inside := start + choice.rows
      let behind := if grouping.isSome then start else inside
      let course := match choice.course with
        | .make stops isGrouped => Course.make (stops.map fun (i, x) => (i, approach a inside d x)) isGrouped
      let deep := formula a inside d
      let condition := fun (f : Formula) => formula a (if f.sources.isEmpty then start else inside) d f
      let grouping' := match grouping with
        | some (.make keys having calls) =>
          some (Grouping.make ((turnedKeys order keys).map (SortTerm.map deep)) (having.map (formula a start d))
            (calls.map (AggregateCall.map deep)))
        | none => none
      let supplies := supplies.map fun
        | .make o k cs => .make (o.map deep id) k (cs.map deep)
      (.select isDistinct (results.map (formula a behind d)) collations supplies (conditions.map condition) grouping'
        (windows.map (WindowCall.map deep)) course,
        order.map (SortTerm.map (formula a behind d)),
        resultRows isDistinct results collations grouping order most choice.rows)

/-- A query with the courses of its selections, and how many rows it makes. `wantsOne` is whether only its first
row is wanted. -/
def plan (a : Atlas) (start : Estimate) (wantsOne : Bool) : Nat → Plan → Plan × Estimate
  | 0, p => (p, 0)
  | d + 1, p =>
    let bound := formula a start d
    let fixed := fun (limit : Option Formula) =>
      match limit with
      | some f => if wantsOne then none else f.most?.map Estimate.ofNat
      | none => if wantsOne then some 0 else none
    match p.merged wantsOne depth with
    | .single s order limit offset =>
      let (s, order, rows) := selector a start order (fixed limit) d s
      (.single s order (limit.map bound) (offset.map bound), rows)
    | .compound first more collations order limit offset =>
      let isOpen := order.isEmpty
      let isAll := more.all fun (op, _) => op == .unionAll
      let terms := fun (s : Selector) =>
        match s with
        | .select _ results .. =>
          if isOpen then []
          else
            let rest := if isAll then [] else
              (List.range results.length).filter fun i => !order.any (·.1 == i)
            (order ++ rest.map fun i => (i, Direction.up ((collations[i]?).getD .plain))).filterMap fun (i, dir) =>
              (results[i]?).map fun f => SortTerm.make f dir
        | .values _ => []
      let (first, _, rows) := selector a start (terms first) none d first
      let (more, rows) := more.foldl (fun ((done, rows) : List (SetOp × Selector) × Estimate) (op, s) =>
        let (s, _, own) := selector a start (terms s) none d s
        (done ++ [(op, s)], match op with
          | .intersect => min rows own
          | .except => own
          | _ => own.plus rows)) ([], rows)
      let rows := ((limit.bind Formula.most?).filter (0 < ·)).elim rows fun n => min rows (.ofNat n)
      (.compound first more collations order (limit.map bound) (offset.map bound), rows)
    | .recursion first steps isDistinct collations order limit offset =>
      let (first, _) := plan a start false d first
      let made := steps.map fun s => selector a start [] none d s
      (.recursion first (made.map (·.1)) isDistinct collations order (limit.map bound) (offset.map bound),
        (made.head?.map (·.2.2)).getD 0)

end

end Atlas

/-! ## Statements -/

def Plan.routed (schema : Schema) (p : Plan) : Plan :=
  (Atlas.plan ⟨schema⟩ 0 false depth p).1

def Formula.routed (schema : Schema) (f : Formula) : Formula :=
  Atlas.formula ⟨schema⟩ 0 depth f

/-- The sources of a statement with the courses of their queries. -/
def Supply.routed (schema : Schema) (s : Supply) : Supply :=
  s.map (Formula.routed schema) (Plan.routed schema)

def Setting.routed (schema : Schema) (s : Setting) : Setting := { s with formula := s.formula.routed schema }

/-- A change of rows of a table that are found by those of other sources, with its course. -/
def Step.joined (schema : Schema) (conflict : Option Conflict) (t : Target) (names : List Text)
    (settings : List Setting) (supplies : List Supply) (conditions : List Formula) : Step :=
  let whole := Selector.select false (settings.map (·.formula)) [] supplies conditions none [] .plain
  match Atlas.selector ⟨schema⟩ 0 [] none depth whole with
  | (.select _ results _ supplies conditions _ _ course, _) =>
    let settings := (settings.zip results).map fun (s, f) => { s with formula := f }
    .update conflict t names settings supplies conditions course
  | _ => .update conflict t names settings supplies conditions .plain

def Step.found (supplies : List Supply) (conditions : List Formula) : List Supply × List Formula :=
  Supply.searched supplies (conditions.flatMap (Formula.conjuncts depth))

/-- A statement with the courses of its queries. -/
def Step.routed (schema : Schema) : Step → Step
  | .select p => .select (p.routed schema)
  | .delete t supply conditions =>
    let (supplies, conditions) := Step.found [supply] conditions
    .delete t ((supplies.head?.getD supply).routed schema) (conditions.map (Formula.routed schema))
  | .update conflict (.table t) names settings (s :: u :: more) conditions _ =>
    Step.joined schema conflict (.table t) names settings (s :: u :: more) conditions
  | .update conflict t names settings supplies conditions _ =>
    let (supplies, conditions) := Step.found supplies conditions
    .update conflict t names (settings.map (Setting.routed schema)) (supplies.map (Supply.routed schema))
      (conditions.map (Formula.routed schema)) .plain
  | .insert conflict t names rows meetings =>
    .insert conflict t names (rows.map (Plan.routed schema)) <| meetings.map fun m =>
      match m.detour with
      | .nothing => m
      | .update names settings condition =>
        { m with detour := .update names (settings.map (Setting.routed schema)) (condition.map (Formula.routed schema)) }

def Program.routed (schema : Schema) (p : Program) : Program :=
  { p with condition := p.condition.map (Formula.routed schema), steps := p.steps.map (Step.routed schema) }

end Upkeep.Sql
