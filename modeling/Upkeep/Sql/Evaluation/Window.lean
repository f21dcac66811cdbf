import Upkeep.Sql.Evaluation.Formula

/-!
# Functions with windows

The rows of a selection fall into parts, each of which is in an order. A function with a window has a value for
every row: it looks at the part that the row is in, or at the frame of rows around the row.

* `Part.frame`: the rows of a part that belong to one of them.
* `WindowCall.values`: the values of a function for all rows.
-/

namespace Upkeep.Sql
open Database (Value Encoding)

/-- A row of a part: its place among all rows, what is seen of it, the values that put it in order, and the number
of the group of rows that have the same. -/
structure PartRow where
  place : Nat
  sight : Sight
  keys : List SortKey
  group : Nat

abbrev Part := List PartRow

namespace Part

/-- Where the first row is that fulfils a condition, or behind the last one. -/
def firstPlace (p : Part) (isWanted : PartRow → Bool) : Nat := (p.findIdx? isWanted).getD p.length

def start (p : Part) (group : Nat) : Nat := p.firstPlace fun r => decide (group ≤ r.group)

def stop (p : Part) (group : Nat) : Nat := p.firstPlace fun r => decide (group < r.group)

/-- The values that put rows in order, those of a row moved by a distance. Only numbers are moved. -/
def moved (enc : Encoding) (keys : List SortKey) (isBack : Bool) (distance : Value) : List SortKey :=
  keys.map fun k =>
    let op := if isBack != k.direction.isDescending then BinaryOp.minus else .plus
    match k.value with
    | .integer _ => { k with value := op.value enc k.value distance }
    | .real _ => { k with value := op.value enc k.value distance }
    | _ => k

/-- Where the rows start, or end, that lie in a distance from a row. -/
def byDistance (enc : Encoding) (p : Part) (r : PartRow) (isStop isBack : Bool) (distance : Value) : Nat :=
  let limit := moved enc r.keys isBack distance
  p.firstPlace fun x =>
    let o := SortKey.compare enc x.keys limit
    if isStop then o == .gt else o != .lt

/-- An end of the frame of a row, when the distances are known. -/
def edge (enc : Encoding) (p : Part) (unit : FrameUnit) (i : Nat) (r : PartRow) (isStop : Bool) (distance : Value) :
    FrameEdge → Nat
  | .start => 0
  | .stop => p.length
  | .own =>
    if unit = .rows then (if isStop then i + 1 else i)
    else if isStop then p.stop r.group else p.start r.group
  | .before _ =>
    let n := distance.toInt.toNat
    match unit with
    | .rows => if isStop then i + 1 - n else i - n
    | .groups =>
      if r.group < n then 0 else if isStop then p.stop (r.group - n) else p.start (r.group - n)
    | .values => p.byDistance enc r isStop true distance
  | .after _ =>
    let n := distance.toInt.toNat
    match unit with
    | .rows => if isStop then i + n + 1 else i + n
    | .groups => if isStop then p.stop (r.group + n) else p.start (r.group + n)
    | .values => p.byDistance enc r isStop false distance

/-- The places of the rows that belong to a row. -/
def frame (p : Part) (first last : Nat) (exclusion : Exclusion) (i : Nat) (r : PartRow) : List Nat :=
  let all := (List.range (min last p.length)).drop first
  all.filter fun j =>
    let isPeer := (p[j]?).any fun x => x.group == r.group
    match exclusion with
    | .nothing => true
    | .own => j != i
    | .peers => !isPeer
    | .otherPeers => !isPeer || j == i

/-- Rows in order as a part: those with the same values have one group. -/
def ofSorted (enc : Encoding) (rows : List (List SortKey × Nat × Sight)) : Part :=
  (rows.foldl (fun (done : List PartRow) (keys, place, sight) =>
    let group := match done with
      | [] => 0
      | x :: _ => if SortKey.compare enc x.keys keys == .eq then x.group else x.group + 1
    ⟨place, sight, keys, group⟩ :: done) []).reverse

end Part

/-- The distances of the ends of a frame, which may not be less than nothing. -/
def FrameEdge.distance (e : Evaluator) (env : Env) (unit : FrameUnit) (word : String) : FrameEdge → Run Value
  | .before f => checked f
  | .after f => checked f
  | _ => return .null
where
  checked (f : Formula) : Run Value := do
    let v := Affinity.numeric.apply (← e.value env f).value
    let isFit := match unit, v with
      | _, .integer n => decide (0 ≤ n)
      | .values, .real bits => decide (0 ≤ Value.realOf bits)
      | _, _ => false
    if isFit then return v
    else Run.fail (.failed ("frame ".toList ++ word.toList ++ " offset must be a non-negative ".toList ++
      (if unit = .values then "number" else "integer").toList))

namespace Ranking

def share (n most : Nat) : Value :=
  .ofReal (if most = 0 then 0 else realOfInt n / realOfInt most)

/-- The number of the bucket of a row, when rows are put into some buckets of nearly the same size. -/
def bucketOf (size buckets i : Nat) : Nat :=
  let least := size / buckets
  let larger := size % buckets
  if i < larger * (least + 1) then i / (least + 1) + 1
  else larger + (i - larger * (least + 1)) / (max least 1) + 1

def argument (e : Evaluator) (env : Env) (args : List Formula) (k : Nat) (r : PartRow) : Run Datum :=
  match args[k]? with
  | some f => e.value (env.push r.sight) f
  | none => return .plain .null

/-- The value of the row in some distance, or what stands for one that is not there. -/
def near (e : Evaluator) (env : Env) (p : Part) (args : List Formula) (isBack : Bool) (i : Nat) (r : PartRow) :
    Run Datum := do
  let distance ← if args.length < 2 then pure (Value.integer 1) else do
    pure (← argument e env args 1 r).value
  let place : Int := i + (if isBack then -distance.toInt else distance.toInt)
  match if distance.isNull ∨ place < 0 then none else p[place.toNat]? with
  | some x => argument e env args 0 x
  | none => argument e env args 2 r

/-- The value of a function for a row of a part, when the rows are known that belong to the row. -/
def value (e : Evaluator) (env : Env) (p : Part) (args : List Formula) (frame : List Nat) (i : Nat) (r : PartRow) :
    Ranking → Run Datum
  | .rowNumber => return .plain (.integer (i + 1))
  | .rank => return .plain (.integer (p.start r.group + 1))
  | .denseRank => return .plain (.integer (r.group + 1))
  | .percentRank => return .plain (share (p.start r.group) (p.length - 1))
  | .distribution => return .plain (share (p.stop r.group) p.length)
  | .bucket => do
    let n ← match p.head? with
      | some x => do pure (← argument e env args 0 x).value.toInt
      | none => pure 0
    if n ≤ 0 then Run.fail (.failed "argument of ntile must be a positive integer".toList)
    return .plain (.integer (bucketOf p.length n.toNat i))
  | .earlier => near e env p args true i r
  | .later => near e env p args false i r
  | .first => ofPlace frame.head?
  | .last => ofPlace frame.getLast?
  | .nth => do
    match Affinity.numeric.apply (← argument e env args 1 r).value with
    | .integer n =>
      if n ≤ 0 then wrongNumber else ofPlace (frame[n.toNat - 1]?)
    | _ => wrongNumber
where
  ofPlace (place : Option Nat) : Run Datum :=
    match place.bind fun j => p[j]? with
    | some x => argument e env args 0 x
    | none => return .plain .null
  wrongNumber {α : Type} : Run α :=
    Run.fail (.failed "second argument to nth_value must be a positive integer".toList)

end Ranking

namespace WindowCall

/-- The values of a function for the rows of a part, with the places of the rows. -/
def partValues (e : Evaluator) (env : Env) (enc : Encoding) (p : Part) : WindowCall → Run (List (Nat × Datum))
  | .make f c args filter (.make _ _ unit first last exclusion) => do
    let before ← first.distance e env unit "starting"
    let after ← last.distance e env unit "ending"
    let frameOf := fun (i : Nat) (r : PartRow) =>
      p.frame (p.edge enc unit i r false before first) (p.edge enc unit i r true after last) exclusion i r
    match f with
    | .ranking k =>
      (p.zipIdx).mapM fun (r, i) => do
        return (r.place, ← k.value e env p args (frameOf i r) i r)
    | .aggregate a => do
      let rows ← p.mapM fun r => do
        let isIn ← match filter with
          | none => pure true
          | some f => e.holds (env.push r.sight) f
        if isIn then return some (← e.values (env.push r.sight) args) else return none
      let surrounding := (← get).surrounding c
      (p.zipIdx).mapM fun (r, i) => do
        let inside := (frameOf i r).filterMap fun j => (rows[j]?).join
        return (r.place, ← Run.lift (a.gather surrounding inside))

/-- The rows in the order of a window, as parts. -/
def split (e : Evaluator) (env : Env) (enc : Encoding) (sights : List Sight) : WindowCall → Run (List Part)
  | .make _ _ _ _ (.make parts order _ _ _ _) => do
    let keyed ← (sights.zipIdx).mapM fun (g, i) => do
      let own ← e.sortKeys (env.push g) parts
      let keys ← e.sortKeys (env.push g) order
      return (own ++ keys, own, keys, i, g)
    let sorted := (inOrder enc keyed).map (·.2)
    let apart := sorted.splitBy fun a b => SortKey.compare enc a.1 b.1 == .eq
    return apart.map fun rows => Part.ofSorted enc (rows.map fun (_, keys, i, g) => (keys, i, g))

def values (e : Evaluator) (env : Env) (sights : List Sight) (c : WindowCall) : Run (List Datum) := do
  let enc ← encoding
  let found ← (← c.split e env enc sights).mapM fun p => c.partValues e env enc p
  let all := found.flatten.foldl (fun (a : Array Datum) (i, d) => a.setIfInBounds i d)
    (Array.replicate sights.length (.plain .null))
  return all.toList

def terms : WindowCall → List SortTerm
  | .make _ _ _ _ (.make parts order _ _ _ _) => parts ++ order

end WindowCall

/-- What is seen of some rows with the values of functions with windows. The rows are put in the order of the
windows, that of the first one last. -/
def withWindows (e : Evaluator) (env : Env) (calls : List WindowCall) (sights : List Sight) : Run (List Sight) := do
  if calls.isEmpty then return sights
  else
    let enc ← encoding
    let columns ← calls.mapM (WindowCall.values e env sights)
    let filled := sights.mapIdx fun i g =>
      { g with windows := columns.map fun column => (column[i]?).getD (.plain .null) }
    calls.reverse.foldlM (fun (gs : List Sight) c => do
      let keyed ← gs.mapM fun g => do return (← e.sortKeys (env.push g) c.terms, g)
      return (inOrder enc keyed).map (·.2)) filled

end Upkeep.Sql
