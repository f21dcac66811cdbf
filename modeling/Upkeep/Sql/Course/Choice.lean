import Upkeep.Sql.Course.Offer

/-!
# Choosing a way

A way through the sources of a selection takes one offer for each. Of the ways through some of them only a few
are gone on with, those that cost least; whether the rows come in the order in which they are wanted counts too.

* `Way.ordered`: how many of the terms of an order the rows of a way are in already.
* `Way.best`: the way through all sources that costs least.
* `Choice.make`: the course of a selection.
-/

namespace Upkeep.Sql

/-- What the rows of a selection are wanted for. -/
structure Demand where
  order : List SortTerm
  /-- Whether rows only have to come together that are the same in the terms of the order. -/
  isGrouping : Bool
  /-- Whether that is so because each row is wanted once. -/
  isDistinct : Bool
  /-- The columns of which no two rows may be the same. -/
  distinct : List SortTerm
  /-- Whether they are those that a function of many rows takes. -/
  isOfCall : Bool
  /-- Whether the terms of the order should be followed as well, when rows are taken together. -/
  keepsOrder : Bool
  /-- Whether only the first value in the order is wanted. -/
  isExtreme : Bool
  /-- How many rows are wanted at most. -/
  most : Option Estimate
  /-- How many columns there are. -/
  width : Nat

def Demand.any (width : Nat) : Demand := ⟨[], false, false, [], false, false, false, none, width⟩

/-- A way through some sources. -/
structure Way where
  offers : List Offer
  rows : Estimate
  cost : Estimate
  /-- What it costs apart from putting rows in order. -/
  unsorted : Estimate
  /-- How many terms of the order are fulfilled: nothing is known as long as that hangs on more sources. -/
  ordered : Option Nat
  /-- The offers whose order is turned around. -/
  backward : List Nat

namespace Way

def sources (w : Way) : List Nat := w.offers.map (·.source)

/-! ## Orders -/

/-- For what an order is looked at. -/
structure Purpose where
  /-- Whether the direction of terms makes no difference, and each may come first. -/
  isLoose : Bool
  /-- Whether the order of the last source alone counts. -/
  isInner : Bool
  /-- Whether a list of values counts as one value. -/
  takesMembers : Bool

/-- How far an order is fulfilled. -/
structure Progress where
  /-- The terms that are fulfilled. -/
  done : List Nat
  /-- Whether no two rows so far are the same in the order of their sources. -/
  isApart : Bool
  /-- The sources of which each row comes once. -/
  apart : List Nat
  ready : List Nat
  backward : List Nat

/-- How far the rungs of a ladder have been looked at. -/
structure Descent where
  progress : Progress
  /-- Whether the ladder is gone the other way round, as soon as that is known. -/
  isBackward : Option Bool
  /-- Whether the number of the row is among the rungs. -/
  hasNumber : Bool

/-- The best clue to a handle: one that hangs on no other source, or the first one. -/
def clueTo (q : Search) (ready : List Nat) (source : Nat) (h : Handle) (isWanted : Ask → Bool) :
    Option (Clue × Bearing) :=
  let found := (Clue.scan q.grounds (q.clues ++ q.outer) source h .none none isWanted).filter fun (_, b, _) =>
    Offer.subset b.others ready
  ((found.find? fun (_, b, _) => b.others.isEmpty && b.ask.isEqual).or found.head?).map fun (c, b, _) => (c, b)

def fixes (p : Purpose) (a : Ask) : Bool := a.isEqual || a == .missing || (p.takesMembers && a.isMember)

/-- Whether a term is a handle of a source that has one value only. -/
def isFixed (q : Search) (p : Purpose) (ready : List Nat) (o : Offer) (t : SortTerm) : Bool :=
  match t.formula.bare.handle? q.grounds with
  | none => false
  | some (_, .value _) => false
  | some (s, h) =>
    s == o.source &&
      match clueTo q ready s h (fixes p) with
      | none => false
      | some (c, b) =>
        (!b.ask.isMember || o.terms.any fun (d, _) => d.place == c.place) &&
          (!b.ask.isEqual || h.same .number || t.direction.collation == b.how.collation)

/-- The term that a rung fulfils, if there is one. -/
def matchOf (q : Search) (p : Purpose) (order : List SortTerm) (o : Offer) (rung : Rung) (done : List Nat) :
    Option (Nat × SortTerm) :=
  let open_ := (order.zipIdx).filter fun (_, i) => !done.contains i
  let isMatch := fun (t : SortTerm) =>
    match t.formula.bare.handle? q.grounds with
    | some (s, h) =>
      s == o.source && h.same rung.handle && (h.same .number || t.direction.collation == rung.collation)
    | none => false
  let candidates := if p.isLoose then open_ else open_.take 1
  (candidates.find? fun (t, _) => isMatch t).map fun (t, i) => (i, t)

/-- Whether nothing stands at the other end than usual. -/
def isUneven (d : Direction) : Bool := d.nullsFirst == d.isDescending

/-- Looks at the rungs of a ladder one behind the other. -/
def descend (q : Search) (p : Purpose) (isStrict : Bool) (order : List SortTerm) (o : Offer) (keys : Nat)
    (place : Nat) : Nat → List Rung → Descent → Descent
  | _, [], d => d
  | j, rung :: rungs, d =>
    let asked := if j < o.equals then o.terms[j]? else none
    let ask? := asked.map fun (_, b) => b.ask
    if ask?.any (fixes p) then
      let isApart := d.progress.isApart && !ask?.any fun a => a == .missing || a == .same
      descend q p isStrict order o keys place (j + 1) rungs { d with progress := { d.progress with isApart } }
    else
      let isShared := asked.any fun (c, _) => c.parent.isSome &&
        ((o.terms.take o.equals).drop (j + 1)).any fun (e, _) => e.parent == c.parent
      let isLoose := match rung.handle with
        | .number => false
        | .column _ => decide (o.equals ≤ j) && rung.mayMiss
        | .value _ => true
      let progress := { d.progress with isApart := d.progress.isApart && !isLoose }
      let isTurn := fun (t : SortTerm) => rung.isDescending != t.direction.isDescending
      let found := (if isShared then none else matchOf q p order o rung progress.done).filter fun (_, t) =>
        (!isStrict || d.isBackward.all fun b => b == isTurn t) && (!isUneven t.direction || j == o.equals)
      match found with
      | some (i, t) =>
        let isBackward := if isStrict then d.isBackward.or (some (isTurn t)) else d.isBackward
        let backward := if isStrict && d.isBackward.isNone && isTurn t then progress.backward ++ [place]
          else progress.backward
        let hasNumber := d.hasNumber || rung.handle.same .number
        descend q p isStrict order o keys place (j + 1) rungs
          ⟨{ progress with done := i :: progress.done, backward }, isBackward, hasNumber⟩
      | none =>
        ⟨{ progress with isApart := progress.isApart && !(j == 0 || decide (j < keys)) }, d.isBackward, d.hasNumber⟩

/-- Terms that hang only on sources of which each row comes once. -/
def settled (order : List SortTerm) (apart done : List Nat) : List Nat :=
  done ++ (order.zipIdx).filterMap fun (t, i) =>
    let refs := t.formula.references depth
    let own := t.formula.sources
    if done.contains i || (own.isEmpty && !refs.isEmpty) || !Offer.subset own apart then none else some i

/-- Looks at one offer of a way: nothing if there is no order at all. -/
def pass (q : Search) (p : Purpose) (isStrict : Bool) (order : List SortTerm) (place : Nat) (o : Offer)
    (progress : Progress) : Option Progress :=
  let fixed := (order.zipIdx).filterMap fun (t, i) =>
    if !progress.done.contains i && isFixed q p progress.ready o t then some i else none
  let progress := { progress with done := progress.done ++ fixed }
  let looked : Option Progress :=
    if o.isOne then some progress
    else match o.means with
      | .ladder _ l =>
        let isNumbers := l.index.isNone
        let progress := { progress with isApart := if isNumbers then progress.isApart else l.isUnique }
        let keys := if isNumbers then 0 else l.keys
        let d := descend q p isStrict order o keys place 0 l.rungs ⟨progress, none, false⟩
        some { d.progress with isApart := d.hasNumber || d.progress.isApart }
      | _ => none
  looked.map fun progress =>
    let progress := if progress.isApart then
        let apart := o.source :: progress.apart
        { progress with apart, done := settled order apart progress.done }
      else progress
    { progress with ready := o.source :: progress.ready }

/-- How many terms of an order the rows of a way are in already, and which offers have to be turned around for
that. Nothing is said as long as that hangs on more sources. -/
def orderedBy (q : Search) (p : Purpose) (isStrict : Bool) (order : List SortTerm) (offers : List Offer) :
    Option Nat × List Nat :=
  go 0 offers ⟨[], true, [], [], []⟩
where
  result (pr : Progress) : Option Nat × List Nat :=
    let isDone := fun (n : Nat) => (List.range n).all pr.done.contains
    if isDone order.length then (some order.length, pr.backward)
    else if pr.isApart then (none, pr.backward)
    else
      let counts := (List.range order.length).reverse.filter fun i => decide (0 < i) && isDone i
      (some (counts.head?.getD 0), pr.backward)
  go : Nat → List Offer → Progress → Option Nat × List Nat
    | _, [], pr => result pr
    | k, o :: rest, pr =>
      if !pr.isApart || (List.range order.length).all pr.done.contains then result pr
      else if p.isInner && !rest.isEmpty then go (k + 1) rest { pr with ready := o.source :: pr.ready }
      else match o.means with
        | .call => result pr
        | _ =>
          match pass q p isStrict order k o pr with
          | some pr => go (k + 1) rest pr
          | none => (some 0, [])

/-! ## Costs -/

/-- What it costs to put rows in order of which so many terms are fulfilled already. -/
def sortingCost (d : Demand) (rows : Estimate) (terms sorted : Nat) : Estimate :=
  let cost := rows + .ofNat ((d.width + 59) / 30)
  let cost := if sorted = 0 then cost else cost + .ofNat ((terms - sorted) * 100 / terms) - 66
  match d.most with
  | some most => cost + 10 + (if sorted = 0 then 0 else 6) + Estimate.search (min most rows)
  | none =>
    cost + Estimate.search (if d.distinct.isEmpty then rows else if 10 < rows then rows - 10 else rows)

/-- The ways that are gone on with, and which of them is the worst, as long as no more can be kept. -/
structure Best where
  ways : List Way
  worst : Nat
  cost : Estimate
  unsorted : Estimate

/-- The ways that are gone on with when there is one more. -/
def Best.add (most : Nat) (b : Best) (w : Way) : Best :=
  let isRival := fun (old : Way) =>
    decide (old.offers.length = w.offers.length) && old.sources.all w.sources.contains &&
      old.ordered.isSome == w.ordered.isSome
  let put := fun (ways : List Way) =>
    if ways.length < most then { b with ways }
    else
      let start : Nat × Estimate × Estimate :=
        (0, (ways.head?.map (·.cost)).getD 0, (ways.head?.map (·.rows)).getD 0)
      let (worst, cost, unsorted) := ((ways.zipIdx).drop 1).foldl (fun ((i, c, u) : Nat × Estimate × Estimate) (x, j) =>
        if c < x.cost || (x.cost == c && decide (u < x.unsorted)) then (j, x.cost, x.unsorted) else (i, c, u)) start
      ⟨ways, worst, cost, unsorted⟩
  match b.ways.findIdx? isRival with
  | some i =>
    let isKept := (b.ways[i]?).any fun old =>
      decide (old.cost < w.cost) || (old.cost == w.cost &&
        (decide (old.rows < w.rows) || (old.rows == w.rows && decide (old.unsorted ≤ w.unsorted))))
    if isKept then b else put (b.ways.set i w)
  | none =>
    if b.ways.length < most then put (b.ways ++ [w])
    else if decide (b.cost < w.cost) || (w.cost == b.cost && decide (b.unsorted ≤ w.unsorted)) then b
    else put (b.ways.set b.worst w)

/-- A way with one more offer, if that can come next. -/
def extended? (q : Search) (d : Demand) (rows : Estimate) (order : List SortTerm) (w : Way) (o : Offer) :
    Option Way :=
  if !Offer.subset o.needs w.sources || w.sources.contains o.source || (o.isSorted && decide (w.rows < 3)) then none
  else
    let run := o.run + w.rows
    let run := if o.setup = 0 then run else Estimate.plus o.setup run
    let unsorted := run.plus w.unsorted
    let out := w.rows + o.out
    let purpose : Purpose := ⟨d.isGrouping || d.isDistinct, false, d.isExtreme⟩
    let (ordered, backward) := match w.ordered with
      | some n => (some n, w.backward)
      | none => orderedBy q purpose (!d.isGrouping) order (w.offers ++ [o])
    let (cost, unsorted) := match ordered with
      | some n =>
        if n < order.length then
          (unsorted.plus (sortingCost d rows order.length n) + 3, unsorted)
        else (unsorted, unsorted - 2)
      | none => (unsorted, unsorted - 2)
    some ⟨w.offers ++ [o], out, cost, unsorted, ordered, backward⟩

/-- The way through all sources that costs least, when so many rows come out of it as it seems: `start` is how
often it is gone. -/
def best (q : Search) (d : Demand) (offers : List Offer) (start rows : Estimate) (order : List SortTerm) :
    Option Way :=
  let n := q.grounds.length
  let most := if n ≤ 1 then 1 else if n = 2 then 5 else 10
  let first : Way := ⟨[], min start 48, 0, 0, if order.isEmpty then some 0 else none, []⟩
  let last := (List.range n).foldl (fun ways _ =>
    (ways.foldl (fun b w => offers.foldl (fun b o =>
      match extended? q d rows order w o with
      | some w => Best.add most b w
      | none => b) b) (⟨[], 0, 0, 0⟩ : Best)).ways) [first]
  last.foldl (fun (least : Option Way) w => if least.all fun l => decide (w.cost < l.cost) then some w else least) none

end Way

/-! ## Courses -/

/-- The course of a selection: how many rows it leads to, and whether they come in the order that is asked for. -/
structure Choice where
  course : Course
  rows : Estimate
  isOrdered : Bool

namespace Choice

/-- The columns by which an order is made on the spot: those that are asked for, without those that have one
value. -/
def sortColumns (q : Search) (ready : List Nat) (o : Offer) (columns : List Nat) : List Nat :=
  let fixed := q.clues.filterMap fun c => c.bearing.bind fun b =>
    match b.handle with
    | .column i => if b.source == o.source && b.ask.isEqual && Offer.subset b.others ready then some i else none
    | _ => none
  ((columns.filter fun i => !fixed.contains i).eraseDups).mergeSort

mutual

/-- How the rows of a source are reached by an offer, as deep as some levels, when some sources are there. -/
def approach (q : Search) (isBackward : Bool) (ready : List Nat) (o : Offer) : Nat → Approach
  | 0 => .straight false
  | d + 1 =>
    match o.means with
    | .ladder _ l =>
      match l.index with
      | some i => if l.isOwn then .straight isBackward else .through i o.equals isBackward
      | none => .straight isBackward
    | .sorted columns => .sorted (sortColumns q ready o columns)
    | .either c =>
      let more := q.clues.filter fun x =>
        !x.isDerived && x.place != c.place && (x.bearing.isSome || !x.sides.isEmpty) &&
          (x.formula.plans).isEmpty && !Offer.subset x.sources ready
      let sides := c.sides.filter fun f =>
        match Clue.bearings q.grounds c.owner f with
        | [] => true
        | bs => bs.any (·.source == o.source)
      .either (sides.map fun f =>
        (f, side { q with
          clues := Clue.ofConditions q.grounds ((f, c.owner) :: more.map fun x => (x.formula, x.owner))
          outer := [], isSide := true, order := [] } ready o.source d))
    | .call => .straight false

/-- How the rows of a source are reached for one side of a condition. -/
def side (q : Search) (ready : List Nat) (source : Nat) : Nat → Approach
  | 0 => .straight false
  | d + 1 =>
    match q.grounds[source]? with
    | none => .straight false
    | some g =>
      let all := (Offer.ofGround q source [] g).foldl Offer.insert []
      let fit := all.filter fun o => Offer.subset o.needs ready
      let best := fit.foldl (fun (b : Option Offer) o =>
        if b.all fun b => decide (o.run < b.run) || (o.run == b.run && decide (o.out < b.out)) then some o else b) none
      (best.map fun o => approach q false ready o d).getD (.straight false)

end

/-- Whether a table has one row at most that is wanted, as the only source. -/
def isSingle (q : Search) : Bool :=
  match q.grounds with
  | [g] =>
    !g.isBound && g.ladders.any fun l =>
      let wanted := fun (a : Ask) => if l.index.isNone || l.isWhole then a.isEqual else a == .equal
      (l.index.isNone || (l.isUnique && l.condition.isNone && decide (l.keys ≤ 3))) &&
        (l.rungs.take l.keys).all fun r =>
          let collation := match r.handle with
            | .number => none
            | _ => some r.collation
          (Clue.scan q.grounds q.clues 0 r.handle r.affinity collation wanted).any fun (_, b, _) => b.others.isEmpty
  | _ => false

/-- Whether all rows of a source are different in some columns anyhow. -/
def isDistinctAnyhow (q : Search) (columns : List SortTerm) : Bool :=
  match q.grounds with
  | [g] =>
    let has := fun (h : Handle) (collation : Option Collation) => columns.any fun t =>
      match t.formula.bare.handle? q.grounds with
      | some (_, k) => k.same h && collation.all (· == t.direction.collation)
      | none => false
    has .number none || g.ladders.any fun l =>
      l.index.isSome && l.isUnique && l.condition.isNone && (l.rungs.take l.keys).all fun r =>
        (Clue.scan q.grounds q.clues 0 r.handle r.affinity (some r.collation) (· == .equal)).length > 0 ||
          (has r.handle (some r.collation) && !r.mayMiss)
  | _ => false

/-- The course of a selection for which rows are wanted in some way. `start` is how often it is gone. -/
def make (q : Search) (d : Demand) (start : Estimate) : Choice :=
  let isDistinctBy := d.order.isEmpty && !d.distinct.isEmpty && !isDistinctAnyhow q d.distinct
  let d := if isDistinctBy then { d with order := d.distinct, isDistinct := true } else d
  let q := { q with order := if isDistinctBy && d.isOfCall then [] else d.order }
  if q.grounds.isEmpty then ⟨.plain, 0, true⟩
  else if isSingle q then ⟨.plain, 1, true⟩
  else
    let offers := Offer.all q
    match Way.best q d offers start 0 [] with
    | none => ⟨.plain, 0, false⟩
    | some first =>
      let w := if d.order.isEmpty then first
        else (Way.best q d offers start (first.rows + 1) d.order).getD first
      let count := d.order.length
      let isOrdered := w.ordered == some count
      let loose := fun (isInner isLoose : Bool) (takesMembers : Bool) => (⟨isLoose, isInner, takesMembers⟩ : Way.Purpose)
      let backward :=
        if d.order.isEmpty || d.isDistinct then []
        else if w.ordered.getD 0 = 0 then
          match w.offers.getLast? with
          | some o =>
            if o.isOne || (o.isNumbered && o.hasMember) then w.backward
            else
              let (n, turned) := Way.orderedBy q (loose true false true) true d.order w.offers
              if n == some count then turned else w.backward
          | none => w.backward
        else w.backward
      let backward :=
        if d.keepsOrder && isOrdered then
          let (n, turned) := Way.orderedBy q (loose false false false) true d.order w.offers
          if n == some count then turned else backward
        else backward
      let stops := w.offers.mapIdx fun k o =>
        (o.source, approach q (backward.contains k) (w.sources.take k) o 8)
      ⟨.make stops (d.isGrouping && isOrdered), w.rows, isOrdered⟩

end Choice
end Upkeep.Sql
