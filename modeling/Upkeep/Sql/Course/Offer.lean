import Upkeep.Sql.Course.Clue

/-!
# Offers

The ways in which the rows of one source can be reached, each with what it costs, how many rows it leads to, and
which other sources have to be there before.

* `Offer.ofGround`: the ways to the rows of a source.
* `Offer.all`: the ways to the rows of all sources of a selection, without those that are never better than
  another one.
-/

namespace Upkeep.Sql

/-- What the ways to rows are looked for with: what is known of the sources, the clues to them, the columns that
are asked for, and the order in which the rows are wanted. -/
structure Search where
  grounds : List Ground
  clues : List Clue
  /-- The clues that count besides, while only those of one side of a condition are looked at. -/
  outer : List Clue
  uses : List (Nat × Nat)
  order : List SortTerm
  /-- Whether the rows are those of one side of a condition. -/
  isSide : Bool

/-- By what rows are reached. -/
inductive Means where
  /-- An order of the source, by its place among all. -/
  | ladder (place : Nat) (l : Ladder)
  /-- An order that is made on the spot, by the columns that are looked up and those that are asked for. -/
  | sorted (columns : List Nat)
  /-- The sides of a condition, one behind the other. -/
  | either (c : Clue)
  /-- The function that makes them. -/
  | call

/-- A way to the rows of a source. -/
structure Offer where
  source : Nat
  /-- The sources that have to be there before. -/
  needs : List Nat
  /-- What tells apart the orders that may be of use. -/
  order : Nat
  /-- What it costs once, what it costs each time, and how many rows there are each time. -/
  setup : Estimate
  run : Estimate
  out : Estimate
  means : Means
  terms : List (Clue × Bearing)
  /-- How many of the first rungs have one value. -/
  equals : Nat
  isCovering : Bool
  /-- Whether there is one row at most. -/
  isOne : Bool
  hasEqual : Bool
  hasMember : Bool
  hasRange : Bool
  hasFloor : Bool
  hasCeiling : Bool

namespace Offer

/-- Whether all of some sources are among others. -/
def subset (as bs : List Nat) : Bool := as.all bs.contains

def isIndexed (o : Offer) : Bool :=
  match o.means with
  | .ladder _ l => l.index.isSome
  | _ => false

def isNumbered (o : Offer) : Bool :=
  match o.means with
  | .ladder _ l => l.index.isNone
  | _ => false

/-- Whether the order is made on the spot. -/
def isSorted (o : Offer) : Bool :=
  match o.means with
  | .sorted _ => true
  | _ => false

/-- Whether two offers use the same order of their source. -/
def sameLadder (o p : Offer) : Bool :=
  match o.means, p.means with
  | .ladder i _, .ladder j _ => i == j
  | _, _ => false

def usesClue (o : Offer) (c : Clue) : Bool :=
  o.terms.any fun (d, _) => d.place == c.place || d.parent == some c.place

/-- An offer without anything. -/
def plain (source : Nat) (needs : List Nat) (means : Means) : Offer :=
  { source, needs, order := 0, setup := 0, run := 0, out := 0, means, terms := [], equals := 0
    isCovering := false, isOne := false, hasEqual := false, hasMember := false, hasRange := false
    hasFloor := false, hasCeiling := false }

/-! ## Numbers of rows -/

/-- An offer whose number of rows is what conditions leave of it that it does not use itself, of so many rows in
all. -/
def adjusted (clues : List Clue) (rows : Estimate) (o : Offer) : Offer :=
  let known := o.source :: o.needs
  let (out, reduced) := clues.foldl (fun ((out, reduced) : Estimate × Estimate) c =>
    if c.isDerived || !subset c.sources known || !c.sources.contains o.source || o.usesClue c then (out, reduced)
    else match c.odds with
      | some odds => (out + odds, reduced)
      | none =>
        let share : Estimate :=
          match c.bearing with
          | some b =>
            if b.ask.isEqual then (if b.other.any Formula.isCommon then 10 else 20) else 0
          | none => 0
        (out - 1, max reduced share)) (o.out, 0)
  { o with out := min out (rows - reduced) }

/-- How many rows are left of some within a range. -/
def rangeRows (floor ceiling : Option Clue) (rows : Estimate) : Estimate :=
  let cut := fun (c : Option Clue) (n : Estimate) =>
    match c with
    | none => n
    | some c => match c.odds with
      | some odds => n + odds
      | none => if c.isPresence then n else n - 20
  let isOpen := fun (c : Option Clue) => c.any (·.odds.isNone)
  let cutRows := cut ceiling (cut floor rows)
  let cutRows := max 10 (if isOpen floor && isOpen ceiling then cutRows - 20 else cutRows)
  let plain := rows - (if floor.isSome then 1 else 0) - (if ceiling.isSome then 1 else 0)
  min plain cutRows

/-! ## One order -/

/-- Whether a clue may be used for a source: behind an open end only conditions count that belong to it. -/
def mayUse (g : Ground) (source : Nat) (c : Clue) : Bool := g.kind != .left || c.owner == some source

/-- What it costs to pass one row of an order, besides one for each. -/
def share (g : Ground) (l : Ladder) : Estimate := if g.width = 0 then 0 else 15 * l.width / g.width

/-- The offers of an order that use some more clues, each to the next rung of those that have been used.
`many` is how many values have been asked for at rungs before. -/
def climb (q : Search) (g : Ground) (l : Ladder) : Nat → Offer → Estimate → List Offer
  | 0, _, _ => []
  | fuel + 1, o, many =>
    match l.rungs[o.equals]? with
    | none => []
    | some rung =>
      let isWanted := fun (a : Ask) => if o.hasFloor then a.isCeiling else true
      let collation := match rung.handle with
        | .number => none
        | _ => some rung.collation
      let found := Clue.scan q.grounds (q.clues ++ q.outer) o.source rung.handle rung.affinity collation isWanted
      let isLast := decide (o.equals + 1 = l.keys)
      found.flatMap fun (c, b, _) =>
        let isIdle := (b.ask == .missing || c.isPresence) && !rung.mayMiss
        if isIdle || b.others.contains o.source || (c.isOfPattern && b.ask.isCeiling) || !mayUse g o.source c then []
        else
          let base := { o with
            terms := o.terms ++ [(c, b)]
            needs := ((o.needs ++ b.others).eraseDups).filter (· != o.source) }
          let values := match b.ask with
            | .member n => if o.terms.any fun (d, _) => d.parent.isSome && d.parent == c.parent then 0 else n
            | _ => 0
          let isUnique := match rung.handle with
            | .number => true
            | .column _ =>
              many == 0 && isLast &&
                (l.isWhole || (l.keys == 1 && l.isUnique && b.ask == .equal && !b.isMutual))
            | .value _ => false
          let climbed : Offer :=
            match b.ask with
            | .member _ => { base with hasMember := true }
            | .missing => base
            | a =>
              if a.isEqual then { base with hasEqual := true, isOne := o.isOne || isUnique }
              else if a.isFloor then
                let top := if c.isOfPattern then
                    ((q.clues ++ q.outer).find? fun d => d.place == c.place + 1).toList.filterMap fun d =>
                      d.bearing.map fun e => (d, e)
                  else []
                { base with
                  hasRange := true, hasFloor := true, hasCeiling := !top.isEmpty, terms := base.terms ++ top }
              else { base with hasRange := true, hasCeiling := true }
          let climbed : Offer :=
            if climbed.hasRange then
              let last := climbed.terms.drop o.terms.length
              let floor := if b.ask.isFloor then some c
                else if o.hasFloor then o.terms.getLast?.map (·.1) else none
              let ceiling := if b.ask.isFloor then (last[1]?).map (·.1) else some c
              { climbed with out := rangeRows floor ceiling o.out }
            else
              let n := o.equals + 1
              let isColumn := match rung.handle with
                | .value _ => false
                | .number => false
                | .column _ => true
              let out := match c.odds, isColumn with
                | some odds, true => o.out + odds - values
                | _, _ => o.out + (l.rowsAt n - l.rowsAt (n - 1)) + (if b.ask == .missing then 10 else 0)
              { climbed with equals := n, out }
          let pass := if l.index.isNone then climbed.out + 16 else climbed.out + 1 + share g l
          let looked := Estimate.plus (Estimate.search (l.rowsAt 0)) pass
          let run := if climbed.isCovering || l.index.isNone then looked else looked.plus (climbed.out + 16)
          let whole := { climbed with run := run + many + values, out := climbed.out + many + values }
          let own := adjusted q.clues (l.rowsAt 0) whole
          let next := { climbed with out := if climbed.hasRange then o.out else climbed.out }
          let mayGoOn := !climbed.hasCeiling && decide (climbed.equals < l.rungs.length) &&
            (decide (climbed.equals < l.keys) || !l.isOwn)
          own :: (if mayGoOn then climb q g l fuel next (many + values) else [])

/-- Whether an order may be of use for the order in which the rows are wanted. -/
def mayHelp (q : Search) (source : Nat) (l : Ladder) : Bool :=
  q.order.any fun t =>
    match t.formula.bare.handle? q.grounds with
    | some (s, .number) => s == source
    | some (s, h) => s == source && (l.rungs.take l.keys).any fun r => r.handle.same h
    | none => false

/-- Whether a formula follows from another one. -/
def implies (f g : Formula) : Nat → Bool
  | 0 => false
  | d + 1 =>
    f.isSame g ||
      match g with
      | .binary .or a b => implies f a d || implies f b d
      | .isNull true e =>
        match f with
        | .compare _ [_] a b => a.isSame e || b.isSame e
        | .between false [_] _ a _ _ => a.isSame e
        | .inList false _ a _ => a.isSame e
        | .inPlan false [_] _ a _ => a.isSame e
        | .call false n _ _ (a :: b :: _) => ["like", "glob"].contains (Function.smallName n) && (a.isSame e || b.isSame e)
        | _ => false
      | _ => false

/-- Whether the conditions of a selection say that only rows are wanted that an index has. -/
def isUsable (q : Search) (g : Ground) (source : Nat) (l : Ladder) : Bool :=
  l.condition.all fun c => (c.conjuncts depth).all fun part =>
    q.clues.any fun d =>
      !d.isPresence && (d.owner.isNone || d.owner == some source) && (g.kind != .left || d.owner.isSome) &&
        implies d.formula part 8

/-- The columns of a source that have to be looked up when rows are reached by an index. -/
def missing (q : Search) (source : Nat) (g : Ground) (l : Ladder) : List Nat :=
  let fixed := (l.condition.toList.flatMap (Formula.conjuncts depth)).filterMap fun
    | .compare .equal [_] (.column _ i) (.constant _) => some i
    | _ => none
  let there := l.columns ++ fixed
  q.uses.filterMap fun (s, i) =>
    if s == source && g.numberColumn != some i && !there.contains i then some i else none

/-- How many rows have to be looked up when all of an index is passed. -/
def lookUps (q : Search) (source : Nat) (l : Ladder) : Estimate :=
  let covered := q.clues.takeWhile fun c =>
    c.formula.uses.all fun (s, i) => s != source || l.columns.contains i
  covered.foldl (fun (n : Estimate) c =>
    match c.odds with
    | some odds => n + odds
    | none => if c.bearing.any (·.ask.isEqual) then n - 20 else n - 1) (l.rowsAt 0 + 16)

/-- The offers of one order of a source. -/
def ofLadder (q : Search) (source : Nat) (needs : List Nat) (g : Ground) (place : Nat) (l : Ladder) : List Offer :=
  if !isUsable q g source l then []
  else
    let helps := mayHelp q source l
    let rows := l.rowsAt 0
    let base := { plain source needs (.ladder place l) with out := rows, order := if helps then place + 1 else 0 }
    match l.index with
    | none =>
      let scanned := adjusted q.clues rows { base with run := rows + 16 }
      scanned :: climb q g l (l.rungs.length + 3) base 0
    | some _ =>
      let rest := if l.isOwn then [] else missing q source g l
      let base := { base with isCovering := rest.isEmpty }
      let isPassed := helps || !g.ladders.any (·.index.isNone) || l.condition.isSome || g.isBound ||
        (rest.isEmpty && decide (l.width < g.width))
      let plainRun := rows + 1 + share g l
      let run := if rest.isEmpty then plainRun else plainRun.plus (lookUps q source l)
      let scanned := adjusted q.clues rows { base with run }
      (if isPassed then [scanned] else []) ++ climb q g l (2 * l.rungs.length + 3) base 0

/-- The offers of orders that are made on the spot. -/
def ofSorting (q : Search) (source : Nat) (needs : List Nat) (g : Ground) : List Offer :=
  if !g.mayBeSorted || q.isSide || g.kind == .right || g.kind == .full then []
  else
    let drives := fun (c : Clue) => c.bearing.filter fun b =>
      b.source == source && b.ask.isEqual && !b.others.contains source && mayUse g source c && b.how.fits b.how.left &&
        match b.handle with
        | .column _ => true
        | _ => false
    let steps := Estimate.search g.rows
    let columns := (q.uses.filter fun (s, i) => s == source && g.numberColumn != some i).map (·.2)
    let setup := max 0 (steps + g.rows + (if g.isMade then -25 else 28))
    q.clues.filterMap fun c => (drives c).map fun b =>
      { plain source ((needs ++ b.others).eraseDups) (.sorted columns) with
        setup, run := steps.plus 43, out := 43, terms := [(c, b)], equals := 1 }

/-! ## Sides of conditions -/

/-- What it costs to reach rows in some way. -/
structure Cost where
  needs : List Nat
  run : Estimate
  out : Estimate

/-- Costs with one more, without those that are never better. Only a few are kept. -/
def addCost (costs : List Cost) (c : Cost) : List Cost :=
  let least := fun (old : Cost) => { c with out := min old.out c.out }
  let stands := fun (old : Cost) => decide (c.run ≤ old.run) && subset c.needs old.needs
  let beaten := fun (old : Cost) => decide (old.run ≤ c.run) && subset old.needs c.needs
  match costs.findIdx? fun old => stands old || beaten old with
  | some i => costs.mapIdx fun j old => if i = j && stands old then least old else old
  | none =>
    if costs.length < 3 then costs ++ [c]
    else
      if costs.any fun old => decide (old.run ≤ c.run) then costs
      else
        let best := costs.foldl (fun (b : Estimate) old => min b old.run) ((costs.head?.map (·.run)).getD 0)
        let i := (costs.findIdx? fun old => old.run == best).getD 0
        costs.mapIdx fun j old => if i = j then least old else old

/-- The clues of one side of a condition that lead to a source, if it leads there. -/
def sideClues (q : Search) (source : Nat) (owner : Option Nat) (f : Formula) : List (List Clue) :=
  let own := Clue.plain f owner
  let far := fun (c : Clue) => { c with place := c.place + 1000000, parent := c.parent.map (· + 1000000) }
  match Clue.bearings q.grounds owner f with
  | [] => [(Clue.ofConditions q.grounds [(f, owner)]).map far]
  | bs => (bs.filter (·.source == source)).map fun b => [far { own with bearing := some b }]

def addCosts (as bs : List Cost) : List Cost :=
  as.foldl (fun all a => bs.foldl (fun all b =>
    addCost all ⟨(a.needs ++ b.needs).eraseDups, a.run.plus b.run, a.out.plus b.out⟩) all) []

mutual

/-- The offers of conditions that leave a choice, as deep as some levels. -/
def ofSides (q : Search) (source : Nat) (needs : List Nat) (g : Ground) : Nat → List Offer
  | 0 => []
  | d + 1 =>
    q.clues.flatMap fun c =>
      if c.sides.isEmpty || !(Clue.indexable q.grounds c.owner c.sides).contains source then []
      else
        let parts := c.sides.flatMap (sideClues q source c.owner)
        let costs := parts.map fun clues =>
          sideCosts { q with clues, outer := q.clues ++ q.outer } source needs g d
        let sum := match costs with
          | [] => []
          | first :: rest => if costs.any List.isEmpty then [] else rest.foldl addCosts first
        sum.map fun k =>
          { plain source k.needs (.either c) with
            run := k.run + 1, out := k.out
            terms := [(c, ⟨.equal, source, .number, ⟨.none, .none, .plain⟩, none, [], false⟩)] }

def sideCosts (q : Search) (source : Nat) (needs : List Nat) (g : Ground) : Nat → List Cost
  | 0 => []
  | d + 1 =>
    let all := (g.ladders.mapIdx (ofLadder q source needs g)).flatten ++ ofSides q source needs g d
    (all.filter fun o => !o.terms.isEmpty).foldl (fun costs o => addCost costs ⟨o.needs, o.run, o.out⟩) []

end

/-- The ways to the rows of a source. -/
def ofGround (q : Search) (source : Nat) (needs : List Nat) (g : Ground) : List Offer :=
  match g.arguments with
  | some args =>
    let made := { plain source ((needs ++ args).eraseDups) .call with run := g.making, out := g.rows }
    let byNumber := q.clues.filterMap fun c => c.bearing.bind fun b =>
      if b.source == source && b.ask.isEqual && b.handle.same .number && !b.others.contains source && mayUse g source c
      then some { made with needs := (made.needs ++ b.others).eraseDups, run := min g.making 33, terms := [(c, b)] }
      else none
    made :: (if g.making = 0 then [] else byNumber)
  | none =>
    ofSorting q source needs g ++ (g.ladders.mapIdx (ofLadder q source needs g)).flatten ++
      ofSides q source needs g 8

/-! ## Which offers count -/

/-- Whether an offer does less than another one and yet is not dearer. -/
def isCheaperPart (x y : Offer) : Bool :=
  if y.run < x.run && y.out < x.out then false
  else if x.equals < y.equals && x.sameLadder y then true
  else if y.terms.length ≤ x.terms.length then false
  else x.terms.all (fun (c, _) => y.terms.any fun (d, _) => d.place == c.place) && (!x.isCovering || y.isCovering)

/-- An offer made consistent with those that are there: one that does more is not dearer. -/
def levelled (known : List Offer) (o : Offer) : Offer :=
  if !o.isIndexed then o
  else known.foldl (fun o p =>
    if p.source != o.source || !p.isIndexed then o
    else if isCheaperPart p o then { o with run := min p.run o.run, out := min (p.out - 1) o.out }
    else if isCheaperPart o p then { o with run := max p.run o.run, out := max (p.out + 1) o.out }
    else o) o

/-- Whether one of two offers stands for both: the first that is there already, or the second that is new. -/
inductive Standing where
  | old
  | new
  | both

/-- Which of two offers counts. -/
def standing (old new : Offer) : Standing :=
  if old.source != new.source || old.order != new.order then .both
  else if old.isSorted && new.isIndexed && new.hasEqual && subset new.needs old.needs then .new
  else if subset old.needs new.needs && old.setup ≤ new.setup && old.run ≤ new.run && old.out ≤ new.out then .old
  else if subset new.needs old.needs && new.run ≤ old.run && new.out ≤ old.out then .new
  else .both

/-- Offers without those that stand behind a new one, up to the first that is better than it. -/
def cleared (new : Offer) : List Offer → List Offer
  | [] => []
  | o :: rest =>
    match standing o new with
    | .old => o :: rest
    | .new => cleared new rest
    | .both => o :: cleared new rest

/-- Offers with one more, which may take the place of others. -/
def place (new : Offer) : List Offer → List Offer
  | [] => [new]
  | o :: rest =>
    match standing o new with
    | .old => o :: rest
    | .new => new :: cleared new rest
    | .both => o :: place new rest

def insert (known : List Offer) (new : Offer) : List Offer := place (levelled known new) known

/-- The sources that have to be there before each of some sources. An open end keeps all that stands before it. -/
def needsOf (grounds : List Ground) : List (List Nat) :=
  (grounds.zipIdx.foldl (fun ((all, kept) : List (List Nat) × List Nat) (g, i) =>
    let kept := if g.kind == .inner then [] else (kept ++ List.range i).eraseDups
    (all ++ [kept], kept)) ([], [])).1

def all (q : Search) : List Offer :=
  let made := ((q.grounds.zip (needsOf q.grounds)).mapIdx fun i (g, needs) => ofGround q i needs g).flatten
  made.foldl insert []

end Offer
end Upkeep.Sql
