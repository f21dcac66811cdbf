import Upkeep.Sql.Plan.Flattening

/-!
# Queries that take the place of others

A query may choose among the rows of one other query and compute values from each. Then the order and the bound of
that can be its own. A selection may have a source whose rows are put together from several selections. Then its own
rows can be put together from as many selections, each with one of those in the place of the source.

* `Plan.merged`: a query without such sources.
-/

namespace Upkeep.Sql

namespace Formula

/-- Whether a formula calls functions or asks for queries, as deep as some levels. -/
def isComplex : Nat → Formula → Bool
  | 0, _ => false
  | d + 1, f =>
    match f with
    | .call .. => true
    | .firstOf _ => true
    | .fact .. => true
    | .moment _ => true
    | .aggregate _ => true
    | .window _ => true
    | .out _ e => isComplex d e
    | f => !f.plans.isEmpty || f.parts.any (isComplex d)

end Formula

mutual

/-- The affinity of the values of a formula that looks at some sources, as deep as some levels. -/
def Formula.affinity (supplies : List Supply) : Nat → Formula → Affinity
  | 0, _ => .none
  | d + 1, f =>
    match f with
    | .column s i =>
      match (supplies[s]?).map Supply.origin with
      | some (.table t _) => ((t.columns[i]?).map (·.affinity)).getD .none
      | some .objects => if i = 3 then .integer else .text
      | some (.plan _ _ p) => p.affinityAt i d
      | _ => .none
    | .number _ => .integer
    | .cast a _ => a
    | .plan _ _ p => p.affinityAt 0 d
    | _ => .none

/-- The affinity of a column of a query, as deep as some levels. -/
def Plan.affinityAt (p : Plan) (i : Nat) : Nat → Affinity
  | 0 => .none
  | d + 1 =>
    match p with
    | .single (.select _ results _ supplies ..) .. =>
      ((results[i]?).map fun f => f.affinity supplies d).getD .none
    | .compound (.select _ results _ supplies ..) .. =>
      ((results[i]?).map fun f => f.affinity supplies d).getD .none
    | .recursion first .. => first.affinityAt i d
    | _ => .none

end

/-! ## One source -/

/-- A query with the order and the bound of its one source, if that is a query that can be merged with it.
`wantsOne` is whether only its first row is wanted. -/
def Plan.opened? (wantsOne : Bool) : Plan → Option Plan
  | .single (.select isDistinct results collations
      [.make (.plan binding _ (.single (.select false own _ supplies conditions none [] _) ownOrder bound none)) kind tied]
      outer none [] course) order limit offset =>
    let mayMerge := binding != .sealed && !supplies.isEmpty && !Supply.reverses supplies &&
      (kind == .inner || kind == .cross) && (!ownOrder.isEmpty || bound.isSome)
    let mayOrder := ownOrder.isEmpty || (order.isEmpty && !results.any (Formula.isComplex depth))
    let mayBind := bound.isNone ||
      (limit.isNone && !wantsOne && outer.isEmpty && tied.isEmpty && !isDistinct)
    if !(mayMerge && mayOrder && mayBind) then none
    else
      let turn := Formula.replaced (Fate.replacement [.merged own])
      some (.single
        (.select isDistinct (results.map turn) collations supplies (conditions ++ (tied ++ outer).map turn) none []
          course)
        (if ownOrder.isEmpty then order.map (SortTerm.map turn) else ownOrder) (limit.or bound) offset)
  | _ => none

/-! ## Several selections -/

def Selector.affinities : Selector → List Affinity
  | .select _ results _ supplies .. => results.map fun f => f.affinity supplies depth
  | .values _ => []

/-- Whether a selection only chooses among rows and computes values from each. -/
def Selector.isOpen : Selector → Bool
  | .select false _ _ supplies _ none [] _ => !supplies.isEmpty && !Supply.reverses supplies
  | _ => false

/-- The selections that the rows of a source are put together from, if each can take its place, and its bound. -/
def Supply.arms? : Supply → Option (List Selector × Option Formula)
  | .make (.plan binding _ (.compound first more _ [] bound none)) kind _ =>
    let all := first :: more.map (·.2)
    let isPlain := binding != .sealed && (kind == .inner || kind == .cross) && more.all (·.1 == .unionAll)
    if isPlain && all.all fun s => s.isOpen && decide (s.affinities = first.affinities) then some (all, bound) else none
  | _ => none

/-- A source whose rows are those of a selection. -/
def Supply.through (s : Supply) (arm : Selector) : Supply :=
  match s with
  | .make (.plan binding _ _) kind cs => .make (.plan binding none (.single arm [] none none)) kind cs
  | s => s

/-- The selections that the rows of a selection are put together from, when sources are put together from several
selections. -/
def Selector.divided : Nat → Selector → List Selector
  | 0, s => [s]
  | d + 1, s =>
    match s with
    | .select false results collations supplies conditions none [] course =>
      let found := (supplies.zipIdx).findSome? fun (s, i) =>
        match s.arms? with
        | some (arms, none) => some (arms, s, i)
        | _ => none
      match found with
      | some (arms, s, i) => arms.flatMap fun arm =>
          divided d (.select false results collations (supplies.set i (s.through arm)) conditions none [] course)
      | none => [.select false results collations supplies conditions none [] course]
    | s => [s]

/-- A selection without the bound of its one source, and that bound, if it can be that of the selection. -/
def Selector.unbound : Selector → Selector × Option Formula
  | .select false results collations [.make (.plan binding k (.compound first more cs [] (some bound) none)) kind []]
      [] none [] course =>
    (.select false results collations [.make (.plan binding k (.compound first more cs [] none none)) kind []]
      [] none [] course, some bound)
  | s => (s, none)

/-- A query that is put together from several selections, if its selection has a source that is. Its order has to be
one of its columns. -/
def Plan.divided? (wantsOne : Bool) : Plan → Option Plan
  | .single (.select isDistinct results collations supplies conditions grouping windows course) order limit offset =>
    let whole := Selector.select isDistinct results collations supplies conditions grouping windows course
    let (s, bound) := if limit.isNone && !wantsOne then whole.unbound else (whole, none)
    match order.mapM fun t => (results.findIdx? fun f => f.isSame t.formula).map fun i => (i, t.direction) with
    | none => none
    | some places =>
      match s.divided depth with
      | first :: second :: more =>
        some (.compound first ((second :: more).map fun s => (.unionAll, s)) collations places (limit.or bound) offset)
      | _ => none
  | _ => none

/-- A query without sources whose place it can take, as deep as some levels. `wantsOne` is whether only its first row
is wanted. -/
def Plan.merged (wantsOne : Bool) : Nat → Plan → Plan
  | 0, p => p
  | d + 1, p =>
    let p := match p with
      | .single s order limit offset =>
        let (s, turn) := s.flattened (!order.isEmpty) depth
        Plan.single s (order.map (SortTerm.map turn)) limit offset
      | p => p
    match p.opened? wantsOne with
    | some p => merged wantsOne d p
    | none => (p.divided? wantsOne).getD p

end Upkeep.Sql
