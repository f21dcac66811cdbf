import Upkeep.Sql.Plan.Rewriting

/-!
# Queries that are merged with others

A query that is the source of a selection may only choose among rows and compute values from each. Then its own
sources can take its place, and the conditions of both choose together.

* `Selector.flattened`: a selection with the sources of such queries in their place.
-/

namespace Upkeep.Sql

/-- A query that can be merged: what it computes, its sources and its conditions. -/
structure Mergeable where
  results : List Formula
  supplies : List Supply
  conditions : List Formula

/-- Whether rows of sources are there even where those before them are not. -/
def Supply.reverses (supplies : List Supply) : Bool :=
  supplies.any fun s => s.kind == .right || s.kind == .full

def Formula.isColumn : Formula → Bool
  | .column .. => true
  | _ => false

/-- The query of a source, if it can be merged with the selection that it is a source of. Behind an open end a query
may have one source only, and may not compute anything. -/
def Supply.mergeable? (isDistinct : Bool) : Supply → Option Mergeable
  | .make (.plan binding _ (.single (.select false results _ supplies conditions none [] _) [] none none)) kind _ =>
    let isPlain := results.all Formula.isColumn && supplies.length == 1 && !isDistinct
    if supplies.isEmpty || Supply.reverses supplies || binding = .sealed then none
    else match kind with
      | .inner => some ⟨results, supplies, conditions⟩
      | .cross => some ⟨results, supplies, conditions⟩
      | .left => if isPlain then some ⟨results, supplies, conditions⟩ else none
      | _ => none
  | _ => none

/-- Where a source has gone: to another place, or into several sources from which its columns are computed. -/
inductive Fate where
  | moved (place : Nat)
  | merged (results : List Formula)

/-- What stands for the columns of sources by what has become of them. -/
def Fate.replacement (fates : List Fate) : Replacement where
  column s i := match fates[s]? with
    | some (.moved n) => .column n i
    | some (.merged rs) => (rs[i]?).getD (.constant .null)
    | none => .column s i
  number s := match fates[s]? with
    | some (.moved n) => .number n
    | _ => .constant .null

/-- The fates of sources, the first of which gets a place. -/
def Fate.ofSupplies (isDistinct : Bool) : Nat → List Supply → List Fate
  | _, [] => []
  | n, s :: rest =>
    match s.mergeable? isDistinct with
    | none => .moved n :: ofSupplies isDistinct (n + 1) rest
    | some m =>
      .merged (m.results.map (Formula.replaced (.shift n))) ::
        ofSupplies isDistinct (n + m.supplies.length) rest

/-- Sources with those of queries in their place, the first of which gets a place, and the conditions of the
queries. `turn` is what a formula becomes. -/
def Supply.spread (isDistinct : Bool) (turn : Formula → Formula) :
    Nat → List Supply → List Supply × List Formula
  | _, [] => ([], [])
  | n, s :: rest =>
    match s.mergeable? isDistinct with
    | none =>
      let (supplies, conditions) := spread isDistinct turn (n + 1) rest
      (s.map turn id :: supplies, conditions)
    | some m =>
      let shift := Formula.replaced (.shift n)
      let own := m.conditions.map shift
      let (tied, chosen) := if s.kind == .left then (own, []) else ([], own)
      let inner := match m.supplies.map (Supply.map shift id) with
        | .make o _ cs :: more => .make o s.kind (cs ++ s.conditions.map turn ++ tied) :: more
        | [] => []
      let (supplies, conditions) := spread isDistinct turn (n + m.supplies.length) rest
      (inner ++ supplies, chosen ++ conditions)

/-- A selection with the sources of queries in their place, and what formulas in it become. -/
def Selector.flattenedOnce : Selector → Selector × (Formula → Formula)
  | .select isDistinct results collations supplies conditions grouping windows course =>
    let isOpen := windows.isEmpty && !Supply.reverses supplies &&
      supplies.any fun s => (s.mergeable? isDistinct).isSome
    if !isOpen then (.select isDistinct results collations supplies conditions grouping windows course, id)
    else
      let turn := Formula.replaced (Fate.replacement (Fate.ofSupplies isDistinct 0 supplies))
      let (supplies, more) := Supply.spread isDistinct turn 0 supplies
      (.select isDistinct (results.map turn) collations supplies (more ++ conditions.map turn)
        (grouping.map (Grouping.map turn)) windows course, turn)
  | s => (s, id)

/-! ## Orders that make no difference -/

/-- Whether a selection has functions of many rows to which the order of those makes a difference. -/
def Selector.minds : Selector → Bool
  | .select _ _ _ _ _ (some (.make _ _ calls)) _ _ => calls.any fun c => !c.function.ignoresOrder
  | _ => false

/-- A query without an order of its rows, unless that decides which they are. -/
def Origin.unordered : Origin → Origin
  | .plan n k (.single s order none none) => .plan n k (.single s (if s.minds then order else []) none none)
  | .plan n k (.compound first more cs _ none none) => .plan n k (.compound first more cs [] none none)
  | o => o

/-- A selection whose sources have no order where that makes no difference: its rows are put in an order of their own,
or there are several sources. -/
def Selector.loosened (isOrdered : Bool) : Selector → Selector
  | .select isDistinct results collations supplies conditions grouping windows course =>
    let s := Selector.select isDistinct results collations supplies conditions grouping windows course
    if s.minds || !(isOrdered || 1 < supplies.length) then s
    else
      .select isDistinct results collations (supplies.map fun | .make o k cs => .make o.unordered k cs) conditions
        grouping windows course
  | s => s

/-! ## Open ends -/

namespace Formula

/-- Whether a formula has no value, or does not hold, without a row of a source, as deep as some levels. -/
def hangsOn (s : Nat) : Nat → Formula → Bool
  | 0, _ => false
  | d + 1, f =>
    let go := hangsOn s d
    match f with
    | .column i _ => i == s
    | .number i => i == s
    | .binary .and a b => go a && go b
    | .binary .or a b => go a && go b
    | .binary _ a b => go a || go b
    | .compare _ _ a b => go a || go b
    | .unary _ e => go e
    | .cast _ e => go e
    | .inList _ _ e es => !es.isEmpty && go e
    | .between _ _ _ e low high => go e || (go low && go high)
    | _ => false

/-- Whether a condition can only hold with a row of a source, as deep as some levels. -/
def refuses (s : Nat) : Nat → Formula → Bool
  | 0, _ => false
  | d + 1, f =>
    match f with
    | .binary .and a b => refuses s d a || refuses s d b
    | .isNull true e => e.hangsOn s d
    | f => f.hangsOn s d

end Formula

/-- A selection without those open ends that its conditions close. -/
def Selector.closed : Selector → Selector
  | .select isDistinct results collations supplies conditions grouping windows course =>
    if Supply.reverses supplies then
      .select isDistinct results collations supplies conditions grouping windows course
    else
      let isClosed := fun (i : Nat) (s : Supply) =>
        s.kind == .left && conditions.any fun c => c.refuses i depth
      let supplies' := supplies.mapIdx fun i s =>
        if isClosed i s then .make s.origin .inner [] else s
      let more := (supplies.mapIdx fun i s => if isClosed i s then s.conditions else []).flatten
      .select isDistinct results collations supplies' (conditions ++ more) grouping windows course
  | s => s

/-- A selection as simple as it can be made by closing open ends and by merging queries with it, and what formulas in
it become. `isOrdered` is whether its rows are put in order. -/
def Selector.flattened (isOrdered : Bool) : Nat → Selector → Selector × (Formula → Formula)
  | 0, s => (s, id)
  | d + 1, s =>
    let s := s.closed.loosened isOrdered
    let isOpen := match s with
      | .select isDistinct _ _ supplies _ _ windows _ =>
        windows.isEmpty && !Supply.reverses supplies &&
          supplies.any fun p => (p.mergeable? isDistinct).isSome
      | .values _ => false
    if isOpen then
      let (s, turn) := s.flattenedOnce
      let (s, next) := flattened isOrdered d s
      (s, fun f => next (turn f))
    else (s, id)

end Upkeep.Sql
