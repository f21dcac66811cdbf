import Upkeep.Sql.Plan.Parts

/-!
# Plans with other formulas in them

* `Formula.map f g e`: a formula whose parts and queries are others.
* `Formula.replaced r e`: a formula in which other formulas stand for the columns of some sources.
-/

namespace Upkeep.Sql

/-! ## Parts -/

/-- A formula with other parts and other queries right inside of it. -/
def Formula.map (f : Formula → Formula) (g : Plan → Plan) : Formula → Formula
  | .unary op e => .unary op (f e)
  | .binary op a b => .binary op (f a) (f b)
  | .compare op how a b => .compare op how (f a) (f b)
  | .same n how a b => .same n how (f a) (f b)
  | .isTruth n w e => .isTruth n w (f e)
  | .isNull n e => .isNull n (f e)
  | .between n low high e a b => .between n low high (f e) (f a) (f b)
  | .inList n how e es => .inList n how (f e) (es.map f)
  | .inPlan n how k e p => .inPlan n how k (f e) (g p)
  | .plan w k p => .plan w k (g p)
  | .holds k p => .holds k (g p)
  | .choice s cs o => .choice (s.map f) (cs.map fun (c, a, b) => (c, f a, f b)) (o.map f)
  | .cast a e => .cast a (f e)
  | .firstOf es => .firstOf (es.map f)
  | .call n name fn c es => .call n name fn c (es.map f)
  | .fact a es => .fact a (es.map f)
  | .row es => .row (es.map f)
  | e => e

def SortTerm.map (f : Formula → Formula) : SortTerm → SortTerm
  | .make e d => .make (f e) d

/-- A function of many rows with other formulas. -/
def AggregateCall.map (f : Formula → Formula) : AggregateCall → AggregateCall
  | .make a c isDistinct args order filter =>
    .make a c isDistinct (args.map f) (order.map (SortTerm.map f)) (filter.map f)

/-- An end of a frame with another formula. -/
def FrameEdge.map (f : Formula → Formula) : FrameEdge → FrameEdge
  | .before e => .before (f e)
  | .after e => .after (f e)
  | edge => edge

/-- A window with other formulas. -/
def Window.map (f : Formula → Formula) : Window → Window
  | .make parts order unit first last exclusion =>
    .make (parts.map (SortTerm.map f)) (order.map (SortTerm.map f)) unit (first.map f) (last.map f) exclusion

/-- A function with a window with other formulas. -/
def WindowCall.map (f : Formula → Formula) : WindowCall → WindowCall
  | .make fn c args filter w => .make fn c (args.map f) (filter.map f) (w.map f)

/-- A way to take rows together with other formulas. -/
def Grouping.map (f : Formula → Formula) : Grouping → Grouping
  | .make keys having calls => .make (keys.map (SortTerm.map f)) (having.map f) (calls.map (AggregateCall.map f))

/-- An origin with other formulas, or another query. -/
def Origin.map (f : Formula → Formula) (g : Plan → Plan) : Origin → Origin
  | .plan n k p => .plan n k (g p)
  | .function fn args => .function fn (args.map f)
  | o => o

/-- A supply with other formulas, or another query. -/
def Supply.map (f : Formula → Formula) (g : Plan → Plan) : Supply → Supply
  | .make o k cs => .make (o.map f g) k (cs.map f)

/-- A selection with other formulas, and other queries as its sources. -/
def Selector.map (f : Formula → Formula) (g : Plan → Plan) : Selector → Selector
  | .values rows => .values (rows.map (List.map f))
  | .select isDistinct results collations supplies conditions grouping windows course =>
    .select isDistinct (results.map f) collations (supplies.map (Supply.map f g)) (conditions.map f)
      (grouping.map (Grouping.map f)) (windows.map (WindowCall.map f)) course

/-- A query with other formulas in its selections, other queries as its sources, and other bounds. -/
def Plan.map (f : Formula → Formula) (g : Plan → Plan) (h : Formula → Formula) : Plan → Plan
  | .single s order limit offset =>
    .single (s.map f g) (order.map (SortTerm.map f)) (limit.map h) (offset.map h)
  | .compound first more collations order limit offset =>
    .compound (first.map f g) (more.map fun (op, s) => (op, s.map f g)) collations order (limit.map h) (offset.map h)
  | .recursion first steps isDistinct collations order limit offset =>
    .recursion (g first) (steps.map (Selector.map f g)) isDistinct collations order (limit.map h) (offset.map h)

/-! ## Columns -/

/-- What stands for the columns of some sources, and for the numbers of their rows. -/
structure Replacement where
  column : Nat → Nat → Formula
  number : Nat → Formula

mutual

/-- A formula that stands inside of `k` more selections, with other formulas for columns; as deep as some
levels. -/
def Formula.replacedIn (r : Replacement) : Nat → Nat → Formula → Formula
  | 0, _, e => e
  | d + 1, k, e =>
    match e with
    | .column s i => if k = 0 then r.column s i else e
    | .number s => if k = 0 then r.number s else e
    | .out n inner => if n ≤ k then .out n (Formula.replacedIn r d (k - n) inner) else e
    | e => e.map (Formula.replacedIn r d k) (Plan.replacedIn r d k)

/-- A query that stands inside of `k` more selections, with other formulas for columns. -/
def Plan.replacedIn (r : Replacement) : Nat → Nat → Plan → Plan
  | 0, _, p => p
  | d + 1, k, p =>
    p.map (Formula.replacedIn r d (k + 1)) (Plan.replacedIn r d k) (Formula.replacedIn r d (k + 1))

end

/-- A formula with other formulas for the columns of its own selection. -/
def Formula.replaced (r : Replacement) (e : Formula) : Formula := e.replacedIn r depth 0

/-- The sources of a selection behind some others. -/
def Replacement.shift (n : Nat) : Replacement := ⟨fun s i => .column (s + n) i, fun s => .number (s + n)⟩

/-! ## Columns that are asked for -/

mutual

/-- The columns of the sources of a selection that a formula asks for, which stands inside of `k` more
selections. -/
def Formula.usesIn : Nat → Nat → Formula → List (Nat × Nat)
  | 0, _, _ => []
  | d + 1, k, e =>
    match e with
    | .column s i => if k = 0 then [(s, i)] else []
    | .out n inner => if n ≤ k then Formula.usesIn d (k - n) inner else []
    | e => e.parts.flatMap (Formula.usesIn d k) ++ e.plans.flatMap (Plan.usesIn d k)

/-- The columns of the sources of a selection that a query asks for, which stands inside of `k` more
selections. -/
def Plan.usesIn : Nat → Nat → Plan → List (Nat × Nat)
  | 0, _, _ => []
  | d + 1, k, p =>
    p.selectors.flatMap (fun (s, order) =>
      (s.parts ++ order).flatMap (Formula.usesIn d (k + 1)) ++
        (s.origins.filterMap Origin.plan?).flatMap (Plan.usesIn d k)) ++
      p.bounds.flatMap (Formula.usesIn d (k + 1)) ++ p.start?.toList.flatMap (Plan.usesIn d k)

end

/-- The columns of its own selection that a formula asks for. -/
def Formula.uses (e : Formula) : List (Nat × Nat) := e.usesIn depth 0

end Upkeep.Sql
