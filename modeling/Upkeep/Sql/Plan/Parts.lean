import Upkeep.Sql.Plan

/-!
# What formulas are made of

* `Formula.references d e`: the sources that a formula asks for, of its own selection and of those around it.
* `Formula.signature? d e`: what a formula is written with, by which formulas are known to be the same.
-/

namespace Upkeep.Sql
open Database (Value)

/-- A reference from inside of selections: to a source of one of them, or to what is gathered from its rows. -/
structure SourceReference where
  level : Nat
  source : Option Nat
  deriving DecidableEq, Repr

/-! ## Parts -/

/-- The formulas that a formula is made of, apart from those of queries in it. -/
def Formula.parts : Formula → List Formula
  | .unary _ e => [e]
  | .binary _ a b => [a, b]
  | .compare _ _ a b => [a, b]
  | .same _ _ a b => [a, b]
  | .isTruth _ _ e => [e]
  | .isNull _ e => [e]
  | .between _ _ _ e low high => [e, low, high]
  | .inList _ _ e es => e :: es
  | .inPlan _ _ _ e _ => [e]
  | .choice s cs o => s.toList ++ cs.flatMap (fun (_, a, b) => [a, b]) ++ o.toList
  | .cast _ e => [e]
  | .firstOf es => es
  | .call _ _ _ _ es => es
  | .fact _ es => es
  | .row es => es
  | _ => []

/-- The queries right inside of a formula. -/
def Formula.plans : Formula → List Plan
  | .inPlan _ _ _ _ p => [p]
  | .plan _ _ p => [p]
  | .holds _ p => [p]
  | _ => []

def SortTerm.formulas (ts : List SortTerm) : List Formula := ts.map SortTerm.formula

/-- The formulas of an end of a frame. -/
def FrameEdge.parts : FrameEdge → List Formula
  | .before e => [e]
  | .after e => [e]
  | _ => []

/-- The formulas of a function of many rows. -/
def AggregateCall.parts : AggregateCall → List Formula
  | .make _ _ _ args order filter => args ++ SortTerm.formulas order ++ filter.toList

def Window.parts : Window → List Formula
  | .make parts order _ first last _ =>
    SortTerm.formulas parts ++ SortTerm.formulas order ++ first.parts ++ last.parts

def WindowCall.parts : WindowCall → List Formula
  | .make _ _ args filter w => args ++ filter.toList ++ w.parts

/-- The formulas of the way in which rows are taken together. -/
def Grouping.parts : Grouping → List Formula
  | .make keys having calls => SortTerm.formulas keys ++ having.toList ++ calls.flatMap AggregateCall.parts

/-- The formulas of an origin that look at the sources beside it. -/
def Origin.parts : Origin → List Formula
  | .function _ args => args
  | _ => []

def Selector.parts : Selector → List Formula
  | .values rows => rows.flatten
  | .select _ results _ supplies conditions grouping windows _ =>
    results ++ supplies.flatMap (fun s => s.conditions ++ s.origin.parts) ++ conditions ++
      (grouping.map Grouping.parts).getD [] ++ windows.flatMap WindowCall.parts

def Selector.origins : Selector → List Origin
  | .values _ => []
  | .select _ _ _ supplies _ _ _ _ => supplies.map Supply.origin

/-- The selections of a query, with the formulas that look at their rows. -/
def Plan.selectors : Plan → List (Selector × List Formula)
  | .single s order _ _ => [(s, SortTerm.formulas order)]
  | .compound first more _ _ _ _ => (first, []) :: more.map fun (_, s) => (s, [])
  | .recursion _ steps _ _ _ _ _ => steps.map fun s => (s, [])

/-- The formulas of a query that look at none of its rows. They stand inside of a selection of nothing. -/
def Plan.bounds : Plan → List Formula
  | .single _ _ limit offset => limit.toList ++ offset.toList
  | .compound _ _ _ _ limit offset => limit.toList ++ offset.toList
  | .recursion _ _ _ _ _ limit offset => limit.toList ++ offset.toList

def Plan.start? : Plan → Option Plan
  | .recursion first _ _ _ _ _ _ => some first
  | _ => none

/-- The query that an origin has its rows from. -/
def Origin.plan? : Origin → Option Plan
  | .plan _ _ p => some p
  | _ => none

/-! ## References -/

/-- References from inside of some selections, those apart that do not leave the first. -/
def outside (rs : List SourceReference) : List SourceReference :=
  rs.filterMap fun r => match r.level with
    | 0 => none
    | n + 1 => some { r with level := n }

mutual

/-- The references of a formula, as deep as some levels. -/
def Formula.references : Nat → Formula → List SourceReference
  | 0, _ => []
  | d + 1, e =>
    match e with
    | .column s _ => [⟨0, some s⟩]
    | .number s => [⟨0, some s⟩]
    | .aggregate _ => [⟨0, none⟩]
    | .window _ => [⟨0, none⟩]
    | .out n e => (e.references d).map fun r => { r with level := r.level + n }
    | e => e.parts.flatMap (Formula.references d) ++ e.plans.flatMap (Plan.references d)

def Selector.references : Nat → Selector → List SourceReference
  | 0, _ => []
  | d + 1, s =>
    outside (s.parts.flatMap (Formula.references d)) ++
      (s.origins.filterMap Origin.plan?).flatMap (Plan.references d)

def Plan.references : Nat → Plan → List SourceReference
  | 0, _ => []
  | d + 1, p =>
    p.selectors.flatMap (fun (s, order) =>
      Selector.references d s ++ outside (order.flatMap (Formula.references d))) ++
      outside (p.bounds.flatMap (Formula.references d)) ++
      p.start?.toList.flatMap (Plan.references d)

end

/-- How deep formulas are looked into. -/
def depth : Nat := 1000

def Formula.sources (e : Formula) : List Nat :=
  ((e.references depth).filterMap fun r => if r.level = 0 then r.source else none).eraseDups

/-- The columns of the innermost selection that a formula without queries asks for, as deep as some levels. -/
def Formula.columns : Nat → Formula → List Nat
  | 0, _ => []
  | _ + 1, .column _ i => [i]
  | d + 1, e => e.parts.flatMap (Formula.columns d)

/-! ## Signatures -/

/-- What formulas are written with. -/
inductive Word where
  | number (n : Int)
  | name (t : Text)
  | value (v : Value)
  deriving DecidableEq

def Word.ofBool (b : Bool) : Word := .number (if b then 1 else 0)

def Comparing.words (c : Comparing) : List Word :=
  [.number c.left.ctorIdx, .number c.right.ctorIdx, .number c.collation.ctorIdx]

/-- What a formula is written with itself, apart from its parts. -/
def Formula.head : Formula → List Word
  | .constant v => [.number 0, .value v]
  | .parameter n => [.number 1, .number n]
  | .moment m => [.number 2, .number m.ctorIdx]
  | .column s i => [.number 3, .number s, .number i]
  | .number s => [.number 4, .number s]
  | .out n _ => [.number 5, .number n]
  | .unary op _ => [.number 6, .number op.ctorIdx]
  | .binary op _ _ => [.number 7, .number op.ctorIdx]
  | .compare op how _ _ => [.number 8, .number op.ctorIdx] ++ how.flatMap Comparing.words
  | .same b how _ _ => [.number 9, .ofBool b] ++ how.flatMap Comparing.words
  | .isTruth b w _ => [.number 10, .ofBool b, .ofBool w]
  | .isNull b _ => [.number 11, .ofBool b]
  | .between b low high _ _ _ => [.number 12, .ofBool b] ++ (low ++ high).flatMap Comparing.words
  | .inList b how _ _ => [.number 13, .ofBool b] ++ how.words
  | .inPlan .. => [.number 14]
  | .plan .. => [.number 15]
  | .holds .. => [.number 16]
  | .choice s cs _ => [.number 17, .ofBool s.isSome, .number cs.length]
  | .cast a _ => [.number 18, .number a.ctorIdx]
  | .firstOf _ => [.number 19]
  | .call b n _ _ _ => [.number 20, .ofBool b, .name (Text.toLower n)]
  | .fact f _ => [.number 21, .number f.ctorIdx]
  | .aggregate n => [.number 22, .number n]
  | .window n => [.number 23, .number n]
  | .raise _ m => [.number 24, .name m]
  | .row _ => [.number 25]

/-- What a formula is written with, as deep as some levels. A formula with queries in it is like no other. -/
def Formula.signature? : Nat → Formula → Option (List Word)
  | 0, _ => none
  | d + 1, e =>
    match e with
    | .out n e => (e.signature? d).map fun ws => .number 5 :: .number n :: ws
    | e =>
      if !e.plans.isEmpty then none
      else do
        let inner ← e.parts.mapM (Formula.signature? d)
        return e.head ++ .number inner.length :: inner.flatten

def Formula.isSame (a b : Formula) : Bool :=
  match a.signature? depth, b.signature? depth with
  | some s, some t => s == t
  | _, _ => false

/-- What a function of many rows is written with. -/
def AggregateCall.signature? : AggregateCall → Option (List Word)
  | .make f c isDistinct args order filter => do
    let part := fun (es : List Formula) => do
      let all ← es.mapM (Formula.signature? depth)
      return Word.number es.length :: all.flatten
    return [.name f.name, .number c.ctorIdx, .ofBool isDistinct] ++ (← part args) ++
      (← part (SortTerm.formulas order)) ++ (← part filter.toList)

end Upkeep.Sql
