import Upkeep.Sql.Plan.Parts
import Upkeep.Sql.Scope

/-!
# What expressions mean

An expression becomes a formula and a query becomes a plan when the names in them are known. On the way it is
noted which functions of many rows, and which with windows, every selection around has to compute.

* `Resolve`: work that takes such notes.
* `Resolver`: what expressions and queries mean that lie one level deeper.
* `Resolver.expression r s e`: the formula of an expression in a scope, when `r` knows its parts.
-/

namespace Upkeep.Sql
open Database (Value)

/-! ## Names -/

/-- What a selection has to compute besides its columns. -/
structure Ledger where
  calls : List AggregateCall
  windows : List WindowCall

/-- What is noted on the way: how many queries have a number, what the selections around have to compute, by
how many others they lie in, and a problem that counts unless there is another one in the same expression. -/
structure Notes where
  serial : Nat
  ledgers : List (Nat × Ledger)
  trouble : Option Problem

/-- Work that takes notes and may find a problem. -/
abbrev Resolve := StateT Notes (Except Problem)

/-- What a query means: its plan, its columns, and how the columns of its last selection compare. -/
structure Queried where
  plan : Plan
  fields : List Field
  last : List Kind

/-- What expressions, queries and groups of sources mean that lie one level deeper. -/
structure Resolver where
  formula : Scope → Expr → Resolve Sense
  query : Scope → Query → Resolve Queried
  /-- A query of all columns of a group of sources. -/
  group : Scope → List Source → Resolve (Plan × List Field)

namespace Resolve

def fail {α : Type} (p : Problem) : Resolve α := throw p

/-- Ends work with something that may not stand where it stands. -/
def misuse {α : Type} (words : String) : Resolve α := throw (.misplaced words.toList none)

def lift {α : Type} : Except Problem α → Resolve α
  | .ok a => pure a
  | .error p => throw p

/-- Notes a problem that counts unless there is another one in the same expression. -/
def note (p : Problem) : Resolve Unit := modify fun n => { n with trouble := some p }

/-- Ends work if a problem has been noted. -/
def settle : Resolve Unit := do
  match (← get).trouble with
  | some p => throw p
  | none => return

def run {α : Type} (work : Resolve α) : Except Problem α :=
  (do let a ← work; settle; return a : Resolve α).run' ⟨0, [], none⟩

/-- Work in a definition, whose problems have no place in the statement. -/
def inDefinition {α : Type} (work : Resolve α) : Resolve α := fun n => (StateT.run work n).mapError Problem.unplaced

/-- A number that no query has yet. -/
def fresh : Resolve Nat := do
  let n ← get
  set { n with serial := n.serial + 1 }
  return n.serial

/-- What a selection that lies in some others has to compute. -/
def ledger (depth : Nat) : Resolve Ledger := return ((← get).ledgers.lookup depth).getD ⟨[], []⟩

/-- Notes what a selection that lies in some others has to compute. -/
def setLedger (depth : Nat) (l : Ledger) : Resolve Unit :=
  modify fun n => { n with ledgers := (depth, l) :: n.ledgers.filter fun (d, _) => d != depth }

/-- Work inside of a new selection that lies in some others, and what the selection has to compute then. -/
def within {α : Type} (depth : Nat) (work : Resolve α) : Resolve (α × Ledger) := do
  let before ← ledger depth
  setLedger depth ⟨[], []⟩
  let a ← work
  let own ← ledger depth
  setLedger depth before
  return (a, own)

/-- The number under which rows are kept of a query with some references from a scope: none if they hang on rows
around it that change. -/
def keeping (s : Scope) (rs : List SourceReference) : Resolve Keeping := do
  let hangs := rs.any fun r => (s.levels[r.level]?).any fun l => !l.isFixed
  if hangs then return none else return some (← fresh)

def one (s : Sense) : Resolve Sense := do
  if s.width = 1 then return s
  else match s.formula with
    | .plan w _ _ =>
      fail (.failed ("sub-select returns ".toList ++ Text.ofNat w ++ " columns - expected 1".toList))
    | _ => misuse "row value misused"

end Resolve

def Scope.naming (s : Scope) (tables : List NamedQuery) : Scope := { s with named := tables :: s.named }

/-- What is said of a function whose name stands somewhere. -/
def aboutFunction (before : String) (name : Text) (behind : String) (start : Nat) : Problem :=
  .misplaced (before.toList ++ name ++ behind.toList) (some start)

/-- What a selection with a function of many rows does wrong that takes no rows together there. -/
def strayAggregate (c : AggregateCall) : Problem :=
  .misplaced ("misuse of aggregate: ".toList ++ c.function.name ++ "()".toList) none

/-! ## Expressions -/

namespace Resolver

def value (r : Resolver) (s : Scope) (e : Expr) : Resolve Sense := do Resolve.one (← r.formula s e)

def values (r : Resolver) (s : Scope) (es : List Expr) : Resolve (List Sense) := es.mapM (r.value s)

/-- How the values of two rows compare, place by place. -/
def comparings (a b : Sense) : Resolve (List Comparing) := do
  if a.width ≠ b.width then Resolve.misuse "row value misused"
  else (a.kinds.zip b.kinds).mapM fun (k, l) => Resolve.lift (k.comparing l)

def truth (e : Formula) (parts : List Sense) : Sense :=
  .ofParts e (.ofParts (parts.map Sense.kind) .number) parts

/-- A condition turned around, if asked for. -/
def negatedIf (isNegated : Bool) (s : Sense) : Sense :=
  if isNegated then { s with formula := .unary .not s.formula } else s

def typesOf : BinaryOp → Types
  | .join => ⟨false, true, true⟩
  | _ => .number

def truthWord? : Expr → Option Bool
  | .column n =>
    if n.isQuoted || n.table.isSome then none
    else if sameName n.column "true".toList then some true
    else if sameName n.column "false".toList then some false
    else none
  | .collate e _ => truthWord? e
  | _ => none

def memberAffinity (a : Affinity) : Affinity :=
  if a = .none then .blob else if a = .real then .numeric else a

/-- A call of a function of values by its name. -/
def call (name : Text) (f : Function) (args : List Sense) : Resolve Sense := do
  let n := Function.smallName name
  let c ←
    if n = "min" ∨ n = "max" ∨ n = "nullif" then
      match args.findSome? fun a => a.kind.collation with
      | some c => Resolve.lift (namedCollation c)
      | none => pure .plain
    else pure .plain
  return .ofParts (.call false name f c (args.map Sense.formula)) (.ofParts (args.map Sense.kind) .any) args

/-- A comparison with a pattern. -/
def matching (r : Resolver) (s : Scope) (op : MatchOp) (isNegated : Bool) (e pattern : Expr)
    (escape : Option Expr) : Resolve Sense := do
  let args ← r.values s (pattern :: e :: escape.toList)
  let kind := Kind.ofParts (args.map Sense.kind) .any
  let made := fun (name : String) (f : Function) =>
    Sense.ofParts (.call isNegated name.toList f .plain (args.map Sense.formula)) kind args
  match op with
  | .regexp => Resolve.fail (.unknownFunction "REGEXP".toList none)
  | .document =>
    return made "match" (.ofValues Function.any fun _ _ =>
      .error (.failed "unable to use function MATCH in the requested context".toList))
  | .glob => return ((Function.find? "glob".toList).map (made "glob")).getD (.simple default (.plain .any))
  | .like => return ((Function.find? "like".toList).map (made "like")).getD (.simple default (.plain .any))

/-- Whether a value is one of the rows of a query. -/
def membership (r : Resolver) (s : Scope) (isNegated : Bool) (e : Expr) (q : Query) : Resolve Sense := do
  let a ← r.formula s e
  let found ← r.query s q
  if a.width ≠ found.last.length then
    Resolve.fail (.failed ("sub-select returns ".toList ++ Text.ofNat found.last.length ++
      " columns - expected ".toList ++ Text.ofNat a.width))
  let how ← (a.kinds.zip found.last).mapM fun (k, l) => do
    let c ← Resolve.lift (namedCollation (k.collationWith l))
    let joint := Affinity.joint k.affinity l.affinity
    return ⟨joint, .none, c⟩
  let k ← Resolve.keeping s (found.plan.references depth)
  return truth (.inPlan isNegated how k a.formula found.plan) [a]

/-- The formula of a choice between cases. -/
def chosen (r : Resolver) (s : Scope) (subject : Option Expr) (cases : List (Expr × Expr))
    (otherwise : Option Expr) : Resolve Sense := do
  let v ← subject.mapM (r.value s)
  let found ← cases.mapM fun (a, b) => do return (← r.value s a, ← r.value s b)
  let o ← otherwise.mapM (r.value s)
  let cs ← found.mapM fun (a, b) => do
    let how ← match v with
      | some v => Resolve.lift (v.kind.comparing a.kind)
      | none => pure ⟨.none, .none, .plain⟩
    return (how, a.formula, b.formula)
  let parts := v.toList ++ found.flatMap (fun (a, b) => [a, b]) ++ o.toList
  let types := (found.map fun (_, b) => b.kind.types) ++ o.toList.map fun b => b.kind.types
  return .ofParts (.choice (v.map Sense.formula) cs (o.map Sense.formula))
    (.ofParts (parts.map Sense.kind) (types.foldl Types.or .none)) parts

/-- The formula of an expression that calls no function. -/
def expression (r : Resolver) (s : Scope) : Expr → Resolve Sense
  | .constant v => return .simple (.constant v) (.plain (Types.ofValue v))
  | .column n => Resolve.lift (s.find n)
  | .parameter n => return .simple (.parameter n) (.plain .any)
  | .moment m => return .simple (.moment m) (.plain .any)
  | .unary op e => do
    let a ← r.value s e
    match op with
    | .keep => return { a with formula := .unary op a.formula, kinds := [{ a.kind with affinity := .none }] }
    | op => return truth (.unary op a.formula) [a]
  | .binary op a b => do
    match op with
    | .member => call "->".toList Function.member (← r.values s [a, b])
    | .memberText => call "->>".toList Function.memberValue (← r.values s [a, b])
    | op =>
      if [BinaryOp.equal, .differ, .less, .notMore, .more, .notLess].contains op then do
        let x ← r.formula s a
        let y ← r.formula s b
        return truth (.compare op (← comparings x y) x.formula y.formula) [x, y]
      else do
        let x ← r.value s a
        let y ← r.value s b
        return .ofParts (.binary op x.formula y.formula) (.ofParts [x.kind, y.kind] (typesOf op)) [x, y]
  | .same isNegated a b => do
    let x ← r.formula s a
    let y ← r.formula s b
    match truthWord? b, y.formula with
    | some t, .constant _ => return truth (.isTruth isNegated t x.formula) [x]
    | _, _ => return truth (.same isNegated (← comparings x y) x.formula y.formula) [x, y]
  | .isNull isNegated e => do
    let a ← r.value s e
    return truth (.isNull isNegated a.formula) [a]
  | .compare op isNegated e pattern escape => r.matching s op isNegated e pattern escape
  | .between isNegated e low high => do
    let x ← r.formula s e
    let y ← r.formula s low
    let z ← r.formula s high
    return truth (.between isNegated (← comparings x y) (← comparings x z) x.formula y.formula z.formula)
      [x, y, z]
  | .inList isNegated e es => do
    let a ← r.value s e
    let all ← r.values s es
    let c ← Resolve.lift a.kind.collationOf
    let joint := memberAffinity a.kind.affinity
    return truth (.inList isNegated ⟨joint, .none, c⟩ a.formula (all.map Sense.formula)) (a :: all)
  | .inQuery isNegated e q => r.membership s isNegated e q
  | .query q => do
    let found ← r.query s q
    let k ← Resolve.keeping s (found.plan.references depth)
    let kinds := found.last.map fun l => { Kind.plain (Types.ofAffinity l.affinity) with affinity := l.affinity }
    return ⟨.plan kinds.length k found.plan, kinds, false, false⟩
  | .holds q => do
    let found ← r.query s q
    let k ← Resolve.keeping s (found.plan.references depth)
    return .simple (.holds k found.plan) (.plain .number)
  | .choice subject cases otherwise => r.chosen s subject cases otherwise
  | .cast e type => do
    let a ← r.value s e
    let target := Affinity.ofType type
    return { a with
      formula := .cast target a.formula
      kinds := [{ a.kind with affinity := target, types := Types.ofAffinity target }] }
  | .collate e c => do
    let a ← r.formula s e
    let _ ← Resolve.lift (namedCollation c)
    return { a with kinds := a.kinds.map fun k => { k with collation := some c, isExplicit := true } }
  | .raise how m =>
    if s.isTrigger then return .simple (.raise how m) (.plain .any)
    else Resolve.misuse "RAISE() may only be used within a trigger-program"
  | .row es => do
    let all ← r.values s es
    return { Sense.ofParts (.row (all.map Sense.formula)) (.plain .any) all with kinds := all.map Sense.kind }
  | .call .. => return .simple default (.plain .any)

end Resolver
end Upkeep.Sql
