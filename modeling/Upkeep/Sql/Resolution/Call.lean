import Upkeep.Sql.Resolution.Formula

/-!
# What calls mean

A call of a function of values is a formula of its arguments. A function of many rows belongs to the innermost
selection whose rows its arguments look at, which has to compute it; a function with a window belongs to the
selection that it stands in.

* `Resolver.called`: the formula of a call.
* `Windows.found`: the window that a call names.
-/

namespace Upkeep.Sql
open Database (Value)

/-! ## Windows -/

namespace Windows

/-- What is said of a window that another one cannot go on from. -/
def overrides (what : String) (base : Text) : Problem :=
  .failed ("cannot override ".toList ++ what.toList ++ " of window: ".toList ++ base)

def named (known : List (Text × WindowDefinition)) (name : Text) : Except Problem WindowDefinition :=
  match known.find? fun (n, _) => sameName n name with
  | some (_, w) => .ok w
  | none => .error (.failed ("no such window: ".toList ++ name))

/-- A window with what it has from the one that it goes on from. -/
def chained (known : List (Text × WindowDefinition)) : WindowDefinition → Except Problem WindowDefinition
  | .make none parts order frame => .ok (.make none parts order frame)
  | .make (some base) parts order frame => do
    match ← named known base with
    | .make _ baseParts baseOrder baseFrame =>
      if !parts.isEmpty then .error (overrides "PARTITION clause" base)
      else if !baseOrder.isEmpty && !order.isEmpty then .error (overrides "ORDER BY clause" base)
      else if baseFrame.isSome then .error (overrides "frame specification" base)
      else .ok (.make none baseParts (if baseOrder.isEmpty then order else baseOrder) frame)

/-- The windows of a selection, the last one first. -/
def defined (ws : List (Text × WindowDefinition)) : Except Problem (List (Text × WindowDefinition)) :=
  ws.foldlM (fun known (n, w) => do return (n, ← chained known w) :: known) []

/-- The window that a call names. -/
def found (known : List (Text × WindowDefinition)) : Over → Except Problem WindowDefinition
  | .named n => named known n
  | .own w => chained known w

/-- Whether an expression is made of constants alone. -/
def isConstant : Nat → Expr → Bool
  | 0, _ => false
  | d + 1, e =>
    match e with
    | .constant _ => true
    | .parameter _ => true
    | .unary _ e => isConstant d e
    | .binary _ a b => isConstant d a && isConstant d b
    | .same _ a b => isConstant d a && isConstant d b
    | .isNull _ e => isConstant d e
    | .between _ a b c => isConstant d a && isConstant d b && isConstant d c
    | .inList _ e es => isConstant d e && es.all (isConstant d)
    | .choice s cs o =>
      s.all (isConstant d) && cs.all (fun (a, b) => isConstant d a && isConstant d b) && o.all (isConstant d)
    | .cast e _ => isConstant d e
    | .collate e _ => isConstant d e
    | _ => false

end Windows

namespace Resolver

def sortTerm (r : Resolver) (s : Scope) : Term → Resolve SortTerm
  | .make e isDescending nullsFirst => do
    let a ← r.value s e
    return .make a.formula ⟨← Resolve.lift a.kind.collationOf, isDescending, nullsFirst.getD !isDescending⟩

/-- An end of a frame. What is not constant is nothing. -/
def frameEdge (r : Resolver) (s : Scope) : Edge → Resolve FrameEdge
  | .start => return .start
  | .before e => FrameEdge.before <$> offset e
  | .own => return .own
  | .after e => FrameEdge.after <$> offset e
  | .stop => return .stop
where
  offset (e : Expr) : Resolve Formula := do
    if Windows.isConstant depth e then return (← r.value s e).formula else return .constant .null

/-- A window whose names are known. -/
def window (r : Resolver) (s : Scope) : WindowDefinition → Resolve Window
  | .make _ parts order frame => do
    let parts ← parts.mapM fun e => r.sortTerm s (.make e false none)
    let order ← order.mapM (r.sortTerm s)
    match frame with
    | none => return .make parts order .values .start .own .nothing
    | some (.make unit first last exclusion) =>
      let isOffset := fun (e : Edge) => match e with
        | .before _ => true
        | .after _ => true
        | _ => false
      if unit = .values ∧ order.length ≠ 1 ∧ (isOffset first || isOffset last) then
        Resolve.note (.failed
          "RANGE with offset PRECEDING/FOLLOWING requires one ORDER BY expression".toList)
      return .make parts order unit (← r.frameEdge s first) (← r.frameEdge s last) exclusion

/-- A scope inside of the arguments of a function of many rows, or of one with a window. -/
def argumentScope (s : Scope) (isWindow : Bool) : Scope :=
  match s.levels with
  | [] => s
  | l :: ls =>
    { s with levels := { l with mayGather := isWindow && l.mayGather, mayLookAround := false } :: ls }

/-- The selection, counted from the innermost, whose rows some formulas look at. -/
def owner (s : Scope) (es : List Formula) : Nat :=
  let rs := (es.flatMap (Formula.references depth)).filter fun r =>
    (s.levels[r.level]?).any fun l => !l.isFixed
  rs.foldl (fun least r => some (least.elim r.level (min r.level))) none |>.getD 0

/-- A function of many rows with its parts. -/
def gathering (r : Resolver) (s : Scope) (f : Aggregate) (isDistinct : Bool) (args : List Expr)
    (order : List Term) (filter : Option Expr) : Resolve (AggregateCall × Kind) := do
  let inner := argumentScope s false
  let as ← r.values inner args
  let terms ← order.mapM (r.sortTerm inner)
  let condition ← filter.mapM (r.value inner)
  let c ← match as.findSome? fun a => a.kind.collation with
    | some c => Resolve.lift (namedCollation c)
    | none => pure .plain
  if isDistinct && as.length ≠ 1 then
    Resolve.note (.failed "DISTINCT aggregates must have exactly one argument".toList)
  return (.make f c isDistinct (as.map Sense.formula) terms (condition.map Sense.formula),
    .ofParts (as.map Sense.kind) .any)

/-- The number of a function of many rows in the selection that computes it. -/
def noted (depth : Nat) (c : AggregateCall) : Resolve Nat := do
  let l ← Resolve.ledger depth
  let mark := c.signature?
  match if mark.isSome then l.calls.findIdx? fun d => d.signature? == mark else none with
  | some n => return n
  | none =>
    Resolve.setLedger depth { l with calls := l.calls ++ [c] }
    return l.calls.length

/-- The formula of a function of many rows. -/
def gathered (r : Resolver) (s : Scope) (f : Aggregate) (isDistinct : Bool) (args : List Expr)
    (order : List Term) (filter : Option Expr) : Resolve Sense := do
  let before ← get
  let (call, kind) ← r.gathering s f isDistinct args order filter
  let k := owner s call.parts
  let call ←
    if k = 0 then pure call
    else do
      modify fun n => { n with ledgers := before.ledgers }
      pure (← r.gathering { s with levels := s.levels.drop k } f isDistinct args order filter).1
  let n ← noted (s.levels.length - 1 - k) call
  return { Sense.simple (.aggregate n) kind with hasAggregate := true }.from_ k

/-- The formula of a function with a window. -/
def lookedAround (r : Resolver) (s : Scope) (f : WindowFunction) (args : List Expr) (filter : Option Expr)
    (within : Over) : Resolve Sense := do
  let inner := argumentScope s true
  let as ← r.values inner args
  match Windows.found ((s.levels.head?.map (·.windows)).getD []) within with
  | .error p => do
    Resolve.note p
    return .simple default (.plain .any)
  | .ok w =>
    let w ← r.window inner w
    let condition ← filter.mapM (r.value inner)
    match f, filter with
    | .ranking _, some _ =>
      Resolve.note (.failed "FILTER clause may only be used with aggregate window functions".toList)
    | _, _ => pure ()
    let c ← match as.findSome? fun a => a.kind.collation with
      | some c => Resolve.lift (namedCollation c)
      | none => pure .plain
    let depth := s.levels.length - 1
    let l ← Resolve.ledger depth
    Resolve.setLedger depth
      { l with windows := l.windows ++ [.make f c (as.map Sense.formula) (condition.map Sense.formula) w] }
    return { Sense.ofParts (.window l.windows.length) (.ofParts (as.map Sense.kind) .any) as with
      hasWindow := true }

/-- The formula of a function that is no function of many rows, if there is one. -/
def computed (name : Text) (args : List Sense) : Resolve Sense := do
  let n := Function.smallName name
  let kind := Kind.ofParts (args.map Sense.kind) .any
  let es := args.map Sense.formula
  match (Function.composed.lookup n).isSome, es with
  | true, [c, a, b] =>
    if n = "iif" then
      return .ofParts (.choice none [(⟨.none, .none, .plain⟩, c, a)] (some b)) kind args
    else return .ofParts (.firstOf es) kind args
  | true, es => return .ofParts (.firstOf es) kind args
  | false, es =>
    match Fact.named.lookup n, Function.find? name with
    | some (_, f), _ => return .ofParts (.fact f es) kind args
    | none, some f => call name f args
    | none, none => return .simple default kind

/-- Whether an expression is a number that may be how likely something is. -/
def isShare : Expr → Bool
  | .constant (.real bits) => decide (Value.realOf bits ≤ 1.0)
  | _ => false

/-- What is wrong with a call before its arguments are looked at, if anything is: what it is, where it stands,
and how many arguments it has. -/
def flaw? (s : Scope) (name : Text) (start : Nat) (count : Nat) (isOrdered isFiltered isWindowed : Bool) :
    Option Problem :=
  let l := s.levels.head?
  let about := fun (before behind : String) => some (aboutFunction before name behind start)
  let ranking := ((Ranking.named.lookup (Function.smallName name)).filter fun (least, most, _) =>
    decide (least ≤ count ∧ count ≤ most)).isSome
  let gathers := ((Aggregate.named name).filter fun a => a.takes count).isSome || ranking
  let fits := Function.fits? name count
  if isWindowed && fits = some true && !gathers then about "" "() may not be used as a window function"
  else if gathers && (!(l.any (·.mayGather)) || (ranking && !isWindowed) ||
      (isWindowed && !(l.any (·.mayLookAround)))) then
    about (if ranking || isWindowed then "misuse of window function " else "misuse of aggregate function ") "()"
  else if fits.isNone then some (.unknownFunction name (some start))
  else if fits = some false then some (.wrongArguments name (some start))
  else if !gathers && (isFiltered || isWindowed) then about "FILTER may not be used with non-aggregate " "()"
  else if !gathers && isOrdered then about "ORDER BY may not be used with non-aggregate " "()"
  else none

/-- The formula of a call. -/
def called (r : Resolver) (s : Scope) (name : Text) (start : Nat) (isDistinct : Bool) (args : Option (List Expr))
    (order : List Term) (filter : Option Expr) (within : Option Over) : Resolve Sense := do
  let es := args.getD []
  let n := Function.smallName name
  match n, es with
  | "likelihood", [_, share] =>
    if !isShare share then
      Resolve.note (aboutFunction "second argument to " name "() must be a constant between 0.0 and 1.0" start)
  | _, _ => pure ()
  match flaw? s name start es.length (!order.isEmpty) filter.isSome within.isSome with
  | some p => do
    Resolve.note p
    let _ ← r.values s es
    return .simple default (.plain .any)
  | none =>
    let aggregate := (Aggregate.named name).filter fun a => a.takes es.length
    match within, aggregate, Ranking.named.lookup n with
    | some o, some a, _ => r.lookedAround s (.aggregate a) es filter o
    | some o, none, some (_, _, k) => r.lookedAround s (.ranking k) es filter o
    | _, some a, _ => r.gathered s a isDistinct es order filter
    | _, none, _ => computed name (← r.values s es)

end Resolver
end Upkeep.Sql
