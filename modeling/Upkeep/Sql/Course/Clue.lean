import Upkeep.Sql.Course.Ground

/-!
# Clues

What conditions say about where rows are found. A condition that compares a handle of a source with something else
is a clue to the source; of some conditions other ones follow that are clues too.

* `Clue.ofConditions gs fs`: the clues that conditions are.
* `Clue.scan`: the clues to a handle, also by way of other handles that are the same.
-/

namespace Upkeep.Sql
open Database (Value)

/-- How a handle compares with something else. -/
inductive Ask where
  | equal
  | same
  /-- It is one of some values. -/
  | member (count : Estimate)
  | less
  | notMore
  | more
  | notLess
  /-- There is nothing. -/
  | missing
  deriving DecidableEq

namespace Ask

/-- Whether there is one value that is asked for. -/
def isEqual : Ask → Bool
  | equal => true
  | same => true
  | _ => false

/-- Whether values are asked for that are not too small. -/
def isFloor : Ask → Bool
  | more => true
  | notLess => true
  | _ => false

/-- Whether values are asked for that are not too large. -/
def isCeiling : Ask → Bool
  | less => true
  | notMore => true
  | _ => false

/-- Whether some of several values are asked for. -/
def isMember : Ask → Bool
  | member _ => true
  | _ => false

/-- What is asked when both sides change places. -/
def turned : Ask → Ask
  | less => more
  | notMore => notLess
  | more => less
  | notLess => notMore
  | a => a

def ofOperator? : BinaryOp → Option Ask
  | .equal => some equal
  | .less => some less
  | .notMore => some notMore
  | .more => some more
  | .notLess => some notLess
  | _ => none

end Ask

/-- A comparison of a handle with something else. -/
structure Bearing where
  ask : Ask
  source : Nat
  handle : Handle
  /-- How they compare, the handle on the left. -/
  how : Comparing
  /-- The other side, and the sources that it hangs on. -/
  other : Option Formula
  others : List Nat
  /-- Whether the handle and the other side stand for each other. -/
  isMutual : Bool

/-- What a condition says. -/
structure Clue where
  place : Nat
  formula : Formula
  /-- The sources that the condition hangs on. -/
  sources : List Nat
  /-- The source behind an open end that the condition belongs to. -/
  owner : Option Nat
  bearing : Option Bearing
  /-- The conditions of which one has to hold. -/
  sides : List Formula
  /-- The condition from which it follows. -/
  parent : Option Nat
  /-- Whether it only follows from another condition. -/
  isDerived : Bool
  /-- Whether it only says that there is something. -/
  isPresence : Bool
  /-- Whether it is an end of a range of texts with the same beginning. -/
  isOfPattern : Bool
  /-- How likely it is, if that is said. -/
  odds : Option Estimate

/-! ## Formulas -/

namespace Formula

/-- A formula without what is said of how likely it is. -/
def bare : Formula → Formula
  | .call b n f c (e :: es) =>
    if ["likely", "unlikely", "likelihood"].contains (Function.smallName n) then e.bare else .call b n f c (e :: es)
  | e => e

/-- How likely a condition is said to be. -/
def odds? : Formula → Option Estimate
  | .call _ n _ _ [_] =>
    match Function.smallName n with
    | "likely" => some (-1)
    | "unlikely" => some (-40)
    | _ => none
  | .call _ n _ _ [_, .constant (.real bits)] =>
    if Function.smallName n = "likelihood" then
      some (Estimate.ofNat (Double.toInt (Value.realOf bits * 134217728)).toNat - 270)
    else none
  | _ => none

/-- The conditions that all have to hold for a condition, as deep as some levels. -/
def conjuncts : Nat → Formula → List Formula
  | 0, f => [f]
  | d + 1, f =>
    match f.bare with
    | .binary .and a b => conjuncts d a ++ conjuncts d b
    | _ => [f]

/-- The conditions of which one has to hold for a condition, as deep as some levels. -/
def disjuncts : Nat → Formula → List Formula
  | 0, f => [f]
  | d + 1, f =>
    match f.bare with
    | .binary .or a b => disjuncts d a ++ disjuncts d b
    | _ => [f]

def whole? : Formula → Option Int
  | .constant (.integer n) => some n
  | .unary .negate e => e.whole?.map (- ·)
  | .unary .keep e => e.whole?
  | _ => none

/-- Whether a formula is an integer that many rows may have. -/
def isCommon (f : Formula) : Bool := f.whole?.any fun n => decide (-1 ≤ n ∧ n ≤ 1)

end Formula

/-! ## Comparisons -/

/-- Whether values that compare in some way can be looked up in a column with an affinity. -/
def Comparing.fits (c : Comparing) (a : Affinity) : Bool :=
  let joint := Affinity.joint c.left c.right
  if joint.isNumeric then a.isNumeric else if joint = .text then a = .text else true

namespace Bearing

/-- Whether two sides of a comparison have affinities that change nothing. -/
def sameKind (how : Comparing) : Bool :=
  how.left = how.right || (how.left.isNumeric && how.right.isNumeric)

/-- The comparisons of handles that a comparison of two formulas is: one for each side that is a handle. `before`
are the sources that the other side of a comparison counts as hanging on anyhow. -/
def ofSides (gs : List Ground) (isOwned : Bool) (before : List Nat) (ask : Ask) (how : Comparing)
    (a b : Formula) : List Bearing :=
  let own := a.sources
  let that := b.sources
  let isApart := !own.any that.contains
  let isMutual := ask.isEqual && !isOwned && sameKind how && how.collation = .plain
  let made := fun (ask : Ask) (how : Comparing) (h : Nat × Handle) (other : Formula) (others : List Nat)
      (isMutual : Bool) => (⟨ask, h.1, h.2, how, some other, others ++ before, isMutual⟩ : Bearing)
  let turned : Comparing := ⟨how.right, how.left, how.collation⟩
  if !isApart then []
  else match a.handle? gs, b.handle? gs with
    | some h, some k => [made ask how h b that isMutual, made ask.turned turned k a own isMutual]
    | some h, none => [made ask how h b that false]
    | none, some k => [made ask.turned turned k a own false]
    | none, none => []

/-- The comparison of a handle with several values. -/
def ofMember (gs : List Ground) (before : List Nat) (how : Comparing) (e : Formula) (count : Estimate)
    (others : List Nat) : List Bearing :=
  match e.handle? gs with
  | some (s, h) =>
    if others.contains s then [] else [⟨.member count, s, h, how, none, others ++ before, false⟩]
  | none => []

/-- The comparisons of handles that a condition is. -/
def ofFormula (gs : List Ground) (isOwned : Bool) (before : List Nat) (f : Formula) : List Bearing :=
  match f with
  | .compare op [how] a b =>
    match Ask.ofOperator? op with
    | some ask => ofSides gs isOwned before ask how a b
    | none => []
  | .compare op (how :: _) (.row (a :: _)) b =>
    match Ask.ofOperator? op with
    | some .equal => []
    | some .less => ofFirst .notMore how a b
    | some .more => ofFirst .notLess how a b
    | some ask => ofFirst ask how a b
    | none => []
  | .same false [how] a b => ofSides gs isOwned before .same how a b
  | .isNull false e =>
    match e.handle? gs with
    | some (s, h) => [⟨.missing, s, h, ⟨.none, .none, .plain⟩, none, before, false⟩]
    | none => []
  | .inList false how e [one] => if one.sources.isEmpty then ofSides gs isOwned before .equal how e one else ofList how e [one]
  | .inList false how e es => ofList how e es
  | .inPlan false [how] _ e p =>
    let others := ((p.references depth).filterMap fun r => if r.level = 0 then r.source else none).eraseDups
    ofMember gs before how e 46 others
  | _ => []
where
  ofFirst (ask : Ask) (how : Comparing) (a b : Formula) : List Bearing :=
    (ofSides gs isOwned before ask how a b).take 1
  ofList (how : Comparing) (e : Formula) (es : List Formula) : List Bearing :=
    if es.isEmpty then []
    else ofMember gs before how e (.ofNat es.length) ((es.flatMap Formula.sources).eraseDups)

end Bearing

/-! ## Ranges of texts -/

/-- The bytes that a pattern starts with before the first sign that stands for others, and what comes then. -/
def patternStart (isLike : Bool) (pattern : Database.Bytes) : Database.Bytes × Database.Bytes :=
  let signs := if isLike then "%_".toList else "*?[".toList
  let isSign := fun (b : UInt8) => signs.any fun c => c.toNat == b.toNat
  (pattern.takeWhile (!isSign ·), pattern.dropWhile (!isSign ·))

/-- The ends of the range of texts that a comparison with a pattern asks for, and whether it says all that the
pattern says. -/
def Formula.range? (gs : List Ground) : Formula → Option (Nat × Handle × Collation × Formula × Formula × Bool)
  | .call false n _ _ [.constant (.text pattern), .column s i] => do
    let name := Function.smallName n
    if name != "like" && name != "glob" then none
    let isLike := name == "like"
    let g ← gs[s]?
    let isText := g.ladders.any fun l => l.rungs.any fun r =>
      r.handle.same (.column i) && r.affinity == .text
    let (start, rest) := patternStart isLike pattern
    let last ← start.getLast?
    if !isText || last == 255 then none
    else
      let up := fun (b : UInt8) => if 97 ≤ b ∧ b ≤ 122 then b - 32 else b
      let low := if isLike then start.map up else start
      let high := (if isLike then start.map Collation.small else start).dropLast ++
        [(if isLike then Collation.small last else last) + 1]
      let any : UInt8 := if isLike then 37 else 42
      return (s, .column i, if isLike then .caseless else .plain, .constant (.text low), .constant (.text high),
        rest == [any])
  | _ => none

namespace Clue

/-- A clue without anything. -/
def plain (f : Formula) (owner : Option Nat) : Clue :=
  { place := 0, formula := f.bare, sources := (f.sources ++ owner.toList).eraseDups, owner, bearing := none
    sides := [], parent := none, isDerived := false, isPresence := false, isOfPattern := false, odds := f.odds? }

/-! ## Sides -/

def before (owner : Option Nat) : List Nat := (owner.map List.range).getD []

def bearings (gs : List Ground) (owner : Option Nat) (f : Formula) : List Bearing :=
  Bearing.ofFormula gs owner.isSome (before owner) f.bare

/-- The sources that a side of a condition leads to, if it is no comparison: those to which one of its parts
does. -/
def reachable (gs : List Ground) (owner : Option Nat) (f : Formula) : List Nat :=
  let parts := f.conjuncts depth
  (parts.flatMap fun p =>
    let p := p.bare
    let ranged := match p with
      | .between false (how :: _) (_ :: _) e low _ => (Bearing.ofSides gs owner.isSome (before owner) .notLess how e low).map (·.source)
      | p => ((p.range? gs).map (·.1)).toList
    (bearings gs owner p).map (·.source) ++ ranged).eraseDups

/-- The sources to which every side of a condition leads. -/
def indexable (gs : List Ground) (owner : Option Nat) (sides : List Formula) : List Nat :=
  (List.range gs.length).filter fun s => sides.all fun f =>
    match bearings gs owner f with
    | [] => (reachable gs owner f).contains s
    | bs => bs.any (·.source == s)

/-- The comparison of one handle with several values that sides are, if all ask for the same handle. -/
def merged? (gs : List Ground) (owner : Option Nat) (sides : List Formula) : Option Bearing := do
  let all := sides.map (bearings gs owner)
  let first ← all.head?
  let own := fun (b : Bearing) (bs : List Bearing) =>
    bs.find? fun x => x.source == b.source && x.handle.same b.handle && x.ask == .equal &&
      (x.how.right == .none || x.how.right == x.how.left)
  let b ← first.find? fun b => all.all fun bs => (own b bs).isSome
  let others := (all.filterMap (own b)).flatMap (·.others)
  return ⟨.member (.ofNat sides.length), b.source, b.handle, ⟨b.how.left, .none, b.how.collation⟩, none,
    others.eraseDups, false⟩

/-! ## Conditions -/

def derived (c : Clue) (b : Bearing) : Clue :=
  { c with bearing := some b, sides := [], parent := some c.place, isDerived := true, odds := none }

/-- The ends of a range that a condition with two ends asks for. -/
def ends (gs : List Ground) (c : Clue) (howLow howHigh : Comparing) (e low high : Formula) : List Clue :=
  let end_ := fun (ask : Ask) (op : BinaryOp) (how : Comparing) (x : Formula) => show List Clue from
    (Bearing.ofSides gs c.owner.isSome (before c.owner) ask how e x).map fun b =>
      { c.derived b with
        formula := .compare op [how] e x
        sources := ((e.sources ++ x.sources) ++ c.owner.toList).eraseDups }
  end_ .notLess .notLess howLow low ++ end_ .notMore .notMore howHigh high

/-- The clue that a condition is, and those that follow from it. -/
def read (gs : List Ground) (c : Clue) : Clue × List Clue :=
  match c.formula with
  | .binary .or _ _ =>
    let sides := c.formula.disjuncts depth
    let own := { c with sides := if (indexable gs c.owner sides).isEmpty then [] else sides }
    (own, ((merged? gs c.owner sides).map c.derived).toList)
  | .between false [howLow] [howHigh] e low high => (c, ends gs c howLow howHigh e low high)
  | .isNull true e =>
    match e.handle? gs with
    | some (s, .column i) =>
      if c.owner.isSome then (c, [])
      else
        let b : Bearing := ⟨.more, s, .column i, ⟨.none, .none, .plain⟩, none, [], false⟩
        (c, [{ c.derived b with isPresence := true }])
    | _ => (c, [])
  | .inPlan false hows k (.row es) p =>
    let others := ((p.references depth).filterMap fun r => if r.level = 0 then r.source else none).eraseDups
    let _ := k
    (c, (es.zip hows).flatMap fun (e, how) => (Bearing.ofMember gs (before c.owner) how e 46 others).map c.derived)
  | f =>
    match f.range? gs with
    | some (s, h, collation, low, high, isComplete) =>
      let end_ := fun (ask : Ask) (x : Formula) =>
        { c.derived ⟨ask, s, h, ⟨.text, .none, collation⟩, some x, before c.owner, false⟩ with
          isOfPattern := true
          parent := if isComplete then some c.place else none }
      (c, [end_ .notLess low, end_ .less high])
    | none =>
      match bearings gs c.owner f with
      | [] => (c, [])
      | b :: more => ({ c with bearing := some b }, more.map c.derived)

/-- The parts of a comparison of rows of values: comparisons place by place, if it asks for all of them. -/
def slices (f : Formula) : List Formula :=
  match f.bare with
  | .compare .equal (h :: i :: hows) (.row as) (.row bs) =>
    ((h :: i :: hows).zip (as.zip bs)).map fun (how, a, b) => .compare .equal [how] a b
  | .same false (h :: i :: hows) (.row as) (.row bs) =>
    ((h :: i :: hows).zip (as.zip bs)).map fun (how, a, b) => .same false [how] a b
  | _ => [f]

/-- The clues that conditions are, each with the source behind an open end that it belongs to. Those that follow
from others stand behind. -/
def ofConditions (gs : List Ground) (conditions : List (Formula × Option Nat)) : List Clue :=
  let all := conditions.flatMap fun (f, owner) =>
    ((f.conjuncts depth).flatMap slices).map fun part => plain part owner
  let read := (all.mapIdx fun i c => { c with place := i }).map (read gs)
  let more := (read.reverse.flatMap (·.2)).mapIdx fun i c => { c with place := all.length + i }
  read.map (·.1) ++ more

/-! ## Looking for clues -/

/-- The clues to a handle among those that ask in some way, in the order in which they are met. A handle that
stands for another one leads on to the clues to that. `collation` is that of the values of the handle in an index,
where it matters. -/
def scan (gs : List Ground) (clues : List Clue) (source : Nat) (handle : Handle) (affinity : Affinity)
    (collation : Option Collation) (isWanted : Ask → Bool) : List (Clue × Bearing × Bool) :=
  go 11 [(source, handle)] [] true
where
  go : Nat → List (Nat × Handle) → List (Nat × Handle) → Bool → List (Clue × Bearing × Bool)
    | 0, _, _, _ => []
    | _ + 1, [], _, _ => []
    | fuel + 1, (s, h) :: waiting, done, isFirst =>
      let here := clues.filterMap fun c => c.bearing.bind fun b =>
        if b.source == s && b.handle.same h && (isFirst || c.owner.isNone) then some (c, b) else none
      let known := done ++ (s, h) :: waiting
      let partners := here.filterMap fun (_, b) =>
        if b.isMutual then b.other.bind (Formula.handle? gs) else none
      let fresh := partners.foldl (fun (fresh : List (Nat × Handle)) p =>
        if (known ++ fresh).any fun q => q.1 == p.1 && q.2.same p.2 then fresh else fresh ++ [p]) []
      let found := here.filter fun (_, b) =>
        let isOwn := b.ask.isEqual && (b.other.bind (Formula.handle? gs)).any fun p => p.1 == source && p.2.same handle
        isWanted b.ask && !isOwn &&
          collation.all fun k => b.ask == .missing || (b.how.fits affinity && b.how.collation == k)
      found.map (fun (c, b) => (c, b, !isFirst)) ++ go fuel (waiting ++ fresh) (done ++ [(s, h)]) false

end Clue
end Upkeep.Sql
