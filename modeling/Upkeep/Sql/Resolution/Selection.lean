import Upkeep.Sql.Resolution.Source

/-!
# What selections and queries mean

* `Resolver.selection`: a selection with the terms that its rows are put in order by.
* `Resolver.question`: the plan of a query, with its columns.
* `Resolver.ofSchema s`: what expressions and queries mean in a database with a schema.
-/

namespace Upkeep.Sql
open Database (Value)

/-- A column of a selection: its name, whether it was given, and what it means. -/
structure Shown where
  name : Text
  isNamed : Bool
  sense : Sense

/-- A selection whose names are known, with the kinds of its rows and the scope inside of it. -/
structure Selected where
  selector : Selector
  columns : List Shown
  /-- How the values compare, for every row that is written out, or once. -/
  kinds : List (List Kind)
  inner : Scope

namespace Selected

/-- How many columns a selection has. -/
def width (s : Selected) : Nat := (s.kinds.head?.map List.length).getD 0

end Selected

/-! ## Columns -/

/-- An expression without the collation in front of it. -/
def Expr.bare : Expr → Expr
  | .collate e _ => e.bare
  | .call n start d (some [e]) order filter within =>
    if ["likely", "unlikely"].contains (Function.smallName n) then e.bare
    else .call n start d (some [e]) order filter within
  | e => e

/-- The name of a column of a selection that was given none. -/
def Expr.shownName (e : Expr) (written : Text) : Text :=
  match e.bare with
  | .column n => n.column
  | _ => written

def Expr.whole? : Expr → Option Int
  | .constant (.integer n) => some n
  | .unary .negate e => e.whole?.map (- ·)
  | .unary .keep e => e.whole?
  | _ => none

/-- A number with the ending of its rank. -/
def ordinal (n : Nat) : Text :=
  let ending :=
    if n % 100 / 10 = 1 then "th"
    else if n % 10 = 1 then "st" else if n % 10 = 2 then "nd" else if n % 10 = 3 then "rd" else "th"
  Text.ofNat n ++ ending.toList

/-- What is said of a term with a number that is the number of no column. -/
def outOfRange (i : Nat) (what : String) (most : Nat) : Problem :=
  .failed (ordinal (i + 1) ++ ' ' :: what.toList ++ " BY term out of range - should be between 1 and ".toList ++
    Text.ofNat most)

/-- The columns of queries whose rows are put together: their names are those of the first, and their affinity
is one that fits with all. -/
def fieldsOf (names : List Text) (rows : List (List Kind)) : List Field :=
  names.mapIdx fun i n =>
    let kinds := rows.filterMap (·[i]?)
    let own := (kinds.find? fun k => k.affinity ≠ .none).map (·.affinity)
    let types := (kinds.map (·.types)).foldl Types.or .none
    let affinity := match own with
      | none => Affinity.none
      | some .text => if types.numbers then .blob else .text
      | some a => if a.isNumeric && types.texts then .blob else a
    Field.plain n affinity (((kinds.head?).bind (·.collation)).getD plainCollation)

namespace Resolver

/-- The column of a source that a star shows. Where rows of sources may be missing, a shared column is the first
that is there. -/
def starColumn (s : Scope) (js : List Joined) (i k : Nat) (f : Field) : Resolve Shown := do
  let isTied := Joined.reverses js && (js.drop (i + 1)).any fun j => j.place.shared.any (sameName · f.name)
  let plain := Sense.simple (.column i k) f.kind
  let sense ← if isTied then Resolve.lift (s.find ⟨none, none, f.name, false, 0⟩) else pure plain
  return ⟨f.name, true, sense⟩

/-- The columns that a part of a selection stands for. -/
def shown (r : Resolver) (s : Scope) (js : List Joined) : Result → Resolve (List Shown)
  | .all => do
    if js.isEmpty then Resolve.fail (.failed "no tables specified".toList)
    starred (fun j => j.place.shown)
  | .allOf t => do
    let all ← starred fun j => j.place.shownFor t
    if all.isEmpty then Resolve.fail (.failed ("no such table: ".toList ++ t))
    return all
  | .expr e nickname written => do
    let a ← r.value s e
    Resolve.settle
    return [⟨nickname.getD (e.shownName written), nickname.isSome, a⟩]
where
  starred (columns : Joined → List Nat) : Resolve (List Shown) := do
    let all ← (js.zipIdx).mapM fun (j, i) =>
      (columns j).mapM fun k =>
        starColumn s js i k ((j.place.fields[k]?).getD (.plain [] .none plainCollation))
    return all.flatten

/-- The column of a selection that a term means by its name or its number. -/
def columnOf? (columns : List Shown) (i : Nat) (what : String) (byName : Bool) (e : Expr) :
    Resolve (Option Shown) := do
  let named := match e.bare with
    | .column ⟨none, none, n, _, _⟩ =>
      if byName then columns.find? fun c => c.isNamed && sameName c.name n else none
    | _ => none
  match named, e.bare.whole? with
  | some c, _ => return some c
  | none, some n =>
    match if 1 ≤ n then columns[n.toNat - 1]? else none with
    | some c => return some c
    | none => Resolve.fail (outOfRange i what columns.length)
  | none, none => return none

def frontCollation? : Expr → Option Text
  | .collate _ c => some c
  | _ => none

/-- The terms that rows of a selection are put in order by. -/
def terms (r : Resolver) (s : Scope) (columns : List Shown) (what : String) (byName : Bool) (ts : List Term) :
    Resolve (List (Sense × SortTerm)) :=
  (ts.zipIdx).mapM fun (t, i) => do
    match t with
    | .make e isDescending nullsFirst =>
      let a ← match ← columnOf? columns i what byName e with
        | some c => pure c.sense
        | none => do
          let a ← r.value s e
          Resolve.settle
          pure a
      let c ← match frontCollation? e with
        | some c => Resolve.lift (namedCollation c)
        | none => Resolve.lift a.kind.collationOf
      return (a, .make a.formula ⟨c, isDescending, nullsFirst.getD !isDescending⟩)

/-- Ends work if a selection has to compute a function of many rows that stands where it may not. -/
def refuseStray (depth known : Nat) : Resolve Unit := do
  match ((← Resolve.ledger depth).calls)[known]? with
  | some c => Resolve.fail (strayAggregate c)
  | none => return

/-- A selection, and the terms that its rows are put in order by. -/
def selection (r : Resolver) (schema : Schema) (s : Scope) (order : List Term) :
    Selection → Resolve (Selected × List SortTerm)
  | .values rows => do
    let inner := s.push (.ofPlaces [])
    let found ← rows.mapM fun es => es.mapM fun e => do
      let a ← r.value inner e
      Resolve.settle
      return a
    match found with
    | [] => pure ()
    | row :: more =>
      if more.any fun m => m.length ≠ row.length then
        Resolve.fail (.failed "all VALUES must have the same number of terms".toList)
    let columns := ((found.head?).getD []).mapIdx fun i a => ⟨"column".toList ++ Text.ofNat (i + 1), false, a⟩
    let ts ← r.terms inner columns "ORDER" true order
    return (⟨.values (found.map fun as => as.map Sense.formula), columns,
      found.map fun as => as.map Sense.kind, inner⟩, ts.map (·.2))
  | .select isDistinct results sources condition groups having windows => do
    let depth := s.levels.length
    let js ← r.joined schema s sources
    let named ← Resolve.lift (Windows.defined windows)
    let base := { Level.ofPlaces (js.map (·.place)) with windows := named, mayGather := true }
    let ((selector, columns, ts, inner), _) ← Resolve.within depth do
      let columns := (← results.mapM (r.shown (s.push { base with mayLookAround := true }) js)).flatten
      let known := (← Resolve.ledger depth).calls.length
      let gathers := !groups.isEmpty || 0 < known
      let aliases := columns.filterMap fun c => if c.isNamed then some (c.name, c.sense) else none
      let inside := s.push { base with aliases, mayGather := gathers }
      if having.isSome && !gathers then
        Resolve.fail (.failed "HAVING clause on a non-aggregate query".toList)
      let having ← having.mapM (r.condition inside)
      let known := (← Resolve.ledger depth).calls.length
      let (supplies, conditions) ← r.supplied inside js condition
      refuseStray depth known
      let walled := { base with aliases, isWall := true }
      let ts ← r.terms (s.push { walled with mayLookAround := true }) columns "ORDER" true order
      if !gathers then refuseStray depth known
      let keys ← r.terms (s.push walled) columns "GROUP" false (groups.map fun e => .make e false none)
      if keys.any fun (a, _) => a.hasAggregate then
        Resolve.fail (.failed "aggregate functions are not allowed in the GROUP BY clause".toList)
      let ledger ← Resolve.ledger depth
      let grouping := if gathers then some (Grouping.make (keys.map (·.2)) having ledger.calls) else none
      let collations ← columns.mapM fun c => Resolve.lift c.sense.kind.collationOf
      let formulas := columns.map fun c => c.sense.formula
      return (Selector.select isDistinct formulas collations supplies conditions grouping ledger.windows .plain,
        columns, ts.map (·.2), inside)
    return (⟨selector, columns, [columns.map fun c => c.sense.kind], inner⟩, ts)

/-- The words for a way to put rows together. -/
def setWords : SetOp → String
  | .union => "UNION"
  | .unionAll => "UNION ALL"
  | .except => "EXCEPT"
  | .intersect => "INTERSECT"

/-- The column of several selections by which a term puts rows in order: of the first selection that has it. -/
def sharedColumn (r : Resolver) (all : List Selected) (i : Nat) (e : Expr) : Resolve Nat := do
  match e.bare.whole? with
  | some n =>
    let most := (all.head?.map Selected.width).getD 0
    if n < 1 ∨ (most : Int) < n then Resolve.fail (outOfRange i "ORDER" most)
    return n.toNat - 1
  | none =>
    let notes ← get
    let found := all.findSome? fun (sel : Selected) =>
      let named : Option Nat := match e.bare with
        | .column ⟨none, none, n, _, _⟩ => sel.columns.findIdx? fun (c : Shown) => c.isNamed && sameName c.name n
        | _ => none
      named.or <|
        match (r.value sel.inner e.bare).run' notes with
        | .ok a => sel.columns.findIdx? fun (c : Shown) => c.sense.formula.isSame a.formula
        | .error _ => none
    match found with
    | some n => return n
    | none => Resolve.fail (.failed (ordinal (i + 1) ++
        " ORDER BY term does not match any column in the result set".toList))

/-- The plan of a query, with its columns. -/
def question (r : Resolver) (schema : Schema) (s : Scope) : Query → Resolve Queried
  | .make tables first more order limit offset => do
    Resolve.settle
    let s := if tables.isEmpty then s else s.naming tables
    let bound := fun (e : Expr) => r.condition (s.push .wall) e
    let limit ← limit.mapM bound
    let offset ← offset.mapM bound
    match more with
    | [] =>
      let (sel, ts) ← r.selection schema s order first
      return ⟨.single sel.selector ts limit offset, fieldsOf (sel.columns.map (·.name)) sel.kinds,
        (sel.kinds.getLast?).getD []⟩
    | more => do
      let later ← more.reverse.mapM fun (op, sel) => do return (op, (← r.selection schema s [] sel).1)
      let later := later.reverse
      let (start, _) ← r.selection schema s [] first
      let all := start :: later.map (·.2)
      let _ ← (all.zip later).reverse.mapM fun (a, op, b) => do
        if a.width ≠ b.width then
          Resolve.fail (.failed ("SELECTs to the left and right of ".toList ++ (setWords op).toList ++
            " do not have the same number of result columns".toList))
      let collationAt := fun (i : Nat) =>
        Resolve.lift (namedCollation
          ((all.findSome? fun sel => ((sel.kinds.head?.bind (·[i]?)).bind (·.collation))).getD plainCollation))
      let collations ← (List.range start.width).mapM collationAt
      let terms ← (order.zipIdx).mapM fun (t, i) => do
        match t with
        | .make e isDescending nullsFirst =>
          let n ← r.sharedColumn all i e
          let c ← match frontCollation? e with
            | some c => Resolve.lift (namedCollation c)
            | none => pure ((collations[n]?).getD .plain)
          return (n, (⟨c, isDescending, nullsFirst.getD !isDescending⟩ : Direction))
      let last := ((all.getLast?.map (·.kinds)).bind List.getLast?).getD []
      return ⟨.compound start.selector (later.map fun (op, sel) => (op, sel.selector)) collations terms limit offset,
        fieldsOf (start.columns.map (·.name)) (all.flatMap (·.kinds)), last⟩

/-! ## All depths -/

/-- What expressions and queries mean that are as deep as some levels. -/
def ofDepth (schema : Schema) : Nat → Resolver
  | 0 =>
    let tooDeep {α : Type} : Resolve α := Resolve.fail (.failed "parser stack overflow".toList)
    ⟨fun _ _ => tooDeep, fun _ _ => tooDeep, fun _ _ => tooDeep⟩
  | d + 1 =>
    let r := ofDepth schema d
    { formula := fun s e =>
        match e with
        | .call name start isDistinct args order filter within =>
          r.called s name start isDistinct args order filter within
        | e => r.expression s e
      query := r.question schema
      group := r.grouped schema }

def ofSchema (schema : Schema) : Resolver := ofDepth schema depth

end Resolver
end Upkeep.Sql
