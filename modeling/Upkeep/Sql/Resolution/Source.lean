import Upkeep.Sql.Resolution.Call

/-!
# What sources mean

A source is a table, a view, a query, a named query, a function whose values are rows, or a group of sources.
Each is tied to those before it by a condition or by columns that they share.

* `Resolver.joined`: the sources of a selection.
* `Resolver.supplied`: the sources with their conditions, and the conditions of the selection.
-/

namespace Upkeep.Sql
open Database (Value)

/-- A source of a selection, as far as it is known without its conditions. -/
structure Joined where
  origin : Origin
  /-- The arguments of a function whose values are rows. -/
  args : List Expr
  place : Place
  condition : Option Expr
  /-- The comparisons of columns that it shares with sources before it. -/
  equalities : List Formula

namespace Joined

def ofOrigin (origin : Origin) (place : Place) : Joined := ⟨origin, [], place, none, []⟩

/-- Whether some of the sources are there even where those before them are not. -/
def reverses (js : List Joined) : Bool := js.any fun j => j.place.kind == .right || j.place.kind == .full

end Joined

/-! ## Ties -/

namespace Tie

def operand (js : List Joined) (i k : Nat) : Formula × Kind :=
  (.column i k, (((js[i]?).bind fun j => j.place.fields[k]?).map Field.kind).getD (.plain .any))

/-- The columns of sources with a name, one of each source. -/
def matching (js : List Joined) (name : Text) (withHidden : Bool) : List (Nat × Nat) :=
  (js.zipIdx).filterMap fun (j, i) => (j.place.named? name withHidden).map fun k => (i, k)

/-- The comparison of a column of a source with the column that those before it have. If rows of some sources may
be missing, the value counts of the first that is there. -/
def equality (before : List Joined) (reverses isNatural : Bool) (p : Place) (name : Text) :
    Except Problem Formula :=
  match matching before name (!isNatural), p.named? name true with
  | (i, k) :: more, some own => do
    let right : Formula × Kind :=
      (.column before.length own, ((p.fields[own]?).map Field.kind).getD (.plain .any))
    let isTied := fun (i : Nat) => (before[i]?).any fun j => j.place.shared.any (sameName · name)
    let left ←
      if !reverses || more.isEmpty then pure (operand before i k)
      else if more.any fun (i, _) => !isTied i then
        .error (.failed ("ambiguous reference to ".toList ++ name ++ " in USING()".toList))
      else pure (.firstOf (((i, k) :: more).map fun (i, k) => .column i k), .plain .any)
    return .compare .equal [← left.2.comparing right.2] left.1 right.1
  | _, _ => .error (.failed ("cannot join using column ".toList ++ name ++
      " - column not present in both tables".toList))

/-- A source tied to those before it. -/
def tied (before : List Joined) (reverses : Bool) (link : Link) (j : Joined) : Except Problem Joined :=
  match link with
  | .make kind isNatural condition columns =>
    if isNatural && (condition.isSome || !columns.isEmpty) then
      .error (.failed "a NATURAL join may not have an ON or USING clause".toList)
    else do
      let shared :=
        if isNatural then
          (j.place.fields.filter fun f => !f.isHidden && !(matching before f.name false).isEmpty).map (·.name)
        else columns
      let equalities ← shared.mapM (equality before reverses isNatural j.place)
      return { j with place := { j.place with kind, shared }, condition, equalities }

end Tie

/-! ## Sources by their names -/

def Source.isNamed (name : Text) : Source → Bool
  | .table _ none n _ _ => sameName n name
  | _ => false

/-- How often a selection takes a table with a name as a source. -/
def Selection.uses (name : Text) : Selection → Nat
  | .values _ => 0
  | .select _ _ sources _ _ _ _ => sources.countP (Source.isNamed name)

/-- The selections of a named query, in two parts: those that come first, and those at the end that go on from
its own rows. -/
def NamedQuery.split (name : Text) (more : List (SetOp × Selection)) :
    List (SetOp × Selection) × List (SetOp × Selection) :=
  match more.getLast? with
  | some (op, _) =>
    if op = .union ∨ op = .unionAll then
      let steps := (more.reverse.takeWhile fun (o, s) => o = op ∧ 0 < s.uses name).reverse
      (more.take (more.length - steps.length), steps)
    else (more, [])
  | none => ([], [])

/-- Whether a selection takes rows together. -/
def Selector.gathers : Selector → Bool
  | .select _ _ _ _ _ grouping _ _ => grouping.isSome
  | .values _ => false

/-- Whether a selection has functions with windows. -/
def Selector.looksAround : Selector → Bool
  | .select _ _ _ _ _ _ windows _ => !windows.isEmpty
  | .values _ => false

namespace Resolver

def derived (s : Scope) (nickname : Option Text) (binding : Binding) (found : Queried) : Resolve Joined := do
  let k ← Resolve.keeping s (found.plan.references depth)
  return .ofOrigin (.plan binding k found.plan) (.ofFields nickname (distinctNames found.fields) false)

def viewScope (s : Scope) (name : Text) : Scope :=
  { s with levels := [], named := [], pending := [], views := name :: s.views, current := none }

def ofView (r : Resolver) (s : Scope) (label : Text) (v : ViewDefinition) : Resolve Joined := do
  if s.views.any (sameName v.name) then
    Resolve.fail (.failed ("view ".toList ++ v.name ++ " is circularly defined".toList))
  let found ← Resolve.inDefinition (r.query (viewScope s v.name) v.query)
  if !v.columns.isEmpty && v.columns.length ≠ found.fields.length then
    Resolve.fail (.failed ("expected ".toList ++ Text.ofNat v.columns.length ++ " columns for '".toList ++ v.name ++
      "' but got ".toList ++ Text.ofNat found.fields.length))
  derived s (some label) .nameless { found with fields := renamed v.columns found.fields }

/-- The scope of a named query of a group, counted from the innermost, with what is said when it is read again
meanwhile. -/
def namedScope (s : Scope) (group : Nat) (name : Text) (complaint : String) : Scope :=
  let named := s.named.drop group
  { s with named, pending := ⟨named.length, name, complaint⟩ :: s.pending, current := none }

/-- A named query of a group as a source. -/
def ofNamed (r : Resolver) (s : Scope) (group : Nat) (label : Text) : NamedQuery → Resolve Joined
  | .make name columns isSealed (.make tables first more order limit offset) => do
    let (others, steps) := NamedQuery.split name more
    let inner := namedScope s group name
    let checked := fun (fields : List Field) => do
      if !columns.isEmpty && columns.length ≠ fields.length then
        Resolve.fail (.failed ("table ".toList ++ name ++ " has ".toList ++ Text.ofNat fields.length ++
          " values for ".toList ++ Text.ofNat columns.length ++ " columns".toList))
      return distinctNames (renamed columns fields)
    if steps.isEmpty then
      let found ← r.query (inner "circular reference: ") (.make tables first more order limit offset)
      derived s (some label) (if isSealed then .sealed else .named) { found with fields := ← checked found.fields }
    else do
      if steps.any fun (_, sel) => 1 < sel.uses name then
        Resolve.fail (.failed ("multiple references to recursive table: ".toList ++ name))
      let isDistinct := (more.getLast?.map (·.1)) = some .union
      let start ← r.query (inner "circular reference: ") (.make tables first others [] none none)
      let fields ← checked start.fields
      let place := Place.ofFields (some label) fields false
      let around := { inner "multiple recursive references: " with current := some (name, fields) }
      let around := around.naming tables
      let found ← r.query around (.make [] first steps order limit offset)
      let collations ← fields.mapM fun f => Resolve.lift (namedCollation f.collation)
      let plan ← match found.plan with
        | .compound _ steps _ order limit offset => do
          let steps := steps.map (·.2)
          if steps.any Selector.gathers then
            Resolve.fail (.failed "recursive aggregate queries not supported".toList)
          if steps.any Selector.looksAround then
            Resolve.fail (.failed "cannot use window functions in recursive queries".toList)
          pure (Plan.recursion start.plan steps isDistinct collations order limit offset)
        | p => pure p
      let k ← Resolve.keeping s (plan.references depth)
      return .ofOrigin (.plan .named k plan) place

/-- A source by its name. -/
def byName (r : Resolver) (schema : Schema) (s : Scope) (database : Option Text) (name : Text)
    (nickname : Option Text) (hint : Hint) : Resolve Joined := do
  let label := nickname.getD name
  let own := if database.isSome then none else s.current.filter fun (n, _) => sameName n name
  let named := if database.isSome then none else
    (s.named.zipIdx).findSome? fun (qs, i) => (qs.find? fun q => match q with
      | .make n _ _ _ => sameName n name).map fun q => (i, q)
  match own, named with
  | some (_, fields), _ => return .ofOrigin .current (.ofFields (some label) fields false)
  | none, some (i, q) => do
    match s.pending.find? fun p => p.group == s.named.length - i && sameName p.name name with
    | some p => Resolve.fail (.failed (p.complaint.toList ++ name))
    | none => r.ofNamed s i label q
  | none, none =>
    match schema.table? name, schema.view? name, TableFunction.named.find? fun (n, _) => sameName n.toList name with
    | some t, _, _ =>
      match hint with
      | .through i =>
        if !t.indexes.any fun j => sameName j.name i then
          Resolve.fail (.failed ("no such index: ".toList ++ i))
      | _ => pure ()
      return .ofOrigin (.table t hint) (t.place label)
    | none, some v, _ => r.ofView s label v
    | none, none, some (_, f) => return .ofOrigin (.function f []) (.ofFields (some label) documentFields true)
    | none, none, none =>
      if listNames.any (sameName · name) then
        return .ofOrigin .objects (.ofFields (some label) listFields true)
      else match schema.foreigns.find? fun d => sameName d.name name with
        | some d => Resolve.fail (.failed ("no such module: ".toList ++ d.moduleName))
        | none => Resolve.fail (.unknownTable ((database.getD "main".toList) ++ '.' :: name))

/-- A function whose values are rows as a source. -/
def ofFunction (schema : Schema) (name : Text) (args : List Expr) (nickname : Option Text) : Resolve Joined := do
  match TableFunction.named.find? fun (n, _) => sameName n.toList name with
  | some (_, f) =>
    if 2 < args.length then
      Resolve.fail (.failed ("too many arguments on ".toList ++ name ++ "() - max 2".toList))
    return { Joined.ofOrigin (.function f []) (.ofFields (some (nickname.getD name)) documentFields true) with args }
  | none =>
    match schema.table? name with
    | some t =>
      if t.fulltext.isSome then
        if 2 < args.length then
          Resolve.fail (.failed ("too many arguments on ".toList ++ name ++ "() - max 2".toList))
        return { Joined.ofOrigin (.function (.search t [none]) []) (t.place (nickname.getD name)) with args := args.take 1 }
    | none => pure ()
    if schema.hasRelation name then Resolve.fail (.failed ('\'' :: name ++ "' is not a function".toList))
    else Resolve.fail (.unknownTable ("main.".toList ++ name))

/-- A source with how it is tied to those before it. -/
def single (r : Resolver) (schema : Schema) (s : Scope) : Source → Resolve (Link × Joined)
  | .table link database name nickname hint => do return (link, ← r.byName schema s database name nickname hint)
  | .function link name args nickname => do return (link, ← ofFunction schema name args nickname)
  | .query link q nickname => do return (link, ← derived s nickname .nameless (← r.query { s with current := none } q))
  | .group link [.table _ database name _ hint] nickname => do
    return (link, ← r.byName schema s database name nickname hint)
  | .group link [.function _ name args _] nickname => do return (link, ← ofFunction schema name args nickname)
  | .group link [.query _ q _] nickname => do
    return (link, ← derived s nickname .nameless (← r.query { s with current := none } q))
  | .group link sources nickname => do
    let (plan, fields) ← r.group { s with current := none } sources
    let k ← Resolve.keeping s (plan.references depth)
    return (link, .ofOrigin (.plan .nameless k plan) { Place.ofFields nickname fields false with isGroup := true })

def Link.kind : Link → JoinKind
  | .make k _ _ _ => k

def linkOf : Source → Link
  | .table l _ _ _ _ => l
  | .function l _ _ _ => l
  | .query l _ _ => l
  | .group l _ _ => l

def Link.isOpen : Link → Bool
  | .make _ isNatural condition columns => !isNatural && condition.isNone && columns.isEmpty

/-- Sources without the parentheses around a first group that has no name. -/
def opened : Nat → List Source → List Source
  | fuel + 1, .group link inner none :: rest =>
    if Link.isOpen link then opened fuel (inner ++ rest) else .group link inner none :: rest
  | _, sources => sources

def joined (r : Resolver) (schema : Schema) (s : Scope) (sources : List Source) : Resolve (List Joined) := do
  let sources := opened depth sources
  let reverses := sources.any fun j => Link.kind (linkOf j) == .right || Link.kind (linkOf j) == .full
  let all ← sources.mapM (r.single schema s)
  all.foldlM (fun done (link, j) => do return done ++ [← Resolve.lift (Tie.tied done reverses link j)]) []

def condition (r : Resolver) (s : Scope) (e : Expr) : Resolve Formula := do
  let a ← r.value s e
  Resolve.settle
  return a.formula

/-- The sources of a selection with their conditions, and the conditions of the selection itself, the first of
which is given. `s` is the scope inside of the selection. -/
def supplied (r : Resolver) (s : Scope) (js : List Joined) (own : Option Expr) :
    Resolve (List Supply × List Formula) := do
  let own ← own.toList.mapM (r.condition s)
  let reverses := Joined.reverses js
  let tied ← (js.zipIdx).mapM fun (j, i) => do
    let on ← j.condition.toList.mapM (r.condition s)
    let isOuter := j.place.kind == .left || j.place.kind == .right || j.place.kind == .full
    if (isOuter || reverses) && on.any fun e => e.sources.any fun k => decide (i < k) then
      Resolve.fail (.failed "ON clause references tables to its right".toList)
    let all := j.equalities ++ on
    return if isOuter || reverses then (all, []) else ([], all)
  let supplies ← (js.zip tied).mapM fun (j, (kept, _)) => do
    let origin ← match j.origin with
      | .function f _ => do
        let args ← j.args.mapM (r.condition s)
        pure (Origin.function f args)
      | o => pure o
    return Supply.make origin j.place.kind kept
  return (supplies, own ++ tied.flatMap (·.2))

/-- A query of all columns of a group of sources. -/
def grouped (r : Resolver) (schema : Schema) (s : Scope) (sources : List Source) :
    Resolve (Plan × List Field) := do
  let js ← r.joined schema s sources
  let inner := s.push (.ofPlaces (js.map (·.place)))
  let (supplies, conditions) ← r.supplied inner js none
  let columns := (js.zipIdx).flatMap fun (j, i) =>
    let next := (js[i + 1]?).map fun k => k.place.shared
    let shared := (next.getD []).map fun n =>
      let found := inner.find ⟨none, none, n, false, 0⟩
      match found with
      | .ok a => (a.formula, { Field.plain n a.kind.affinity (a.kind.collation.getD plainCollation) with isShared := true })
      | .error _ => (default, Field.plain n .none plainCollation)
    let own := (j.place.fields.zipIdx).map fun (f, k) =>
      (Formula.column i k, { f with label := f.label.or j.place.label })
    shared ++ own
  let collations ← columns.mapM fun (_, f) => Resolve.lift (namedCollation f.collation)
  return (.single (.select false (columns.map (·.1)) collations supplies conditions none [] .plain) [] none none,
    columns.map (·.2))

end Resolver
end Upkeep.Sql
