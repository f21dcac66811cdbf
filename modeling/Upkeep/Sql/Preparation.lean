import Upkeep.Sql.Course.Routing
import Upkeep.Sql.Reference
import Upkeep.Sql.Rule

/-!
# Preparing statements

Before a statement runs, everything that it may lead to is looked at: its own names, the triggers that it may
fire with their statements, and the references that it may break. The first thing that is wrong refuses the
statement, whether or not it would come to pass.

* `Statement.prepare s st`: what a statement does, and the triggers that it may fire.
-/

namespace Upkeep.Sql

/-- What is known on the way: the triggers whose names are known, those that have been looked at, and how many
queries have a number. -/
structure Preparing where
  programs : List Program
  seen : List Text
  serial : Nat

/-- Work that finds out what statements do. -/
abbrev Prepare := StateT Preparing (Except Problem)

namespace Prepare

def fail {α : Type} (p : Problem) : Prepare α := throw p

def lift {α : Type} : Except Problem α → Prepare α
  | .ok a => pure a
  | .error p => throw p

def resolve {α : Type} (work : Resolve α) : Prepare α := fun p => do
  let (a, n) ← StateT.run (do let a ← work; Resolve.settle; return a : Resolve α) ⟨p.serial, [], none⟩
  return (a, { p with serial := n.serial })

/-- Work in a definition, whose problems have no place in the statement. -/
def inDefinition {α : Type} (work : Prepare α) : Prepare α := fun p => (StateT.run work p).mapError Problem.unplaced

/-- Notes that something has been looked at. Whether it has not been before. -/
def isNew (mark : Text) : Prepare Bool := do
  let p ← get
  if p.seen.contains mark then return false
  else
    set { p with seen := mark :: p.seen }
    return true

end Prepare

/-! ## Scopes of triggers -/

/-- The row that a trigger sees by a name. Its values compare as what they are. -/
def Target.seenPlace (t : Target) (label : String) : Place :=
  let number := match t with
    | .table t => t.numberColumn
    | .view .. => none
  let fields := t.fields.mapIdx fun i f => { f with affinity := if number = some i then .integer else .none }
  { Place.ofFields (some label.toList) fields t.hasNumbers with isQualified := true }

/-- The rows that a trigger sees: the one that comes and the one that goes. -/
def Target.seenPlaces (t : Target) : Event → List Place
  | .insert => [t.seenPlace "new"]
  | .delete => [t.seenPlace "old"]
  | .update _ => [t.seenPlace "new", t.seenPlace "old"]

def Target.triggerScope (t : Target) (event : Event) : Scope :=
  { Scope.outermost with
    levels := [{ Level.ofPlaces (t.seenPlaces event) with isFixed := true }], isTrigger := true }

namespace Preparation

/-- What has a name, if it can be changed by an event. -/
def target (s : Schema) (base : Scope) (name : Text) (event : Event) : Prepare Target := do
  match s.table? name, s.view? name with
  | some t, _ =>
    if sameName (t.name.take 7) "sqlite_".toList && !sameName t.name "sqlite_sequence".toList then
      Prepare.fail (.notChangeable t.name)
    else return .table t
  | none, some v =>
    if (s.triggersOf v.name).any (·.fires .before event) then do
      let j ← Prepare.resolve ((Resolver.ofSchema s).ofView base v.name v)
      return .view v j.place.fields j.origin
    else Prepare.fail (.failed ("cannot modify ".toList ++ v.name ++ " because it is a view".toList))
  | none, none =>
    if listNames.any (sameName · name) then Prepare.fail (.notChangeable name)
    else match s.foreigns.find? fun d => sameName d.name name with
      | some d => Prepare.fail (.failed ("no such module: ".toList ++ d.moduleName))
      | none => Prepare.fail (.unknownTable ("main.".toList ++ name))

/-- Refuses columns that no value may be given for. -/
def insertedColumns (t : Target) (columns : List Text) : Prepare Unit :=
  columns.forM fun c => do
    match t.column? c with
    | some i =>
      match t with
      | .table t =>
        if (t.columns[i]?).any fun c => c.generated.isSome then
          Prepare.fail (.generatedColumn "INSERT into".toList c)
      | .view .. => pure ()
    | none => if (t.slot? c).isNone then Prepare.fail (.noColumnNamed t.name c)

/-- The columns that get values when none is named. -/
def openColumns : Target → List Text
  | .table t => (t.columns.filter fun c => c.generated.isNone && !c.isHidden).map (·.name)
  | .view _ fs _ => fs.map (·.name)

/-- Whether the rows of an insertion have the right number of values. -/
def counted (t : Target) (columns : Option (List Text)) (n : Nat) : Except Problem Unit :=
  match columns with
  | some cs =>
    if cs.length = n then .ok ()
    else .error (.countMismatch
      (Text.ofNat n ++ " values for ".toList ++ Text.ofNat cs.length ++ " columns".toList))
  | none =>
    let most := (openColumns t).length
    if most = n then .ok ()
    else .error (.countMismatch
      ("table ".toList ++ t.name ++ " has ".toList ++ Text.ofNat most ++ " columns but ".toList ++
        Text.ofNat n ++ " values were supplied".toList))

/-- Whether a key of an index is the one that an insertion names by some parts and a condition. -/
def isMet (rules : IndexRule) (parts : List Formula) (condition : Option Formula) : Bool :=
  let fits := match rules.condition with
    | none => true
    | some c => condition.any fun d => d.isSame c
  rules.index.isUnique && rules.parts.length == parts.length && fits &&
    rules.parts.all fun p => parts.any fun q => q.isSame p

/-- The key that an insertion names as the one it may meet. -/
def metKey (s : Schema) (t : Table) (isOnly : Bool) (i : Nat) (u : Upsert) : Prepare MetKey := do
  if u.target.isEmpty then return .any
  else
    let r := Resolver.ofSchema s
    let parts ← u.target.mapM fun p => do
      return (← Prepare.resolve (r.value t.ruleScope p.expr)).formula
    let condition ← u.condition.mapM fun c => Prepare.resolve (r.condition t.ruleScope c)
    let isNumber := match parts with
      | [.number 0] => true
      | [.column 0 j] => t.numberColumn == some j
      | _ => false
    if isNumber then return .number
    else match (Rules.ofTable s t).indexes.find? fun rule => isMet rule parts condition with
      | some rule => return .index rule.index
      | none =>
        if isOnly then Prepare.fail .unmatchedTarget
        else Prepare.fail (.failed (ordinal (i + 1) ++ ' ' :: Problem.unmatchedTarget.message))

/-- The column that no value may be set for, if one of some columns is. -/
def setSlots (t : Target) (columns : List Text) : Prepare (List Slot) :=
  columns.mapM fun c => do
    match t.slot? c with
    | some (.column i) =>
      match t with
      | .table t =>
        if (t.columns[i]?).any fun c => c.generated.isSome then
          Prepare.fail (.generatedColumn "UPDATE".toList c)
      | .view .. => pure ()
      return .column i
    | some .number => return .number
    | none => Prepare.fail (.unknownColumn c none)

/-- What columns are set to. -/
def settings (s : Schema) (scope : Scope) (t : Target) (changes : List (List Text × Expr)) :
    Prepare (List Setting) :=
  changes.mapM fun (columns, e) => do
    let a ← Prepare.resolve ((Resolver.ofSchema s).formula scope e)
    if a.width ≠ columns.length then
      match a.formula with
      | .plan .. => Prepare.fail (.failed ("sub-select returns ".toList ++ Text.ofNat a.width ++
          " columns - expected ".toList ++ Text.ofNat columns.length))
      | _ =>
        if columns.length = 1 then Prepare.fail (.misplaced "row value misused".toList none)
        else Prepare.fail (.failed (Text.ofNat columns.length ++ " columns assigned ".toList ++
          Text.ofNat a.width ++ " values".toList))
    return ⟨← setSlots t columns, a.formula⟩

/-- The columns that an expression in the definition of a table hangs on. -/
def columnsIn (s : Schema) (t : Table) (e : Expr) : List Nat :=
  match t.ruleFormula s e with
  | .ok f => f.columns depth
  | .error _ => []

/-- The computed column that hangs on itself, if there is one, when those in `open_` are not known yet. -/
def loop? (s : Schema) (t : Table) : Nat → List Nat → Option Text
  | 0, _ => none
  | n + 1, open_ =>
    let hangs := fun (known : List Nat) (i : Nat) =>
      ((t.columns[i]?).bind (·.generated)).any fun (e, _) => (columnsIn s t e).any known.contains
    let left := open_.foldl (fun left i => if hangs left i then left else left.filter (· ≠ i)) open_
    if left.length < open_.length then loop? s t n left
    else (left.getLast?.bind fun i => t.columns[i]?).map (·.name)

/-- Checks that no computed column hangs on itself. -/
def loops (s : Schema) (t : Table) : Except Problem Unit :=
  let computed := (List.range t.columns.length).filter fun i => (t.columns[i]?).any (·.generated.isSome)
  match loop? s t (computed.length + 1) computed with
  | some n => .error (.failed ("generated column loop on \"".toList ++ n ++ ['"']))
  | none => .ok ()

def rules (s : Schema) (t : Table) : Except Problem Unit := do
  let check := fun (e : Expr) => (t.ruleFormula s e).map fun _ => ()
  t.checks.forM fun c => check c.condition
  t.indexes.reverse.forM fun i => do
    i.condition.toList.forM check
    (i.parts.filter (·.column.isNone)).forM fun p => check p.expr

/-- Checks the references of a table, and those to it, that a change may break. -/
def references (s : Schema) (t : Table) (touched : Touched) (isLoneInsert : Bool) : Except Problem Unit := do
  let make := fun (c : Table) (r : Reference) => (KeyLink.make s c r).map fun _ => ()
  t.references.forM fun r =>
    if touched.any fun cs => !r.isTouched t cs && !sameName r.table t.name then .ok () else make t r
  (s.referencesTo t.name).forM fun (c, r) =>
    if touched.any fun cs => !r.isKeyTouched t cs then .ok ()
    else if isLoneInsert && !r.isDeferred then .ok ()
    else make c r

/-- Whether a change of a table has to do with references. -/
def concernsReferences (s : Schema) (t : Table) (touched : Touched) : Bool :=
  match touched with
  | none => !t.references.isEmpty || !(s.referencesTo t.name).isEmpty
  | some cs =>
    (t.references.any fun r => r.isTouched t cs) ||
      (s.referencesTo t.name).any fun (_, r) => r.isKeyTouched t cs

/-- The rows of an insertion: none if it has default values only. -/
def insertedRows (s : Schema) (base : Scope) (t : Target) (columns : Option (List Text)) (q : Query) :
    Prepare Plan := do
  let found ← Prepare.resolve ((Resolver.ofSchema s).query base q)
  Prepare.lift (counted t columns found.last.length)
  return found.plan

mutual

/-- Looks at the triggers of what is changed by an event. -/
def triggers (s : Schema) : Nat → Target → Timing → Event → Prepare Unit
  | 0, _, _, _ => Prepare.fail .tooDeep
  | d + 1, t, timing, event =>
    Prepare.inDefinition <|
      (s.triggersOf t.name).forM fun g => do
        if g.fires timing event then
          if ← Prepare.isNew g.name then
            let base := t.triggerScope event
            let condition ← g.condition.mapM fun c =>
              Prepare.resolve ((Resolver.ofSchema s).condition base c)
            let steps ← g.steps.mapM (statement s d base)
            modify fun p => { p with programs := ⟨g.name, condition, steps⟩ :: p.programs }

/-- Looks at what happens to rows that name rows of a table. -/
def actions (s : Schema) : Nat → Table → Touched → Prepare Unit
  | 0, _, _ => Prepare.fail .tooDeep
  | d + 1, t, touched =>
    (s.referencesTo t.name).forM fun (c, r) => do
      let mark := "\x00".toList ++ c.name ++ '.' :: ['.'].intercalate r.columns
      if touched.all fun cs => r.isKeyTouched t cs then
        match r.action touched with
        | .nothing => pure ()
        | .restrict => pure ()
        | .cascade =>
          if ← Prepare.isNew mark then
            if touched.isSome then changed s d c r else removed s d (.table c)
        | _ => if ← Prepare.isNew mark then changed s d c r

def changed (s : Schema) : Nat → Table → Reference → Prepare Unit
  | 0, _, _ => Prepare.fail .tooDeep
  | d + 1, c, r => updated s d (.table c) r.columns (r.columns.filterMap c.column?)

/-- Looks at what it means that rows go. -/
def removed (s : Schema) : Nat → Target → Prepare Unit
  | 0, _ => Prepare.fail .tooDeep
  | d + 1, t => do
    triggers s d t .before .delete
    match t with
    | .view .. => pure ()
    | .table t => do
      Prepare.lift (references s t none false)
      actions s d t none
    triggers s d t .after .delete

/-- Looks at what it means that columns of rows change. -/
def updated (s : Schema) : Nat → Target → List Text → List Nat → Prepare Unit
  | 0, _, _, _ => Prepare.fail .tooDeep
  | d + 1, t, names, touched => do
    match t with
    | .view .. => pure ()
    | .table t => Prepare.lift (loops s t)
    triggers s d t .before (.update names)
    match t with
    | .view .. => pure ()
    | .table t => do
      Prepare.lift (rules s t)
      Prepare.lift (references s t (some touched) false)
      actions s d t (some touched)
    triggers s d t .after (.update names)

/-- What a statement does that stands in a scope. -/
def statement (s : Schema) : Nat → Scope → Statement → Prepare Step
  | 0, _, _ => Prepare.fail .tooDeep
  | d + 1, base, st => do
    let r := Resolver.ofSchema s
    match st with
    | .select q => return .select (← Prepare.resolve (r.query base q)).plan
    | .delete name condition => do
      let t ← target s base name .delete
      let inner := base.push (.ofPlaces [t.place t.name])
      let conditions ← condition.toList.mapM fun c => Prepare.resolve (r.condition inner c)
      removed s d t
      return .delete t t.supply conditions
    | .update conflict name changes sources condition => do
      let names := changes.flatMap (·.1)
      let t ← target s base name (.update names)
      let sources := if 1 < sources.length then [.group (.make .inner false none []) sources none] else sources
      let js ← Prepare.resolve (r.joined s base sources)
      let inner := base.push (.ofPlaces (t.place t.name :: js.map (·.place)))
      let settings ← settings s inner t changes
      let conditions ← condition.toList.mapM fun c => Prepare.resolve (r.condition inner c)
      let numberTouched := match t with
        | .table u => if names.any fun c => isNumberName c && (t.column? c).isNone then u.numberColumn.toList else []
        | .view .. => []
      updated s d t names (names.filterMap t.column? ++ numberTouched)
      let supplies ← Prepare.resolve (r.supplied inner js none)
      return .update conflict t names settings (t.supply :: supplies.1) (conditions ++ supplies.2) .plain
    | .insert conflict name columns rows upserts => do
      let t ← target s base name .insert
      insertedColumns t (columns.getD [])
      let plan ← rows.mapM (insertedRows s base t columns)
      let names := if rows.isNone then [] else columns.getD (openColumns t)
      match t with
      | .view .. => do
        triggers s d t .before .insert
        return .insert conflict t names plan []
      | .table u => do
        Prepare.lift (loops s u)
        if u.fulltext.isSome && !upserts.isEmpty then
          Prepare.fail (.failed ("UPSERT not implemented for virtual table \"".toList ++ u.name ++ ['"']))
        let keys ← (upserts.zipIdx).mapM fun (up, i) => metKey s u (upserts.length = 1) i up
        triggers s d t .before .insert
        Prepare.lift (rules s u)
        let hasTriggers := (s.triggersOf u.name).any fun g =>
          g.fires .before .insert || g.fires .after .insert
        let isOneRow := match rows with
          | some (.make [] (.values [_]) [] [] none none) => true
          | none => true
          | _ => false
        Prepare.lift (references s u none (isOneRow && !hasTriggers && !base.isTrigger))
        let meetings ← (upserts.zip keys).mapM fun (up, key) => do
          match up.action with
          | .nothing => return (⟨key, .nothing⟩ : Meeting)
          | .update changes condition => do
            let names := changes.flatMap (·.1)
            let excluded := { u.place "excluded".toList with isQualified := true }
            let inner := base.push (.ofPlaces [u.place u.name, excluded])
            let own ← settings s inner t changes
            let condition ← condition.mapM fun c => Prepare.resolve (r.condition inner c)
            updated s d t names (names.filterMap t.column?)
            return ⟨key, .update names own condition⟩
        triggers s d t .after .insert
        return .insert conflict t names plan meetings

end

end Preparation

/-- What a statement does, and the triggers that it may fire. -/
def Statement.prepare (s : Schema) (st : Statement) : Except Problem (Step × List Program) := do
  let (step, p) ← (Preparation.statement s depth Scope.outermost st).run ⟨[], [], 0⟩
  return (step.routed s, p.programs.map (Program.routed s))

end Upkeep.Sql
