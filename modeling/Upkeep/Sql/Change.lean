import Upkeep.Sql.Change.Fulltext
import Upkeep.Sql.Change.Numbering
import Upkeep.Sql.Change.Row
import Upkeep.Sql.Preparation

/-!
# Changing rows

A row that comes, changes or goes passes the triggers before it, the rules of its table, the references from
and to it, and the triggers behind it, in this order. A reference that breaks is only counted, and no longer
when it is mended; the count has to be zero in the end.

* `childRows l r`: the rows that name a row by a reference.
* `countReferences`: counts what a row that comes or goes does to references.
* `insertRow`, `updateRow`, `deleteRow`: one row. A row that is left out counts for nothing.
* `runStep`: a statement with all that follows from it.
-/

namespace Upkeep.Sql
open Database (Value)

/-! ## Broken references -/

/-- Whether the key that a reference of a row names is there. The row may be its own. -/
def hasParent (l : KeyLink) (r : Row) (isComing : Bool) : Run Bool := do
  let enc ← encoding
  let vs := valuesAt r (l.pairs.map (·.1))
  if vs.any Value.isNull then return true
  else match l.index with
    | none =>
      match Affinity.integer.apply (vs.head?.getD .null) with
      | .integer n =>
        if l.isOwn && isComing && n == r.number then return true
        else return (← tableRows evaluator l.parent).any (·.number == n)
      | _ => return false
    | some i =>
      let own := valuesAt r (l.pairs.map (·.2))
      let isOwn := l.isOwn && isComing && !own.any Value.isNull &&
        (vs.zip own).all fun (v, w) => sameValue enc .plain v w
      if isOwn then return true
      else
        let kept := (l.pairs.zip vs).map fun ((_, p), v) =>
          ((l.parent.columns[p]?).map fun c => c.affinity.apply v).getD v
        lookAtIndexes l.parent fun j => sameName j.name i.name
        let rows ← tableRows evaluator l.parent
        return rows.any fun x => i.keyOrder enc kept (valuesAt x (l.pairs.map (·.2))) == .eq

/-- Whether an index has the rows in the order of a column. -/
def Index.leadsWith (t : Table) (i : Index) (column : Nat) : Bool :=
  i.condition.isNone && i.parts.head?.any fun p =>
    p.column == some column && (t.columns[column]?).any fun c => sameName p.collation c.collation

/-- The shortest of some indexes, unique ones first. -/
def bestIndex? (is : List Index) : Option Index :=
  let least := is.foldl (fun (best : Option Index) i =>
    if best.all fun b => decide (i.parts.length < b.parts.length) then some i else best) none
  (is.find? fun i => i.isUnique && decide (i.parts.length = 1)).or least

/-- The rows that name a row of a table by a reference. -/
def childRows (l : KeyLink) (r : Row) : Run (List Row) := do
  let enc ← encoding
  let parents := valuesAt r (l.pairs.map (·.2))
  let comparings := l.pairs.map fun (c, p) =>
    let child := l.child.columns[c]?
    let parent := l.parent.columns[p]?
    (⟨(parent.map (·.affinity)).getD .none, (child.map (·.affinity)).getD .none,
      (parent.bind fun p => Collation.ofName? p.collation).getD .plain⟩ : Comparing)
  let ways := (bestIndex? (l.child.indexes.filter fun i => l.pairs.any fun (c, _) => i.leadsWith l.child c)).toList
  let rows ← reached l.child ways (← tableRows evaluator l.child)
  return rows.filter fun x => Comparing.same? enc comparings parents (valuesAt x (l.pairs.map (·.1))) == some true

def touches (t : Table) (touched : Touched) (ref : Reference) : Bool :=
  touched.all fun cs => ref.isTouched t cs || sameName ref.table t.name

/-- Counts what a row that comes or goes does to references: to its own, and to those that name it. -/
def countReferences (t : Table) (touched : Touched) (isComing : Bool) (r : Row) (isLone : Bool) : Run Unit := do
  let s ← get
  let sign : Int := if isComing then 1 else -1
  let openCount := fun (ref : Reference) (s : State) => if ref.isDeferred then s.deferred else s.immediate
  for ref in t.references do
    if touches t touched ref then
      let l ← Run.lift (KeyLink.make s.schema t ref)
      if isComing || openCount ref (← get) != 0 then
        if !(← hasParent l r isComing) then modify fun s => s.countReference ref.isDeferred sign
  for (child, ref) in s.schema.referencesTo t.name do
    if (touched.all fun cs => ref.isKeyTouched t cs) && !(isLone && !ref.isDeferred) then
      let l ← Run.lift (KeyLink.make s.schema child ref)
      if !isComing || openCount ref (← get) != 0 then
        let rows ← childRows l r
        let rows := if l.isOwn && !isComing then rows.filter (·.number ≠ r.number) else rows
        modify fun s => s.countReference ref.isDeferred (-sign * rows.length)

/-! ## Rows -/

/-- What is left of a row that is left out. -/
def unlessSkipped {α : Type} (otherwise : α) (work : Run α) : Run α :=
  tryCatch work fun stop =>
    match stop with
    | .skipRow => return otherwise
    | stop => throw stop

/-- Work behind which something is done, however it ends. -/
def finally_ {α : Type} (work : Run α) (last : Run Unit) : Run α := do
  let a ← tryCatch work fun stop => do
    last
    throw stop
  last
  return a

/-- What becomes of a row that might meet others: it comes in, or something else has changed some rows instead. -/
inductive Room where
  | free
  | instead (changes : Nat)

/-- The number that a row gets by its values, and the values in its columns. -/
def givenNumber? (t : Table) (given : List (Text × Value)) : Run (Option Int) := do
  let named := (given.find? fun (n, _) => isNumberName n && (t.column? n).isNone).map (·.2)
  let shown := (t.numberColumn.bind fun i => t.columns[i]?).bind fun c =>
    (given.find? fun (n, _) => sameName n c.name).map (·.2)
  match if t.hasNumbers then named.or shown else none with
  | some v => numberOf v
  | none => return none

/-- The values of a new row, as they are given or by default. -/
def givenValues (t : Table) (given : List (Text × Value)) : Run (List Value) := do
  let vs ← (t.columns.zipIdx).mapM fun (c, i) => do
    match given.find? fun (n, _) => sameName n c.name with
    | some (_, v) => return v
    | none => defaultAt t i
  return keepAll t vs

def numbered (t : Table) (n : Int) (vs : List Value) : Row :=
  ⟨n, vs.mapIdx fun i v => if t.numberColumn = some i then .integer n else v⟩

/-- The keys that a new row might meet, in the order in which they are looked at: none stands for the number of
the row. Those that an insertion names come first. -/
def keyChecks (t : Table) (override : Option Conflict) (meetings : List Meeting) : List (Option Index) :=
  let named := meetings.filterMap fun m => match m.key with
    | .any => none
    | .number => some none
    | .index i => some (some i)
  let isNamed := fun (i : Index) => named.any fun j => j.any fun j => sameName j.name i.name
  let rest := (t.indexes.filter fun i => !isNamed i).map some
  let isLate := override.isNone && t.numberConflict == some .replace
  let hasNumber := named.any (·.isNone)
  if hasNumber then named ++ rest
  else if isLate || !named.isEmpty then named ++ rest ++ [none]
  else none :: rest

/-- What an insertion does when it meets a key. -/
def meeting? (meetings : List Meeting) (i : Option Index) : Option Meeting :=
  (meetings.find? fun m => match m.key, i with
    | .number, none => true
    | .index j, some i => sameName j.name i.name
    | _, _ => false).or (meetings.find? fun m => match m.key with
    | .any => true
    | _ => false)

def settingValues (env : Env) (settings : List Setting) : Run (List (Slot × Value)) := do
  let all ← settings.mapM fun s => do
    match s.slots with
    | [slot] => return [(slot, (← evaluator.value env s.formula).value)]
    | slots => return slots.zip ((← evaluator.cells env s.formula).map (·.value))
  return all.flatten

/-- What settings do to rows of a table. -/
def Extent.ofSlots (t : Table) (slots : List Slot) : Extent :=
  let moves := slots.any fun s => match s with
    | .number => true
    | .column i => t.numberColumn == some i
  let columns := slots.filterMap fun s => match s with
    | .number => t.numberColumn
    | .column i => some i
  ⟨columns, moves⟩

/-- The row that a table row becomes when some slots get values, without computed columns. -/
def Row.withSlots (t : Table) (set : List (Slot × Value)) (number : Int) (r : Row) : Row :=
  numbered t number (r.values.mapIdx fun i v => (set.lookup (.column i)).getD v)

/-- The number that a row gets by the values of some slots, or the one that it has. -/
def movedNumber (t : Table) (set : List (Slot × Value)) (number : Int) : Run Int := do
  let v := (t.numberColumn.bind fun i => set.lookup (.column i)).or (set.lookup .number)
  match v with
  | none => return number
  | some v =>
    match ← numberOf v with
    | some n => return n
    | none => Run.fail .wrongType

/-- The rows of the sources of a statement that belong together. -/
def matches_ (env : Env) (supplies : List Supply) (conditions : List Formula) (course : Course) :
    Run (List (List Tuple)) := do
  let found ← visitJoined evaluator env supplies conditions course [] fun rows ts => return .yield (ts :: rows)
  return (behind found).reverse

/-- The number by which a row is found again. -/
def Tuple.mark (t : Tuple) : Int := t.number.toInt

/-- Lets all rows of a table go. How many there were. -/
def clearTable (t : Table) : Run Nat := do
  let rows ← tableRows evaluator t
  lookAtIndexes t fun _ => true
  checkRoom t fun _ => true
  modify fun s => s.withChanged t []
  return rows.length

mutual

/-- Fires the triggers of a target. -/
def fire : Nat → Target → Timing → Event → Option Conflict → List Tuple → Run Unit
  | 0, _, _, _, _, _ => Run.fail .tooDeep
  | fuel + 1, t, timing, event, override, tuples => do
    let s ← get
    (s.schema.triggersOf t.name).forM fun g => do
      let before ← get
      if g.fires timing event && !before.active.contains g.name then
        match before.programs.find? fun p => p.name == g.name with
        | none => return
        | some p =>
          let env := (Env.outermost []).push (.ofTuples tuples)
          modify fun s => { s with active := g.name :: s.active, kept := [] }
          finally_ (do if ← holdsAt env p.condition then p.steps.forM (runInner fuel env override)) <|
            modify fun s =>
              { s with
                active := before.active, lastNumber := before.lastNumber, changes := before.changes
                kept := before.kept }

/-- Carries out a statement of a trigger. -/
def runInner : Nat → Env → Option Conflict → Step → Run Unit
  | 0, _, _, _ => Run.fail .tooDeep
  | fuel + 1, env, override, step => do
    let n ← runStep fuel env override step
    match step with
    | .select _ => return
    | _ => modify fun s => { s with changes := n, allChanges := s.allChanges + n }

/-- Lets a row go, and what goes with it. Whether it was there. -/
def deleteRow : Nat → Table → Option Conflict → Int → Run Bool
  | 0, _, _, _ => Run.fail .tooDeep
  | fuel + 1, t, override, number =>
    unlessSkipped false do
      match ← rowAt? t number with
      | none => return false
      | some r =>
        if let some f := t.fulltext then
          f.delete t number
          return true
        fire fuel (.table t) .before .delete override [r.tuple]
        match ← rowAt? t number with
        | none => return false
        | some now =>
          countReferences t none false r false
          lookAtIndexes t fun _ => true
          checkEntries t (fun _ => true) now.number
          dropRow t now.number
          follow fuel t none r none
          unlessSkipped () (fire fuel (.table t) .after .delete override [r.tuple])
          return true

/-- What happens to rows that name a row which went or changed. -/
def follow : Nat → Table → Touched → Row → Option Row → Run Unit
  | 0, _, _, _, _ => Run.fail .tooDeep
  | fuel + 1, t, touched, old, new => do
    let s ← get
    let enc ← encoding
    (s.schema.referencesTo t.name).forM fun (child, ref) => do
      if touched.all fun cs => ref.isKeyTouched t cs then
        let l ← Run.lift (KeyLink.make s.schema child ref)
        let places := l.pairs.map (·.2)
        let isSame := new.any fun n =>
          ((valuesAt old places).zip (valuesAt n places)).all fun (v, w) => sameValue enc .plain v w
        let action := ref.action touched
        if !isSame && action ≠ .nothing then
          let rows ← childRows l old
          let set := fun (values : List Value) => do
            let slots := ((l.pairs.map fun (c, _) => Slot.column c).zip values)
            let done ← rows.mapM fun x => updateRow fuel child none x.number ref.columns fun _ => return slots
            pure (done.count true)
          let n ← match action with
            | .restrict =>
              if rows.isEmpty then pure 0
              else Run.fail (.raised "FOREIGN KEY constraint failed".toList)
            | .cascade =>
              match new with
              | none => do
                let done ← rows.mapM fun x => deleteRow fuel child none x.number
                pure (done.count true)
              | some n => set (valuesAt n places)
            | .setNull => set (l.pairs.map fun _ => .null)
            | .setDefault => do set (← l.pairs.mapM fun (c, _) => defaultAt child c)
            | .nothing => pure 0
          modify fun s => { s with allChanges := s.allChanges + n }

/-- Makes room for the key of a row in some indexes, or for its number: a row that has it goes, or the new one is
left out, or it is refused. A row that is met by a key which an insertion names may be changed instead. -/
def makeRoom : Nat → Env → Table → Option Conflict → Option Int → Row → List Meeting → List (Option Index) →
    Run Room
  | 0, _, _, _, _, _, _, _ => Run.fail .tooDeep
  | _ + 1, _, _, _, _, _, _, [] => return .free
  | fuel + 1, env, t, override, apart, r, meetings, check :: checks => do
    let met ← match check with
      | some i => rowsWithKey t i r apart
      | none => if apart = some r.number then pure [] else do pure (← rowAt? t r.number).toList
    match met with
    | [] => makeRoom fuel env t override apart r meetings checks
    | met :: _ =>
      match meeting? meetings check with
      | some ⟨_, .nothing⟩ => throw .skipRow
      | some ⟨_, .update names settings condition⟩ =>
        let inner := env.push (.ofTuples [met.tuple, r.tuple])
        if ← holdsAt inner condition then
          let values := settingValues inner settings
          let isDone ← updateRow fuel t override met.number names fun _ => values
          return .instead (if isDone then 1 else 0)
        else return .instead 0
      | none =>
        let own := match check with
          | some i => i.conflict
          | none => t.numberConflict
        match (override.or own).getD .abort with
        | .ignore => throw .skipRow
        | .replace =>
          replaceRow fuel t met.number
          makeRoom fuel env t override apart r meetings checks
        | how =>
          Run.refuse how <| match check with
            | some i => .keyTaken (keyName t i) i.isPrimary
            | none => numberProblem t

/-- Lets a row go to make room for another. Triggers do not fire. -/
def replaceRow : Nat → Table → Int → Run Unit
  | 0, _, _ => Run.fail .tooDeep
  | fuel + 1, t, number => do
    match ← rowAt? t number with
    | none => return
    | some r =>
      countReferences t none false r false
      checkEntries t (fun _ => true) number
      dropRow t number
      follow fuel t none r none

/-- Puts a new row into a table. How many rows changed. -/
def insertRow : Nat → Env → Table → Option Conflict → List (Text × Value) → List Meeting → Bool → Run Nat
  | 0, _, _, _, _, _, _ => Run.fail .tooDeep
  | fuel + 1, env, t, override, given, meetings, isLone =>
    unlessSkipped 0 do
      let s ← get
      let vs ← givenValues t given
      let own ← givenNumber? t given
      if let some f := t.fulltext then return ← f.insert t override own vs
      if (s.schema.triggersOf t.name).any (·.fires .before .insert) then
        let shown ← evaluator.computed t true (numbered t (own.getD (-1)) vs)
        Run.lift (checkTypes t shown.values)
        fire fuel (.table t) .before .insert override [shown.tuple]
      let number ← match own with
        | some n => pure n
        | none => newNumber t
      noteNumber t number
      let r ← evaluator.computed t true (numbered t number vs)
      let r ← checkMissing t none override r
      let r ← evaluator.computed t true r
      Run.lift (checkTypes t r.values)
      checkConditions t none override r
      lookAtIndexes t fun _ => true
      let checks := (keyChecks t override meetings).filter fun c => match c with
        | some i => i.isUnique
        | none => own.isSome
      match ← makeRoom fuel env t override none r meetings checks with
      | .instead n => return n
      | .free =>
        countReferences t none true r isLone
        checkRoom t fun _ => true
        putRow t none r
        modify fun s => { s with lastNumber := number }
        unlessSkipped () (fire fuel (.table t) .after .insert override [r.tuple])
        return 1

/-- Changes columns of a row: `set` finds their values for the row as it is. Whether it was there. -/
def updateRow : Nat → Table → Option Conflict → Int → List Text → (Row → Run (List (Slot × Value))) → Run Bool
  | 0, _, _, _, _, _ => Run.fail .tooDeep
  | fuel + 1, t, override, number, names, set =>
    unlessSkipped false do
      match ← rowAt? t number with
      | none => return false
      | some old =>
        let values := (← set old).map fun (slot, v) => match slot with
          | .column i => (slot, ((t.columns[i]?).map fun c => c.affinity.keep v).getD v)
          | .number => (slot, v)
        let extent := Extent.ofSlots t (values.map (·.1))
        let moved ← movedNumber t values number
        if let some f := t.fulltext then
          f.update t override number moved (old.withSlots t values moved).values
          return true
        let change := fun (r : Row) => evaluator.computed t true (r.withSlots t values moved)
        let new ← change old
        Run.lift (checkTypes t new.values)
        fire fuel (.table t) .before (.update names) override [new.tuple, old.tuple]
        match ← rowAt? t number with
        | none => return false
        | some now =>
          let new ← change now
          let new ← checkMissing t (some extent) override new
          Run.lift (checkTypes t new.values)
          checkConditions t (some extent) override new
          lookAtIndexes t (Index.hangsOn t extent)
          let checks := (keyChecks t override []).filter fun c => match c with
            | some i => i.isUnique && i.hangsOn t extent
            | none => t.hasNumbers && moved != number
          match ← makeRoom fuel (Env.outermost []) t override (some number) new [] checks with
          | .instead _ => return false
          | .free =>
            let touched : Touched := some extent.columns
            let concerns := Preparation.concernsReferences (← get).schema t touched
            if concerns then
              countReferences t touched false old false
              checkEntries t (Index.hangsOn t extent) number
              dropRow t number
              countReferences t touched true new false
            checkEntries t (Index.hangsOn t extent) number
            putRow t (some number) new
            if concerns then follow fuel t touched old (some new)
            unlessSkipped () (fire fuel (.table t) .after (.update names) override [new.tuple, old.tuple])
            return true

/-- Carries out a statement. The number of rows that it changed. -/
def runStep : Nat → Env → Option Conflict → Step → Run Nat
  | 0, _, _, _ => Run.fail .tooDeep
  | fuel + 1, env, override, step => do
    match step with
    | .select p => do
      let _ ← planRows env p
      return 0
    | .delete t supply conditions => do
      match t with
      | .view .. => do
        let found ← matches_ env [supply] conditions .plain
        found.forM fun ts => unlessSkipped () (fire fuel t .before .delete override ts)
        return 0
      | .table u =>
        if conditions.isEmpty && u.fulltext.isNone then
          let s ← get
          let isWatched := (s.schema.triggersOf u.name).any fun g => g.fires .before .delete || g.fires .after .delete
          if !isWatched && !Preparation.concernsReferences s.schema u none then return ← clearTable u
        let found ← matches_ env [supply] conditions .plain
        let numbers := (found.filterMap fun ts => ts.head?.map Tuple.mark).mergeSort
        let gone ← numbers.mapM fun n => deleteRow fuel u override n
        return gone.count true
    | .update conflict t names settings supplies conditions course => do
      let override := override.or conflict
      let found ← matches_ env supplies conditions course
      match t with
      | .view _ fields _ => do
        let changes ← found.mapM fun ts => do
          return (ts.take 1, ← settingValues (env.push (.ofTuples ts)) settings)
        changes.forM fun (old, set) => do
          let values := (List.range fields.length).map fun i =>
            (set.lookup (.column i)).getD ((old.head?.getD .missing).at_ i)
          unlessSkipped () (fire fuel t .before (.update names) override (Tuple.plain values :: old))
        return 0
      | .table u =>
        if supplies.length ≤ 1 then
          let numbers := (found.filterMap fun ts => ts.head?.map Tuple.mark).mergeSort
          let done ← numbers.mapM fun n =>
            updateRow fuel u override n names fun r =>
              settingValues (env.push (.ofTuples [r.tuple])) settings
          return done.count true
        else
          let values ← found.mapM fun ts => do
            return ((ts.head?.getD .missing).mark, ← settingValues (env.push (.ofTuples ts)) settings)
          let numbers := ((values.map (·.1)).eraseDups).mergeSort
          let done ← numbers.mapM fun n =>
            updateRow fuel u override n names fun _ => return (values.reverse.lookup n).getD []
          return done.count true
    | .insert conflict t names rows meetings => do
      let override := override.or conflict
      let all ← match rows with
        | none => pure [[]]
        | some p => planRows env p
      match t with
      | .view _ fields _ => do
        all.forM fun vs => do
          let given := names.zip vs
          let values := fields.map fun f => ((given.find? fun (n, _) => sameName n f.name).map (·.2)).getD .null
          unlessSkipped () (fire fuel t .before .insert override [.plain values])
        return 0
      | .table u =>
        let s ← get
        let isLone := all.length ≤ 1 && env.sights.isEmpty && (s.schema.triggersOf u.name).all fun g =>
          !g.fires .before .insert && !g.fires .after .insert
        let came ← all.mapM fun vs => insertRow fuel env u override (names.zip vs) meetings isLone
        return came.foldl (· + ·) 0

end

end Upkeep.Sql
