import Upkeep.Category.Engine
import Upkeep.Database.Journal
import Upkeep.Database.Layout
import Upkeep.Database.Location
import Upkeep.Sql.Transaction

/-!
# Connections to databases in files

An engine for the catalogue that needs no other programs: it reads a database file, carries out statements on what the
file holds, and writes it again. It is one engine among many, and nothing that is proved of the catalogue rests on it.

* `Connection.connect`: the database at a path. What is wrong with a file shows only in the first statement.
* `Connection.engine`: statements, queries and transactions on it.
* `Sql.library`: the engine with its files.
-/

namespace Upkeep.Sql
open Category (Attempt Engine Library)
open Database (Answer Location Trouble Value)
open Database.Recovery (journalOf logOf)

/-- A database with the file that it is kept in. -/
structure Connection where
  state : State
  /-- What there was when the transaction began. -/
  before : State
  /-- What is wrong with the file. -/
  flaw : Option Text
  /-- The place of the file, if there is one. -/
  place : Option Upkeep.Place
  mayWrite : Bool
  /-- Whether changes are going to be logged beside the file, which is not so yet. -/
  logs : Bool
  /-- Whether the file has got a table or an index by this connection. -/
  isNew : Bool
  /-- Whether the file has to be written. -/
  isTouched : Bool

namespace Connection

/-! ## Opening -/

def ofState (s : State) : Connection := ⟨s, s, none, none, true, false, false, false⟩

/-- A connection to an empty database without a file. -/
def passing (time : Text) (mayWrite : Bool) : Connection :=
  { ofState (.start .empty .empty time) with mayWrite }

def flawed (flaw : Text) : Connection := { passing [] false with flaw := some flaw }

/-- The connection to the file at a place. -/
def ofFile (time : Text) (l : Location) (place : Upkeep.Place) (content : ByteArray) : Connection :=
  match Database.ofBytes content with
  | .error flaw => flawed flaw.message
  | .ok d =>
    if d.isLogged && !l.canLog && !l.isFixed then flawed Database.Flaw.noLog.message
    else match Schema.ofObjects? d.objects .empty with
      | .error (name, more) => flawed ((Problem.malformed name more).complaint [])
      | .ok schema =>
        let s := State.start d schema time
        ⟨s, s, none, some place, l.mayWrite && !d.isLocked, !d.isLogged && l.canLog && !l.isFixed, false, false⟩

def without (w : Workspace) (place : Upkeep.Place) : Workspace :=
  match w.root.lookup? place with
  | some (.file _) => { w with root := w.root.remove place }
  | _ => w

/-- What the file at a place holds by what is beside it, and the workspace in which there is nothing beside it any
more. -/
def recovered (w : Workspace) (l : Location) (place : Upkeep.Place) (content : ByteArray) :
    Except Database.Flaw (Workspace × ByteArray) := do
  let journal := w.root.lookup? (journalOf place)
  let log := w.root.lookup? (logOf place)
  if l.isFixed || journal.isNone && log.isNone then return (w, content)
  let isThere := fun (path : List UInt8) => w.pathExists (Text.ofBytesLossy ⟨path.toArray⟩)
  let content ← Database.Recovery.content? l.forWriting l.canLog isThere journal log content
  if !l.forWriting then return (w, content)
  return (without (without (w.put place (.file content)) (journalOf place)) (logOf place), content)

/-- The connection to the file at a place, whatever is beside it. -/
def openBeside (w : Workspace) (time : Text) (l : Location) (place : Upkeep.Place) (content : ByteArray) :
    Workspace × Connection :=
  match recovered w l place content with
  | .error flaw => (w, flawed flaw.message)
  | .ok (w, content) => (w, ofFile time l place content)

/-- The database at a path, and the workspace in which it is there. -/
def connect (time : Text) (w : Workspace) (path : Path) : Workspace × Except Text Connection :=
  let refused := fun (flaw : Database.LocationFlaw) => (w, .error (flaw.message path))
  let opened := fun (x : Workspace × Connection) => (x.1, .ok x.2)
  match Location.ofText path with
  | .error flaw => refused flaw
  | .ok l =>
    match l.file with
    | none => (w, .ok (passing time l.mayWrite))
    | some file =>
      match Location.place? w file with
      | none => refused .noFile
      | some place =>
        if l.pattern.any fun p => !w.pathExists p then refused .noPattern
        else match w.root.lookup? place with
        | some (.dir _) => refused (if l.forWriting then .noFile else .directory)
        | some (.file content) => opened (openBeside w time l place content)
        | none =>
          if l.mayCreate && w.root.isDirAt place.dropLast then
            opened (openBeside (w.put place (.file ⟨#[]⟩)) time l place ⟨#[]⟩)
          else refused .noFile

/-! ## Setting up -/

/-- Adds the table of a statement, unless something with columns has its name. -/
def addTable (mayWrite : Bool) (statement definition : Text) : Run Nat := do
  match Definition.ofText? statement with
  | .ok (.table d) =>
    let s ← get
    if s.schema.hasRelation d.name then return 0
    if (s.schema.index? d.name).isSome then Run.fail (.nameTaken "an index".toList d.name)
    if !mayWrite then Run.fail .readOnly
    Storage.addTable (Table.ofDefinition d) definition
    return 0
  | _ => return 0

/-- Adds the index of a statement, unless there is one of its name. -/
def addIndex (mayWrite : Bool) (statement definition : Text) : Run Nat := do
  match Definition.ofText? statement with
  | .ok (.index d) =>
    let s ← get
    match s.schema.table? d.table with
    | none => Run.fail (.notIndexed (if (s.schema.view? d.table).isSome then "views" else "virtual tables").toList)
    | some t =>
      if t.fulltext.isSome then Run.fail (.notIndexed "virtual tables".toList)
      if s.schema.hasRelation d.name then Run.fail (.nameTaken "a table".toList d.name)
      if (s.schema.index? d.name).isSome then return 0
      let own := Index.ofDefinition t d
      Run.lift <| Resolve.run <| own.parts.forM fun p => do
        let _ ← (Resolver.ofSchema s.schema).value t.ruleScope p.expr
        let _ ← Resolve.lift (namedCollation p.collation)
      if !mayWrite then Run.fail .readOnly
      Storage.addIndex t own definition
      return 0
  | _ => return 0

/-- What stands in front of a definition that adds something only where it is not there yet. -/
def careful : Text := "IF NOT EXISTS ".toList

def definition? (words : String) (statement : Text) : Option Text :=
  (Text.after? (words.toList ++ careful) statement).map (words.toList ++ ·)

/-- Lets changes be logged beside the file from now on. -/
def startLogging (c : Connection) : Run Nat := do
  if c.logs && !c.mayWrite then Run.fail .readOnly
  if c.logs then modify fun s => { s with database := { s.database with isLogged := true } }
  findLost
  return 0

/-- Carries out a statement. -/
def carryOut (c : Connection) (statement : Text) (parameters : List Value) : Except Trouble (Nat × Connection) := do
  let setUp := fun (work : Run Nat) => do
    let (n, state) ← Transaction.run statement c.state work
    let isNew := c.isNew || decide (state.database.objects.length ≠ c.state.database.objects.length)
    return (n, { c with state, isNew, isTouched := c.isTouched || isNew })
  if (Text.after? "PRAGMA journal_mode".toList statement).isSome then do
    let (n, c) ← setUp (startLogging c)
    return (n, { c with isTouched := c.isTouched || c.logs })
  else match definition? "CREATE TABLE " statement, definition? "CREATE INDEX " statement with
  | some definition, _ => setUp (addTable c.mayWrite statement definition)
  | none, some definition => setUp (addIndex c.mayWrite statement definition)
  | none, none =>
    let (n, state) ← Transaction.execute c.state c.mayWrite statement parameters
    return (n, { c with state })

/-! ## The engine -/

/-- A step on a connection, unless its file has a flaw. -/
def attempt {α : Type} (f : Connection → Except Trouble (α × Connection)) : Attempt Connection α := do
  let c ← get
  match c.flaw, f c with
  | some flaw, _ => throw (.refused flaw)
  | none, .error t => throw t
  | none, .ok (a, c) => do
    set c
    return a

/-- The engine for connections. -/
def engine : Engine Connection where
  start := attempt fun c => .ok ((), { c with before := c.state, isTouched := c.isTouched || c.mayWrite })
  execute statement parameters := attempt fun c => c.carryOut statement parameters
  commit := attempt fun c => do
    let state ← Transaction.commit c.state
    return ((), { c with state })
  rollback c := { c with state := c.before }
  ask statement parameters c :=
    match c.flaw with
    | some flaw => .error (.refused flaw)
    | none => Prod.fst <$> Transaction.ask c.state statement parameters

/-! ## Files -/

/-- The workspace with a database in its file, if that has one. -/
def save (w : Workspace) (c : Connection) : Workspace :=
  match c.place with
  | some place => w.put place (.file ((Transaction.database c.state).toOption.getD c.state.database).bytes)
  | none => w

end Connection

/-- The engine for database files, at a time. The pages of a file that has got its table only now are all still to be
written to it when the work on it ends. -/
def library (time : Text) : Library where
  State := Connection
  engine := Connection.engine
  connect := Connection.connect time
  keep w c := if c.isTouched then c.save w else w
  close w c := if c.isNew then c.save w else w

end Upkeep.Sql
