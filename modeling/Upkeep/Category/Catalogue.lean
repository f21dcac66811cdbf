import Upkeep.Category.Engine
import Upkeep.Category.Hierarchy
import Upkeep.Category.IconMap
import Upkeep.Category.Statement
import Upkeep.Failure

/-!
# The catalogue

The catalogue is the template table of a database, and the database is that of some engine. What follows is what the
program asks of it, statement by statement, and what it makes of the answers.

* `importHierarchy`, `updateIcons`: changes of the catalogue. Each runs in a `transaction`, and what is told of it is
  looked up behind the transaction.
* `templates`, `counts`, `namesWithoutIcon`, `size`, `findId?`: what is looked up in the catalogue.
* `Hierarchy.load`, `IconMap.load`: what the files hold that categories are read from, or why it could not be had.
* `Library.load`: the database at a path with its table and indexes.
-/

namespace Upkeep.Category
open Database (Answer Trouble Value)

/-! ## Categories in files -/

def Hierarchy.load (w : Workspace) (path : Path) : Except Failure Hierarchy :=
  (FileTask.readHierarchy.of path (w.readText path)).bind fun t =>
    (parse? t).mapError (Failure.json (some (.hierarchy, path)))

/-- The icon map in a file. -/
def IconMap.load (w : Workspace) (path : Path) : Except Failure IconMap :=
  (FileTask.readIcons.of path (w.readText path)).bind fun t =>
    (parse? t).mapError (Failure.json (some (.icons, path)))

/-! ## What is told of changes -/

/-- How many active rows of a type there are. -/
structure TypeCount where
  word : Text
  total : Nat
  parents : Nat
  children : Nat
  deriving DecidableEq, Repr

/-- What is told of an import. -/
structure ImportReport where
  cleared : Nat
  parents : Nat
  children : Nat
  counts : List TypeCount
  deriving DecidableEq, Repr

def ImportReport.imported (r : ImportReport) : Nat := r.parents + r.children

/-- What is told of an update of icons. -/
structure IconReport where
  mapped : Nat
  updated : Nat
  /-- The categories whose icon file does not exist, with the file. -/
  missing : List (Text × Text)
  withoutIcon : List Text
  deriving DecidableEq, Repr

/-! ## Work on a database -/

/-- Work on a database, which may fail and have changed the database all the same. -/
abbrev Work (σ α : Type) := ExceptT Failure (StateM σ) α

/-- An attempt as a part of some work. -/
def Attempt.within {σ α : Type} (a : Attempt σ α) (task : Option StatementTask) : Work σ α :=
  a.adapt (Failure.statement task)

namespace Catalogue

variable {σ α : Type} (e : Engine σ)

/-- Work that counts as a whole or not at all. -/
def transaction (starting keeping : StatementTask) (work : Work σ α) : Work σ α := do
  e.start.within (some starting)
  let whole : Work σ α := do
    let a ← work
    e.commit.within (some keeping)
    return a
  tryCatch whole fun f => do
    modify e.rollback
    throw f

/-- Carries out a statement that changes rows, and tells how many it changed. -/
def change (task : Option StatementTask) (c : Change) (parameters : List Value) : Work σ Nat :=
  (e.execute c.text parameters).within task

/-! ## Looking up -/

/-- What a query gives, row by row. -/
def listed (q : Query) (parameters : List Value) (read : Answer → List Value → Except Trouble α) (s : σ) :
    Except Failure (List α) :=
  ((e.ask q.text parameters s).bind fun a => a.rows.mapM (read a)).mapError (Failure.statement none)

/-- The template that a row of the list holds. -/
def readTemplate (a : Answer) (row : List Value) : Except Trouble Template := do
  let word ← a.text? 6 row
  let id ← a.text? 0 row
  let name ← a.text? 1 row
  let englishName ← a.optionalText? 2 row
  let pinyin ← a.optionalText? 3 row
  let shortPinyin ← a.optionalText? 4 row
  let icon ← a.optionalText? 5 row
  let parentId ← a.optionalText? 7 row
  let isActive ← a.number? 8 row
  let color ← a.optionalText? 9 row
  return { id, name, englishName := englishName.getD [], pinyin, shortPinyin, icon := icon.getD []
           kind := (Kind.ofWord? word).getD .expense, parentId, isActive := isActive != 0
           color := color.getD [] }

def templates : σ → Except Failure (List Template) := listed e rowQuery [] readTemplate

def readCount (a : Answer) (row : List Value) : Except Trouble TypeCount := do
  let word ← a.text? 0 row
  let total ← a.number? 1 row
  let parents ← a.number? 2 row
  let children ← a.number? 3 row
  return ⟨word, total.toNat, parents.toNat, children.toNat⟩

/-- How many active rows of each type there are. -/
def counts : σ → Except Failure (List TypeCount) := listed e countQuery [] readCount

def namesWithoutIcon : σ → Except Failure (List Text) := listed e iconlessQuery [] (·.text? 0)

def size (s : σ) : Except Failure Int :=
  (listed e sizeQuery [] (·.number? 0) s).bind fun
    | n :: _ => .ok n
    | [] => .error (.statement none (.refused "Query returned no rows".toList))

def findId? (name : Text) (s : σ) : Except Failure (Option Text) :=
  (listed e idQuery [.ofText name] (·.text? 0) s).map List.head?

/-- Something that is looked up in the middle of some work. -/
def look (f : σ → Except Failure α) : Work σ α := do
  match f (← get) with
  | .ok a => return a
  | .error f => throw f

/-! ## Importing a hierarchy -/

def values (t : Template) : List Value :=
  [.ofText t.id, .ofText t.name, .ofText t.englishName, .ofText? t.pinyin, .ofText? t.shortPinyin,
    .ofText t.icon, .ofText t.kind.word, .ofText? t.parentId, .integer (if t.isActive then 1 else 0),
    .ofText t.color]

/-- Adds the rows of some templates, and tells the numbers of main categories and of children among those that
came. -/
def insertAll : List Template → Work σ (Nat × Nat)
  | [] => return (0, 0)
  | c :: cs => do
    let n ← change e (some (.inserting c.name)) insertion (values c)
    let (parents, children) ← insertAll cs
    return if n = 0 then (parents, children)
      else if c.isRoot then (parents + 1, children)
      else (parents, children + 1)

/-- Clears the table if that is wanted, adds the rows of some templates, and tells how many rows went and came. -/
def replaceRows (plan : List Template) (clear : Bool) : Work σ (Nat × Nat × Nat) := do
  let cleared ← if clear then change e none clearance [] else pure 0
  let (parents, children) ← insertAll e plan
  return (cleared, parents, children)

/-- Imports planned templates into the table, which may be cleared before. -/
def importTemplates (plan : List Template) (clear : Bool) : Work σ ImportReport := do
  let (cleared, parents, children) ← transaction e .startingImport .keepingImport (replaceRows e plan clear)
  return ⟨cleared, parents, children, ← look (counts e)⟩

def importHierarchy (reading : Char → Option Text) (ids : Nat → Text) (h : Hierarchy) (clear : Bool) :
    Work σ ImportReport :=
  importTemplates e (h.plan reading ids) clear

/-! ## Updating icons -/

/-- Sets the icons of a map that are there, and tells how many rows got one and which icons are not there. `present file`
tells whether an icon file exists. -/
def setIcons (present : Text → Bool) : IconMap → Work σ (Nat × List (Text × Text))
  | [] => return (0, [])
  | (name, file) :: icons =>
    if present file then do
      let n ← change e none iconChange [.ofText file, .ofText name]
      let (updated, missing) ← setIcons present icons
      return (n + updated, missing)
    else do
      let (updated, missing) ← setIcons present icons
      return (updated, (name, file) :: missing)

def updateIcons (present : Text → Bool) (icons : IconMap) : Work σ IconReport := do
  let (updated, missing) ← transaction e .startingIcons .keepingIcons (setIcons e present icons)
  return ⟨icons.length, updated, missing, ← look (namesWithoutIcon e)⟩

/-! ## Setting up -/

/-- The statements that set a database up: it logs its changes, and has the table and its indexes. -/
def setUpTexts : List Text := "PRAGMA journal_mode='WAL'".toList :: definition :: indexDefinitions

/-- Sets a database up. What was added before a statement failed stays. -/
def setUp : Work σ Unit := setUpTexts.forM fun t => discard ((e.execute t []).within none)

end Catalogue

/-- The database at a path with its table and indexes, and the workspace in which its file has them. -/
def Library.load (l : Library) (w : Workspace) (path : Path) : Workspace × Except Failure l.State :=
  match l.connect w path with
  | (w, .error reason) => (w, .error (.openDatabase path reason))
  | (w, .ok s) =>
    let (result, s) := (Catalogue.setUp l.engine).run s
    (l.keep w s, result.map fun _ => s)

end Upkeep.Category
