import Upkeep.Database.Value
import Upkeep.Workspace

/-!
# Engines

The catalogue does not look into its database. It hands statements to an engine, which changes the database or refuses
to, and tells what came of it. What an engine makes of a statement is its own matter; nothing here says that it does
what the statement means.

* `Engine`: transactions, statements and queries on a database.
* `Library`: an engine together with the files in which its databases are kept.
-/

namespace Upkeep.Category
open Database (Answer Trouble Value)

/-- A step on a database, which may be refused. A step that is refused may have changed the database all the same. -/
abbrev Attempt (σ α : Type) := ExceptT Trouble (StateM σ) α

/-- What carries out statements on databases. -/
structure Engine (σ : Type) where
  start : Attempt σ Unit
  /-- Carries out a statement with the values of its parameters, and tells how many rows it changed. -/
  execute (statement : Text) (parameters : List Value) : Attempt σ Nat
  commit : Attempt σ Unit
  /-- The end of a transaction that is not to count. -/
  rollback : σ → σ
  ask (statement : Text) (parameters : List Value) : σ → Except Trouble Answer

/-- An engine whose databases are kept in files. -/
structure Library where
  State : Type
  engine : Engine State
  /-- The database at a path, or what is said of a path at which none can be opened, and the workspace behind that. -/
  connect : Workspace → Path → Workspace × Except Text State
  /-- The workspace in which the file of a database has what counts. -/
  keep : Workspace → State → Workspace
  /-- The workspace behind the end of the work on a database. -/
  close : Workspace → State → Workspace

end Upkeep.Category
