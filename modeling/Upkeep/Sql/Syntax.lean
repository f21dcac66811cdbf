import Upkeep.Database.Record
import Upkeep.Text.Basic

/-!
# Statements

What statements are made of: expressions, queries, the statements that change rows, and the definitions of
tables, indexes, views and triggers. Names are kept as they are written; what they mean depends on where they
stand.
-/

namespace Upkeep.Sql
open Database (Value)

/-- What happens when a row breaks a rule. -/
inductive Conflict where
  | rollback
  | abort
  | fail
  | ignore
  | replace
  deriving DecidableEq, Repr

/-- Operators of one operand. -/
inductive UnaryOp where
  | negate
  | keep
  | invert
  | not
  deriving DecidableEq, Repr

/-- Operators of two operands. -/
inductive BinaryOp where
  | or
  | and
  | equal
  | differ
  | less
  | notMore
  | more
  | notLess
  | bitAnd
  | bitOr
  | shiftLeft
  | shiftRight
  | plus
  | minus
  | times
  | divide
  | remainder
  | join
  | member
  | memberText
  deriving DecidableEq, Repr

/-- Operators that compare with a pattern. -/
inductive MatchOp where
  | like
  | glob
  | regexp
  | document
  deriving DecidableEq, Repr

/-- How a source is joined to those before it. -/
inductive JoinKind where
  | inner
  /-- An inner join whose sides keep their order. -/
  | cross
  | left
  | right
  | full
  deriving DecidableEq, Repr

/-- How the rows of a table are to be reached. -/
inductive Hint where
  | free
  | through (index : Text)
  | directly
  deriving DecidableEq, Repr

/-- How the rows of two queries are put together. -/
inductive SetOp where
  | union
  | unionAll
  | except
  | intersect
  deriving DecidableEq, Repr

/-- What the rows of a window are counted by. -/
inductive FrameUnit where
  | rows
  | values
  | groups
  deriving DecidableEq, Repr

/-- Which rows near the own one a window leaves out. -/
inductive Exclusion where
  | nothing
  | own
  | peers
  | otherPeers
  deriving DecidableEq, Repr

/-- Parts of the present time. -/
inductive Moment where
  | date
  | time
  | dateTime
  deriving DecidableEq, Repr

/-- A column as an expression names it. -/
structure ColumnName where
  database : Option Text
  table : Option Text
  column : Text
  /-- Whether it stands between double quotes, so that it may be a text. -/
  isQuoted : Bool
  /-- Where it starts in its statement. -/
  start : Nat
  deriving DecidableEq, Repr

mutual

/-- An expression. -/
inductive Expr where
  | constant (v : Value)
  | column (n : ColumnName)
  | parameter (number : Nat)
  | moment (m : Moment)
  | unary (op : UnaryOp) (e : Expr)
  | binary (op : BinaryOp) (a b : Expr)
  | same (isNegated : Bool) (a b : Expr)
  | isNull (isNegated : Bool) (e : Expr)
  | compare (op : MatchOp) (isNegated : Bool) (e pattern : Expr) (escape : Option Expr)
  | between (isNegated : Bool) (e low high : Expr)
  | inList (isNegated : Bool) (e : Expr) (es : List Expr)
  | inQuery (isNegated : Bool) (e : Expr) (q : Query)
  | query (q : Query)
  | holds (q : Query)
  | choice (subject : Option Expr) (cases : List (Expr × Expr)) (otherwise : Option Expr)
  | cast (e : Expr) (type : Text)
  | collate (e : Expr) (name : Text)
  /-- Without a list of arguments a star stands in its place. -/
  | call (name : Text) (start : Nat) (isDistinct : Bool) (args : Option (List Expr)) (order : List Term)
      (filter : Option Expr) (within : Option Over)
  | raise (how : Conflict) (message : Text)
  | row (es : List Expr)

/-- The window of a function: one with a name, or one of its own. -/
inductive Over where
  | named (name : Text)
  | own (w : WindowDefinition)

/-- A window: maybe one that it goes on from, what rows fall together by, their order, and which of them
belong to a row. -/
inductive WindowDefinition where
  | make (base : Option Text) (parts : List Expr) (order : List Term) (frame : Option Frame)

/-- The rows of a window that belong to a row. -/
inductive Frame where
  | make (unit : FrameUnit) (first last : Edge) (exclusion : Exclusion)

/-- An end of a frame. -/
inductive Edge where
  | start
  | before (e : Expr)
  | own
  | after (e : Expr)
  | stop

/-- A query: selections put together, the order of the rows, and which of them are left. -/
inductive Query where
  | make (tables : List NamedQuery) (first : Selection) (more : List (SetOp × Selection)) (order : List Term)
      (limit offset : Option Expr)

/-- A query with a name and maybe names of its columns, and whether it has to stay apart from those that ask for
it. -/
inductive NamedQuery where
  | make (name : Text) (columns : List Text) (isSealed : Bool) (q : Query)

/-- A selection. -/
inductive Selection where
  | values (rows : List (List Expr))
  | select (isDistinct : Bool) (results : List Result) (sources : List Source) (condition : Option Expr)
      (groups : List Expr) (having : Option Expr) (windows : List (Text × WindowDefinition))

/-- A column of a selection. -/
inductive Result where
  | all
  | allOf (table : Text)
  | expr (e : Expr) (name : Option Text) (written : Text)

/-- Where rows come from. -/
inductive Source where
  | table (link : Link) (database : Option Text) (name : Text) (nickname : Option Text) (hint : Hint)
  | function (link : Link) (name : Text) (args : List Expr) (nickname : Option Text)
  | query (link : Link) (q : Query) (nickname : Option Text)
  | group (link : Link) (sources : List Source) (nickname : Option Text)

/-- How a source is tied to those before it. -/
inductive Link where
  | make (kind : JoinKind) (isNatural : Bool) (condition : Option Expr) (columns : List Text)

/-- An expression with a direction. -/
inductive Term where
  | make (e : Expr) (isDescending : Bool) (nullsFirst : Option Bool)

end

instance : Inhabited Expr := ⟨.constant .null⟩

/-- Whether a frame may reach from one end to another: not from a later one to an earlier one. -/
def Edge.mayFrame : Edge → Edge → Bool
  | .own, .before _ => false
  | .after _, .before _ => false
  | .after _, .own => false
  | _, _ => true

def Term.expr : Term → Expr
  | .make e _ _ => e

/-- What an insertion does instead when it meets a row with the same key. -/
inductive UpsertAction where
  | nothing
  | update (changes : List (List Text × Expr)) (condition : Option Expr)

/-- A key that an insertion may meet, if one is named, and what it does then. -/
structure Upsert where
  target : List Term
  condition : Option Expr
  action : UpsertAction

/-- A statement that reads or changes rows. -/
inductive Statement where
  | insert (conflict : Option Conflict) (table : Text) (columns : Option (List Text)) (rows : Option Query)
      (upserts : List Upsert)
  | update (conflict : Option Conflict) (table : Text) (changes : List (List Text × Expr))
      (sources : List Source) (condition : Option Expr)
  | delete (table : Text) (condition : Option Expr)
  | select (q : Query)

/-! ## Definitions -/

/-- What happens to rows that name a row which goes or changes. -/
inductive KeyAction where
  | nothing
  | setNull
  | setDefault
  | cascade
  | restrict
  deriving DecidableEq, Repr

/-- A rule that columns name a row of a table. -/
structure Reference where
  /-- The columns, by their names. -/
  columns : List Text
  table : Text
  /-- The columns of the other table, or its primary key. -/
  keys : List Text
  onDelete : KeyAction
  onUpdate : KeyAction
  isDeferred : Bool
  deriving DecidableEq, Repr

/-- A rule that an expression holds for every row. -/
structure Check where
  /-- The name of the rule, or how it is written. -/
  name : Text
  condition : Expr

/-- A rule that the values of some columns are those of one row only. -/
structure Key where
  isPrimary : Bool
  parts : List Term
  conflict : Option Conflict

/-- A column of a table. -/
structure ColumnDefinition where
  name : Text
  type : Text
  collation : Option Text
  /-- What happens when it has no value, if it must have one. -/
  notNull : Option Conflict
  default? : Option Expr
  /-- How it is computed, and whether it is stored. -/
  generated : Option (Expr × Bool)

/-- A table. -/
structure TableDefinition where
  name : Text
  columns : List ColumnDefinition
  checks : List Check
  keys : List Key
  references : List Reference
  isAutoincrement : Bool
  hasNoNumbers : Bool
  isStrict : Bool

/-- An index. -/
structure IndexDefinition where
  name : Text
  table : Text
  isUnique : Bool
  parts : List Term
  condition : Option Expr

/-- A view. -/
structure ViewDefinition where
  name : Text
  columns : List Text
  query : Query

/-- When a trigger fires. -/
inductive Timing where
  | before
  | after
  | instead
  deriving DecidableEq, Repr

/-- What a trigger fires at. An update may be one of some columns only. -/
inductive Event where
  | insert
  | delete
  | update (columns : List Text)
  deriving DecidableEq, Repr

/-- A trigger. -/
structure TriggerDefinition where
  name : Text
  table : Text
  timing : Timing
  event : Event
  condition : Option Expr
  steps : List Statement

/-- A table that a module keeps. -/
structure ModuleDefinition where
  name : Text
  moduleName : Text
  arguments : List Text

/-- A definition. -/
inductive Definition where
  | table (d : TableDefinition)
  | kept (d : ModuleDefinition)
  | index (d : IndexDefinition)
  | view (d : ViewDefinition)
  | trigger (d : TriggerDefinition)

end Upkeep.Sql
