import Upkeep.Sql.Function
import Upkeep.Sql.Schema

/-!
# Plans

What a query is once its names are known. An expression has become a formula: it says of each value from which
source of the selection around it the value comes, and of each comparison how it compares. A plan is a query of
formulas.

A formula stands inside of selections, each of which has sources with a row in each. `Formula.column` speaks of
the innermost of them; `Formula.out` goes out of some of them. The rows of values and the bounds of a query stand
inside of a selection without sources.
-/

namespace Upkeep.Sql
open Database (Value)

/-- How two values compare: by the affinities of the sides and a collation of texts. -/
structure Comparing where
  left : Affinity
  right : Affinity
  collation : Collation
  deriving DecidableEq, Repr

/-- The direction in which values are put in order. -/
structure Direction where
  collation : Collation
  isDescending : Bool
  nullsFirst : Bool
  deriving DecidableEq, Repr

def Direction.up (c : Collation) : Direction := ⟨c, false, true⟩

/-- How a query is bound to the selection that it is a source of. -/
inductive Binding where
  | nameless
  /-- It has a name, by which others may ask for it too. -/
  | named
  /-- It has to stay apart. -/
  | sealed
  deriving DecidableEq, Repr

/-- Functions whose values are rows. -/
inductive TableFunction where
  /-- The members of a document. -/
  | members
  /-- Everything inside of a document. -/
  | nodes
  /-- The rows of a table in whose texts something is found: for each argument in one column or in any. -/
  | search (t : Table) (columns : List (Option Nat))

/-- Functions with a window. -/
inductive WindowFunction where
  | ranking (r : Ranking)
  | aggregate (a : Aggregate)

/-- The number under which the rows of a query are kept that hang on nothing around it. -/
abbrev Keeping := Option Nat

mutual

/-- An expression whose names are known. -/
inductive Formula where
  | constant (v : Value)
  | parameter (number : Nat)
  | moment (m : Moment)
  | column (source place : Nat)
  | number (source : Nat)
  | out (levels : Nat) (e : Formula)
  | unary (op : UnaryOp) (e : Formula)
  | binary (op : BinaryOp) (a b : Formula)
  /-- Compares values, or rows of values place by place. -/
  | compare (op : BinaryOp) (how : List Comparing) (a b : Formula)
  | same (isNegated : Bool) (how : List Comparing) (a b : Formula)
  | isTruth (isNegated wanted : Bool) (e : Formula)
  | isNull (isNegated : Bool) (e : Formula)
  | between (isNegated : Bool) (howLow howHigh : List Comparing) (e low high : Formula)
  | inList (isNegated : Bool) (how : Comparing) (e : Formula) (es : List Formula)
  | inPlan (isNegated : Bool) (how : List Comparing) (k : Keeping) (e : Formula) (p : Plan)
  | plan (width : Nat) (k : Keeping) (p : Plan)
  | holds (k : Keeping) (p : Plan)
  | choice (subject : Option Formula) (cases : List (Comparing × Formula × Formula)) (otherwise : Option Formula)
  | cast (a : Affinity) (e : Formula)
  | firstOf (es : List Formula)
  | call (isNegated : Bool) (name : Text) (f : Function) (c : Collation) (args : List Formula)
  | fact (f : Fact) (args : List Formula)
  /-- The value of a function of the rows that are taken together, by its number in the selection. -/
  | aggregate (number : Nat)
  /-- The value of a function with a window, by its number in the selection. -/
  | window (number : Nat)
  | raise (how : Conflict) (message : Text)
  | row (es : List Formula)

/-- A formula that rows are put in order by. -/
inductive SortTerm where
  | make (e : Formula) (d : Direction)

/-- A function of the rows that are taken together. -/
inductive AggregateCall where
  | make (f : Aggregate) (c : Collation) (isDistinct : Bool) (args : List Formula) (order : List SortTerm)
      (filter : Option Formula)

/-- A function with a window. -/
inductive WindowCall where
  | make (f : WindowFunction) (c : Collation) (args : List Formula) (filter : Option Formula) (w : Window)

/-- A window: what rows fall together by, their order, and which of them belong to a row. -/
inductive Window where
  | make (parts : List SortTerm) (order : List SortTerm) (unit : FrameUnit) (first last : FrameEdge)
      (exclusion : Exclusion)

/-- An end of a frame. -/
inductive FrameEdge where
  | start
  | before (e : Formula)
  | own
  | after (e : Formula)
  | stop

/-- A query whose names are known. Rows that are put together from several selections are in the order of some
of their columns. -/
inductive Plan where
  | single (s : Selector) (order : List SortTerm) (limit offset : Option Formula)
  | compound (first : Selector) (more : List (SetOp × Selector)) (collations : List Collation)
      (order : List (Nat × Direction)) (limit offset : Option Formula)
  /-- Rows that come from rows which are there, again and again: those that are there first, and steps that
  make rows from each of them. -/
  | recursion (first : Plan) (steps : List Selector) (isDistinct : Bool) (collations : List Collation)
      (order : List (Nat × Direction)) (limit offset : Option Formula)

/-- A selection whose names are known. -/
inductive Selector where
  | values (rows : List (List Formula))
  | select (isDistinct : Bool) (results : List Formula) (collations : List Collation) (supplies : List Supply)
      (conditions : List Formula) (grouping : Option Grouping) (windows : List WindowCall) (course : Course)

/-- How the rows of a source are reached. -/
inductive Approach where
  /-- In the order in which they are kept, or the other way round. -/
  | straight (isBackward : Bool)
  /-- In the order of an index. All rows that are wanted agree in its first `fixed` parts. -/
  | through (i : Index) (fixed : Nat) (isBackward : Bool)
  /-- In the order of some columns, by an index that is made on the spot. -/
  | sorted (columns : List Nat)
  /-- Once for each of several conditions, the first time that a row is met which fulfils it. -/
  | either (sides : List (Formula × Approach))

/-- The way through the sources of a selection, each with how its rows are reached, and whether rows that are
taken together come one behind the other. -/
inductive Course where
  | make (stops : List (Nat × Approach)) (isGrouped : Bool)

/-- How rows are taken together: by some keys, those groups that fulfil a condition, and the functions of their
rows. -/
inductive Grouping where
  | make (keys : List SortTerm) (having : Option Formula) (calls : List AggregateCall)

/-- A source whose names are known, with how it is joined to those before it. The conditions are those that
decide which rows belong together. -/
inductive Supply where
  | make (origin : Origin) (kind : JoinKind) (conditions : List Formula)

/-- Where the rows of a source come from. -/
inductive Origin where
  | table (t : Table) (hint : Hint)
  /-- The list of all objects. -/
  | objects
  | plan (binding : Binding) (k : Keeping) (p : Plan)
  /-- The row from which a step of a recursion makes rows. -/
  | current
  | function (f : TableFunction) (args : List Formula)

end

instance : Inhabited Formula := ⟨.constant .null⟩

instance : Inhabited Plan := ⟨.single (.values []) [] none none⟩

/-- The way through sources in the order in which they are written, where nothing is known. -/
def Course.plain : Course := .make [] false

/-- Whether rows that are taken together come one behind the other. -/
def Course.isGrouped : Course → Bool
  | .make _ b => b

def SortTerm.formula : SortTerm → Formula
  | .make e _ => e

def SortTerm.direction : SortTerm → Direction
  | .make _ d => d

def AggregateCall.function : AggregateCall → Aggregate
  | .make f _ _ _ _ _ => f

def Supply.origin : Supply → Origin
  | .make o _ _ => o

/-- How a supply is joined to those before it. -/
def Supply.kind : Supply → JoinKind
  | .make _ k _ => k

def Supply.conditions : Supply → List Formula
  | .make _ _ cs => cs

end Upkeep.Sql
