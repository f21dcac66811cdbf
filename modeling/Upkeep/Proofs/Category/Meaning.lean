import Mathlib.Data.Char
import Mathlib.Data.List.Lex
import Upkeep.Category.Catalogue

/-!
# What the statements mean

The template table is a row of records in the order in which they came, and every statement about it is a relation of
records. An engine is taken for what it is documented to be: it does what the statements mean, or refuses them.

* `Formula.value`, `Query.Answers`, `Change.Does`: the meaning of the statements, part by part.
* `Engine.Documented`: what an engine is relied on for. It may refuse any statement, for any reason. A transaction that is
  not to count is taken back (`Engine.TakesBack`), and what is looked up is there (`Engine.Tells`). Both also hold of
  databases with triggers, which may do more than their statements mean.

A column of numbers keeps a whole number as such, and texts are kept as their bytes, so values that are equal in a
statement are the same value.
-/

namespace Upkeep.Category
open Database (Answer Trouble Value)

/-- A record of the template table, with the number that tells when it came. -/
structure Record where
  number : Int
  value : Column → Value

/-! ## Formulas -/

namespace Formula

def ofBool (b : Bool) : Value := .integer (if b then 1 else 0)

/-- Whether a value is that of a condition that holds. Conditions are whole numbers, or undecided. -/
def holds : Value → Bool
  | .integer n => n != 0
  | _ => false

@[simp] theorem holds_ofBool (b : Bool) : holds (ofBool b) = b := by cases b <;> rfl

@[simp] theorem ofBool_ne_null (b : Bool) : ofBool b ≠ .null := nofun

@[simp] theorem holds_null : holds .null = false := rfl

/-- The value of a formula for a record. A comparison with nothing is undecided. -/
def value (ps : List Value) (r : Record) : Formula → Value
  | column c => r.value c
  | number => .integer r.number
  | parameter n => (ps[n - 1]?).getD .null
  | constant n => .integer n
  | emptyText => .ofText []
  | isNull a => ofBool (a.value ps r == .null)
  | isThere a => ofBool (a.value ps r != .null)
  | equal a b =>
    if a.value ps r == .null || b.value ps r == .null then .null else ofBool (a.value ps r == b.value ps r)
  | either a b =>
    if holds (a.value ps r) || holds (b.value ps r) then ofBool true
    else if a.value ps r == .null || b.value ps r == .null then .null
    else ofBool false
  | choice c a b => if holds (c.value ps r) then a.value ps r else b.value ps r

end Formula

/-! ## Queries -/

/-- Which of two values may come first: nothing before numbers, these before texts, and texts before bytes. Whole numbers
ascend, and texts by their characters. -/
def MayPrecede (a b : Value) : Prop :=
  rank a < rank b ∨ rank a = rank b ∧
    match a, b with
    | .integer m, .integer n => m ≤ n
    | .text _, .text _ => ∀ t u, a.text? = some t → b.text? = some u → t ≤ u
    | _, _ => True
where
  rank : Value → Nat
    | .null => 0
    | .integer _ => 1
    | .real _ => 1
    | .text _ => 2
    | .blob _ => 3

def whole : Value → Int
  | .integer n => n
  | _ => 0

/-- What is shown of records that fall together. A sum is one of whole numbers. -/
def Shown.ofLine (ps : List Value) (line : List Record) : Shown → Value
  | value a => (line.head?.map (a.value ps)).getD .null
  | size => .integer line.length
  | sum a => if line.isEmpty then .null else .integer (line.foldr (fun r n => whole (a.value ps r) + n) 0)

namespace Query

variable (q : Query) (ps : List Value)

def rowOf (line : List Record) : List Value := q.shown.map fun s => s.1.ofLine ps line

/-- The records that fall together, among those that meet the condition. -/
def lines (rows : List Record) : List (List Record) :=
  let met := rows.filter fun r => q.condition.all fun a => Formula.holds (a.value ps r)
  let lines := match q.grouping with
    | .each => met.map ([·])
    | .all => [met]
    | .by a => (met.map (a.value ps)).eraseDups.map fun v => met.filter fun r => a.value ps r == v
  if q.isDistinct then lines.eraseDupsBy fun l m => q.rowOf ps l == q.rowOf ps m else lines

/-- Whether a line may stand before another one by some formulas, the first of which counts most. -/
def MayPrecedeBy (l m : List Record) : List Formula → Prop
  | [] => True
  | a :: as =>
    let v := (Shown.value a).ofLine ps l
    let w := (Shown.value a).ofLine ps m
    MayPrecede v w ∧ (v = w → MayPrecedeBy l m as)

/-- What a query gives when the table has some records: its lines in an order that it asks for, up to its limit. -/
def Answers (rows : List Record) (a : Answer) : Prop :=
  ∃ lines : List (List Record), lines.Perm (q.lines ps rows) ∧
    lines.Pairwise (fun l m => MayPrecedeBy ps l m q.order) ∧
    a.rows = (q.limit.elim lines lines.take).map (q.rowOf ps)

end Query

/-! ## Changes -/

namespace Change

/-- The value that an insertion puts into a column. -/
def bound (columns : List Column) (ps : List Value) (c : Column) : Value :=
  ((columns.idxOf? c).bind (ps[·]?)).getD .null

/-- A record with something new in a column. -/
def put (target : Column) (v : Value) (r : Record) : Record :=
  { r with value := fun c => if c = target then v else r.value c }

/-- What a statement makes of the records, and how many it changes. What is added comes behind the others. -/
def Does (ps : List Value) (before : List Record) (n : Nat) (after : List Record) : Change → Prop
  | insert columns key =>
    let new := bound columns.flatten ps
    if new key ≠ .null ∧ new key ∈ before.map (·.value key) then n = 0 ∧ after = before
    else n = 1 ∧ ∃ number, (∀ r ∈ before, r.number < number) ∧ after = before ++ [⟨number, new⟩]
  | delete => n = before.length ∧ after = []
  | set target value condition =>
    let meets := fun r => Formula.holds (condition.value ps r)
    n = before.countP meets ∧ after = before.map fun r => if meets r then put target (value.value ps r) r else r

end Change

/-! ## Engines -/

/-- The changes that the catalogue sends, with the values of their parameters. -/
inductive Sends : Change → List Value → Prop where
  | insertion (t : Template) : Sends insertion (Catalogue.values t)
  | clearance : Sends clearance []
  | iconChange (file name : Text) : Sends iconChange [.ofText file, .ofText name]

/-- The queries that the catalogue asks, with the values of their parameters. -/
inductive Asks : Query → List Value → Prop where
  | rows : Asks rowQuery []
  | counts : Asks countQuery []
  | iconless : Asks iconlessQuery []
  | size : Asks sizeQuery []
  | id (name : Text) : Asks idQuery [.ofText name]

/-- A step on a database gives something, or fails in some way. -/
inductive Gives {ε σ α : Type} (x : ExceptT ε (StateM σ) α) (s : σ) (good : α → σ → Prop) (bad : ε → σ → Prop) : Prop
  | ok (a : α) (s' : σ) (hrun : x.run s = (.ok a, s')) (ha : good a s')
  | error (f : ε) (s' : σ) (hrun : x.run s = (.error f, s')) (hf : bad f s')

/-- What a database holds: the records of its template table, and those that a rollback brings back. -/
structure View (σ : Type) where
  rows : σ → List Record
  kept : σ → List Record

namespace Engine

variable {σ : Type}

/-- Transactions keep what they are to keep and take back the rest, whatever the statements in them do. -/
structure TakesBack (e : Engine σ) (v : View σ) : Prop where
  start : ∀ s, Gives e.start s (fun _ s' => v.rows s' = v.rows s ∧ v.kept s' = v.rows s)
    fun _ s' => v.rows s' = v.rows s
  /-- No statement touches what a rollback brings back. -/
  execute : ∀ (c : Change) ps s, v.kept ((e.execute c.text ps).run s).2 = v.kept s
  commit : ∀ s, Gives e.commit s (fun _ s' => v.rows s' = v.rows s) fun _ s' => v.kept s' = v.kept s
  rollback : ∀ s, v.rows (e.rollback s) = v.kept s

/-- Queries are answered as they mean. -/
structure Tells (e : Engine σ) (v : View σ) : Prop where
  /-- Records are in the order of their numbers. -/
  ascending : ∀ s, (v.rows s).Pairwise (·.number < ·.number)
  ask : ∀ {q ps}, Asks q ps → ∀ s, ∃ a, e.ask q.text ps s = .ok a ∧ q.Answers ps (v.rows s) a

/-- An engine does what it is documented to do on databases that have been set up. -/
structure Documented (e : Engine σ) (v : View σ) : Prop extends e.TakesBack v, e.Tells v where
  /-- The definition of the table lets no other types in. -/
  checked : ∀ s, ∀ r ∈ v.rows s, ∃ k : Kind, r.value .kind = .ofText k.word
  /-- A statement does what it means, or it is refused. -/
  does : ∀ {c ps}, Sends c ps → ∀ s, Gives (e.execute c.text ps) s
    (fun n s' => c.Does ps (v.rows s) n (v.rows s')) fun _ _ => True

end Engine
end Upkeep.Category
