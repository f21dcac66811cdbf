import Mathlib.Data.List.Sort
import Upkeep.Proofs.Category.Lookup
import Upkeep.Proofs.Category.Transaction

/-!
# Shelves

A shelf is a database that is nothing but records. Its engine carries out statements as they mean, so what is said of
documented engines can be seen on it (`Shelf.documented`). A rule tells which statements are refused, as a trigger does.

* `Change.carriedOut`: what a statement makes of some records.
* `Query.answer`: the answer to a query.
-/

namespace Upkeep.Category
open Database (Answer Trouble Value)

/-! ## Changes -/

/-- The number of a record that comes behind some others. -/
def nextNumber (rows : List Record) : Int := (rows.map (·.number)).foldr max 0 + 1

theorem lt_nextNumber {rows : List Record} {r : Record} (h : r ∈ rows) : r.number < nextNumber rows := by
  refine Int.lt_add_one_iff.mpr ?_
  induction rows with
  | nil => cases h
  | cons r' rows ih =>
    rw [List.map_cons, List.foldr_cons]
    rcases List.mem_cons.mp h with rfl | h
    · exact le_max_left _ _
    · exact (ih h).trans (le_max_right _ _)

/-- The number of records that a statement changes, and what it makes of all. -/
def Change.carriedOut (ps : List Value) (rows : List Record) : Change → Nat × List Record
  | insert columns key =>
    let new := bound columns.flatten ps
    if new key ≠ .null ∧ new key ∈ rows.map (·.value key) then (0, rows)
    else (1, rows ++ [⟨nextNumber rows, new⟩])
  | delete => (rows.length, [])
  | set target value condition =>
    let meets := fun r => Formula.holds (condition.value ps r)
    (rows.countP meets, rows.map fun r => if meets r then put target (value.value ps r) r else r)

theorem Change.does_carriedOut (c : Change) (ps : List Value) (rows : List Record) :
    c.Does ps rows (c.carriedOut ps rows).1 (c.carriedOut ps rows).2 := by
  cases c with
  | insert columns key =>
    unfold carriedOut Does
    dsimp only
    split
    · exact ⟨rfl, rfl⟩
    · exact ⟨rfl, _, fun r hr => lt_nextNumber hr, rfl⟩
  | delete => exact ⟨rfl, rfl⟩
  | set target value condition => exact ⟨rfl, rfl⟩

/-! ## Queries -/

def orderKey (v : Value) : ℕ ×ₗ ℤ ×ₗ Text := toLex (MayPrecede.rank v, toLex (whole v, v.text?.getD []))

theorem mayPrecede_of_orderKey_le {v w : Value} (h : orderKey v ≤ orderKey w) : MayPrecede v w := by
  rcases Prod.Lex.toLex_le_toLex.mp h with hrank | ⟨hrank, hrest⟩
  · exact .inl hrank
  refine .inr ⟨hrank, ?_⟩
  have hrest := Prod.Lex.toLex_le_toLex.mp hrest
  match v, w with
  | .integer m, .integer n => exact hrest.elim Int.le_of_lt fun heq => Int.le_of_eq heq.1
  | .text _, .text _ =>
    intro t u ht hu
    obtain hlt | ⟨-, hle⟩ := hrest
    · exact absurd hlt (Int.lt_irrefl 0)
    · rwa [ht, hu] at hle
  | .null, _ | .real _, _ | .blob _, _ | .integer _, .null | .integer _, .real _ | .integer _, .text _
  | .integer _, .blob _ | .text _, .null | .text _, .integer _ | .text _, .real _ | .text _, .blob _ => trivial

namespace Query

variable (q : Query) (ps : List Value) (rows : List Record)

def lineKey (line : List Record) : List (ℕ ×ₗ ℤ ×ₗ Text) :=
  q.order.map fun a => orderKey ((Shown.value a).ofLine ps line)

theorem mayPrecedeBy_of_le {l m : List Record} (as : List Formula)
    (h : as.map (fun a => orderKey ((Shown.value a).ofLine ps l)) ≤
      as.map fun a => orderKey ((Shown.value a).ofLine ps m)) : MayPrecedeBy ps l m as := by
  induction as with
  | nil => trivial
  | cons a as ih =>
    rw [List.map_cons, List.map_cons] at h
    rcases h.eq_or_lt with heq | hlt
    · obtain ⟨ha, has⟩ := List.cons.inj heq
      exact ⟨mayPrecede_of_orderKey_le ha.le, fun _ => ih has.le⟩
    rcases List.cons_lt_cons_iff.mp hlt with hlt | ⟨ha, hlt⟩
    · exact ⟨mayPrecede_of_orderKey_le hlt.le, fun hsame => absurd (congrArg orderKey hsame) hlt.ne⟩
    · exact ⟨mayPrecede_of_orderKey_le ha.le, fun _ => ih hlt.le⟩

def orderedLines : List (List Record) :=
  (q.lines ps rows).insertionSort fun l m => q.lineKey ps l ≤ q.lineKey ps m

def answer : Answer where
  names := q.shown.map fun s => s.2.getD s.1.text
  rows := (q.limit.elim (q.orderedLines ps rows) (q.orderedLines ps rows).take).map (q.rowOf ps)

theorem answers_answer : q.Answers ps rows (q.answer ps rows) := by
  refine ⟨q.orderedLines ps rows, List.perm_insertionSort _ _, ?_, rfl⟩
  refine List.Pairwise.imp (fun h => mayPrecedeBy_of_le ps q.order h) ?_
  exact List.pairwise_insertionSort (fun l m => q.lineKey ps l ≤ q.lineKey ps m) _

end Query

/-! ## Shelves -/

/-- Records in the order of their numbers, of types that there are. -/
structure AreSound (rows : List Record) : Prop where
  ascending : rows.Pairwise (·.number < ·.number)
  checked : ∀ r ∈ rows, ∃ k ∈ Kind.all, r.value .kind = .ofText k.word

instance (rows : List Record) : Decidable (AreSound rows) :=
  decidable_of_iff
    (rows.Pairwise (·.number < ·.number) ∧ ∀ r ∈ rows, ∃ k ∈ Kind.all, r.value .kind = .ofText k.word)
    ⟨fun h => ⟨h.1, h.2⟩, fun h => ⟨h.1, h.2⟩⟩

/-- The records that there are, and those that a rollback brings back. -/
structure Shelf where
  rows : { rows : List Record // AreSound rows }
  kept : { rows : List Record // AreSound rows }

namespace Shelf

def ofRecords (rows : List Record) (h : AreSound rows) : Shelf := ⟨⟨rows, h⟩, ⟨rows, h⟩⟩

def empty : Shelf := ofRecords [] (by decide +kernel)

def view : View Shelf := ⟨fun s => s.rows.val, fun s => s.kept.val⟩

def changeOf? (t : Text) : Option Change := [insertion, clearance, iconChange].find? (·.text == t)

def queryOf? (t : Text) : Option Query := (idQuery :: queries).find? (·.text == t)

variable (refuses : Change → List Value → Bool)

/-- Carries out a statement, unless it is refused or the table may not hold what it makes. -/
def execute (statement : Text) (ps : List Value) : Attempt Shelf Nat := fun s =>
  match changeOf? statement with
  | none => (.error (.refused "syntax error".toList), s)
  | some c =>
    if refuses c ps then (.error (.refused "refused".toList), s)
    else if h : AreSound (c.carriedOut ps s.rows).2 then
      (.ok (c.carriedOut ps s.rows).1, { s with rows := ⟨(c.carriedOut ps s.rows).2, h⟩ })
    else (.error (.refused "CHECK constraint failed".toList), s)

/-- The engine of the shelves on which some statements are refused. -/
def engine : Engine Shelf where
  start := fun s => (.ok (), { s with kept := s.rows })
  execute := execute refuses
  commit := fun s => (.ok (), s)
  rollback s := { s with rows := s.kept }
  ask statement ps s :=
    match queryOf? statement with
    | some q => .ok (q.answer ps s.rows)
    | none => .error (.refused "syntax error".toList)

variable {refuses}

theorem changeOf?_text {c : Change} {ps : List Value} (h : Sends c ps) : changeOf? c.text = some c := by
  cases h <;> decide +kernel

theorem queryOf?_text {q : Query} {ps : List Value} (h : Asks q ps) : queryOf? q.text = some q := by
  cases h <;> decide +kernel

theorem gives_execute {c : Change} {ps : List Value} (h : Sends c ps) (s : Shelf) :
    Gives (execute refuses c.text ps) s (fun n s' => c.Does ps s.rows n s'.rows) fun _ s' => s' = s := by
  have hrun : (execute refuses c.text ps).run s =
      if refuses c ps then (.error (.refused "refused".toList), s)
      else if h : AreSound (c.carriedOut ps s.rows).2 then
        (.ok (c.carriedOut ps s.rows).1, { s with rows := ⟨(c.carriedOut ps s.rows).2, h⟩ })
      else (.error (.refused "CHECK constraint failed".toList), s) := by
    change execute refuses c.text ps s = _
    rw [execute, changeOf?_text h]
  by_cases hrefuses : refuses c ps
  · exact .error _ s (by rw [hrun, if_pos hrefuses]) rfl
  rw [if_neg hrefuses] at hrun
  by_cases hsound : AreSound (c.carriedOut ps s.rows).2
  · exact .ok _ _ (by rw [hrun, dif_pos hsound]) (c.does_carriedOut ps s.rows)
  · exact .error _ s (by rw [hrun, dif_neg hsound]) rfl

theorem kept_execute (statement : Text) (ps : List Value) (s : Shelf) :
    ((execute refuses statement ps).run s).2.kept = s.kept := by
  change (execute refuses statement ps s).2.kept = s.kept
  unfold execute
  split
  · rfl
  · split_ifs <;> rfl

theorem documented (refuses : Change → List Value → Bool) : (engine refuses).Documented view where
  start s := .ok () { s with kept := s.rows } rfl ⟨rfl, rfl⟩
  execute c ps s := congrArg Subtype.val (kept_execute c.text ps s)
  commit s := .ok () s rfl rfl
  rollback _ := rfl
  ascending s := s.rows.property.ascending
  ask {q ps} h s := by
    refine ⟨q.answer ps s.rows, ?_, q.answers_answer ps s.rows⟩
    simp only [engine, queryOf?_text h]
  checked s r hr := by
    obtain ⟨k, -, hk⟩ := s.rows.property.checked r hr
    exact ⟨k, hk⟩
  does h s := Gives.mono (gives_execute h s) (fun _ _ hn => hn) fun _ _ _ => trivial

end Shelf

/-! ## What to put on a shelf -/

/-- A row of which little is known. -/
def Record.plain (number : Int) (id : Value) (name : Text) (parentId : Value) : Record where
  number
  value
    | .id => id
    | .name => .ofText name
    | .kind => .ofText Kind.income.word
    | .parentId => parentId
    | .isActive => .integer 1
    | _ => .null

def cats : Hierarchy := ⟨[⟨false, ⟨['猫'], none⟩, [⟨['c'], none⟩]⟩], []⟩

def catReading (c : Char) : Option Text := if c = '猫' then some "mao".toList else none

def numberedIds (n : Nat) : Text := [Nat.digitChar n]

end Upkeep.Category
