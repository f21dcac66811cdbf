import Upkeep.Text.Utf8

/-!
# File trees

A directory is the row of its entries, each a file with its bytes or a directory. A place in a tree is
the list of names that leads to it from the root.

* `Dir.child? d n` and `Dir.set d n node`: one entry. Setting one leaves the others (`child?_set`).
* `Dir.lookup? d place` and `Dir.put d place node`: a node at a place. What is put is found there
  (`lookup?_put_self`).
-/

namespace Upkeep

/-- A directory, as its entries in a row. -/
inductive Dir where
  | empty
  | file (name : Text) (content : ByteArray) (rest : Dir)
  | sub (name : Text) (entries : Dir) (rest : Dir)

/-- What a place in a tree holds. -/
inductive Node where
  | file (content : ByteArray)
  | dir (entries : Dir)

abbrev Place := List Text

namespace Dir

/-- A directory with one more entry in front. -/
def cons (name : Text) (node : Node) (rest : Dir) : Dir :=
  match node with
  | .file content => .file name content rest
  | .dir entries => .sub name entries rest

def child? : Dir → Text → Option Node
  | empty, _ => none
  | file m content rest, n => if m = n then some (.file content) else rest.child? n
  | sub m entries rest, n => if m = n then some (.dir entries) else rest.child? n

/-- The directory with `node` as the entry `n`, in the place of an old one or behind the others. -/
def set : Dir → Text → Node → Dir
  | empty, n, node => cons n node empty
  | file m content rest, n, node =>
    if m = n then cons n node rest else file m content (rest.set n node)
  | sub m entries rest, n, node =>
    if m = n then cons n node rest else sub m entries (rest.set n node)

/-- The directory without the entry `n`. -/
def erase : Dir → Text → Dir
  | empty, _ => empty
  | file m content rest, n => if m = n then rest else file m content (rest.erase n)
  | sub m entries rest, n => if m = n then rest else sub m entries (rest.erase n)

theorem child?_cons (m : Text) (node : Node) (rest : Dir) (n : Text) :
    (cons m node rest).child? n = if m = n then some node else rest.child? n := by
  cases node <;> rfl

theorem child?_set (d : Dir) (m n : Text) (node : Node) :
    (d.set m node).child? n = if m = n then some node else d.child? n := by
  induction d with
  | empty => exact child?_cons m node empty n
  | file k content rest ih =>
    by_cases hk : k = m
    · subst hk
      by_cases hn : k = n <;> simp [set, child?_cons, child?, hn]
    · by_cases hn : k = n
      · subst hn; simp [set, child?, hk, Ne.symm hk]
      · simp [set, child?, hk, hn, ih]
  | sub k entries rest _ ih =>
    by_cases hk : k = m
    · subst hk
      by_cases hn : k = n <;> simp [set, child?_cons, child?, hn]
    · by_cases hn : k = n
      · subst hn; simp [set, child?, hk, Ne.symm hk]
      · simp [set, child?, hk, hn, ih]

/-- The node at a place below a directory. -/
def lookup? (d : Dir) : Place → Option Node
  | [] => some (.dir d)
  | n :: place =>
    match d.child? n with
    | some (.dir entries) => entries.lookup? place
    | some (.file content) => if place = [] then some (.file content) else none
    | none => none

/-- The directory with `node` at a place whose directory exists. -/
def put (d : Dir) : Place → Node → Dir
  | [], _ => d
  | [n], node => d.set n node
  | n :: place, node =>
    match d.child? n with
    | some (.dir entries) => d.set n (.dir (entries.put place node))
    | _ => d

/-- The directory without the node at a place. -/
def remove (d : Dir) : Place → Dir
  | [] => d
  | [n] => d.erase n
  | n :: place =>
    match d.child? n with
    | some (.dir entries) => d.set n (.dir (entries.remove place))
    | _ => d

def isDirAt (d : Dir) (place : Place) : Bool :=
  match d.lookup? place with
  | some (.dir _) => true
  | _ => false

theorem lookup?_singleton (d : Dir) (n : Text) : d.lookup? [n] = d.child? n := by
  simp only [lookup?]
  split
  · next h => rw [h]
  · next h => rw [h]; rfl
  · next h => rw [h]

theorem lookup?_put_self {d : Dir} {place : Place} {n : Text} {node : Node}
    (h : d.isDirAt place = true) : (d.put (place ++ [n]) node).lookup? (place ++ [n]) = some node := by
  induction place generalizing d with
  | nil =>
    rw [List.nil_append, put, lookup?_singleton, child?_set, if_pos rfl]
  | cons m place ih =>
    cases he : d.child? m with
    | none => simp [isDirAt, lookup?, he] at h
    | some old =>
      cases old with
      | file content =>
        simp only [isDirAt, lookup?, he] at h
        split at h <;> simp_all
      | dir entries =>
        have hd : entries.isDirAt place = true := by simpa [isDirAt, lookup?, he] using h
        obtain ⟨k, ks, hk⟩ : ∃ k ks, place ++ [n] = k :: ks :=
          List.exists_cons_of_ne_nil (by simp)
        have := ih hd
        rw [hk] at this
        rw [List.cons_append, hk, put, he]
        · rw [lookup?, child?_set, if_pos rfl]
          exact this
        · simp

/-! ## The files of a tree -/

/-- The files below a directory with their places, in the order of the entries. -/
def files : Dir → List (Place × ByteArray)
  | empty => []
  | file n content rest => ([n], content) :: rest.files
  | sub n entries rest => (entries.files.map fun (place, content) => (n :: place, content)) ++ rest.files

end Dir
end Upkeep
