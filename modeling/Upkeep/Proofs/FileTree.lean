import Upkeep.FileTree

/-!
# Files and shape of a tree

What a rewritten file leaves as it was.

* `content? d place`: the bytes of the file at a place. Other bytes for a file change them there and
  nowhere else (`content?_put`).
* `SameShape d e`: both trees have their files and their directories at the same places.
* `outline d`: the tree with nothing in its files. Other bytes for a file keep the outline of a tree
  (`outline_put`) and with it its shape.
-/

namespace Upkeep

def Node.isDir : Node → Bool
  | file _ => false
  | dir _ => true

namespace Dir

/-- The bytes of the file at a place. -/
def content? (d : Dir) (place : Place) : Option ByteArray :=
  match d.lookup? place with
  | some (.file bytes) => some bytes
  | _ => none

/-- Both trees have their files and their directories at the same places. -/
def SameShape (d e : Dir) : Prop :=
  ∀ place, (e.lookup? place).map Node.isDir = (d.lookup? place).map Node.isDir

variable {d e : Dir} {place : Place} {n : Text} {bytes old : ByteArray}

theorem content?_eq_some_iff : d.content? place = some bytes ↔ d.lookup? place = some (.file bytes) := by
  unfold content?
  split
  · next h => simp [h]
  · next h =>
    constructor
    · intro hn
      cases hn
    · exact fun hf => absurd hf (h bytes)

theorem lookup?_cons (d : Dir) (n : Text) (place : Place) : d.lookup? (n :: place) =
    (d.child? n).bind fun
      | .dir entries => entries.lookup? place
      | .file bytes => if place = [] then some (.file bytes) else none := by
  rw [lookup?]
  cases d.child? n with
  | none => rfl
  | some node => cases node <;> rfl

theorem lookup?_concat (d : Dir) (place : Place) (n : Text) : d.lookup? (place ++ [n]) =
    match d.lookup? place with
    | some (.dir entries) => entries.child? n
    | _ => none := by
  induction place generalizing d with
  | nil => exact lookup?_singleton d n
  | cons m place ih =>
    rw [List.cons_append, lookup?_cons, lookup?_cons]
    cases d.child? m with
    | none => rfl
    | some node =>
      cases node with
      | dir entries => exact ih entries
      | file bytes => cases place <;> simp

theorem lookup?_append {entries : Dir} {above : Place} (h : d.lookup? above = some (.dir entries)) (place : Place) :
    d.lookup? (above ++ place) = entries.lookup? place := by
  induction above generalizing d with
  | nil =>
    cases h
    rfl
  | cons m above ih =>
    rw [lookup?_cons] at h
    rw [List.cons_append, lookup?_cons]
    cases hchild : d.child? m with
    | none => simp [hchild] at h
    | some node =>
      rw [hchild] at h
      cases node with
      | file bytes => cases above <;> simp at h
      | dir others => exact ih h

theorem exists_dir_of_lookup?_append {above : Place} {node : Node} (h : d.lookup? (above ++ n :: place) = some node) :
    ∃ entries, d.lookup? above = some (.dir entries) ∧ entries.lookup? (n :: place) = some node := by
  induction above generalizing d with
  | nil => exact ⟨d, rfl, h⟩
  | cons m above ih =>
    rw [List.cons_append, lookup?_cons] at h
    rw [lookup?_cons]
    obtain ⟨first, hchild, hrest⟩ := Option.bind_eq_some_iff.mp h
    rw [hchild]
    cases first with
    | dir entries => exact ih hrest
    | file bytes => simp at hrest

theorem content?_cons (d : Dir) (n : Text) (place : Place) : d.content? (n :: place) =
    (d.child? n).bind fun
      | .dir entries => entries.content? place
      | .file bytes => if place = [] then some bytes else none := by
  rw [content?, lookup?_cons]
  cases d.child? n with
  | none => rfl
  | some node =>
    cases node with
    | dir entries => rfl
    | file bytes => by_cases hp : place = [] <;> simp [hp]

/-! ## Trees of the same shape -/

namespace SameShape

theorem refl (d : Dir) : d.SameShape d := fun _ => rfl

theorem trans {f : Dir} (h : d.SameShape e) (h' : e.SameShape f) : d.SameShape f :=
  fun place => (h' place).trans (h place)

theorem lookup?_eq_none (h : d.SameShape e) (hd : d.lookup? place = none) : e.lookup? place = none := by
  have := h place
  rwa [hd, Option.map_none, Option.map_eq_none_iff] at this

theorem lookup?_eq_file (h : d.SameShape e) (hd : d.lookup? place = some (.file bytes)) :
    ∃ other, e.lookup? place = some (.file other) := by
  have hk := h place
  rw [hd, Option.map_some, Option.map_eq_some_iff] at hk
  obtain ⟨node, hnode, hdir⟩ := hk
  cases node with
  | file other => exact ⟨other, hnode⟩
  | dir entries => cases hdir

theorem lookup?_eq_dir {entries : Dir} (h : d.SameShape e) (hd : d.lookup? place = some (.dir entries)) :
    ∃ others, e.lookup? place = some (.dir others) := by
  have hk := h place
  rw [hd, Option.map_some, Option.map_eq_some_iff] at hk
  obtain ⟨node, hnode, hdir⟩ := hk
  cases node with
  | file other => cases hdir
  | dir others => exact ⟨others, hnode⟩

theorem isSome_child? {entries others : Dir} (h : d.SameShape e)
    (hd : d.lookup? place = some (.dir entries)) (he : e.lookup? place = some (.dir others)) (n : Text) :
    (others.child? n).isSome = (entries.child? n).isSome := by
  have hk := congrArg Option.isSome (h (place ++ [n]))
  simpa [lookup?_concat, hd, he] using hk

theorem isSome_content? (h : d.SameShape e) (place : Place) :
    (e.content? place).isSome = (d.content? place).isSome := by
  cases hd : d.lookup? place with
  | none => simp [content?, hd, h.lookup?_eq_none hd]
  | some node =>
    cases node with
    | file bytes =>
      obtain ⟨other, he⟩ := h.lookup?_eq_file hd
      simp [content?, hd, he]
    | dir entries =>
      obtain ⟨others, he⟩ := h.lookup?_eq_dir hd
      simp [content?, hd, he]

end SameShape

/-! ## Other bytes for a file -/

theorem content?_cons_eq_some (h : d.content? (n :: place) = some bytes) :
    (place = [] ∧ d.child? n = some (.file bytes)) ∨
      (place ≠ [] ∧ ∃ entries, d.child? n = some (.dir entries) ∧ entries.content? place = some bytes) := by
  rw [content?_cons] at h
  obtain ⟨node, hchild, hnode⟩ := Option.bind_eq_some_iff.mp h
  cases node with
  | file content =>
    by_cases hp : place = []
    · obtain rfl : content = bytes := by simpa [hp] using hnode
      exact .inl ⟨hp, hchild⟩
    · simp [hp] at hnode
  | dir entries =>
    refine .inr ⟨?_, entries, hchild, hnode⟩
    rintro rfl
    cases hnode

theorem put_cons {entries : Dir} (hchild : d.child? n = some (.dir entries)) (hp : place ≠ [])
    (node : Node) : d.put (n :: place) node = d.set n (.dir (entries.put place node)) := by
  obtain ⟨k, ks, rfl⟩ := List.exists_cons_of_ne_nil hp
  rw [put, hchild]
  exact fun h => by cases h

theorem content?_put (h : d.content? place = some old) (bytes : ByteArray) (q : Place) :
    (d.put place (.file bytes)).content? q = if q = place then some bytes else d.content? q := by
  induction place generalizing d q with
  | nil => cases h
  | cons n place ih =>
    cases q with
    | nil => rfl
    | cons m q =>
      rcases content?_cons_eq_some h with ⟨rfl, hchild⟩ | ⟨hp, entries, hchild, hentries⟩
      · rw [put, content?_cons, content?_cons, child?_set]
        by_cases hm : n = m
        · subst hm
          by_cases hq : q = [] <;> simp [hchild, hq]
        · simp [hm, Ne.symm hm]
      · rw [put_cons hchild hp, content?_cons, content?_cons, child?_set]
        by_cases hm : n = m
        · subst hm
          simp [hchild, ih hentries]
        · simp [hm, Ne.symm hm]

/-! ## Outlines -/

/-- The tree with nothing in its files. -/
def outline : Dir → Dir
  | empty => empty
  | file n _ rest => file n .empty rest.outline
  | sub n entries rest => sub n entries.outline rest.outline

end Dir

/-- The node with nothing in its files. -/
def Node.outline : Node → Node
  | file _ => .file .empty
  | dir entries => .dir entries.outline

theorem Node.isDir_outline (node : Node) : node.outline.isDir = node.isDir := by
  cases node <;> rfl

namespace Dir

variable {d e : Dir} {place : Place} {n : Text} {old : ByteArray}

theorem outline_cons (n : Text) (node : Node) (rest : Dir) :
    (cons n node rest).outline = cons n node.outline rest.outline := by
  cases node <;> rfl

theorem child?_outline (d : Dir) (n : Text) : d.outline.child? n = (d.child? n).map Node.outline := by
  induction d with
  | empty => rfl
  | file m content rest ih =>
    by_cases hm : m = n
    · simp [outline, child?, hm, Node.outline]
    · simp [outline, child?, hm, ih]
  | sub m entries rest _ ih =>
    by_cases hm : m = n
    · simp [outline, child?, hm, Node.outline]
    · simp [outline, child?, hm, ih]

theorem lookup?_outline (d : Dir) (place : Place) : d.outline.lookup? place = (d.lookup? place).map Node.outline := by
  induction place generalizing d with
  | nil => rfl
  | cons n place ih =>
    rw [lookup?_cons, lookup?_cons, child?_outline]
    cases d.child? n with
    | none => rfl
    | some node =>
      cases node with
      | dir entries => exact ih entries
      | file bytes => by_cases hp : place = [] <;> simp [hp, Node.outline]

theorem SameShape.of_outline (h : e.outline = d.outline) : d.SameShape e := by
  intro place
  have hnodes := congrArg (Option.map Node.isDir) ((lookup?_outline e place).symm.trans
    ((congrArg (lookup? · place) h).trans (lookup?_outline d place)))
  simpa [Function.comp_def, Node.isDir_outline] using hnodes

theorem outline_set {before after : Node} (h : d.child? n = some before) (ho : after.outline = before.outline) :
    (d.set n after).outline = d.outline := by
  induction d with
  | empty => cases h
  | file m content rest ih =>
    rw [child?] at h
    rw [set]
    split at h
    · next hm =>
      obtain rfl := Option.some.inj h
      rw [if_pos hm, outline_cons, ho, ← hm]
      rfl
    · next hm =>
      rw [if_neg hm, outline, ih h, outline]
  | sub m entries rest _ ih =>
    rw [child?] at h
    rw [set]
    split at h
    · next hm =>
      obtain rfl := Option.some.inj h
      rw [if_pos hm, outline_cons, ho, ← hm]
      rfl
    · next hm =>
      rw [if_neg hm, outline, ih h, outline]

theorem outline_put (h : d.content? place = some old) (bytes : ByteArray) :
    (d.put place (.file bytes)).outline = d.outline := by
  induction place generalizing d with
  | nil => cases h
  | cons n place ih =>
    rcases content?_cons_eq_some h with ⟨rfl, hchild⟩ | ⟨hp, entries, hchild, hentries⟩
    · exact outline_set hchild rfl
    · rw [put_cons hchild hp]
      exact outline_set hchild (congrArg Node.dir (ih hentries))

end Dir
end Upkeep
