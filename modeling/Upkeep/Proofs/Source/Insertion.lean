import Mathlib.Data.List.Nodup
import Upkeep.Proofs.Source.Buffer

/-!
# Lines inserted from the bottom up

Insertions at descending places do not move each other: each goes before the line that has its index in
the unedited buffer.

* `weave`: the lines of a buffer, each with the lines inserted before it.
* `insertAll`: the same as edits of the buffer one after the other. `lines_insertAll` equates the two.
* `shift places i`: where line `i` comes to stand. `content?_insertAll_shift` finds it there, and
  `content?_insertAll_place` finds an inserted line right above the line that it was inserted before.
  There is nothing else (`insertAll_cases`).
-/

namespace Upkeep

open Text

/-- A line to insert before the line that has index `place`. -/
structure Insertion where
  place : Nat
  content : Text
  deriving DecidableEq, Repr

/-- Where line `i` comes to stand when a line is inserted before each of some places. -/
def shift (places : List Nat) (i : Nat) : Nat := i + places.countP (· ≤ i)

section shift

variable {places : List Nat} {i j : Nat}

theorem countP_le_mono (places : List Nat) (h : i ≤ j) :
    places.countP (· ≤ i) ≤ places.countP (· ≤ j) :=
  List.countP_mono_left fun p _ hp => by
    rw [decide_eq_true_eq] at hp ⊢
    omega

theorem shift_le_shift (h : i ≤ j) : shift places i ≤ shift places j :=
  Nat.add_le_add h (countP_le_mono places h)

theorem shift_lt_shift (h : i < j) : shift places i < shift places j :=
  Nat.add_lt_add_of_lt_of_le h (countP_le_mono places (Nat.le_of_lt h))

theorem lt_of_shift_lt (h : shift places i < shift places j) : i < j := by
  by_contra hij
  exact Nat.not_le.mpr h (shift_le_shift (Nat.not_lt.mp hij))

theorem shift_eq_add (hij : i ≤ j) (h : ∀ p ∈ places, ¬ (i < p ∧ p ≤ j)) :
    shift places j = shift places i + (j - i) := by
  have hcount : places.countP (· ≤ j) = places.countP (· ≤ i) :=
    List.countP_congr fun p hp => by
      have := h p hp
      simp only [decide_eq_true_eq]
      omega
  rw [shift, shift, hcount]
  omega

theorem shift_cons_of_lt {p : Nat} (h : i < p) : shift (p :: places) i = shift places i := by
  rw [shift, shift, List.countP_cons_of_neg (by simpa using h)]

theorem shift_cons_of_le {p : Nat} (h : p ≤ i) (hp : ∀ q ∈ places, q < p) :
    shift (p :: places) i = shift places (i + 1) := by
  have hall : ∀ k, p ≤ k → places.countP (· ≤ k) = places.length := fun k hk =>
    List.countP_eq_length.mpr fun q hq => by
      have := hp q hq
      simp only [decide_eq_true_eq]
      omega
  rw [shift, shift, List.countP_cons_of_pos (by simpa using h), hall i h, hall (i + 1) (by omega)]
  omega

theorem shift_add_one_lt (hi : i ∈ places) (hj : j < i) : shift places j + 1 < shift places i := by
  obtain ⟨front, rest, rfl⟩ := List.append_of_mem hi
  have hfront := countP_le_mono front (Nat.le_of_lt hj)
  have hrest := countP_le_mono rest (Nat.le_of_lt hj)
  have hi' : (i :: rest).countP (· ≤ i) = rest.countP (· ≤ i) + 1 :=
    List.countP_cons_of_pos (by simp)
  have hj' : (i :: rest).countP (· ≤ j) = rest.countP (· ≤ j) :=
    List.countP_cons_of_neg (by simpa using hj)
  rw [shift, shift, List.countP_append, List.countP_append, hi', hj']
  omega

theorem shift_succ_of_mem (hi : i + 1 ∈ places) (hnodup : places.Nodup) :
    shift places (i + 1) = shift places i + 2 := by
  have hone : places.count (i + 1) = 1 := List.count_eq_one_of_mem hnodup hi
  have hcount : ∀ l : List Nat, l.countP (· ≤ i + 1) = l.countP (· ≤ i) + l.count (i + 1) := by
    intro l
    induction l with
    | nil => rfl
    | cons p l ih =>
      rw [List.countP_cons, List.countP_cons, List.count_cons, ih]
      simp only [decide_eq_true_eq, beq_iff_eq]
      split <;> split <;> split <;> omega
  rw [shift, shift, hcount, hone]
  omega

end shift

/-! ## Woven lines -/

/-- The lines from index `i` on, each with the lines inserted before it. -/
def weave (e : LineEnd) (ins : List Insertion) : Nat → List Text → List Text
  | _, [] => []
  | i, line :: rest =>
    (ins.filter (·.place == i)).map (·.content ++ e.text) ++ line :: weave e ins (i + 1) rest

section weave

variable {e : LineEnd} {x : Insertion} {ins : List Insertion} {lines : List Text} {i : Nat}

theorem filter_place_eq_nil (h : ∀ y ∈ ins, y.place < i) : ins.filter (·.place == i) = [] := by
  rw [List.filter_eq_nil_iff]
  intro y hy
  have := h y hy
  simp only [beq_iff_eq]
  omega

theorem weave_of_lt (h : ∀ y ∈ ins, y.place < i) : weave e ins i lines = lines := by
  induction lines generalizing i with
  | nil => rfl
  | cons line rest ih =>
    have hnext : ∀ y ∈ ins, y.place < i + 1 := fun y hy => Nat.lt_succ_of_lt (h y hy)
    rw [weave, filter_place_eq_nil h, ih hnext]
    rfl

theorem weave_insertIdx (hins : ∀ y ∈ ins, y.place < x.place) (hi : i ≤ x.place)
    (hx : x.place < i + lines.length) :
    weave e ins i (lines.insertIdx (x.place - i) (x.content ++ e.text)) =
      weave e (x :: ins) i lines := by
  induction lines generalizing i with
  | nil => simp at hx; omega
  | cons line rest ih =>
    by_cases he : x.place = i
    · have hlt : ∀ y ∈ ins, y.place < i := fun y hy => he ▸ hins y hy
      have hnext : ∀ y ∈ ins, y.place < i + 1 := fun y hy => Nat.lt_succ_of_lt (hlt y hy)
      have hcons : ∀ y ∈ x :: ins, y.place < i + 1 :=
        List.forall_mem_cons.mpr ⟨by omega, hnext⟩
      rw [he, Nat.sub_self, List.insertIdx_zero, weave_of_lt hlt, weave, weave_of_lt hcons,
        List.filter_cons_of_pos (by simpa using he), filter_place_eq_nil hlt]
      rfl
    · have hsub : x.place - i = x.place - (i + 1) + 1 := by omega
      rw [hsub, List.insertIdx_succ_cons, weave, weave, ih (by omega) (by simp at hx; omega),
        List.filter_cons_of_neg (by simpa using he)]

end weave

namespace Buffer

variable {b : Buffer} {x : Insertion} {ins : List Insertion} {i j : Nat}

def insertAll (b : Buffer) (ins : List Insertion) : Buffer :=
  ins.foldl (fun b x => b.insert x.place x.content) b

/-- Insertions from the bottom up, each before a line of the buffer. -/
structure Descending (b : Buffer) (ins : List Insertion) : Prop where
  content : ∀ x ∈ ins, IsContent x.content
  place_lt : ∀ x ∈ ins, x.place < b.length
  descending : ins.Pairwise fun x y => y.place < x.place

theorem Descending.tail (hb : Framed b.lines) (h : b.Descending (x :: ins)) :
    (b.insert x.place x.content).Descending ins where
  content y hy := h.content y (List.mem_cons_of_mem _ hy)
  place_lt y hy := by
    rw [length_insert hb (h.content x List.mem_cons_self)]
    exact Nat.lt_succ_of_lt (h.place_lt y (List.mem_cons_of_mem _ hy))
  descending := (List.pairwise_cons.mp h.descending).2

theorem Descending.framed (hb : Framed b.lines) (h : b.Descending (x :: ins)) :
    Framed (b.insert x.place x.content).lines :=
  framed_insert hb (h.content x List.mem_cons_self).no_feed _

theorem Descending.lt_head (h : b.Descending (x :: ins)) : ∀ y ∈ ins, y.place < x.place :=
  (List.pairwise_cons.mp h.descending).1

theorem Descending.lt_head' (h : b.Descending (x :: ins)) : ∀ q ∈ ins.map (·.place), q < x.place := by
  intro q hq
  obtain ⟨y, hy, rfl⟩ := List.mem_map.mp hq
  exact h.lt_head y hy

theorem framed_insertAll (hb : Framed b.lines) (h : b.Descending ins) :
    Framed (b.insertAll ins).lines := by
  induction ins generalizing b with
  | nil => exact hb
  | cons x ins ih => exact ih (h.framed hb) (h.tail hb)

theorem length_insertAll (hb : Framed b.lines) (h : b.Descending ins) :
    (b.insertAll ins).length = b.length + ins.length := by
  induction ins generalizing b with
  | nil => rfl
  | cons x ins ih =>
    rw [insertAll, List.foldl_cons, ← insertAll, ih (h.framed hb) (h.tail hb),
      length_insert hb (h.content x List.mem_cons_self), List.length_cons]
    omega

theorem lines_insertAll (hb : Framed b.lines) (h : b.Descending ins) :
    (b.insertAll ins).lines = weave b.lineEnd ins 0 b.lines := by
  induction ins generalizing b with
  | nil => exact (weave_of_lt (by simp)).symm
  | cons x ins ih =>
    have hx : x.place < b.lines.length := h.place_lt x List.mem_cons_self
    have hins : b.insert x.place x.content =
        { b with lines := b.lines.insertIdx x.place (x.content ++ b.lineEnd.text) } := by
      rw [insert, if_pos hx]
    have htail := ih (h.framed hb) (h.tail hb)
    rw [hins] at htail
    rw [insertAll, List.foldl_cons, ← insertAll, hins, htail]
    exact weave_insertIdx h.lt_head (Nat.zero_le _) (by omega)

theorem content?_insertAll_shift (hb : Framed b.lines) (h : b.Descending ins) (i : Nat) :
    (b.insertAll ins).content? (shift (ins.map (·.place)) i) = b.content? i := by
  induction ins generalizing b i with
  | nil => simp [insertAll, shift]
  | cons x ins ih =>
    have hx := h.content x List.mem_cons_self
    have hlt := h.place_lt x List.mem_cons_self
    have htail := ih (h.framed hb) (h.tail hb)
    rw [insertAll, List.foldl_cons, ← insertAll, List.map_cons]
    by_cases hi : i < x.place
    · rw [shift_cons_of_lt hi, htail, content?_insert hb hx (Nat.le_of_lt hlt), if_pos hi]
    · rw [shift_cons_of_le (Nat.not_lt.mp hi) h.lt_head', htail,
        content?_insert hb hx (Nat.le_of_lt hlt), if_neg (by omega), if_neg (by omega),
        Nat.add_sub_cancel]

theorem content?_insertAll_place (hb : Framed b.lines) (h : b.Descending ins) (hx : x ∈ ins) :
    (b.insertAll ins).content? (shift (ins.map (·.place)) x.place - 1) = some x.content := by
  induction ins generalizing b with
  | nil => simp at hx
  | cons y ins ih =>
    have hy := h.content y List.mem_cons_self
    have hlt := h.place_lt y List.mem_cons_self
    rw [insertAll, List.foldl_cons, ← insertAll, List.map_cons]
    rcases List.mem_cons.mp hx with rfl | hx
    · have hpred : shift (x.place :: ins.map (·.place)) x.place - 1 =
          shift (ins.map (·.place)) x.place := by
        rw [shift, shift, List.countP_cons_of_pos (by simp)]
        omega
      rw [hpred, content?_insertAll_shift (h.framed hb) (h.tail hb),
        content?_insert hb hy (Nat.le_of_lt hlt), if_neg (Nat.lt_irrefl _), if_pos rfl]
    · rw [shift_cons_of_lt (h.lt_head x hx)]
      exact ih (h.framed hb) (h.tail hb) hx

/-- Each line of the edited buffer is a line of the old one or an inserted one. -/
theorem insertAll_cases (hb : Framed b.lines) (h : b.Descending ins)
    (hj : j < (b.insertAll ins).length) :
    (∃ i < b.length, j = shift (ins.map (·.place)) i) ∨
      ∃ x ∈ ins, (b.insertAll ins).content? j = some x.content := by
  induction ins generalizing b with
  | nil => exact .inl ⟨j, hj, by simp [shift]⟩
  | cons x ins ih =>
    have hx := h.content x List.mem_cons_self
    have hlt := h.place_lt x List.mem_cons_self
    rw [insertAll, List.foldl_cons, ← insertAll] at hj ⊢
    rw [List.map_cons]
    rcases ih (h.framed hb) (h.tail hb) hj with ⟨i, hi, rfl⟩ | ⟨y, hy, hline⟩
    · rw [length_insert hb hx] at hi
      rcases Nat.lt_trichotomy i x.place with hix | rfl | hix
      · exact .inl ⟨i, by omega, (shift_cons_of_lt hix).symm⟩
      · refine .inr ⟨x, List.mem_cons_self, ?_⟩
        rw [content?_insertAll_shift (h.framed hb) (h.tail hb),
          content?_insert hb hx (Nat.le_of_lt hlt), if_neg (Nat.lt_irrefl _), if_pos rfl]
      · refine .inl ⟨i - 1, by omega, ?_⟩
        rw [shift_cons_of_le (by omega) h.lt_head', Nat.sub_add_cancel (by omega)]
    · exact .inr ⟨y, List.mem_cons_of_mem _ hy, hline⟩

end Buffer
end Upkeep
