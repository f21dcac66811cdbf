import Upkeep.Proofs.Source.ConstKeyword

/-!
# Spans of a line from which others are cut

`without gone i t` is what is left of a text that starts at position `i` when the characters at the positions in `gone`
are taken out, and `cutOut cuts t` takes out some stretches. All of them go by their positions in the old text, so that
neither a scan from the left nor edits from the right are built in.

A span is told by its column (`eq_of_column_eq`), and spans do not overlap (`stop_le_column`), because a span has the
first letter of the keyword at its start only. So cutting a span leaves the spans to its left as they are
(`mem_all_cut`): what comes to stand behind them is no blank, and no keyword can come about where nothing that is part
of a name stands before the cut.

`cutOut_cut` makes of this one step of several cuts from the right: the spans named by their columns on the line without
the last of them are the others on the line itself.
-/

/-! ## Stretches taken out of a text -/

namespace Upkeep.Text

/-- A stretch to be taken out of a text, from the character `start` up to but not including the character `stop`. -/
structure Cut where
  start : Nat
  stop : Nat
  deriving DecidableEq, Repr

def Cut.has (x : Cut) (j : Nat) : Bool := decide (x.start ≤ j ∧ j < x.stop)

/-- The characters of a text that starts at position `i`, but for those whose positions are gone. -/
def without (gone : Nat → Bool) (i : Nat) : Text → Text
  | [] => []
  | c :: t => if gone i then without gone (i + 1) t else c :: without gone (i + 1) t

def cutOut (cuts : List Cut) (t : Text) : Text := without (fun j => cuts.any (·.has j)) 0 t

variable {gone gone' : Nat → Bool} {i : Nat} {s t : Text} {cuts : List Cut}

theorem any_has_iff {j : Nat} : cuts.any (·.has j) = true ↔ ∃ x ∈ cuts, x.start ≤ j ∧ j < x.stop := by
  simp [Cut.has]

theorem without_append (gone : Nat → Bool) (i : Nat) (s t : Text) :
    without gone i (s ++ t) = without gone i s ++ without gone (i + s.length) t := by
  induction s generalizing i with
  | nil => rfl
  | cons c s ih =>
    have hlen : i + 1 + s.length = i + (c :: s).length := by simp; omega
    rw [List.cons_append, without, without, ih, hlen]
    split <;> rfl

theorem without_congr (h : ∀ j, i ≤ j → j < i + t.length → gone j = gone' j) :
    without gone i t = without gone' i t := by
  induction t generalizing i with
  | nil => rfl
  | cons c t ih =>
    have hhere : gone i = gone' i := h i (Nat.le_refl i) (by simp)
    have hrest : without gone (i + 1) t = without gone' (i + 1) t := by
      apply ih
      intro j hj hlt
      exact h j (by omega) (by simp only [List.length_cons]; omega)
    rw [without, without, hhere, hrest]

theorem without_eq_self (h : ∀ j, i ≤ j → j < i + t.length → gone j = false) : without gone i t = t := by
  induction t generalizing i with
  | nil => rfl
  | cons c t ih =>
    have hhere : gone i = false := h i (Nat.le_refl i) (by simp)
    have hrest : without gone (i + 1) t = t := by
      apply ih
      intro j hj hlt
      exact h j (by omega) (by simp only [List.length_cons]; omega)
    rw [without, hhere, hrest]
    rfl

theorem without_eq_nil (h : ∀ j, i ≤ j → j < i + t.length → gone j = true) : without gone i t = [] := by
  induction t generalizing i with
  | nil => rfl
  | cons c t ih =>
    have hhere : gone i = true := h i (Nat.le_refl i) (by simp)
    rw [without, if_pos hhere]
    apply ih
    intro j hj hlt
    exact h j (by omega) (by simp only [List.length_cons]; omega)

theorem cutOut_nil (t : Text) : cutOut [] t = t := without_eq_self fun _ _ _ => rfl

end Upkeep.Text

/-! ## Spans of a line -/

namespace Upkeep.ConstSpan

open Text

variable {r s : ConstSpan} {line front blanks back : Text}

theorem mem_all_iff : s ∈ all line ↔
    ∃ front blanks back, s.IsAround 0 none line front blanks back ∧ back.head?.any Text.isBlank = false :=
  mem_allFrom_iff

theorem not_mem_tail (h : ∀ c ∈ blanks, isBlank c = true) : 'c' ∉ (keyword ++ blanks).tail := by
  have hkeyword : (keyword ++ blanks).tail = "onst".toList ++ blanks := rfl
  rw [hkeyword, List.mem_append]
  rintro (hc | hc)
  · exact absurd hc (by decide)
  · exact absurd (h 'c' hc) (by decide)

theorem eq_of_column_eq (hs : s ∈ all line) (hr : r ∈ all line) (h : s.column = r.column) : s = r := by
  obtain ⟨front, blanks, back, hs, hback⟩ := mem_all_iff.mp hs
  obtain ⟨front', blanks', back', hr, hback'⟩ := mem_all_iff.mp hr
  have hlength : front.length = front'.length := by
    have hcolumn := hs.column_eq
    have hcolumn' := hr.column_eq
    omega
  obtain ⟨-, hrest⟩ := List.append_inj (hs.line_eq.symm.trans hr.line_eq) hlength
  have hblanks : blanks = blanks' := by
    have hleading := congrArg leadingBlanks (List.append_cancel_left hrest)
    rwa [leadingBlanks_append hs.isBlank hback, leadingBlanks_append hr.isBlank hback'] at hleading
  have hstop : s.stop = r.stop := by rw [hs.stop_eq, hr.stop_eq, h, hblanks]
  cases s
  cases r
  simp_all

theorem stop_le_column (hs : s ∈ all line) (hr : r ∈ all line) (h : s.column < r.column) : s.stop ≤ r.column := by
  obtain ⟨front, blanks, back, hs, -⟩ := mem_all_iff.mp hs
  obtain ⟨front', blanks', back', hr, -⟩ := mem_all_iff.mp hr
  have hcolumn := hs.column_eq
  have hcolumn' := hr.column_eq
  have hstop := hs.stop_eq
  refine Nat.le_of_not_lt fun hlt => ?_
  -- the first letter of the one keyword would be another letter of the other one, or a blank
  have hfirst : (line)[r.column]? = some 'c' := by
    rw [hr.line_eq, hcolumn', Nat.zero_add, List.getElem?_append_right (Nat.le_refl _), Nat.sub_self]
    rfl
  have hinside : (keyword ++ blanks)[r.column - s.column]? = some 'c' := by
    rw [hs.line_eq, List.getElem?_append_right (by omega), ← List.append_assoc,
      List.getElem?_append_left (by omega)] at hfirst
    rw [← hfirst, hcolumn, Nat.zero_add]
  obtain ⟨k, hk⟩ : ∃ k, r.column - s.column = k + 1 := ⟨r.column - s.column - 1, by omega⟩
  rw [hk, ← List.getElem?_tail] at hinside
  exact not_mem_tail hs.isBlank (List.mem_of_getElem? hinside)

/-- A cut leaves the spans to its left. -/
theorem mem_all_cut (hr : r ∈ all line) (hs : s ∈ all line) (h : s.column < r.column) : s ∈ all (r.cut line) := by
  have hstop := stop_le_column hs hr h
  obtain ⟨front, blanks, back, hs, hback⟩ := mem_all_iff.mp hs
  obtain ⟨front', blanks', back', hr, hback'⟩ := mem_all_iff.mp hr
  have hlength : (front ++ (keyword ++ blanks)).length ≤ front'.length := by
    have hcolumn := hs.column_eq
    have hcolumn' := hr.column_eq
    have hstop' := hs.stop_eq
    rw [List.length_append]
    omega
  have hline : front ++ (keyword ++ blanks) ++ back = front' ++ (keyword ++ (blanks' ++ back')) := by
    rw [← hr.line_eq, hs.line_eq, List.append_assoc, List.append_assoc]
  obtain ⟨mid, rfl⟩ : front ++ (keyword ++ blanks) <+: front' :=
    List.prefix_of_prefix_length_le (List.prefix_append _ back) (hline ▸ List.prefix_append front' _) hlength
  rw [List.append_assoc _ mid, List.append_cancel_left_eq] at hline
  refine mem_all_iff.mpr ⟨front, blanks, mid ++ back', ⟨?_, hs.column_eq, hs.stop_eq, hs.not_in_name, hs.ne_nil,
    hs.isBlank⟩, ?_⟩
  · rw [hr.cut_eq]
    simp only [List.append_assoc]
  · cases mid with
    | nil => exact hback'
    | cons c mid =>
      rw [hline] at hback
      exact hback

/-! ## Several cuts -/

def toCut (s : ConstSpan) : Cut := ⟨s.column, s.stop⟩

/-- The spans of a line that are named by their columns. -/
def cutsAt (named : Nat → Bool) (line : Text) : List Cut := ((all line).filter fun s => named s.column).map toCut

variable {named others : Nat → Bool} {j : Nat}

theorem any_cutsAt_iff : (cutsAt named line).any (·.has j) = true ↔
    ∃ s ∈ all line, named s.column = true ∧ s.column ≤ j ∧ j < s.stop := by
  rw [any_has_iff, cutsAt]
  constructor
  · rintro ⟨x, hx, hj⟩
    obtain ⟨s, hs, rfl⟩ := List.mem_map.mp hx
    obtain ⟨hs, hnamed⟩ := List.mem_filter.mp hs
    exact ⟨s, hs, hnamed, hj⟩
  · rintro ⟨s, hs, hnamed, hj⟩
    exact ⟨s.toCut, List.mem_map_of_mem (List.mem_filter.mpr ⟨hs, hnamed⟩), hj⟩

/-- Cutting the last of the named spans first leaves the others to be cut. -/
theorem cutOut_cut (hr : r ∈ all line) (hnamed : ∀ k, named k = true ↔ k = r.column ∨ others k = true)
    (hothers : ∀ k, others k = true → k < r.column ∧ ∃ s ∈ all line, s.column = k) (rest : Text) :
    cutOut (cutsAt others (r.cut line)) (r.cut line ++ rest) = cutOut (cutsAt named line) (line ++ rest) := by
  -- the other spans are the same on both lines, all to the left
  have hsame : ∀ s, others s.column = true → (s ∈ all (r.cut line) ↔ s ∈ all line) := by
    intro s hs
    obtain ⟨hlt, s', hs', hcolumn⟩ := hothers s.column hs
    have hcut := mem_all_cut hr hs' (hcolumn ▸ hlt)
    constructor
    · intro h
      rwa [eq_of_column_eq h hcut hcolumn.symm]
    · intro h
      exact mem_all_cut hr h hlt
  have hleft : ∀ s ∈ all line, others s.column = true → s.stop ≤ r.column :=
    fun s hs hother => stop_le_column hs hr (hothers s.column hother).1
  obtain ⟨front, blanks, back, h, -⟩ := mem_all_iff.mp hr
  have hcolumn := h.column_eq
  have hstop := h.stop_eq
  have hfront : ∀ j, 0 ≤ j → j < 0 + front.length → (cutsAt others (r.cut line)).any (·.has j) =
      (cutsAt named line).any (·.has j) := by
    intro j _ hj
    rw [Bool.eq_iff_iff, any_cutsAt_iff, any_cutsAt_iff]
    constructor
    · rintro ⟨s, hs, hother, hbounds⟩
      exact ⟨s, (hsame s hother).mp hs, (hnamed s.column).mpr (.inr hother), hbounds⟩
    · rintro ⟨s, hs, hnames, hle, hlt⟩
      have hother := ((hnamed s.column).mp hnames).resolve_left (by omega)
      exact ⟨s, (hsame s hother).mpr hs, hother, hle, hlt⟩
  have hright' : ∀ j, front.length ≤ j → (cutsAt others (r.cut line)).any (·.has j) = false := by
    intro j hj
    rw [← Bool.not_eq_true, any_cutsAt_iff]
    rintro ⟨s, hs, hother, -, hlt⟩
    have := hleft s ((hsame s hother).mp hs) hother
    omega
  have hmid : ∀ j, front.length ≤ j → j < front.length + (keyword ++ blanks).length →
      (cutsAt named line).any (·.has j) = true := by
    intro j hj hlt
    exact any_cutsAt_iff.mpr ⟨r, hr, (hnamed r.column).mpr (.inl rfl), by omega, by omega⟩
  have hright : ∀ j, front.length + (keyword ++ blanks).length ≤ j → (cutsAt named line).any (·.has j) = false := by
    intro j hj
    rw [← Bool.not_eq_true, any_cutsAt_iff]
    rintro ⟨s, hs, hnames, -, hlt⟩
    rcases (hnamed s.column).mp hnames with hself | hother
    · rw [eq_of_column_eq hs hr hself] at hlt
      omega
    · have := hleft s hs hother
      omega
  have hline : line ++ rest = front ++ ((keyword ++ blanks) ++ (back ++ rest)) := by
    rw [h.line_eq]
    simp only [List.append_assoc]
  have hcut : r.cut line ++ rest = front ++ (back ++ rest) := by rw [h.cut_eq, List.append_assoc]
  have hcuts : cutOut (cutsAt others (r.cut line)) (r.cut line ++ rest) =
      without (fun j => (cutsAt named line).any (·.has j)) 0 front ++ (back ++ rest) := by
    rw [hcut, cutOut, without_append, without_congr hfront, Nat.zero_add, without_eq_self fun j hj _ => hright' j hj]
  rw [hcuts, hline, cutOut, without_append, without_append, Nat.zero_add, without_eq_nil hmid,
    without_eq_self fun j hj _ => hright j hj, List.nil_append]

end Upkeep.ConstSpan
