import Upkeep.Proofs.Fix.UnusedImport

/-!
# Imports removed from the bottom up

Each finding is handled on what the ones before it have left. If they come from the last line to the first, and each is
on the line of an import that it names, that is no matter: the lines that go with an import are those of its directive
in the text as it was.

* `Directive.linesToClose?_congr`: how far a directive goes on is told by its own lines.
* `removal?_append`: the lines of a directive go if they are all left, whatever is left behind them.
* `removalsFrom_range_append`: so for each finding of a run, since a directive ends above the next one.
* `removed_at_once`: the text without all these directives.
-/

namespace Upkeep

namespace Directive

/-- The lines behind the one that closes do not count. -/
theorem linesToClose?_congr {lines others : List Text} {n : Nat} (h : linesToClose? lines = some n)
    (htake : others.take n = lines.take n) : linesToClose? others = some n := by
  induction lines generalizing others n with
  | nil => cases h
  | cons first rest ih =>
    obtain ⟨mid, last, tail, -, rfl, -⟩ := exists_of_linesToClose? h
    cases others with
    | nil => cases htake
    | cons other others =>
      obtain ⟨rfl, htail⟩ := List.cons.inj htake
      rw [linesToClose?] at h ⊢
      split at h
      · cases h
      · next hstart =>
        rw [if_neg hstart]
        split at h
        · next hcloses => rwa [if_pos hcloses]
        · next hcloses =>
          obtain ⟨n, hn, heq⟩ := Option.map_eq_some_iff.mp h
          obtain rfl : n = mid.length := Nat.succ.inj heq
          rw [if_neg hcloses, ih hn htail, Option.map_some]

end Directive

namespace UnusedImport

open Buffer Directive

variable {b : Buffer} {f : Finding} {fs : List Finding} {ns back behind others : List Nat} {m k top : Nat}

def directiveLines (b : Buffer) (f : Finding) : List Nat :=
  List.range' f.lineIndex (b.directiveEnd f.lineIndex + 1 - f.lineIndex)

theorem mem_directiveLines_iff : k ∈ directiveLines b f ↔ f.lineIndex ≤ k ∧ k ≤ b.directiveEnd f.lineIndex := by
  have hle := b.le_directiveEnd f.lineIndex
  rw [directiveLines, List.mem_range'_1]
  omega

theorem directiveLines_eq_cons (b : Buffer) (f : Finding) : directiveLines b f =
    f.lineIndex :: List.range' (f.lineIndex + 1) (b.directiveEnd f.lineIndex - f.lineIndex) := by
  have hle := b.le_directiveEnd f.lineIndex
  rw [directiveLines, ← List.range'_succ]
  congr 1
  omega

theorem range'_append_of_le {m k n : Nat} (hmk : m ≤ k) (hkn : k ≤ n) :
    List.range' m (k - m) ++ List.range' k (n - k) = List.range' m (n - m) := by
  have happend := List.range'_append_1 (s := m) (m := k - m) (n := n - k)
  rw [Nat.add_sub_cancel' hmk] at happend
  rw [happend]
  congr 1
  omega

theorem range_eq_append (hend : b.directiveEnd f.lineIndex < top) : List.range top = List.range f.lineIndex ++
    (directiveLines b f ++ List.range' (b.directiveEnd f.lineIndex + 1) (top - (b.directiveEnd f.lineIndex + 1))) := by
  have hle := b.le_directiveEnd f.lineIndex
  rw [directiveLines, range'_append_of_le (Nat.le_succ_of_le hle) hend]
  have happend := range'_append_of_le (Nat.zero_le f.lineIndex) (Nat.le_trans hle (Nat.le_of_lt hend))
  rw [Nat.sub_zero, Nat.sub_zero, ← List.range_eq_range', ← List.range_eq_range'] at happend
  exact happend.symm

/-! ## One removal -/

theorem lt_length_of_closes (h : closes (b.contentAt k) = true) : k < b.length := by
  by_contra hk
  rw [contentAt_of_le (Nat.not_lt.mp hk)] at h
  cases h

theorem reach_congr (hclosed : closes (b.contentAt m) = true ∨ 0 < reach b m behind)
    (htake : others.take (reach b m behind) = behind.take (reach b m behind)) :
    reach b m others = reach b m behind := by
  by_cases hm : closes (b.contentAt m) = true
  · rw [reach, reach, if_pos hm, if_pos hm]
  · have hpos := hclosed.resolve_left hm
    rw [reach, if_neg hm] at hpos htake
    cases hlines : linesToClose? (behind.map b.contentAt) with
    | none =>
      rw [hlines] at hpos
      cases hpos
    | some n =>
      rw [hlines, Option.getD_some] at htake
      have hmap : (others.map b.contentAt).take n = (behind.map b.contentAt).take n := by
        rw [← List.map_take, htake, List.map_take]
      rw [reach, reach, if_neg hm, if_neg hm, hlines, linesToClose?_congr hlines hmap]

theorem directiveEnd_pick_append (hclosed : closes (b.contentAt (b.directiveEnd f.lineIndex)) = true)
    (back : List Nat) : (b.pick (List.range f.lineIndex ++ (directiveLines b f ++ back))).directiveEnd f.lineIndex =
      b.directiveEnd f.lineIndex := by
  have hle := b.le_directiveEnd f.lineIndex
  have hreach : ∀ behind, (b.pick (List.range f.lineIndex ++ (directiveLines b f ++ behind))).directiveEnd f.lineIndex =
      f.lineIndex + reach b f.lineIndex
        (List.range' (f.lineIndex + 1) (b.directiveEnd f.lineIndex - f.lineIndex) ++ behind) := by
    intro behind
    have hpick := directiveEnd_pick b (List.range f.lineIndex) f.lineIndex
      (List.range' (f.lineIndex + 1) (b.directiveEnd f.lineIndex - f.lineIndex) ++ behind)
    rwa [← List.cons_append, ← directiveLines_eq_cons, List.length_range] at hpick
  have htake : ∀ behind, (List.range' (f.lineIndex + 1) (b.directiveEnd f.lineIndex - f.lineIndex) ++ behind).take
      (b.directiveEnd f.lineIndex - f.lineIndex) =
      List.range' (f.lineIndex + 1) (b.directiveEnd f.lineIndex - f.lineIndex) :=
    fun behind => List.take_left' List.length_range'
  -- the buffer itself has all its lines left
  have hall := hreach (List.range' (b.directiveEnd f.lineIndex + 1) (b.length - (b.directiveEnd f.lineIndex + 1)))
  rw [← range_eq_append (lt_length_of_closes hclosed), pick_range] at hall
  have hown : reach b f.lineIndex (List.range' (f.lineIndex + 1) (b.directiveEnd f.lineIndex - f.lineIndex) ++
      List.range' (b.directiveEnd f.lineIndex + 1) (b.length - (b.directiveEnd f.lineIndex + 1))) =
      b.directiveEnd f.lineIndex - f.lineIndex := by omega
  rw [hreach, reach_congr ?_ (by rw [hown, htake, htake]), hown, Nat.add_sub_cancel' hle]
  rw [hown]
  rcases Nat.eq_or_lt_of_le hle with heq | hlt
  · rw [← heq] at hclosed
    exact .inl hclosed
  · exact .inr (Nat.sub_pos_of_lt hlt)

theorem target?_pick_append (hnamed : names b f f.lineIndex = true) (back : List Nat) :
    ((uri? f.message).bind fun uri =>
      target? (b.pick (List.range f.lineIndex ++ (directiveLines b f ++ back))) uri f) = some f.lineIndex := by
  obtain ⟨uri, huri, himport⟩ := (Option.any_eq_true _ _).mp hnamed
  have hcontent : (b.pick (List.range f.lineIndex ++ (directiveLines b f ++ back))).content? f.lineIndex =
      some (b.contentAt f.lineIndex) := by
    rw [content?_eq, contents_pick, directiveLines_eq_cons, List.getElem?_map,
      List.getElem?_append_right (by rw [List.length_range]), List.length_range, Nat.sub_self, List.cons_append,
      List.getElem?_cons_zero, Option.map_some]
  rw [huri, Option.bind_some, target?, hcontent, Option.any_some, himport, if_pos rfl]

theorem removal?_append (hnamed : names b f f.lineIndex = true)
    (hclosed : closes (b.contentAt (b.directiveEnd f.lineIndex)) = true) (back : List Nat) :
    removal? b (List.range f.lineIndex ++ (directiveLines b f ++ back)) f = some (directiveLines b f) := by
  rw [removal?, target?_pick_append hnamed, Option.map_some, directiveEnd_pick_append hclosed,
    List.drop_left' List.length_range, List.take_left' (by rw [directiveLines, List.length_range'])]

/-! ## Runs -/

/-- Findings that come from the last line to the first take the directives on their lines. -/
theorem removalsFrom_range_append (hdesc : fs.Pairwise fun f g => g.lineIndex < f.lineIndex)
    (hnamed : ∀ f ∈ fs, names b f f.lineIndex = true)
    (hclosed : ∀ f ∈ fs, closes (b.contentAt (b.directiveEnd f.lineIndex)) = true)
    (hend : ∀ f ∈ fs, b.directiveEnd f.lineIndex < top) (hnodup : (List.range top ++ back).Nodup) :
    removalsFrom b (List.range top ++ back) fs = fs.map (directiveLines b) := by
  -- all lines above `top` are left; behind a finding these are the lines above its own
  induction fs generalizing top back with
  | nil => rfl
  | cons f fs ih =>
    obtain ⟨hbefore, hdesc⟩ := List.pairwise_cons.mp hdesc
    have hf := hnamed f List.mem_cons_self
    have hfclosed := hclosed f List.mem_cons_self
    have hrest : ∀ g ∈ fs, b.directiveEnd g.lineIndex < f.lineIndex := fun g hg =>
      directiveEnd_lt (hbefore g hg) (content?_of_lt (Nat.lt_of_le_of_lt (b.le_directiveEnd f.lineIndex)
        (lt_length_of_closes hfclosed))) (startsDirective_of_names hf)
    rw [range_eq_append (hend f List.mem_cons_self), List.append_assoc, List.append_assoc] at hnodup ⊢
    rw [removalsFrom, removal?_append hf hfclosed, List.map_cons]
    dsimp only
    rw [directiveLines_eq_cons] at hnodup ⊢
    rw [filter_not_mem_cut hnodup]
    refine congrArg _ (ih hdesc (fun g hg => hnamed g (List.mem_cons_of_mem f hg))
      (fun g hg => hclosed g (List.mem_cons_of_mem f hg)) hrest ?_)
    exact hnodup.sublist ((List.Sublist.refl _).append (List.sublist_append_right _ _))

theorem applied_foldl (fs : List Finding) (hns : ns.Nodup) (applied : Nat) (notes : List Text) :
    (fs.foldl (Edit.advance step) ⟨b.pick ns, applied, notes⟩).applied = applied + (removalsFrom b ns fs).length := by
  induction fs generalizing ns applied notes with
  | nil => rfl
  | cons f fs ih =>
    rw [List.foldl_cons, Edit.advance]
    cases hcut : removal? b ns f with
    | none =>
      obtain ⟨reason, hstep⟩ := removal?_eq_none hcut
      simp only [hstep, removalsFrom, hcut]
      exact ih hns _ _
    | some cut =>
      obtain ⟨front, m, rest, back, rfl, rfl, -, hstep⟩ := removal?_eq_some hcut
      rw [← filter_not_mem_cut hns] at hstep
      simp only [hstep, removalsFrom, hcut, List.length_cons]
      rw [ih (hns.filter _)]
      omega

theorem applied_fix_eq_length (t : Text) (fs : List Finding) : (fix t fs).applied = (removals t fs).length := by
  have hfold := applied_foldl (b := ofText t) fs (List.nodup_range (n := (ofText t).length)) 0 []
  rw [pick_range, Nat.zero_add] at hfold
  exact hfold

/-- If the findings come from the last line to the first, each on the line of a closed import that it names, the
directives on these lines go as they stand in the text, and nothing else does. -/
theorem removed_at_once (t : Text) (fs : List Finding) (hdesc : fs.Pairwise fun f g => g.line < f.line)
    (hline : ∀ f ∈ fs, 1 ≤ f.line) (hnamed : ∀ f ∈ fs, names (ofText t) f f.lineIndex = true)
    (hclosed : ∀ f ∈ fs, closes ((ofText t).contentAt ((ofText t).directiveEnd f.lineIndex)) = true) :
    (fix t fs).text = ((ofText t).pick ((List.range (ofText t).length).filter fun k =>
      ∀ f ∈ fs, ¬ (f.lineIndex ≤ k ∧ k ≤ (ofText t).directiveEnd f.lineIndex))).toText ∧
    (fix t fs).applied = fs.length ∧ (fix t fs).notes = [] := by
  have hindex : fs.Pairwise fun f g => g.lineIndex < f.lineIndex := by
    refine hdesc.imp_of_mem fun {f g} hf hg hlt => ?_
    have := hline g hg
    simp only [Finding.lineIndex]
    omega
  have hremovals : removals t fs = fs.map (directiveLines (ofText t)) := by
    have hall : (List.range (ofText t).length ++ []).Nodup := by
      rw [List.append_nil]
      exact List.nodup_range
    have hrange := removalsFrom_range_append hindex hnamed hclosed
      (fun f hf => lt_length_of_closes (hclosed f hf)) hall
    rwa [List.append_nil] at hrange
  have happlied : (fix t fs).applied = fs.length := by
    rw [applied_fix_eq_length, hremovals, List.length_map]
  refine ⟨?_, happlied, ?_⟩
  · rw [text_fix_eq, hremovals]
    congr 2
    refine List.filter_congr fun k _ => ?_
    simp only [List.mem_flatten, List.mem_map, exists_exists_and_eq_and, mem_directiveLines_iff, not_exists, not_and]
  · have hsum := Edit.applied_add_notes_run step t fs
    have hzero : (fix t fs).notes.length = 0 := by
      rw [fix] at happlied ⊢
      omega
    exact List.eq_nil_of_length_eq_zero hzero

/-- Two imports that go on on other lines, and one between them. -/
def wrapped : Text :=
  "import 'a.dart'\n    show A,\n        B;\nimport 'c.dart';\nimport 'b.dart'\n    as b; \nf();\n".toList

/-- The findings of the two, the lower one first. -/
def unusedFiles : List Finding :=
  [⟨.warning, "Unused import: 'b.dart'".toList, "lib/d.dart".toList, 5, 8, Rule.unusedImport⟩,
    ⟨.warning, "Unused import: 'a.dart'".toList, "lib/d.dart".toList, 1, 8, Rule.unusedImport⟩]

/-- Both go with their clauses. -/
theorem removed_at_once_wrapped : unusedFiles.Pairwise (fun f g => g.line < f.line) ∧
    (∀ f ∈ unusedFiles, 1 ≤ f.line) ∧ (∀ f ∈ unusedFiles, names (ofText wrapped) f f.lineIndex = true) ∧
    (∀ f ∈ unusedFiles, closes ((ofText wrapped).contentAt ((ofText wrapped).directiveEnd f.lineIndex)) = true) ∧
    (fix wrapped unusedFiles).text = "import 'c.dart';\nf();\n".toList ∧ (fix wrapped unusedFiles).applied = 2 ∧
    (fix wrapped unusedFiles).notes = [] := by
  have hdesc : unusedFiles.Pairwise fun f g => g.line < f.line := by decide
  have hline : ∀ f ∈ unusedFiles, 1 ≤ f.line := by decide
  have hnamed : ∀ f ∈ unusedFiles, names (ofText wrapped) f f.lineIndex = true := by decide +kernel
  have hclosed : ∀ f ∈ unusedFiles,
      closes ((ofText wrapped).contentAt ((ofText wrapped).directiveEnd f.lineIndex)) = true := by decide +kernel
  obtain ⟨htext, happlied, hnotes⟩ := removed_at_once wrapped unusedFiles hdesc hline hnamed hclosed
  refine ⟨hdesc, hline, hnamed, hclosed, htext.trans ?_, happlied, hnotes⟩
  decide +kernel

end UnusedImport
end Upkeep
