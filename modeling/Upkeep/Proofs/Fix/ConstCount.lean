import Mathlib.Data.Finset.Prod
import Upkeep.Fix.Fixer
import Upkeep.Proofs.Finding.Groups
import Upkeep.Proofs.Fix.EditCount
import Upkeep.Proofs.Source.ConstKeyword
import Upkeep.Proofs.Source.Replacement

/-!
# Counts of cut keywords

An edit cuts one keyword from the line of its finding and none from the others (`keywordsAt_step`), so a line loses no
more keywords than the group of its file has findings on it. Of these each rule is at a place once.

* `keywords_cut_by_reports`: a line loses no more keywords than there are reports on it, which are told apart by line,
  column and rule, and so at most two for a position.
* `keywords_cut_twice`: where both rules report one position, two are cut.
-/

namespace Upkeep.InvalidConst

open Text Buffer ConstSpan

variable {b b' : Buffer} {f : Finding} {s : Selection} {g : FileGroup} {i : Nat}

/-- How often the keyword stands on a line, and on no line never. -/
def keywordsAt (b : Buffer) (i : Nat) : Nat := keywordCount (b.contentAt i)

/-! ## One cut -/

theorem keywordsAt_step (h : step b f = .edited b') (i : Nat) :
    keywordsAt b i = keywordsAt b' i + if f.lineIndex = i then 1 else 0 := by
  obtain ⟨line, span, hline, hspan, rfl⟩ := of_step h
  split
  · next hi =>
    subst hi
    obtain ⟨old, -, -, hnew⟩ := contentAt_replace_self hline (span.cut line)
    rw [keywordsAt, keywordsAt, hnew, keywordCount_contentOf, keywordCount_append_endOf, contentAt, hline,
      Option.getD_some, keywordCount_cut (mem_of_choose? hspan)]
  · next hi => rw [keywordsAt, keywordsAt, contentAt_replace_of_ne _ hi, Nat.add_zero]

theorem parted_step (hb : Parted b.lines) (h : step b f = .edited b') : Parted b'.lines := by
  obtain ⟨line, span, hline, -, rfl⟩ := of_step h
  obtain ⟨old, hold, rfl⟩ := Option.map_eq_some_iff.mp hline
  have hopen : '\n' ∉ contentOf old := not_mem_contentOf (hb.closed_or_open (List.mem_of_getElem? hold))
  refine parted_replace hb (fun hn => hopen ?_) _
  rcases List.mem_append.mp hn with hn | hn
  · exact List.mem_of_mem_take hn
  · exact List.mem_of_mem_drop hn

/-! ## Runs -/

theorem keywordsAt_le_foldl (fs : List Finding) (p : Edit.Progress) (i : Nat) : keywordsAt p.buffer i ≤
    keywordsAt (fs.foldl (Edit.advance step) p).buffer i + fs.countP fun f => f.lineIndex = i := by
  induction fs generalizing p with
  | nil => exact Nat.le_refl _
  | cons f fs ih =>
    have hadvance : keywordsAt p.buffer i ≤
        keywordsAt (Edit.advance step p f).buffer i + if f.lineIndex = i then 1 else 0 := by
      rw [Edit.advance]
      split
      · next b hb => exact Nat.le_of_eq (keywordsAt_step hb i)
      · exact Nat.le_add_right _ _
    have hlater := ih (Edit.advance step p f)
    rw [List.foldl_cons, List.countP_cons]
    simp only [decide_eq_true_eq]
    omega

variable (t : Text) (fs : List Finding)

theorem keywordsAt_fix (i : Nat) : keywordsAt (ofText (fix t fs).text) i =
    keywordsAt (fs.foldl (Edit.advance step) ⟨ofText t, 0, []⟩).buffer i := by
  have hparted : Parted (fs.foldl (Edit.advance step) ⟨ofText t, 0, []⟩).buffer.lines :=
    Edit.foldl_induction (fun b _ => Parted b.lines) (framed_ofText t).parted fun _ _ _ _ => parted_step
  exact congrArg keywordCount (contentAt_ofText_toText hparted i)

theorem keywords_lost : (∀ i, keywordsAt (ofText (fix t fs).text) i ≤ keywordsAt (ofText t) i) ∧
    (fix t fs).applied = ∑ i ∈ (fs.map Finding.lineIndex).toFinset,
      (keywordsAt (ofText t) i - keywordsAt (ofText (fix t fs).text) i) := by
  have hlost := Edit.applied_foldl_eq_sum keywordsAt (fs.map Finding.lineIndex).toFinset (fun f hf _ _ hstep =>
    ⟨f.lineIndex, List.mem_toFinset.mpr (List.mem_map_of_mem hf), keywordsAt_step hstep⟩) ⟨ofText t, 0, []⟩
  rw [Nat.zero_add] at hlost
  simp only [keywordsAt_fix]
  exact hlost

/-! ## Reports on a line -/

/-- The findings of a file that a run takes, of those on one line. -/
def reportedOn (s : Selection) (fs : List Finding) (file : Path) (i : Nat) : List Finding :=
  (fs.filterMap s.accept?).filter fun f => f.file = file ∧ f.lineIndex = i

def reports (s : Selection) (fs : List Finding) (file : Path) (i : Nat) : Finset ((Nat × Nat) × Text) :=
  ((reportedOn s fs file i).map Finding.report).toFinset

def positions (s : Selection) (fs : List Finding) (file : Path) (i : Nat) : Finset (Nat × Nat) :=
  ((reportedOn s fs file i).map Finding.position).toFinset

variable {fs}

theorem countP_findings_le (hg : g ∈ s.groups fs) (i : Nat) :
    (g.findings.countP fun f => f.lineIndex = i) ≤ (reports s fs g.file i).card := by
  -- a group has no report twice, so that its findings on a line are counted by their reports
  have hnodup : ((g.findings.filter fun f => f.lineIndex = i).map Finding.report).Nodup :=
    (Selection.nodup_reports hg).sublist ((List.filter_sublist).map Finding.report)
  rw [List.countP_eq_length_filter, ← List.length_map Finding.report, ← List.toFinset_card_of_nodup hnodup]
  refine Finset.card_le_card fun r hr => ?_
  obtain ⟨a, ha, rfl⟩ := List.mem_map.mp (List.mem_toFinset.mp hr)
  obtain ⟨hmem, hline⟩ := List.mem_filter.mp ha
  obtain ⟨haccepted, hfile⟩ := Selection.mem_accepted_of_mem_findings hg hmem
  refine List.mem_toFinset.mpr (List.mem_map_of_mem (List.mem_filter.mpr ⟨haccepted, ?_⟩))
  exact decide_eq_true ⟨hfile, of_decide_eq_true hline⟩

theorem rule_mem_of_accept? {a : Finding} (hs : s.rules = FindingFixer.invalidConst.rules)
    (ha : s.accept? f = some a) : a.rule ∈ FindingFixer.invalidConst.rules := by
  rw [Selection.accept?] at ha
  split at ha
  · next hwants =>
    obtain rfl := Option.some.inj ha
    rw [Selection.wantsRule, hs, Bool.and_eq_true] at hwants
    simpa [FindingFixer.rules] using hwants.1
  · cases ha

theorem card_reports_le (hs : s.rules = FindingFixer.invalidConst.rules) (file : Path) (i : Nat) :
    (reports s fs file i).card ≤ 2 * (positions s fs file i).card := by
  have hsub : reports s fs file i ⊆ positions s fs file i ×ˢ FindingFixer.invalidConst.rules.toFinset := by
    intro r hr
    obtain ⟨a, ha, rfl⟩ := List.mem_map.mp (List.mem_toFinset.mp hr)
    obtain ⟨f, -, hf⟩ := List.mem_filterMap.mp (List.mem_filter.mp ha).1
    exact Finset.mem_product.mpr ⟨List.mem_toFinset.mpr (List.mem_map_of_mem ha),
      List.mem_toFinset.mpr (rule_mem_of_accept? hs hf)⟩
  have hcard := Finset.card_le_card hsub
  have hrules : FindingFixer.invalidConst.rules.toFinset.card ≤ 2 := List.toFinset_card_le _
  rw [Finset.card_product, Nat.mul_comm] at hcard
  exact hcard.trans (Nat.mul_le_mul_right _ hrules)

/-- In the run of a group a line loses no more keywords than there are reports on it, and these are two at most for each
position. The keywords that are lost are all edits. -/
theorem keywords_cut_by_reports (hs : s.rules = FindingFixer.invalidConst.rules) (hg : g ∈ s.groups fs) :
    (∀ i, keywordsAt (ofText t) i - keywordsAt (ofText (fix t g.findings).text) i ≤ (reports s fs g.file i).card ∧
      (reports s fs g.file i).card ≤ 2 * (positions s fs g.file i).card) ∧
    (∀ i, keywordsAt (ofText (fix t g.findings).text) i ≤ keywordsAt (ofText t) i) ∧
    (fix t g.findings).applied = ∑ i ∈ (g.findings.map Finding.lineIndex).toFinset,
      (keywordsAt (ofText t) i - keywordsAt (ofText (fix t g.findings).text) i) := by
  refine ⟨fun i => ⟨?_, card_reports_le hs g.file i⟩, keywords_lost t g.findings⟩
  have hless := keywordsAt_le_foldl g.findings ⟨ofText t, 0, []⟩ i
  have hcount := countP_findings_le hg i
  rw [keywordsAt_fix]
  exact Nat.sub_le_iff_le_add'.mpr (hless.trans (Nat.add_le_add_left hcount _))

def librarySelection : Selection := ⟨FindingFixer.invalidConst.rules, some Selection.defaultScope, none, []⟩

def nested : Text := "const A(const B());\n".toList

def bothRules : List Finding :=
  [⟨.error, "Not a constant constructor".toList, "lib/a.dart".toList, 1, 1, Rule.constWithNonConst⟩,
    ⟨.error, "Invalid constant value".toList, "lib/a.dart".toList, 1, 1, Rule.invalidConstant⟩]

/-- A third finding at the position, which the fixer does not handle. -/
def otherRule : Finding := ⟨.warning, "'x' is unused".toList, "lib/a.dart".toList, 1, 1, Rule.unusedImport⟩

theorem groups_bothRules : librarySelection.groups (bothRules ++ [otherRule]) = [⟨"lib/a.dart".toList, bothRules⟩] :=
  Selection.groups_of_one_file (by decide) (by decide) (by decide) (by decide)

/-- The line loses a keyword for each of the two reports. -/
theorem keywords_cut_by_reports_nested : librarySelection.rules = FindingFixer.invalidConst.rules ∧
    ⟨"lib/a.dart".toList, bothRules⟩ ∈ librarySelection.groups (bothRules ++ [otherRule]) ∧
    keywordsAt (ofText nested) 0 = 2 ∧ keywordsAt (ofText (fix nested bothRules).text) 0 = 0 ∧
    (reports librarySelection (bothRules ++ [otherRule]) "lib/a.dart".toList 0).card = 2 ∧
    keywordsAt (ofText nested) 0 - keywordsAt (ofText (fix nested bothRules).text) 0 ≤
      (reports librarySelection (bothRules ++ [otherRule]) "lib/a.dart".toList 0).card := by
  have hg : ⟨"lib/a.dart".toList, bothRules⟩ ∈ librarySelection.groups (bothRules ++ [otherRule]) := by
    rw [groups_bothRules]
    exact List.mem_singleton_self _
  exact ⟨rfl, hg, by decide +kernel, by decide +kernel, by decide +kernel,
    ((keywords_cut_by_reports nested rfl hg).1 0).1⟩

/-- Two keywords are cut where one position is reported. -/
theorem keywords_cut_twice : ⟨"lib/a.dart".toList, bothRules⟩ ∈ librarySelection.groups (bothRules ++ [otherRule]) ∧
    (fix nested bothRules).text = "A(B());\n".toList ∧
    ¬ keywordsAt (ofText nested) 0 - keywordsAt (ofText (fix nested bothRules).text) 0 ≤
      (positions librarySelection (bothRules ++ [otherRule]) "lib/a.dart".toList 0).card := by
  refine ⟨?_, by decide +kernel, by decide +kernel⟩
  rw [groups_bothRules]
  exact List.mem_singleton_self _

end Upkeep.InvalidConst
