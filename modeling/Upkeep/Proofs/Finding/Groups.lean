import Mathlib.Data.List.Pairwise
import Upkeep.Finding.Group
import Upkeep.Proofs.Text.Order

/-!
# Groups of findings

The groups of a selection come in strictly ascending order of their files (`pairwise_groups`), so a file
has one group at most (`eq_of_file_eq`). It holds every accepted finding of the file, or one of the same rule
at the same place (`exists_mem_groups`), and none else (`mem_accepted_of_mem_findings`), each rule at a place once
(`nodup_reports`).

`grouped_once` says all of it: each file, place and rule of an accepted finding stands in the groups once, for the
first finding that has it (`filter_flatMap_findings`). Which of two comes first in the input decides nothing else
(`outline_groups_of_perm`), since the sort is stable (`filter_mergeSort`) and the order of a group hangs on places
and rules alone (`map_report_eq`).
-/

namespace Upkeep

theorem eraseDups_of_nodup {α : Type} [BEq α] [LawfulBEq α] {l : List α} (h : l.Nodup) : l.eraseDups = l := by
  induction l with
  | nil => rfl
  | cons a l ih =>
    obtain ⟨ha, hl⟩ := List.nodup_cons.mp h
    have hall : l.filter (fun b => !b == a) = l := by
      refine List.filter_eq_self.mpr fun b hb => ?_
      have hne : b ≠ a := fun he => ha (he ▸ hb)
      simp [hne]
    rw [List.eraseDups_cons, hall, ih hl]

theorem filter_mergeSort {α : Type} {p : α → Bool} (le : α → α → Bool)
    (htrans : ∀ a b c, le a b = true → le b c = true → le a c = true)
    (htotal : ∀ a b, (le a b || le b a) = true) (h : ∀ a b, p a = true → p b = true → le a b = true)
    (l : List α) : (l.mergeSort le).filter p = l.filter p := by
  have hsorted : (l.filter p).Pairwise fun a b => le a b = true :=
    List.pairwise_of_forall_mem_list fun a ha b hb =>
      h a b (List.mem_filter.mp ha).2 (List.mem_filter.mp hb).2
  have hsub := (List.sublist_mergeSort htrans htotal hsorted List.filter_sublist).filter p
  have hsame : (l.filter p).filter p = l.filter p := by simp only [List.filter_filter, Bool.and_self]
  rw [hsame] at hsub
  exact (hsub.eq_of_length ((List.mergeSort_perm l le).filter p).length_eq.symm).symm

theorem Finding.exists_samePlace_keepFirsts {l : List Finding} {f : Finding} (hf : f ∈ l) :
    ∃ a ∈ keepFirsts l, samePlace a f = true := by
  induction l with
  | nil => cases hf
  | cons first rest ih =>
    rw [keepFirsts]
    rcases List.mem_cons.mp hf with rfl | hf
    · exact ⟨f, List.mem_cons_self, by simp [samePlace]⟩
    · obtain ⟨a, ha, haf⟩ := ih hf
      rw [← List.takeWhile_append_dropWhile (p := samePlace first) (l := keepFirsts rest),
        List.mem_append] at ha
      rcases ha with ha | ha
      · -- the one that stands for it was dropped for the first, which is then of the same place
        have hfirst := List.all_eq_true.mp List.all_takeWhile a ha
        refine ⟨first, List.mem_cons_self, ?_⟩
        simp only [samePlace, Bool.and_eq_true, beq_iff_eq] at haf hfirst ⊢
        exact ⟨⟨hfirst.1.1.trans haf.1.1, hfirst.1.2.trans haf.1.2⟩, hfirst.2.trans haf.2⟩
      · exact ⟨a, List.mem_cons_of_mem first ha, haf⟩

/-! ## Findings in order -/

namespace Finding

variable {a b c : Finding} {l : List Finding}

def position (f : Finding) : Nat × Nat := (f.line, f.column)

/-- What tells two findings of a file apart: where they are, and by which rule. -/
def report (f : Finding) : (Nat × Nat) × Text := (f.position, f.rule)

theorem samePlace_iff : samePlace a b = true ↔ a.report = b.report := by
  simp only [samePlace, report, position, Bool.and_eq_true, beq_iff_eq, Prod.mk.injEq]

theorem handledBefore_iff : handledBefore a b = true ↔ b.line < a.line ∨ a.line = b.line ∧
    (b.column < a.column ∨ a.column = b.column ∧ Text.notAfter a.rule b.rule = true) := decide_eq_true_iff

theorem handledBefore_trans (hab : handledBefore a b = true) (hbc : handledBefore b c = true) :
    handledBefore a c = true := by
  rw [handledBefore_iff] at hab hbc ⊢
  have hrule := @Text.notAfter_trans a.rule b.rule c.rule
  grind

theorem handledBefore_total (a b : Finding) : (handledBefore a b || handledBefore b a) = true := by
  rw [Bool.or_eq_true, handledBefore_iff, handledBefore_iff]
  have hrule := Text.notAfter_total a.rule b.rule
  rw [Bool.or_eq_true] at hrule
  grind

theorem handledBefore_of_report_eq (h : a.report = b.report) : handledBefore a b = true := by
  simp only [report, position, Prod.mk.injEq] at h
  rw [handledBefore_iff, h.2]
  exact .inr ⟨h.1.1, .inr ⟨h.1.2, Text.notAfter_refl b.rule⟩⟩

theorem report_eq_of_handledBefore (hab : handledBefore a b = true) (hba : handledBefore b a = true) :
    a.report = b.report := by
  rw [handledBefore_iff] at hab hba
  have hrule := @Text.notAfter_antisymm a.rule b.rule
  simp only [report, position, Prod.mk.injEq]
  grind

theorem keepFirsts_sublist (l : List Finding) : (keepFirsts l).Sublist l := by
  induction l with
  | nil => exact .slnil
  | cons f rest ih => exact ((List.dropWhile_sublist _).trans ih).cons_cons f

theorem keepFirsts_eq_self (h : l.Pairwise fun a b => a.report ≠ b.report) : keepFirsts l = l := by
  induction l with
  | nil => rfl
  | cons f rest ih =>
    obtain ⟨hf, hrest⟩ := List.pairwise_cons.mp h
    rw [keepFirsts, ih hrest]
    cases rest with
    | nil => rfl
    | cons g rest =>
      have hne : ¬ samePlace f g = true := fun hsame => hf g List.mem_cons_self (samePlace_iff.mp hsame)
      rw [List.dropWhile_cons, if_neg hne]

theorem pairwise_keepFirsts (h : l.Pairwise fun a b => handledBefore a b = true) :
    (keepFirsts l).Pairwise fun a b => handledBefore a b = true ∧ a.report ≠ b.report := by
  induction l with
  | nil => exact .nil
  | cons f rest ih =>
    obtain ⟨hf, hrest⟩ := List.pairwise_cons.mp h
    have hkept := (ih hrest).sublist (List.dropWhile_sublist (samePlace f))
    refine List.pairwise_cons.mpr ⟨fun a ha => ?_, hkept⟩
    have hmem : ∀ b ∈ (keepFirsts rest).dropWhile (samePlace f), handledBefore f b = true := fun b hb =>
      hf b ((keepFirsts_sublist rest).subset ((List.dropWhile_sublist _).subset hb))
    refine ⟨hmem a ha, fun hsame => ?_⟩
    cases hdrop : (keepFirsts rest).dropWhile (samePlace f) with
    | nil =>
      rw [hdrop] at ha
      cases ha
    | cons first later =>
      have hhead := List.head?_dropWhile_not (samePlace f) (keepFirsts rest)
      rw [hdrop] at hhead hkept ha hmem
      have hne : f.report ≠ first.report := fun heq => Bool.false_ne_true (hhead.symm.trans (samePlace_iff.mpr heq))
      rcases List.mem_cons.mp ha with rfl | ha
      · exact hne hsame
      · -- the first that stays stands between the two, so it would be of the same place as well
        have hbetween := handledBefore_trans (List.rel_of_pairwise_cons hkept ha).1
          (handledBefore_of_report_eq hsame.symm)
        exact hne (report_eq_of_handledBefore (hmem first List.mem_cons_self) hbetween)

/-- Later lines come first, then later columns, then rules in ascending order. -/
def Precedes (a b : Finding) : Prop :=
  b.line < a.line ∨ a.line = b.line ∧
    (b.column < a.column ∨ a.column = b.column ∧ Text.notAfter a.rule b.rule = true ∧ a.rule ≠ b.rule)

theorem precedes_iff : Precedes a b ↔ handledBefore a b = true ∧ a.report ≠ b.report := by
  rw [handledBefore_iff]
  simp only [Precedes, report, position, ne_eq, Prod.mk.injEq]
  grind

/-- What tells two findings apart: in which file and where they are, and by which rule. -/
def key (f : Finding) : Path × (Nat × Nat) × Text := (f.file, f.report)

theorem handledBefore_congr {a' b' : Finding} (ha : a.report = a'.report) (hb : b.report = b'.report)
    (h : handledBefore a b = true) : handledBefore a' b' = true :=
  handledBefore_trans (handledBefore_of_report_eq ha.symm)
    (handledBefore_trans h (handledBefore_of_report_eq hb))

theorem filter_keepFirsts (h : l.Pairwise fun a b => handledBefore a b = true) (r : (Nat × Nat) × Text) :
    (keepFirsts l).filter (·.report == r) = (l.find? (·.report == r)).toList := by
  induction l with
  | nil => rfl
  | cons f rest ih =>
    have hkept := pairwise_keepFirsts h
    rw [keepFirsts] at hkept ⊢
    by_cases hf : f.report = r
    · subst hf
      have hnone : ((keepFirsts rest).dropWhile (samePlace f)).filter (·.report == f.report) = [] := by
        refine List.filter_eq_nil_iff.mpr fun a ha => ?_
        have hne := (List.rel_of_pairwise_cons hkept ha).2
        simpa using hne.symm
      simp [hnone]
    · have hdropped : ((keepFirsts rest).takeWhile (samePlace f)).filter (·.report == r) = [] := by
        refine List.filter_eq_nil_iff.mpr fun a ha => ?_
        have hsame := samePlace_iff.mp (List.all_eq_true.mp List.all_takeWhile a ha)
        simpa [← hsame] using hf
      have hall : ((keepFirsts rest).dropWhile (samePlace f)).filter (·.report == r) =
          (keepFirsts rest).filter (·.report == r) := by
        conv => rhs; rw [← List.takeWhile_append_dropWhile (p := samePlace f) (l := keepFirsts rest)]
        rw [List.filter_append, hdropped, List.nil_append]
      rw [List.filter_cons_of_neg (by simpa using hf), List.find?_cons_of_neg (by simpa using hf), hall,
        ih (List.pairwise_cons.mp h).2]

theorem filter_report_mergeSort (l : List Finding) (r : (Nat × Nat) × Text) :
    (l.mergeSort handledBefore).filter (·.report == r) = l.filter (·.report == r) := by
  refine filter_mergeSort handledBefore (fun _ _ _ => handledBefore_trans) handledBefore_total (fun a b ha hb => ?_) l
  exact handledBefore_of_report_eq ((beq_iff_eq.mp ha).trans (beq_iff_eq.mp hb).symm)

/-- Whether findings with these reports come in this order. -/
def ReportsBefore (r r' : (Nat × Nat) × Text) : Prop :=
  ∃ a b : Finding, a.report = r ∧ b.report = r' ∧ handledBefore a b = true

theorem pairwise_reports (h : l.Pairwise fun a b => handledBefore a b = true ∧ a.report ≠ b.report) :
    (l.map report).Pairwise ReportsBefore ∧ (l.map report).Nodup :=
  ⟨List.pairwise_map.mpr (h.imp fun hab => ⟨_, _, rfl, rfl, hab.1⟩), List.pairwise_map.mpr (h.imp And.right)⟩

theorem map_report_eq {l' : List Finding}
    (h : l.Pairwise fun a b => handledBefore a b = true ∧ a.report ≠ b.report)
    (h' : l'.Pairwise fun a b => handledBefore a b = true ∧ a.report ≠ b.report)
    (hmem : ∀ r, r ∈ l.map report ↔ r ∈ l'.map report) : l.map report = l'.map report := by
  obtain ⟨hsorted, hnodup⟩ := pairwise_reports h
  obtain ⟨hsorted', hnodup'⟩ := pairwise_reports h'
  refine List.Perm.eq_of_pairwise ?_ hsorted hsorted' ((List.perm_ext_iff_of_nodup hnodup hnodup').mpr hmem)
  rintro _ _ - - ⟨a, b, rfl, rfl, hab⟩ ⟨b', a', hb, ha, hba⟩
  exact report_eq_of_handledBefore hab (handledBefore_congr hb ha hba)

end Finding

/-- The file of a group, and where its findings are and by which rules. -/
def FileGroup.outline (g : FileGroup) : Path × List ((Nat × Nat) × Text) := (g.file, g.findings.map Finding.report)

namespace Selection

variable {s : Selection} {fs fs' : List Finding} {g h : FileGroup} {a : Finding}

def comesBefore (g h : FileGroup) : Prop := Text.notAfter g.file h.file = true ∧ g.file ≠ h.file

theorem pairwise_files (fs : List Finding) :
    (files fs).Pairwise fun p q => Text.notAfter p q = true ∧ p ≠ q := by
  have hsorted : (files fs).Pairwise fun p q => Text.notAfter p q = true :=
    @List.pairwise_mergeSort _ Text.notAfter (fun _ _ _ => Text.notAfter_trans) Text.notAfter_total _
  have hnodup : (files fs).Nodup := (List.mergeSort_perm _ _).nodup_iff.mpr (Text.nodup_eraseDups _)
  exact hsorted.and hnodup

theorem pairwise_groups (s : Selection) (fs : List Finding) : (s.groups fs).Pairwise comesBefore :=
  List.pairwise_map.mpr (pairwise_files _)

theorem eq_of_file_eq (hg : g ∈ s.groups fs) (hh : h ∈ s.groups fs) (he : g.file = h.file) : g = h := by
  obtain ⟨p, -, rfl⟩ := List.mem_map.mp hg
  obtain ⟨q, -, rfl⟩ := List.mem_map.mp hh
  obtain rfl : p = q := he
  rfl

/-! ## Findings that are kept -/

theorem pairwise_sorted (l : List Finding) :
    (l.mergeSort Finding.handledBefore).Pairwise fun a b => Finding.handledBefore a b = true :=
  @List.pairwise_mergeSort _ Finding.handledBefore (fun _ _ _ => Finding.handledBefore_trans)
    Finding.handledBefore_total l

theorem exists_mem_groups {f a : Finding} (hf : f ∈ fs) (ha : s.accept? f = some a) :
    ∃ g ∈ s.groups fs, g.file = a.file ∧ ∃ b ∈ g.findings, Finding.samePlace b a = true := by
  have hmem : a ∈ fs.filterMap s.accept? := List.mem_filterMap.mpr ⟨f, hf, ha⟩
  have hfile : a.file ∈ files (fs.filterMap s.accept?) :=
    List.mem_mergeSort.mpr (List.mem_eraseDups.mpr (List.mem_map_of_mem hmem))
  refine ⟨_, List.mem_map_of_mem hfile, rfl, Finding.exists_samePlace_keepFirsts ?_⟩
  exact List.mem_mergeSort.mpr (List.mem_filter.mpr ⟨hmem, by simp⟩)

theorem mem_accepted_of_mem_findings {a : Finding} (hg : g ∈ s.groups fs) (ha : a ∈ g.findings) :
    a ∈ fs.filterMap s.accept? ∧ a.file = g.file := by
  obtain ⟨file, -, rfl⟩ := List.mem_map.mp hg
  obtain ⟨hmem, hfile⟩ := List.mem_filter.mp (List.mem_mergeSort.mp ((Finding.keepFirsts_sublist _).subset ha))
  exact ⟨hmem, beq_iff_eq.mp hfile⟩

theorem nodup_reports (hg : g ∈ s.groups fs) : (g.findings.map Finding.report).Nodup := by
  obtain ⟨file, -, rfl⟩ := List.mem_map.mp hg
  exact List.pairwise_map.mpr ((Finding.pairwise_keepFirsts (pairwise_sorted _)).imp And.right)

theorem pairwise_findings (hg : g ∈ s.groups fs) : g.findings.Pairwise Finding.Precedes := by
  obtain ⟨file, -, rfl⟩ := List.mem_map.mp hg
  exact (Finding.pairwise_keepFirsts (pairwise_sorted _)).imp Finding.precedes_iff.mpr

theorem findings_ne_nil (hg : g ∈ s.groups fs) : g.findings ≠ [] := by
  obtain ⟨file, hfile, rfl⟩ := List.mem_map.mp hg
  obtain ⟨a, ha, rfl⟩ := List.mem_map.mp (List.mem_eraseDups.mp (List.mem_mergeSort.mp hfile))
  have hmem : a ∈ ((fs.filterMap s.accept?).filter (·.file == a.file)).mergeSort Finding.handledBefore :=
    List.mem_mergeSort.mpr (List.mem_filter.mpr ⟨ha, by simp⟩)
  obtain ⟨b, hb, -⟩ := Finding.exists_samePlace_keepFirsts hmem
  exact List.ne_nil_of_mem hb

theorem filter_findings (hg : g ∈ s.groups fs) (hfile : a.file = g.file) :
    g.findings.filter (·.key == a.key) = ((fs.filterMap s.accept?).find? (·.key == a.key)).toList := by
  have hkey : ∀ b : Finding, (b.key == a.key) = (b.report == a.report && b.file == a.file) := fun b => by
    rw [Bool.and_comm]
    rfl
  have hreport : g.findings.filter (·.key == a.key) = g.findings.filter (·.report == a.report) :=
    List.filter_congr fun b hb => by
      rw [hkey, (mem_accepted_of_mem_findings hg hb).2, hfile, beq_self_eq_true, Bool.and_true]
  rw [hreport]
  obtain ⟨file, -, rfl⟩ := List.mem_map.mp hg
  obtain rfl : a.file = file := hfile
  rw [Finding.filter_keepFirsts (pairwise_sorted _), ← List.head?_filter, Finding.filter_report_mergeSort,
    List.filter_filter, ← List.head?_filter]
  simp only [hkey]

theorem filter_findings_of_ne (hg : g ∈ s.groups fs) (hfile : g.file ≠ a.file) :
    g.findings.filter (·.key == a.key) = [] := by
  refine List.filter_eq_nil_iff.mpr fun b hb hkey => hfile ?_
  rw [← (mem_accepted_of_mem_findings hg hb).2]
  exact congrArg Prod.fst (beq_iff_eq.mp hkey)

theorem filter_flatMap_findings (hg : g ∈ s.groups fs) (hfile : a.file = g.file) :
    ((s.groups fs).flatMap (·.findings)).filter (·.key == a.key) =
      ((fs.filterMap s.accept?).find? (·.key == a.key)).toList := by
  obtain ⟨before, after, hsplit⟩ := List.append_of_mem hg
  have hpair := pairwise_groups s fs
  rw [hsplit] at hpair
  obtain ⟨-, hafter, hbefore⟩ := List.pairwise_append.mp hpair
  have hnone : ∀ hs : List FileGroup, (∀ h ∈ hs, h ∈ s.groups fs ∧ h.file ≠ a.file) →
      hs.flatMap (fun h => h.findings.filter (·.key == a.key)) = [] := fun hs hall =>
    List.flatMap_eq_nil_iff.mpr fun h hh => filter_findings_of_ne (hall h hh).1 (hall h hh).2
  rw [List.filter_flatMap, hsplit, List.flatMap_append, List.flatMap_cons, hnone before, hnone after,
    filter_findings hg hfile, List.nil_append, List.append_nil]
  · intro h hh
    refine ⟨hsplit ▸ List.mem_append_right before (List.mem_cons_of_mem g hh), ?_⟩
    rw [hfile]
    exact (List.rel_of_pairwise_cons hafter hh).2.symm
  · intro h hh
    refine ⟨hsplit ▸ List.mem_append_left _ hh, ?_⟩
    rw [hfile]
    exact (hbefore h hh g List.mem_cons_self).2

theorem groups_of_one_file {accepted : List Finding} {file : Path} (h : fs.filterMap s.accept? = accepted)
    (hne : accepted ≠ []) (hfile : ∀ a ∈ accepted, a.file = file)
    (hsorted : accepted.Pairwise fun a b => Finding.handledBefore a b = true ∧ a.report ≠ b.report) :
    s.groups fs = [⟨file, accepted⟩] := by
  obtain ⟨first, rest, rfl⟩ := List.exists_cons_of_ne_nil hne
  obtain ⟨hfirst, hrest⟩ := List.forall_mem_cons.mp hfile
  have hothers : (rest.map (·.file)).filter (fun p => !p == first.file) = [] := by
    refine List.filter_eq_nil_iff.mpr fun p hp => ?_
    obtain ⟨a, ha, rfl⟩ := List.mem_map.mp hp
    simp [hrest a ha, hfirst]
  have hfiles : files (first :: rest) = [file] := by
    rw [files, List.map_cons, List.eraseDups_cons, hothers, List.eraseDups_nil, List.mergeSort_singleton, hfirst]
  have hall : (first :: rest).filter (·.file == file) = first :: rest :=
    List.filter_eq_self.mpr fun a ha => beq_iff_eq.mpr (hfile a ha)
  rw [groups, h, hfiles, List.map_singleton, hall, List.mergeSort_of_pairwise (hsorted.imp And.left),
    Finding.keepFirsts_eq_self (hsorted.imp And.right)]

/-! ## One finding in each file -/

def ofEarlierFile (a b : Finding) : Prop := Text.notAfter a.file b.file = true ∧ a.file ≠ b.file

instance : DecidableRel ofEarlierFile := fun _ _ => inferInstanceAs (Decidable (_ ∧ _))

theorem filter_file_eq {a : Finding} (h : fs.Pairwise ofEarlierFile) (ha : a ∈ fs) :
    fs.filter (·.file == a.file) = [a] := by
  induction fs with
  | nil => cases ha
  | cons f fs ih =>
    obtain ⟨hf, hrest⟩ := List.pairwise_cons.mp h
    rcases List.mem_cons.mp ha with rfl | ha
    · have hnone : fs.filter (·.file == a.file) = [] :=
        List.filter_eq_nil_iff.mpr fun b hb => by simpa using Ne.symm (hf b hb).2
      simp [hnone]
    · have hne := (hf a ha).2
      simp [hne, ih hrest ha]

theorem groups_of_ascending {accepted : List Finding} (h : fs.filterMap s.accept? = accepted)
    (hasc : accepted.Pairwise ofEarlierFile) : s.groups fs = accepted.map fun a => ⟨a.file, [a]⟩ := by
  have hnodup : (accepted.map (·.file)).Nodup := List.pairwise_map.mpr (hasc.imp And.right)
  have hsorted : (accepted.map (·.file)).Pairwise fun p q => Text.notAfter p q = true :=
    List.pairwise_map.mpr (hasc.imp And.left)
  rw [groups, h, files, eraseDups_of_nodup hnodup, List.mergeSort_of_pairwise hsorted, List.map_map]
  refine List.map_congr_left fun a ha => ?_
  simp only [Function.comp_apply, filter_file_eq hasc ha, List.mergeSort_singleton]
  rfl

/-! ## Findings in another order -/

theorem files_eq_of_mem_iff {l l' : List Finding} (h : ∀ p, p ∈ l.map (·.file) ↔ p ∈ l'.map (·.file)) :
    files l = files l' := by
  have hnodup : ∀ m : List Finding, (files m).Nodup := fun m => (pairwise_files m).imp And.right
  refine List.Perm.eq_of_pairwise (fun p q _ _ => Text.notAfter_antisymm)
    ((pairwise_files l).imp And.left) ((pairwise_files l').imp And.left)
    ((List.perm_ext_iff_of_nodup (hnodup l) (hnodup l')).mpr fun p => ?_)
  rw [files, files, List.mem_mergeSort, List.mem_mergeSort, List.mem_eraseDups, List.mem_eraseDups, h]

theorem map_report_kept_eq {l l' : List Finding} (h : l.Perm l') :
    (Finding.keepFirsts (l.mergeSort Finding.handledBefore)).map Finding.report =
      (Finding.keepFirsts (l'.mergeSort Finding.handledBefore)).map Finding.report := by
  have hmem : ∀ (m : List Finding) r,
      r ∈ (Finding.keepFirsts (m.mergeSort Finding.handledBefore)).map Finding.report ↔ r ∈ m.map Finding.report := by
    intro m r
    simp only [List.mem_map]
    constructor
    · rintro ⟨b, hb, rfl⟩
      exact ⟨b, List.mem_mergeSort.mp ((Finding.keepFirsts_sublist _).subset hb), rfl⟩
    · rintro ⟨b, hb, rfl⟩
      have hsorted : b ∈ m.mergeSort Finding.handledBefore := List.mem_mergeSort.mpr hb
      obtain ⟨c, hc, hcb⟩ := Finding.exists_samePlace_keepFirsts hsorted
      exact ⟨c, hc, Finding.samePlace_iff.mp hcb⟩
  refine Finding.map_report_eq (Finding.pairwise_keepFirsts (pairwise_sorted l))
    (Finding.pairwise_keepFirsts (pairwise_sorted l')) fun r => ?_
  rw [hmem, hmem]
  exact (h.map Finding.report).mem_iff

theorem outline_groups_of_perm (h : fs.Perm fs') :
    (s.groups fs).map FileGroup.outline = (s.groups fs').map FileGroup.outline := by
  have haccepted := h.filterMap s.accept?
  have hfiles : files (fs.filterMap s.accept?) = files (fs'.filterMap s.accept?) :=
    files_eq_of_mem_iff fun p => (haccepted.map (·.file)).mem_iff
  rw [groups, groups, hfiles, List.map_map, List.map_map]
  refine List.map_congr_left fun file _ => ?_
  exact congrArg (Prod.mk file) (map_report_kept_eq (haccepted.filter (·.file == file)))

/-! ## Each finding once -/

/-- Groups of some findings: files ascend, the findings of a file are in order, and of those with one key the first
stands in the groups once and the others do not. -/
structure Grouped (accepted : List Finding) (gs : List FileGroup) : Prop where
  ascending : gs.Pairwise comesBefore
  ne_nil : ∀ g ∈ gs, g.findings ≠ []
  file_eq : ∀ g ∈ gs, ∀ a ∈ g.findings, a.file = g.file
  ordered : ∀ g ∈ gs, g.findings.Pairwise Finding.Precedes
  once : ∀ a ∈ accepted, ∃ first, accepted.find? (·.key == a.key) = some first ∧
    (gs.flatMap (·.findings)).filter (·.key == a.key) = [first]
  invented : ∀ a ∈ gs.flatMap (·.findings), a ∈ accepted

theorem grouped_once (s : Selection) (fs : List Finding) :
    Grouped (fs.filterMap s.accept?) (s.groups fs) ∧
      ∀ fs', fs.Perm fs' → (s.groups fs).map FileGroup.outline = (s.groups fs').map FileGroup.outline := by
  refine ⟨⟨pairwise_groups s fs, fun g => findings_ne_nil, fun g hg a ha => (mem_accepted_of_mem_findings hg ha).2,
    fun g => pairwise_findings, fun a ha => ?_, fun a ha => ?_⟩, fun fs' => outline_groups_of_perm⟩
  · obtain ⟨f, hf, haccept⟩ := List.mem_filterMap.mp ha
    obtain ⟨g, hg, hfile, -⟩ := exists_mem_groups hf haccept
    have hsome : ((fs.filterMap s.accept?).find? (·.key == a.key)).isSome = true :=
      List.find?_isSome.mpr ⟨a, ha, beq_self_eq_true a.key⟩
    obtain ⟨first, hfirst⟩ := Option.isSome_iff_exists.mp hsome
    refine ⟨first, hfirst, ?_⟩
    rw [filter_flatMap_findings hg hfile.symm, hfirst, Option.toList_some]
  · obtain ⟨g, hg, hag⟩ := List.mem_flatMap.mp ha
    exact (mem_accepted_of_mem_findings hg hag).1

def belowDirectory : Selection := ⟨[], some defaultScope, some "app/".toList, ["/w/app".toList]⟩

/-- A finding of one rule in one line, reported at a path and a column. -/
def reportedAt (path message : String) (column : Nat) : Finding :=
  ⟨.warning, message.toList, path.toList, 4, column, Rule.unusedImport⟩

/-- Two spellings of a path are one file, in which the first of two findings at one place is kept. In the other order
of the input the groups have the same outline. -/
theorem grouped_once_spellings :
    let fs := [reportedAt "app/lib/a.dart" "x" 2, reportedAt "/w/app/lib/a.dart" "y" 2, reportedAt "lib/a.dart" "z" 7]
    fs.Perm fs.reverse ∧
    ((belowDirectory.groups fs).flatMap (·.findings)).filter (·.key == (reportedAt "lib/a.dart" "y" 2).key) =
      [reportedAt "lib/a.dart" "x" 2] ∧
    (belowDirectory.groups fs).map FileGroup.outline = (belowDirectory.groups fs.reverse).map FileGroup.outline := by
  intro fs
  have hperm : fs.Perm fs.reverse := (List.reverse_perm fs).symm
  have haccepted : fs.filterMap belowDirectory.accept? =
      [reportedAt "lib/a.dart" "x" 2, reportedAt "lib/a.dart" "y" 2, reportedAt "lib/a.dart" "z" 7] := by
    decide +kernel
  obtain ⟨hgrouped, houtline⟩ := grouped_once belowDirectory fs
  obtain ⟨first, hfirst, honce⟩ := hgrouped.once (reportedAt "lib/a.dart" "y" 2) (by rw [haccepted]; simp)
  rw [haccepted] at hfirst
  have hx : first = reportedAt "lib/a.dart" "x" 2 := by
    have hfound : [reportedAt "lib/a.dart" "x" 2, reportedAt "lib/a.dart" "y" 2,
        reportedAt "lib/a.dart" "z" 7].find? (·.key == (reportedAt "lib/a.dart" "y" 2).key) =
          some (reportedAt "lib/a.dart" "x" 2) := by decide +kernel
    exact Option.some.inj (hfirst.symm.trans hfound)
  exact ⟨hperm, hx ▸ honce, houtline _ hperm⟩

end Selection
end Upkeep
