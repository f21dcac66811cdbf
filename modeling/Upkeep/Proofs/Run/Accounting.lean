import Upkeep.Proofs.Run.Isolation

/-!
# What becomes of each group

A run that follows findings has one entry for each group: a change, if there is a text at its path, and a skipped
file otherwise. Which of the two it is can be told from the workspace in which the run starts, also when groups
share a file, since a fix makes a text of a text (`sameTexts_fixFile`).

* `Entered`: what some groups add to a report. One group (`entered_fixGroup`), then all of them
  (`entered_foldl_fixGroup`).
* `Accounted`: each group has one entry, and the findings of a report are those of the groups that were handled.
* `accounted_iff`: so it is unless there are files whose bytes are no text. The findings of a group whose file is
  there are listed before it is known whether it can be read.
-/

namespace Upkeep

open Text

namespace Workspace

variable {w v : Workspace} {p : Path}

def hasText (w : Workspace) (p : Path) : Bool := (w.readText p).toBool

/-- Both workspaces have the same shape, and texts at the same paths. -/
structure SameTexts (w v : Workspace) : Prop where
  shape : w.SameShape v
  hasText_eq : ∀ p, v.hasText p = w.hasText p

theorem SameTexts.refl (w : Workspace) : w.SameTexts w := ⟨.refl w, fun _ => rfl⟩

theorem SameTexts.trans {u : Workspace} (h : w.SameTexts v) (h' : v.SameTexts u) : w.SameTexts u :=
  ⟨h.shape.trans h'.shape, fun p => (h'.hasText_eq p).trans (h.hasText_eq p)⟩

theorem hasText_of_file?_eq_none (h : w.file? p = none) : w.hasText p = false := by
  obtain ⟨reason, hread⟩ := readText_of_file?_eq_none h
  rw [hasText, hread]
  rfl

theorem hasText_of_content? {place : Place} {bytes : ByteArray} (h : w.file? p = some place)
    (hbytes : w.root.content? place = some bytes) : w.hasText p = (ofBytes? bytes).isSome := by
  rw [hasText, readText_eq h hbytes]
  cases ofBytes? bytes <;> rfl

theorem isFile_of_hasText (h : w.hasText p = true) : w.isFile p = true := by
  cases hfile : w.file? p with
  | none =>
    rw [hasText_of_file?_eq_none hfile] at h
    cases h
  | some place => rw [isFile_eq, hfile, Option.isSome_some]

end Workspace

namespace Run

open Workspace

variable {s : Settings} {w v : Workspace} {x : FindingFixer} {dryRun : Bool} {r r' r'' : Report} {g : FileGroup}
  {gs : List FileGroup}

/-! ## Texts stay texts -/

theorem isSome_fixedBytes (fix : Text → Outcome) (bytes : ByteArray) :
    (ofBytes? (fixedBytes fix bytes)).isSome = (ofBytes? bytes).isSome := by
  unfold fixedBytes
  split
  · next before h => rw [ofBytes?_toBytes, h, Option.isSome_some, Option.isSome_some]
  · rfl

theorem sameTexts_fixFile (w : Workspace) (path : Path) (dryRun : Bool) (fix : Text → Outcome) :
    w.SameTexts (fixFile w path dryRun fix).1 := by
  refine ⟨sameShape_fixFile w path dryRun fix, fun p => ?_⟩
  cases dryRun with
  | true => rw [fixFile_dry]
  | false =>
    have hfile := (sameShape_fixFile w path false fix).file?_eq p
    cases hp : w.file? p with
    | none => rw [hasText_of_file?_eq_none hp, hasText_of_file?_eq_none (hfile.trans hp)]
    | some place =>
      obtain ⟨-, bytes, hbytes⟩ := file?_eq_some_iff.mp hp
      have hcontent := content?_fixFile w path fix place
      rw [hasText_of_content? hp hbytes]
      split at hcontent
      · rw [hbytes, Option.map_some] at hcontent
        rw [hasText_of_content? (hfile.trans hp) hcontent, isSome_fixedBytes]
      · rw [hasText_of_content? (hfile.trans hp) (hcontent.trans hbytes)]

/-! ## Entries -/

/-- The path of the file that a group means. -/
def target (s : Settings) (w : Workspace) (g : FileGroup) : Path := s.resolve w g.file

/-- Whether there is a text for the findings of a group. -/
def isHandled (s : Settings) (w : Workspace) (g : FileGroup) : Bool := w.hasText (target s w g)

/-- What some groups add to a report. -/
structure Entered (s : Settings) (w : Workspace) (gs : List FileGroup) (r r' : Report) : Prop where
  files : r'.files.map (·.path) = r.files.map (·.path) ++ (gs.filter (isHandled s w)).map (target s w)
  skipped : r'.skipped.map (·.path) = r.skipped.map (·.path) ++ (gs.filter (!isHandled s w ·)).map (target s w)
  findings : r'.findings = r.findings ++ gs.flatMap (handled s w)

theorem Entered.nil (r : Report) : Entered s w [] r r := by
  constructor <;> simp

theorem Entered.cons (h : Entered s w [g] r r') (h' : Entered s w gs r' r'') : Entered s w (g :: gs) r r'' := by
  obtain ⟨hfiles, hskipped, hfindings⟩ := h
  constructor
  · rw [h'.files, hfiles, List.append_assoc, ← List.map_append, ← List.filter_append, List.singleton_append]
  · rw [h'.skipped, hskipped, List.append_assoc, ← List.map_append, ← List.filter_append, List.singleton_append]
  · rw [h'.findings, hfindings, List.append_assoc, ← List.flatMap_append, List.singleton_append]

theorem entered_noteGroup (h : w.SameTexts v) (r : Report) (g : FileGroup) :
    Entered s w [g] r (noteGroup s w x dryRun r g (v.readText (target s w g))) := by
  have htext := h.hasText_eq (target s w g)
  unfold noteGroup
  cases hfile : w.isFile (target s w g) with
  | false =>
    have hnot : isHandled s w g = false := by
      rw [isHandled, ← Bool.not_eq_true]
      exact fun hhas => Bool.false_ne_true (hfile.symm.trans (isFile_of_hasText hhas))
    rw [target] at hfile
    constructor <;> simp [hfile, hnot, handled, target]
  | true =>
    rw [hasText] at htext
    rw [target] at hfile htext ⊢
    cases hread : v.readText (s.resolve w g.file) with
    | error reason =>
      have hnot : isHandled s w g = false := htext.symm.trans (by rw [hread]; rfl)
      constructor <;> simp [hfile, hnot, handled, verdict, Report.record, target]
    | ok before =>
      have hhas : isHandled s w g = true := htext.symm.trans (by rw [hread]; rfl)
      constructor <;> simp [hfile, hhas, handled, verdict, Report.record, target]

theorem entered_fixGroup (h : w.SameTexts v) (r : Report) (g : FileGroup) :
    w.SameTexts (fixGroup s x dryRun (v, r) g).1 ∧ Entered s w [g] r (fixGroup s x dryRun (v, r) g).2 := by
  rw [fixGroup_eq h.shape]
  exact ⟨h.trans (sameTexts_fixFile v _ dryRun _), entered_noteGroup h r g⟩

theorem entered_foldl_fixGroup (h : w.SameTexts v) (gs : List FileGroup) (r : Report) :
    Entered s w gs r (gs.foldl (fixGroup s x dryRun) (v, r)).2 := by
  induction gs generalizing v r with
  | nil => exact .nil r
  | cons g gs ih =>
    obtain ⟨htexts, hentered⟩ := @entered_fixGroup s w v x dryRun h r g
    rw [List.foldl_cons]
    exact hentered.cons (ih htexts _)

theorem entered_runFindings (s : Settings) (w : Workspace) (t : Text) (x : FindingFixer) (o : Options) :
    ∃ v r, runFindings s w (.text t) x o = (v, .ok r) ∧
      Entered s w (groupsOf s w t x) (Report.start x.name (Analyzer.Source.describe w (.text t)) o.dryRun) r := by
  have hentered := @entered_foldl_fixGroup s w w x o.dryRun (.refl w) (groupsOf s w t x)
    { Report.start x.name (Analyzer.Source.describe w (.text t)) o.dryRun with
      counts := some (Listing.ofText Listing.defaultSeverity t).counts }
  unfold runFindings
  simp only [collect_text]
  cases hagain : o.recheck && !o.dryRun with
  | true => exact ⟨_, _, rfl, hentered.files, hentered.skipped, hentered.findings⟩
  | false => exact ⟨_, _, rfl, hentered.files, hentered.skipped, hentered.findings⟩

/-! ## Accounts -/

/-- Each group has one entry in a report, and the findings of the report are those of the groups that were handled,
in order. -/
structure Accounted (s : Settings) (w : Workspace) (gs : List FileGroup) (r : Report) : Prop where
  number : r.files.length + r.skipped.length = gs.length
  either : ∀ g ∈ gs, target s w g ∈ r.skipped.map (·.path) ↔ target s w g ∉ r.files.map (·.path)
  listed : ∀ g ∈ gs, target s w g ∈ r.files.map (·.path) → ∀ a ∈ g.findings, a ∈ r.findings
  unlisted : ∀ g ∈ gs, target s w g ∈ r.skipped.map (·.path) → ∀ a ∈ g.findings, a ∉ r.findings
  acted : r.findings = (gs.filter (isHandled s w)).flatMap (·.findings)

theorem isHandled_eq {g h : FileGroup} (he : target s w g = target s w h) : isHandled s w g = isHandled s w h := by
  rw [isHandled, isHandled, he]

theorem target_mem_map_filter {q : FileGroup → Bool} (hq : ∀ {g h}, target s w g = target s w h → q g = q h)
    (hg : g ∈ gs) : target s w g ∈ (gs.filter q).map (target s w) ↔ q g = true := by
  rw [List.mem_map]
  constructor
  · rintro ⟨h, hh, htarget⟩
    rw [← hq htarget]
    exact (List.mem_filter.mp hh).2
  · exact fun hhas => ⟨g, List.mem_filter.mpr ⟨hg, hhas⟩, rfl⟩

theorem handled_eq_ite (h : w.isFile (target s w g) = true → w.hasText (target s w g) = true) :
    handled s w g = if isHandled s w g then g.findings else [] := by
  have hsame : w.isFile (target s w g) = isHandled s w g := Bool.eq_iff_iff.mpr ⟨h, isFile_of_hasText⟩
  rw [← hsame]
  rfl

theorem flatMap_handled (h : ∀ g ∈ gs, w.isFile (target s w g) = true → w.hasText (target s w g) = true) :
    gs.flatMap (handled s w) = (gs.filter (isHandled s w)).flatMap (·.findings) := by
  induction gs with
  | nil => rfl
  | cons g gs ih =>
    obtain ⟨hg, hgs⟩ := List.forall_mem_cons.mp h
    rw [List.flatMap_cons, handled_eq_ite hg, ih hgs, List.filter_cons]
    split
    · rw [List.flatMap_cons]
    · rfl

section Start

variable {name source : Text} (h : Entered s w gs (.start name source dryRun) r)

include h

theorem Entered.mem_files_iff (hg : g ∈ gs) : target s w g ∈ r.files.map (·.path) ↔ isHandled s w g = true := by
  have hfiles : r.files.map (·.path) = (gs.filter (isHandled s w)).map (target s w) := h.files
  rw [hfiles, target_mem_map_filter isHandled_eq hg]

theorem Entered.mem_skipped_iff (hg : g ∈ gs) :
    target s w g ∈ r.skipped.map (·.path) ↔ isHandled s w g = false := by
  have hskipped : r.skipped.map (·.path) = (gs.filter (!isHandled s w ·)).map (target s w) := h.skipped
  have hsame : ∀ {g h}, target s w g = target s w h → (!isHandled s w g) = !isHandled s w h := fun he =>
    congrArg Bool.not (isHandled_eq he)
  rw [hskipped, target_mem_map_filter hsame hg, Bool.not_eq_true']

theorem Entered.number : r.files.length + r.skipped.length = gs.length := by
  have hfiles := congrArg List.length h.files
  have hskipped := congrArg List.length h.skipped
  simp only [Report.start, List.map_nil, List.nil_append, List.length_map] at hfiles hskipped
  rw [hfiles, hskipped, ← List.length_eq_length_filter_add]

theorem Entered.mem_findings {a : Finding} (hg : g ∈ gs) (hfile : w.isFile (target s w g) = true)
    (ha : a ∈ g.findings) : a ∈ r.findings := by
  have hfindings : r.findings = gs.flatMap (handled s w) := h.findings
  rw [hfindings, List.mem_flatMap]
  refine ⟨g, hg, ?_⟩
  rw [target] at hfile
  rwa [handled, if_pos hfile]

end Start

/-- A run over a text ends, and each group has one entry: a change if there is a text at its path, and a skipped
file otherwise. The findings of the report are those of the groups whose files are there. So all groups are
accounted for exactly if each file that is there holds a text. -/
theorem accounted_iff (s : Settings) (w : Workspace) (t : Text) (x : FindingFixer) (o : Options) :
    ∃ v r, runFindings s w (.text t) x o = (v, .ok r) ∧
      r.files.map (·.path) = ((groupsOf s w t x).filter (isHandled s w)).map (target s w) ∧
      r.skipped.map (·.path) = ((groupsOf s w t x).filter (!isHandled s w ·)).map (target s w) ∧
      r.findings = (groupsOf s w t x).flatMap (handled s w) ∧
      (Accounted s w (groupsOf s w t x) r ↔
        ∀ g ∈ groupsOf s w t x, w.isFile (target s w g) = true → w.hasText (target s w g) = true) := by
  obtain ⟨v, r, hrun, h⟩ := entered_runFindings s w t x o
  refine ⟨v, r, hrun, h.files, h.skipped, h.findings, fun haccounted g hg hfile => ?_, fun htexts => ?_⟩
  · by_contra hhas
    have hskipped := (h.mem_skipped_iff hg).mpr (Bool.not_eq_true _ ▸ hhas)
    obtain ⟨a, ha⟩ := List.exists_mem_of_ne_nil _ (Selection.findings_ne_nil hg)
    exact haccounted.unlisted g hg hskipped a ha (h.mem_findings hg hfile ha)
  · have hacted : r.findings = ((groupsOf s w t x).filter (isHandled s w)).flatMap (·.findings) :=
      h.findings.trans (flatMap_handled htexts)
    refine ⟨h.number, fun g hg => ?_, fun g hg hmem a ha => ?_, fun g hg hmem a ha hlisted => ?_, hacted⟩
    · rw [h.mem_skipped_iff hg, h.mem_files_iff hg, Bool.not_eq_true]
    · exact h.mem_findings hg (isFile_of_hasText ((h.mem_files_iff hg).mp hmem)) ha
    · -- a finding is of the file of its group, so no other group can have brought it
      rw [hacted, List.mem_flatMap] at hlisted
      obtain ⟨g', hg', ha'⟩ := hlisted
      obtain ⟨hg', hhas⟩ := List.mem_filter.mp hg'
      have hfile : g.file = g'.file := (Selection.mem_accepted_of_mem_findings hg ha).2.symm.trans
        (Selection.mem_accepted_of_mem_findings hg' ha').2
      obtain rfl : g = g' := Selection.eq_of_file_eq hg hg' hfile
      exact Bool.false_ne_true (((h.mem_skipped_iff hg).mp hmem).symm.trans hhas)

/-- A source that is fixed and one that is not there are both accounted for. -/
theorem accounted_iff_missing : ∃ v r,
    runFindings .default library (.text (listingOf ["a.dart", "d.dart"])) .unusedImports ⟨false, false⟩ =
      (v, .ok r) ∧
    r.files.map (·.path) = ["./lib/a.dart".toList] ∧ r.skipped.map (·.path) = ["./lib/d.dart".toList] ∧
    r.findings = [unusedIn "a.dart"] ∧
    Accounted .default library (groupsOf .default library (listingOf ["a.dart", "d.dart"]) .unusedImports) r := by
  have hgroups : groupsOf .default library (listingOf ["a.dart", "d.dart"]) .unusedImports =
      [unusedIn "a.dart", unusedIn "d.dart"].map fun f => ⟨f.file, [f]⟩ :=
    Selection.groups_of_ascending (by decide +kernel) (by decide +kernel)
  obtain ⟨v, r, hrun, hfiles, hskipped, hfindings, hiff⟩ :=
    accounted_iff .default library (listingOf ["a.dart", "d.dart"]) .unusedImports ⟨false, false⟩
  rw [hgroups] at hfiles hskipped hfindings
  refine ⟨v, r, hrun, ?_, ?_, ?_, hiff.mpr ?_⟩
  · rw [hfiles]
    decide +kernel
  · rw [hskipped]
    decide +kernel
  · rw [hfindings]
    decide +kernel
  · rw [hgroups]
    decide +kernel

/-- A source that is no text is skipped, and its finding is listed all the same. -/
theorem listed_without_fix : ∃ v r,
    runFindings .default library (.text (listingOf ["b.dart"])) .unusedImports ⟨false, false⟩ = (v, .ok r) ∧
    r.files.map (·.path) = [] ∧ r.skipped.map (·.path) = ["./lib/b.dart".toList] ∧
    r.findings = [unusedIn "b.dart"] ∧
    ¬Accounted .default library (groupsOf .default library (listingOf ["b.dart"]) .unusedImports) r := by
  have hgroups : groupsOf .default library (listingOf ["b.dart"]) .unusedImports =
      [unusedIn "b.dart"].map fun f => ⟨f.file, [f]⟩ :=
    Selection.groups_of_ascending (by decide +kernel) (by decide +kernel)
  obtain ⟨v, r, hrun, hentered⟩ :=
    entered_runFindings .default library (listingOf ["b.dart"]) .unusedImports ⟨false, false⟩
  rw [hgroups] at hentered ⊢
  have hfiles : r.files.map (·.path) = [] := hentered.files.trans (by decide +kernel)
  have hskipped : r.skipped.map (·.path) = ["./lib/b.dart".toList] := hentered.skipped.trans (by decide +kernel)
  have hfindings : r.findings = [unusedIn "b.dart"] := hentered.findings.trans (by decide +kernel)
  refine ⟨v, r, hrun, hfiles, hskipped, hfindings, fun haccounted => ?_⟩
  have hmem : target .default library ⟨(unusedIn "b.dart").file, [unusedIn "b.dart"]⟩ ∈ r.skipped.map (·.path) := by
    rw [hskipped]
    decide +kernel
  refine haccounted.unlisted _ List.mem_cons_self hmem _ List.mem_cons_self ?_
  rw [hfindings]
  exact List.mem_cons_self

end Run
end Upkeep
