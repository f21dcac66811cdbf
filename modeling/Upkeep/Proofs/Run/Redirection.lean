import Upkeep.Proofs.Run.Isolation
import Upkeep.Proofs.Text.Trimming
import Upkeep.Proofs.Workspace.Steps

/-!
# The file that a finding is for

A run takes away the directory above the project from a reported path and puts it back when nothing is there. It
does not look first whether the reported path leads to a file, so a finding can be applied to another one.

* `LeadsOnlyTo`: a path leads to a certain file or to none.
* `file?_resolve_iff`, `leadsOnlyTo_resolve_iff`: where the path of a group leads.
* `file?_below`, `resolve_below`: put back, the subdirectory leads to the reported file.
* `acted_on_where_reported_iff`: when a finding is applied to no file but its own.
-/

namespace Upkeep

open Text Workspace

/-- A path leads to the file at a place or to no file. -/
def Workspace.LeadsOnlyTo (w : Workspace) (path : Path) (place : Place) : Prop :=
  ∀ q, w.file? path = some q → q = place

theorem Workspace.SameShape.leadsOnlyTo_iff {w v : Workspace} (h : w.SameShape v) (path : Path) (place : Place) :
    v.LeadsOnlyTo path place ↔ w.LeadsOnlyTo path place := by
  rw [LeadsOnlyTo, LeadsOnlyTo, h.file?_eq]

namespace Settings

variable {s : Settings} {w : Workspace} {p : Path} {place : Place}

/-- Where a relative path leads: below the project root, or, if nothing is there, below the subdirectory. -/
theorem file?_resolve_iff (s : Settings) (hp : Path.isAbsolute p = false) : w.file? (s.resolve w p) = some place ↔
    w.file? (Path.join s.projectRoot p) = some place ∨
      w.pathExists (Path.join s.projectRoot p) = false ∧ ∃ sub, s.subdirectoryName? = some sub ∧
        w.file? (Path.join (Path.join s.projectRoot sub) p) = some place := by
  have hnone : ∀ {q : Path}, w.pathExists q = false → w.file? q = none := by
    intro q hq
    by_contra hne
    obtain ⟨other, hother⟩ := Option.ne_none_iff_exists'.mp hne
    rw [pathExists_of_file? hother] at hq
    cases hq
  unfold resolve
  simp only [hp, Bool.false_eq_true, if_false]
  cases hdirect : w.pathExists (Path.join s.projectRoot p) with
  | true => simp
  | false =>
    simp only [Bool.false_eq_true, if_false, hnone hdirect, reduceCtorEq, false_or, true_and]
    cases s.subdirectoryName? with
    | none => simp [hnone hdirect]
    | some sub =>
      cases hbelow : w.pathExists (Path.join (Path.join s.projectRoot sub) p) with
      | true => simp [hbelow]
      | false => simp [hbelow, hnone hdirect, hnone hbelow]

theorem leadsOnlyTo_resolve_iff (hp : Path.isAbsolute p = false) : w.LeadsOnlyTo (s.resolve w p) place ↔
    w.LeadsOnlyTo (Path.join s.projectRoot p) place ∧
      (w.pathExists (Path.join s.projectRoot p) = false → ∀ sub, s.subdirectoryName? = some sub →
        w.LeadsOnlyTo (Path.join (Path.join s.projectRoot sub) p) place) := by
  simp only [LeadsOnlyTo, file?_resolve_iff s hp]
  constructor
  · intro h
    exact ⟨fun q hq => h q (.inl hq), fun hnone sub hsub q hq => h q (.inr ⟨hnone, sub, hsub, hq⟩)⟩
  · rintro ⟨hdirect, hbelow⟩ q (hq | ⟨hnone, sub, hsub, hq⟩)
    · exact hdirect q hq
    · exact hbelow hnone sub hsub q hq

/-- A path with the subdirectory in front leads to the same file as one that is looked for below the
subdirectory. -/
theorem file?_below {head : Text} (hhead : s.subdirectory = some head) (hend : Text.endsWith ['/'] head = true)
    (hp : p ≠ []) (hrel : Path.isAbsolute p = false) (habove : Path.isAbsolute (head ++ p) = false)
    (hfile : w.file? (Path.join s.projectRoot (head ++ p)) = some place) :
    ∃ sub, s.subdirectoryName? = some sub ∧
      w.file? (Path.join (Path.join s.projectRoot sub) p) = some place := by
  obtain ⟨slashes, hslashes, hall⟩ := exists_eq_dropEndWhile_append (· == '/') head
  have hsubEnd := endsWith_dropEndWhile '/' head
  have hslash : ∀ c ∈ slashes, c = '/' := fun c hc => by simpa using hall c hc
  cases slashes with
  | nil =>
    rw [List.append_nil] at hslashes
    rw [← hslashes, hend] at hsubEnd
    cases hsubEnd
  | cons c slashes =>
    obtain ⟨rfl, hrest⟩ := List.forall_mem_cons.mp hslash
    have hname : s.subdirectoryName? = some (dropEndWhile (· == '/') head) ∨
        dropEndWhile (· == '/') head = [] := by
      by_cases hn : dropEndWhile (· == '/') head = []
      · exact .inr hn
      · exact .inl (by simp [subdirectoryName?, hhead, hn])
    generalize dropEndWhile (· == '/') head = sub at hslashes hsubEnd hname
    obtain ⟨hlocate, hbytes⟩ := file?_eq_some_iff.mp hfile
    rw [hslashes, List.append_assoc, List.cons_append] at habove hlocate
    have hsub : sub ≠ [] := by
      rintro rfl
      cases habove
    refine ⟨sub, hname.resolve_right hsub, file?_eq_some_iff.mpr ⟨?_, hbytes⟩⟩
    rw [isAbsolute_append hsub] at habove
    rw [locate_join_join hsub habove hsubEnd hrest hp hrel (flaw?_of_locate hlocate)]
    exact hlocate

theorem resolve_below {head : Text} (hhead : s.subdirectory = some head) (hend : Text.endsWith ['/'] head = true)
    (hp : p ≠ []) (hrel : Path.isAbsolute p = false) (habove : Path.isAbsolute (head ++ p) = false)
    (hfile : w.file? (Path.join s.projectRoot (head ++ p)) = some place) :
    (w.LeadsOnlyTo (s.resolve w p) place ↔ w.LeadsOnlyTo (Path.join s.projectRoot p) place) ∧
      (w.pathExists (Path.join s.projectRoot p) = false → w.file? (s.resolve w p) = some place) := by
  obtain ⟨sub, hsub, hbelow⟩ := file?_below hhead hend hp hrel habove hfile
  rw [leadsOnlyTo_resolve_iff hrel, file?_resolve_iff s hrel]
  refine ⟨and_iff_left ?_, fun hnone => .inr ⟨hnone, sub, hsub, hbelow⟩⟩
  intro _ sub' hsub' q hq
  obtain rfl := Option.some.inj (hsub.symm.trans hsub')
  exact Option.some.inj (hq.symm.trans hbelow)

end Settings

namespace Run

variable {s : Settings} {w v : Workspace} {x : FindingFixer} {f a : Finding} {place : Place}

theorem isAbsolute_of_accepted {rules : List Text} (h : (selection s w rules).accept? f = some a) :
    a.file ≠ [] ∧ Path.isAbsolute a.file = false := by
  have hscope : (selection s w rules).inScope a.file = true := by
    unfold Selection.accept? at h
    dsimp only at h
    split at h
    · next hw =>
      obtain rfl := Option.some.inj h
      exact (Bool.and_eq_true_iff.mp hw).2
    · cases h
  obtain ⟨rest, hrest⟩ := startsWith_iff.mp hscope
  rw [hrest]
  exact ⟨by simp [Selection.defaultScope], rfl⟩

theorem sameShape_foldl_fixGroup (h : w.SameShape v) (dryRun : Bool) (gs : List FileGroup) (r : Report) :
    w.SameShape (gs.foldl (fixGroup s x dryRun) (v, r)).1 := by
  induction gs generalizing v r with
  | nil => exact h
  | cons g gs ih =>
    rw [List.foldl_cons, fixGroup_eq (.refl v)]
    exact ih (h.trans (sameShape_fixFile _ _ _ _)) _

theorem content?_fixGroup (r : Report) (g : FileGroup) {q : Place}
    (h : v.file? (s.resolve v g.file) ≠ some q) :
    (fixGroup s x false (v, r) g).1.root.content? q = v.root.content? q := by
  rw [fixGroup_eq (.refl v), content?_fixFile, if_neg h]

/-- The file that a finding is applied to, at the turn of the only group of its path, if the path that was reported
leads to a file. It is that file, or the finding is not acted on, exactly when the path as the run spells it leads
to no other file: below the project root, and, if nothing is there, below the subdirectory. So it is when the run
keeps the path as it was reported, and with the subdirectory taken away it hangs only on what is below the project
root. No other file is changed. -/
theorem acted_on_where_reported_iff (s : Settings) (w : Workspace) (t : Text) (x : FindingFixer)
    (hf : f ∈ (Listing.ofText Listing.defaultSeverity t).findings)
    (ha : (selection s w x.rules).accept? f = some a) (hrel : Path.isAbsolute f.file = false)
    (hfile : w.file? (Path.join s.projectRoot f.file) = some place) :
    ∃ before g after, groupsOf s w t x = before ++ g :: after ∧ g.file = a.file ∧
      (∀ h ∈ groupsOf s w t x, h.file = a.file → h = g) ∧
      (∃ b ∈ g.findings, Finding.samePlace b a = true) ∧
      ∀ r, let state := before.foldl (fixGroup s x false) (w, r)
        let path := s.resolve state.1 g.file
        (state.1.LeadsOnlyTo path place ↔
          w.LeadsOnlyTo (Path.join s.projectRoot a.file) place ∧
            (w.pathExists (Path.join s.projectRoot a.file) = false → ∀ sub, s.subdirectoryName? = some sub →
              w.LeadsOnlyTo (Path.join (Path.join s.projectRoot sub) a.file) place)) ∧
        (a.file = f.file → state.1.file? path = some place) ∧
        (∀ head, s.subdirectory = some head → Text.endsWith ['/'] head = true → f.file = head ++ a.file →
          (state.1.LeadsOnlyTo path place ↔ w.LeadsOnlyTo (Path.join s.projectRoot a.file) place) ∧
          (w.pathExists (Path.join s.projectRoot a.file) = false → state.1.file? path = some place)) ∧
        ∀ q, state.1.file? path ≠ some q →
          (fixGroup s x false state g).1.root.content? q = state.1.root.content? q := by
  obtain ⟨hne, harel⟩ := isAbsolute_of_accepted ha
  obtain ⟨g, hg, hgfile, hkept⟩ := Selection.exists_mem_groups hf ha
  obtain ⟨before, after, hsplit⟩ := List.append_of_mem hg
  have honly : ∀ h ∈ groupsOf s w t x, h.file = a.file → h = g := fun h hh he =>
    Selection.eq_of_file_eq hh hg (he.trans hgfile.symm)
  refine ⟨before, g, after, hsplit, hgfile, honly, hkept, fun r => ?_⟩
  have hshape := sameShape_foldl_fixGroup (s := s) (x := x) (.refl w) false before r
  generalize before.foldl (fixGroup s x false) (w, r) = state at hshape
  obtain ⟨v, r⟩ := state
  dsimp only at hshape ⊢
  rw [Settings.resolve_eq hshape, hshape.leadsOnlyTo_iff, hshape.file?_eq, hgfile]
  refine ⟨Settings.leadsOnlyTo_resolve_iff harel, ?_, ?_, fun q hq => ?_⟩
  · intro hsame
    rw [Settings.file?_resolve_iff s harel, hsame]
    exact .inl hfile
  · intro head hhead hend hstripped
    rw [hstripped] at hrel hfile
    exact Settings.resolve_below hhead hend hne harel hrel hfile
  · refine content?_fixGroup r g ?_
    rwa [Settings.resolve_eq hshape, hgfile, hshape.file?_eq]

def unusedImportSource : ByteArray := toBytes "import 'a';\nf();\n".toList

/-- A project below another directory, beside other entries there. -/
def monorepoWith (others : Dir) : Workspace :=
  let project := Dir.sub "lib".toList (.file "a.dart".toList unusedImportSource .empty) .empty
  ⟨.sub "jive-flutter".toList project others, []⟩

def reportedAbove : Finding :=
  ⟨.warning, "Unused import: 'a'".toList, "jive-flutter/lib/a.dart".toList, 1, 8, Rule.unusedImport⟩

def reportedBelow : Finding := { reportedAbove with file := "lib/a.dart".toList }

/-- Without a library of its own above the project, the finding is applied to its file. -/
theorem acted_on_below_subdirectory :
    reportedAbove ∈ (Listing.ofText Listing.defaultSeverity reportedAbove.display).findings ∧
    (selection .default (monorepoWith .empty) FindingFixer.unusedImports.rules).accept? reportedAbove =
      some reportedBelow ∧
    ∃ before g after,
      groupsOf .default (monorepoWith .empty) reportedAbove.display .unusedImports = before ++ g :: after ∧
      g.file = reportedBelow.file ∧
      ∀ r, let state := before.foldl (fixGroup .default .unusedImports false) (monorepoWith .empty, r)
        state.1.file? (Settings.default.resolve state.1 g.file) =
          some ["jive-flutter".toList, "lib".toList, "a.dart".toList] := by
  have hf : reportedAbove ∈ (Listing.ofText Listing.defaultSeverity reportedAbove.display).findings := by
    decide +kernel
  have ha : (selection .default (monorepoWith .empty) FindingFixer.unusedImports.rules).accept? reportedAbove =
      some reportedBelow := by decide +kernel
  have hplace : (monorepoWith .empty).file? (Path.join Settings.default.projectRoot reportedAbove.file) =
      some ["jive-flutter".toList, "lib".toList, "a.dart".toList] := by decide +kernel
  obtain ⟨before, g, after, hsplit, hfile, -, -, hturn⟩ := acted_on_where_reported_iff
    .default (monorepoWith .empty) _ .unusedImports hf ha rfl hplace
  refine ⟨hf, ha, before, g, after, hsplit, hfile, fun r => ?_⟩
  obtain ⟨-, -, hbelow, -⟩ := hturn r
  exact (hbelow "jive-flutter/".toList rfl (by decide +kernel) (by decide +kernel)).2 (by decide +kernel)

def libraryAbove : Dir := .sub "lib".toList (.file "a.dart".toList unusedImportSource .empty) .empty

theorem groupsOf_monorepo :
    groupsOf .default (monorepoWith libraryAbove) reportedAbove.display .unusedImports =
      [reportedBelow].map fun a => ⟨a.file, [a]⟩ :=
  Selection.groups_of_ascending (by decide +kernel) (by decide +kernel)

/-- With a library above the project, the finding is applied to a file there, and its own file stays as it is. -/
theorem other_file_rewritten :
    reportedAbove ∈ (Listing.ofText Listing.defaultSeverity reportedAbove.display).findings ∧
    Path.isAbsolute reportedAbove.file = false ∧
    (monorepoWith libraryAbove).file? (Path.join Settings.default.projectRoot reportedAbove.file) =
      some ["jive-flutter".toList, "lib".toList, "a.dart".toList] ∧
    ∃ v r, runFindings .default (monorepoWith libraryAbove) (.text reportedAbove.display) .unusedImports
        ⟨false, false⟩ = (v, .ok r) ∧
      r.findings = [reportedBelow] ∧
      r.files.map (fun c => (c.path, c.written)) = [("./lib/a.dart".toList, true)] ∧
      v.root.content? ["lib".toList, "a.dart".toList] = some (toBytes "f();\n".toList) ∧
      v.root.content? ["jive-flutter".toList, "lib".toList, "a.dart".toList] = some unusedImportSource := by
  refine ⟨by decide +kernel, rfl, by decide +kernel, ?_⟩
  have hapart : (monorepoWith libraryAbove).Apart
      ((groupsOf .default (monorepoWith libraryAbove) reportedAbove.display .unusedImports).map fun g =>
        Settings.default.resolve (monorepoWith libraryAbove) g.file) := by
    rw [groupsOf_monorepo]
    exact List.pairwise_singleton _ _
  obtain ⟨v, hrun, -, hfixed, hkept⟩ := runFindings_real (x := .unusedImports) false hapart
  have hlib : (monorepoWith libraryAbove).file? (Settings.default.resolve (monorepoWith libraryAbove)
      reportedBelow.file) = some ["lib".toList, "a.dart".toList] := by decide +kernel
  rw [groupsOf_monorepo] at hfixed hkept
  refine ⟨v, _, hrun, ?_, ?_, ?_, ?_⟩
  · rw [report, groupsOf_monorepo]
    decide +kernel
  · rw [report, groupsOf_monorepo]
    decide +kernel
  · rw [hfixed _ List.mem_cons_self _ hlib]
    decide +kernel
  · rw [hkept]
    · rfl
    · intro g hg
      obtain rfl := List.mem_singleton.mp hg
      rw [hlib]
      decide +kernel

end Run
end Upkeep
