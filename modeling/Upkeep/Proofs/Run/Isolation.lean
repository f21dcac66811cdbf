import Mathlib.Data.List.Pairwise
import Upkeep.Proofs.Run.Findings

/-!
# Files are isolated from each other

A run that writes handles each file as if it were the only one, as long as no two groups mean the same
file.

* `FixedAlone`: the workspace behind a run, file by file.
* `SameTarget`: what a group hangs on. Other files may get any bytes (`SameTarget.of_sameShape`).
* `SameRecord`: two runs that say and write the same of a file.
* `files_handled_alone`: all of it for one run, and for two runs of different listings on different
  workspaces.
-/

namespace Upkeep.Run

open Text Workspace

/-- The workspace behind a run: each file of a group has the text that the findings of that group make of its
own, unless its bytes are no text, and all other files are what they were. -/
structure FixedAlone (s : Settings) (w : Workspace) (x : FindingFixer) (gs : List FileGroup)
    (v : Workspace) : Prop where
  fixed : ∀ g ∈ gs, v.bytes? (s.resolve w g.file) =
    (w.bytes? (s.resolve w g.file)).map (fixedBytes (x.fix · g.findings))
  others : ∀ q, (∀ g ∈ gs, w.file? (s.resolve w g.file) ≠ some q) →
    v.root.content? q = w.root.content? q
  shape : w.SameShape v

/-- A group means the same path in both workspaces, and the bytes there are the same. -/
structure SameTarget (s : Settings) (w v : Workspace) (g : FileGroup) : Prop where
  path : s.resolve v g.file = s.resolve w g.file
  bytes : v.bytes? (s.resolve w g.file) = w.bytes? (s.resolve w g.file)

/-- Two runs say the same of the file at a path, and write the same. -/
structure SameRecord (path : Path) (v : Workspace) (r : Report) (v' : Workspace) (r' : Report) : Prop where
  files : ∀ c, c.path = path → (c ∈ r'.files ↔ c ∈ r.files)
  skipped : ∀ c, c.path = path → (c ∈ r'.skipped ↔ c ∈ r.skipped)
  bytes : v'.bytes? path = v.bytes? path

variable {s : Settings} {w v : Workspace} {x : FindingFixer} {dryRun : Bool} {path : Path}
  {fs : List Finding} {g : FileGroup} {gs : List FileGroup} {c : FileChange} {f : SkippedFile}

theorem SameTarget.of_sameShape (h : w.SameShape v) (hbytes : ∀ q, w.file? (s.resolve w g.file) = some q →
    v.root.content? q = w.root.content? q) : SameTarget s w v g := by
  refine ⟨Settings.resolve_eq h s g.file, ?_⟩
  cases hf : w.file? (s.resolve w g.file) with
  | none => rw [bytes?_eq_none_iff.mpr hf, bytes?_eq_none_iff.mpr ((h.file?_eq _).trans hf)]
  | some q => rw [bytes?_eq hf, bytes?_eq ((h.file?_eq _).trans hf), hbytes q hf]

/-! ## Entries -/

theorem noted_eq_ok {fix : Text → Outcome} {read : Except FileError Text}
    (h : noted path dryRun fix read = .ok c) : c.path = path := by
  cases read with
  | error reason => cases h
  | ok before =>
    obtain rfl := Except.ok.inj h
    rfl

theorem noted_eq_error {fix : Text → Outcome} {read : Except FileError Text}
    (h : noted path dryRun fix read = .error f) :
    f.path = path ∧ ∀ fix', noted path dryRun fix' read = .error f := by
  cases read with
  | error reason =>
    obtain rfl := Except.error.inj h
    exact ⟨rfl, fun _ => rfl⟩
  | ok before => cases h

theorem entry_eq_ok {bytes? : Option ByteArray} (h : entry x dryRun path fs bytes? = .ok c) :
    c.path = path ∧ bytes? ≠ none := by
  cases bytes? with
  | none => cases h
  | some bytes => exact ⟨noted_eq_ok h, by simp⟩

theorem entry_eq_error {bytes? : Option ByteArray} (h : entry x dryRun path fs bytes? = .error f) :
    f.path = path ∧ ∀ fs', entry x dryRun path fs' bytes? = .error f := by
  cases bytes? with
  | none =>
    obtain rfl := Except.error.inj h
    exact ⟨rfl, fun _ => rfl⟩
  | some bytes =>
    obtain ⟨hpath, hall⟩ := noted_eq_error h
    exact ⟨hpath, fun fs' => hall (x.fix · fs')⟩

theorem SameTarget.entryOf_eq (h : SameTarget s w v g) : entryOf s v x dryRun g = entryOf s w x dryRun g := by
  rw [entryOf, entryOf, h.path, h.bytes]

theorem file?_ne_none_of_entryOf (h : entryOf s w x dryRun g = .ok c) :
    c.path = s.resolve w g.file ∧ w.file? (s.resolve w g.file) ≠ none := by
  obtain ⟨hpath, hbytes⟩ := entry_eq_ok h
  exact ⟨hpath, fun hn => hbytes (bytes?_eq_none_iff.mpr hn)⟩

/-! ## The entries at a path -/

section Apart

variable (hapart : w.Apart (gs.map fun g => s.resolve w g.file))

include hapart in
theorem eq_of_resolve_eq {h : FileGroup} (hg : g ∈ gs) (hh : h ∈ gs)
    (he : s.resolve w h.file = s.resolve w g.file) (hfile : w.file? (s.resolve w g.file) ≠ none) : h = g := by
  by_contra hne
  have hsymm : Std.Symm fun g h : FileGroup => w.LeadApart (s.resolve w g.file) (s.resolve w h.file) :=
    ⟨fun _ _ => Std.Symm.symm _ _⟩
  rcases (List.pairwise_map.mp hapart).forall hh hg hne with hn | hn
  · exact hfile (he ▸ hn)
  · exact hn (by rw [he])

include hapart in
theorem mem_changes_iff_of_path (hg : g ∈ gs) (hc : c.path = s.resolve w g.file) :
    c ∈ changes (gs.map (entryOf s w x dryRun)) ↔ entryOf s w x dryRun g = .ok c := by
  rw [mem_changes_iff, List.mem_map]
  constructor
  · rintro ⟨h, hh, hentry⟩
    obtain ⟨hpath, hfile⟩ := file?_ne_none_of_entryOf hentry
    have he := hpath.symm.trans hc
    obtain rfl := eq_of_resolve_eq hapart hg hh he (he ▸ hfile)
    exact hentry
  · exact fun hentry => ⟨g, hg, hentry⟩

omit hapart in
theorem mem_skips_iff_of_path (hg : g ∈ gs) (hf : f.path = s.resolve w g.file) :
    f ∈ skips (gs.map (entryOf s w x dryRun)) ↔ entryOf s w x dryRun g = .error f := by
  rw [mem_skips_iff, List.mem_map]
  constructor
  · rintro ⟨h, hh, hentry⟩
    obtain ⟨hpath, hall⟩ := entry_eq_error hentry
    have he := hpath.symm.trans hf
    rw [entryOf, ← he]
    exact hall g.findings
  · exact fun hentry => ⟨g, hg, hentry⟩

include hapart in
theorem nodup_paths_changes : ((changes (gs.map (entryOf s w x dryRun))).map (·.path)).Nodup := by
  refine List.pairwise_map.mpr (List.pairwise_filterMap.mpr (List.pairwise_map.mpr ?_))
  refine (List.pairwise_map.mp hapart).imp fun {g h} hgh c hc d hd he => ?_
  have hgc : entryOf s w x dryRun g = .ok c := by
    cases hg : entryOf s w x dryRun g <;> simp_all [Except.toOption]
  have hhd : entryOf s w x dryRun h = .ok d := by
    cases hh : entryOf s w x dryRun h <;> simp_all [Except.toOption]
  obtain ⟨hcpath, hfile⟩ := file?_ne_none_of_entryOf hgc
  obtain ⟨hdpath, -⟩ := file?_ne_none_of_entryOf hhd
  rcases hgh with hn | hn
  · exact hfile hn
  · exact hn (by rw [← hcpath, he, hdpath])

end Apart

/-! ## Runs -/

theorem FixedAlone.of_content? (hshape : w.SameShape v)
    (hfixed : ∀ g ∈ gs, ∀ q, w.file? (s.resolve w g.file) = some q →
      v.root.content? q = (w.root.content? q).map (fixedBytes (x.fix · g.findings)))
    (hothers : ∀ q, (∀ g ∈ gs, w.file? (s.resolve w g.file) ≠ some q) →
      v.root.content? q = w.root.content? q) : FixedAlone s w x gs v := by
  refine ⟨fun g hg => ?_, hothers, hshape⟩
  cases hfile : w.file? (s.resolve w g.file) with
  | none =>
    rw [bytes?_eq_none_iff.mpr hfile, bytes?_eq_none_iff.mpr ((hshape.file?_eq _).trans hfile)]
    rfl
  | some q => rw [bytes?_eq hfile, bytes?_eq ((hshape.file?_eq _).trans hfile), hfixed g hg q hfile]

theorem FixedAlone.bytes?_eq {w' v' : Workspace} {gs' : List FileGroup} (h : FixedAlone s w x gs v)
    (h' : FixedAlone s w' x gs' v') (hg : g ∈ gs) (hg' : g ∈ gs') (hsame : SameTarget s w w' g) :
    v'.bytes? (s.resolve w g.file) = v.bytes? (s.resolve w g.file) := by
  rw [h.fixed g hg, ← hsame.path, h'.fixed g hg', hsame.path, hsame.bytes]

/-- A run that writes handles each file as if it were the only one. Each group has one entry, in the order of the
files; its file is fixed by its own findings, if there is a text, and all other bytes stay. What a run says and
writes of a group is the same in a run of any other listing on any other workspace in which the group and its
file are the same, whatever else these hold. -/
theorem files_handled_alone (s : Settings) (w : Workspace) (t : Text) (x : FindingFixer) (recheck : Bool)
    (hapart : w.Apart ((groupsOf s w t x).map fun g => s.resolve w g.file)) :
    ∃ v r, runFindings s w (.text t) x ⟨false, recheck⟩ = (v, .ok r) ∧
      (groupsOf s w t x).Pairwise Selection.comesBefore ∧
      r.files = changes ((groupsOf s w t x).map (entryOf s w x false)) ∧
      r.skipped = skips ((groupsOf s w t x).map (entryOf s w x false)) ∧
      (r.files.map (·.path)).Nodup ∧
      FixedAlone s w x (groupsOf s w t x) v ∧
      (∀ w' g, w.SameShape w' →
        (∀ q, w.file? (s.resolve w g.file) = some q → w'.root.content? q = w.root.content? q) →
        SameTarget s w w' g) ∧
      ∀ w' t' recheck' v' r',
        w'.Apart ((groupsOf s w' t' x).map fun g => s.resolve w' g.file) →
        runFindings s w' (.text t') x ⟨false, recheck'⟩ = (v', .ok r') →
        ∀ g ∈ groupsOf s w t x, g ∈ groupsOf s w' t' x → SameTarget s w w' g →
          SameRecord (s.resolve w g.file) v r v' r' := by
  obtain ⟨v, hrun, hshape, hfixed, hothers⟩ := runFindings_real (x := x) recheck hapart
  have halone := FixedAlone.of_content? hshape hfixed hothers
  refine ⟨v, _, hrun, Selection.pairwise_groups _ _, rfl, rfl, nodup_paths_changes hapart, halone,
    fun w' g => SameTarget.of_sameShape, ?_⟩
  intro w' t' recheck' v' r' hapart' hrun' g hg hg' hsame
  obtain ⟨u, hu, hshape', hfixed', hothers'⟩ := runFindings_real (x := x) recheck' hapart'
  obtain ⟨rfl, hr⟩ := Prod.mk.inj (hrun'.symm.trans hu)
  obtain rfl := Except.ok.inj hr
  have hentry : entryOf s w' x false g = entryOf s w x false g := hsame.entryOf_eq
  refine ⟨fun c hc => ?_, fun f hf => ?_,
    halone.bytes?_eq (.of_content? hshape' hfixed' hothers') hg hg' hsame⟩
  · have hc' : c.path = s.resolve w' g.file := hc.trans hsame.path.symm
    exact (mem_changes_iff_of_path hapart' hg' hc').trans
      (hentry ▸ (mem_changes_iff_of_path hapart hg hc).symm)
  · have hf' : f.path = s.resolve w' g.file := hf.trans hsame.path.symm
    exact (mem_skips_iff_of_path hg' hf').trans (hentry ▸ (mem_skips_iff_of_path hg hf).symm)

/-- Three sources, of which the second is no text and the third has some bytes. -/
def sourcesWith (last : ByteArray) : Dir :=
  let c := Dir.file "c.dart".toList last .empty
  let b := Dir.file "b.dart".toList ⟨#[0xff]⟩ c
  .file "a.dart".toList (toBytes "import 'a';\nf();\n".toList) b

def libraryWith (last : ByteArray) : Workspace := ⟨.sub "lib".toList (sourcesWith last) .empty, []⟩

def library : Workspace := libraryWith (toBytes "f();\n".toList)

def damagedLibrary : Workspace := libraryWith ⟨#[0xff]⟩

theorem sameShape_damagedLibrary : library.SameShape damagedLibrary := by
  have hc : library.root.content? ["lib".toList, "c.dart".toList] = some (toBytes "f();\n".toList) := rfl
  exact .of_outline (Workspace.outline_put hc ⟨#[0xff]⟩)

/-- A finding on the first line of a source of the library. -/
def unusedIn (name : String) : Finding :=
  ⟨.warning, "Unused import: 'a'".toList, "lib/".toList ++ name.toList, 1, 8, Rule.unusedImport⟩

/-- The listing of findings on the first lines of some sources. -/
def listingOf (names : List String) : Text := ['\n'].intercalate (names.map fun n => (unusedIn n).display)

theorem groupsOf_library :
    groupsOf .default library (listingOf ["a.dart", "b.dart", "d.dart"]) .unusedImports =
      [unusedIn "a.dart", unusedIn "b.dart", unusedIn "d.dart"].map fun f => ⟨f.file, [f]⟩ :=
  Selection.groups_of_ascending (by decide +kernel) (by decide +kernel)

theorem groupsOf_damagedLibrary :
    groupsOf .default damagedLibrary (listingOf ["a.dart", "c.dart"]) .unusedImports =
      [unusedIn "a.dart", unusedIn "c.dart"].map fun f => ⟨f.file, [f]⟩ :=
  Selection.groups_of_ascending (by decide +kernel) (by decide +kernel)

/-- The first source is fixed beside one that is no text and one that is not there, and it is fixed alike when
the third source is reported too and is no text either. -/
theorem files_handled_alone_beside_damage :
    library.Apart ((groupsOf .default library (listingOf ["a.dart", "b.dart", "d.dart"]) .unusedImports).map
      fun g => Settings.default.resolve library g.file) ∧
    ∃ v r v' r',
      runFindings .default library (.text (listingOf ["a.dart", "b.dart", "d.dart"])) .unusedImports
        ⟨false, false⟩ = (v, .ok r) ∧
      r.files.map (·.path) = ["./lib/a.dart".toList] ∧
      r.skipped.map (·.path) = ["./lib/b.dart".toList, "./lib/d.dart".toList] ∧
      v.bytes? "./lib/a.dart".toList = some (toBytes "f();\n".toList) ∧
      runFindings .default damagedLibrary (.text (listingOf ["a.dart", "c.dart"])) .unusedImports
        ⟨false, true⟩ = (v', .ok r') ∧
      SameRecord "./lib/a.dart".toList v r v' r' := by
  have hapart : library.Apart ((groupsOf .default library (listingOf ["a.dart", "b.dart", "d.dart"])
      .unusedImports).map fun g => Settings.default.resolve library g.file) := by
    rw [groupsOf_library]
    decide +kernel
  have hapart' : damagedLibrary.Apart ((groupsOf .default damagedLibrary (listingOf ["a.dart", "c.dart"])
      .unusedImports).map fun g => Settings.default.resolve damagedLibrary g.file) := by
    rw [groupsOf_damagedLibrary]
    decide +kernel
  obtain ⟨v, r, hrun, -, hfiles, hskipped, -, halone, htarget, hother⟩ :=
    files_handled_alone .default library _ .unusedImports false hapart
  obtain ⟨v', r', hrun', -⟩ := files_handled_alone .default damagedLibrary _ .unusedImports true hapart'
  let g : FileGroup := ⟨(unusedIn "a.dart").file, [unusedIn "a.dart"]⟩
  have hpath : Settings.default.resolve library g.file = "./lib/a.dart".toList := by decide +kernel
  have hg : g ∈ groupsOf .default library (listingOf ["a.dart", "b.dart", "d.dart"]) .unusedImports := by
    rw [groupsOf_library]
    exact List.mem_cons_self
  have hg' : g ∈ groupsOf .default damagedLibrary (listingOf ["a.dart", "c.dart"]) .unusedImports := by
    rw [groupsOf_damagedLibrary]
    exact List.mem_cons_self
  have hfile : library.file? (Settings.default.resolve library g.file) =
      some ["lib".toList, "a.dart".toList] := by decide +kernel
  have hsame : SameTarget .default library damagedLibrary g := by
    refine htarget damagedLibrary g sameShape_damagedLibrary fun q hq => ?_
    obtain rfl := Option.some.inj (hfile.symm.trans hq)
    rfl
  refine ⟨hapart, v, r, v', r', hrun, ?_, ?_, ?_, hrun', ?_⟩
  · rw [hfiles, groupsOf_library]
    decide +kernel
  · rw [hskipped, groupsOf_library]
    decide +kernel
  · rw [← hpath, halone.fixed g hg]
    decide +kernel
  · rw [← hpath]
    exact hother damagedLibrary _ true v' r' hapart' hrun' g hg hg' hsame

end Upkeep.Run
