import Mathlib.Data.List.Basic
import Upkeep.Proofs.FileTree
import Upkeep.Workspace

/-!
# Access to files

Where a path leads hangs on the shape of a workspace alone, so it stays the same when files get other
bytes.

* `file? w p`: the place of the file at a path, and `bytes? w p`: its bytes.
* `SameShape.locate_eq`, `SameShape.file?_eq`: in workspaces of the same shape a path leads to the same
  place.
* `outline w`: the workspace with nothing in its files. It tells the shape (`SameShape.of_outline`).
* `Apart`: no two of some paths lead to one file.
* `readText_eq`, `writeText_eq`: a file that is there is read from its place and written to it. Writing it
  does not fail.
-/

namespace Upkeep.Workspace

open Text

def file? (w : Workspace) (p : Path) : Option Place :=
  match w.locate p with
  | .ok place => if (w.root.content? place).isSome then some place else none
  | .error _ => none

def bytes? (w : Workspace) (p : Path) : Option ByteArray := (w.file? p).bind w.root.content?

/-- Both workspaces have their files and their directories at the same places. -/
structure SameShape (w v : Workspace) : Prop where
  here : v.here = w.here
  root : w.root.SameShape v.root

variable {w v : Workspace} {p : Path} {place : Place} {bytes : ByteArray}

theorem file?_eq_some_iff : w.file? p = some place ↔
    w.locate p = .ok place ∧ ∃ bytes, w.root.content? place = some bytes := by
  unfold file?
  cases w.locate p with
  | error reason => simp
  | ok other =>
    simp only [Except.ok.injEq, ← Option.isSome_iff_exists]
    split
    · next h =>
      rw [Option.some_inj]
      constructor
      · rintro rfl
        exact ⟨rfl, h⟩
      · exact And.left
    · next h =>
      constructor
      · intro hn
        cases hn
      · rintro ⟨rfl, hs⟩
        exact absurd hs h

theorem bytes?_eq (h : w.file? p = some place) : w.bytes? p = w.root.content? place := by
  rw [bytes?, h, Option.bind_some]

theorem bytes?_eq_none_iff : w.bytes? p = none ↔ w.file? p = none := by
  cases h : w.file? p with
  | none => simp [bytes?, h]
  | some place =>
    obtain ⟨-, bytes, hbytes⟩ := file?_eq_some_iff.mp h
    simp [bytes?_eq h, hbytes]

theorem node_eq (h : w.locate p = .ok place) : w.node p =
    match w.root.lookup? place with
    | some n => .ok n
    | none => .error .notFound := by
  rw [node, h]
  rfl

theorem locate_of_node {n : Node} (h : w.node p = .ok n) :
    ∃ place, w.locate p = .ok place ∧ w.root.lookup? place = some n := by
  cases hl : w.locate p with
  | error reason => simp [node, hl, Except.bind] at h
  | ok place =>
    refine ⟨place, rfl, ?_⟩
    rw [node_eq hl] at h
    cases hn : w.root.lookup? place with
    | none => simp [hn] at h
    | some other => simpa [hn] using h

theorem isFile_eq (w : Workspace) (p : Path) : w.isFile p = (w.file? p).isSome := by
  unfold isFile file?
  cases h : w.locate p with
  | error reason => simp [node, h, Except.bind]
  | ok place =>
    rw [node_eq h]
    cases hl : w.root.lookup? place with
    | none => simp [Dir.content?, hl]
    | some node => cases node <;> simp [Dir.content?, hl]

theorem pathExists_of_locate (h : w.locate p = .ok place) :
    w.pathExists p = (w.root.lookup? place).isSome := by
  rw [pathExists, node_eq h]
  cases w.root.lookup? place <;> rfl

theorem pathExists_of_file? (h : w.file? p = some place) : w.pathExists p = true := by
  obtain ⟨hl, bytes, hb⟩ := file?_eq_some_iff.mp h
  rw [pathExists_of_locate hl, Dir.content?_eq_some_iff.mp hb]
  rfl

/-! ## Following paths -/

theorem follow_append (d : Dir) (place : Place) (first rest : List Text) :
    follow d place (first ++ rest) = (follow d place first).bind fun place => follow d place rest := by
  induction first generalizing place with
  | nil => rfl
  | cons step first ih =>
    rw [List.cons_append, follow, follow]
    split
    · rfl
    · rfl
    · simp only [ih]
      split_ifs <;> rfl

theorem follow_congr {d e : Dir} (h : d.SameShape e) (place : Place) (steps : List Text) :
    follow e place steps = follow d place steps := by
  induction steps generalizing place with
  | nil => rfl
  | cons step rest ih =>
    rw [follow, follow]
    cases hd : d.lookup? place with
    | none => rw [h.lookup?_eq_none hd]
    | some node =>
      cases node with
      | file bytes =>
        obtain ⟨other, he⟩ := h.lookup?_eq_file hd
        rw [he]
      | dir entries =>
        obtain ⟨others, he⟩ := h.lookup?_eq_dir hd
        rw [he]
        simp only [ih, h.isSome_child? hd he step]

namespace SameShape

theorem refl (w : Workspace) : w.SameShape w := ⟨rfl, .refl w.root⟩

theorem trans {u : Workspace} (h : w.SameShape v) (h' : v.SameShape u) : w.SameShape u :=
  ⟨h'.here.trans h.here, h.root.trans h'.root⟩

theorem locate_eq (h : w.SameShape v) (p : Path) : v.locate p = w.locate p := by
  unfold locate
  cases flaw? p with
  | some reason => rfl
  | none => simp only [start, h.here, follow_congr h.root]

theorem file?_eq (h : w.SameShape v) (p : Path) : v.file? p = w.file? p := by
  simp only [file?, h.locate_eq, h.root.isSome_content?]

theorem isFile_eq (h : w.SameShape v) (p : Path) : v.isFile p = w.isFile p := by
  rw [Workspace.isFile_eq, Workspace.isFile_eq, h.file?_eq]

theorem pathExists_eq (h : w.SameShape v) (p : Path) : v.pathExists p = w.pathExists p := by
  cases hl : w.locate p with
  | error reason => simp [pathExists, node, h.locate_eq, hl, Except.bind, Except.toBool]
  | ok place =>
    rw [pathExists_of_locate hl, pathExists_of_locate ((h.locate_eq p).trans hl)]
    simpa using congrArg Option.isSome (h.root place)

theorem isDir_eq (h : w.SameShape v) (p : Path) : v.isDir p = w.isDir p := by
  cases hl : w.locate p with
  | error reason => simp [isDir, node, h.locate_eq, hl, Except.bind]
  | ok place =>
    rw [isDir, isDir, node_eq hl, node_eq ((h.locate_eq p).trans hl)]
    cases hw : w.root.lookup? place with
    | none => rw [h.root.lookup?_eq_none hw]
    | some node =>
      cases node with
      | file bytes =>
        obtain ⟨other, hv⟩ := h.root.lookup?_eq_file hw
        rw [hv]
      | dir entries =>
        obtain ⟨others, hv⟩ := h.root.lookup?_eq_dir hw
        rw [hv]

theorem canonical?_eq (h : w.SameShape v) (p : Path) : v.canonical? p = w.canonical? p := by
  simp only [canonical?, h.locate_eq]

end SameShape

theorem lookup?_dropLast {d entries : Dir} (h : d.lookup? place = some (.dir entries)) :
    ∃ above, d.lookup? place.dropLast = some (.dir above) := by
  rcases List.eq_nil_or_concat' place with rfl | ⟨front, n, rfl⟩
  · exact ⟨entries, h⟩
  · rw [List.dropLast_concat]
    rw [Dir.lookup?_concat] at h
    cases hf : d.lookup? front with
    | none => simp [hf] at h
    | some node =>
      cases node with
      | file bytes => simp [hf] at h
      | dir above => exact ⟨above, rfl⟩

theorem follow_singleton_eq_file {d : Dir} {dir : Place} {step : Text}
    (h : follow d dir [step] = .ok place) (hfile : d.content? place = some bytes) :
    (∃ entries, d.lookup? dir = some (.dir entries)) ∧ step ≠ ['.'] ∧ step ≠ ['.', '.'] ∧
      isTooLong step = false ∧ place = dir ++ [step] := by
  rw [Dir.content?_eq_some_iff] at hfile
  rw [follow] at h
  cases hd : d.lookup? dir with
  | none => simp [hd] at h
  | some node =>
    cases node with
    | file other => simp [hd] at h
    | dir entries =>
      have hup := lookup?_dropLast hd
      simp only [hd, follow] at h
      refine ⟨⟨entries, rfl⟩, ?_⟩
      split_ifs at h with hdot hdots hlong hchild
      · obtain rfl := Except.ok.inj h
        simp [hd] at hfile
      · obtain rfl := Except.ok.inj h
        obtain ⟨above, habove⟩ := hup
        simp [habove] at hfile
      · exact ⟨hdot, hdots, by simpa using hlong, (Except.ok.inj h).symm⟩

/-! ## Outlines -/

def outline (w : Workspace) : Workspace := { w with root := w.root.outline }

theorem SameShape.of_outline (h : v.outline = w.outline) : w.SameShape v := by
  have hhere := congrArg Workspace.here h
  have hroot := congrArg Workspace.root h
  exact ⟨hhere, .of_outline hroot⟩

theorem outline_put (h : w.root.content? place = some bytes) (other : ByteArray) :
    (w.put place (.file other)).outline = w.outline := by
  rw [outline, put, Dir.outline_put h, outline]

theorem map_outline_node (h : v.outline = w.outline) (p : Path) :
    (v.node p).map Node.outline = (w.node p).map Node.outline := by
  have hlocate := (SameShape.of_outline h).locate_eq p
  cases hl : w.locate p with
  | error reason => simp [node, hlocate, hl, Except.bind, Except.map]
  | ok place =>
    have hnodes : (v.root.lookup? place).map Node.outline = (w.root.lookup? place).map Node.outline := by
      rw [← Dir.lookup?_outline, ← Dir.lookup?_outline]
      exact congrArg (fun u => u.root.lookup? place) h
    rw [node_eq hl, node_eq (hlocate.trans hl)]
    cases hv : v.root.lookup? place <;> cases hw : w.root.lookup? place <;> simp_all [Except.map]

/-! ## Paths to different files -/

def LeadApart (w : Workspace) (p q : Path) : Prop := w.file? p = none ∨ w.file? p ≠ w.file? q

/-- No two of the paths lead to one file. -/
def Apart (w : Workspace) (paths : List Path) : Prop := paths.Pairwise w.LeadApart

instance (w : Workspace) : DecidableRel w.LeadApart := fun _ _ => inferInstanceAs (Decidable (_ ∨ _))

instance (w : Workspace) (paths : List Path) : Decidable (w.Apart paths) :=
  inferInstanceAs (Decidable (List.Pairwise _ paths))

instance (w : Workspace) : Std.Symm w.LeadApart where
  symm p q h := by
    by_cases hq : w.file? q = none
    · exact .inl hq
    · exact .inr fun he => h.elim (fun hp => hq (he.trans hp)) fun hne => hne he.symm

/-! ## Reading and writing -/

theorem read_eq (h : w.file? p = some place) (hbytes : w.root.content? place = some bytes) :
    w.read p = .ok bytes := by
  rw [read, node_eq (file?_eq_some_iff.mp h).1, Dir.content?_eq_some_iff.mp hbytes]
  rfl

theorem readText_eq (h : w.file? p = some place) (hbytes : w.root.content? place = some bytes) :
    w.readText p = (ofBytes? bytes).elim (.error .notUtf8) .ok := by
  rw [readText, read_eq h hbytes]
  simp only [Except.bind]
  cases ofBytes? bytes <;> rfl

theorem readText_of_file?_eq_none (h : w.file? p = none) : ∃ reason, w.readText p = .error reason := by
  have hf : w.isFile p = false := by rw [isFile_eq, h]; rfl
  unfold isFile at hf
  rw [readText, read]
  cases hn : w.node p with
  | error reason => exact ⟨reason, rfl⟩
  | ok node =>
    cases node with
    | dir entries => exact ⟨.isADirectory, rfl⟩
    | file bytes => simp [hn] at hf

/-- What is read at a path hangs on the shape of the workspace and the bytes of the file there. -/
theorem SameShape.readText_eq (h : w.SameShape v)
    (hbytes : ∀ place, w.file? p = some place → v.root.content? place = w.root.content? place) :
    v.readText p = w.readText p := by
  cases hl : w.locate p with
  | error reason => simp [readText, read, node, h.locate_eq, hl, Except.bind]
  | ok place =>
    rw [readText, readText, read, read, node_eq hl, node_eq ((h.locate_eq p).trans hl)]
    cases hw : w.root.lookup? place with
    | none => rw [h.root.lookup?_eq_none hw]
    | some node =>
      cases node with
      | dir entries =>
        obtain ⟨others, hv⟩ := h.root.lookup?_eq_dir hw
        rw [hv]
        rfl
      | file bytes =>
        have hw' : w.root.content? place = some bytes := Dir.content?_eq_some_iff.mpr hw
        have hv := (hbytes place (file?_eq_some_iff.mpr ⟨hl, bytes, hw'⟩)).trans hw'
        rw [Dir.content?_eq_some_iff.mp hv]

theorem content?_start_of_steps_eq_nil (hflaw : flaw? p = none) (h : steps p = []) :
    w.root.content? (w.start p) = none := by
  have hne : p ≠ [] := by
    rintro rfl
    cases hflaw
  have hvoid : ∀ piece ∈ splitOn ['/'] p, piece = [] := by
    simpa [steps, List.filter_eq_nil_iff] using h
  obtain ⟨first, rest, hsplit⟩ := List.exists_cons_of_ne_nil (splitOn_ne_nil ['/'] p)
  have hp := intercalate_splitOn ['/'] p
  rw [hsplit] at hp hvoid
  obtain rfl := hvoid first List.mem_cons_self
  cases rest with
  | nil => exact absurd hp.symm hne
  | cons next rest =>
    rw [List.intercalate_cons_cons] at hp
    have habs : Path.isAbsolute p = true := startsWith_iff.mpr ⟨_, hp.symm⟩
    rw [start, if_pos habs]
    rfl

/-- A file that is there can be written. -/
theorem writeText_eq (h : w.file? p = some place) (t : Text) :
    w.writeText p t = .ok (w.put place (.file (toBytes t))) := by
  obtain ⟨hloc, bytes, hbytes⟩ := file?_eq_some_iff.mp h
  unfold locate at hloc
  cases hflaw : flaw? p with
  | some reason => simp [hflaw] at hloc
  | none =>
    simp only [hflaw] at hloc
    cases hend : Text.endsWith ['/'] p with
    | true =>
      -- a slash at the end asks for a directory
      simp only [hend, if_true, follow_append] at hloc
      cases hf : follow w.root (w.start p) (steps p) with
      | error reason => simp [hf, Except.bind] at hloc
      | ok dir =>
        simp only [hf, Except.bind] at hloc
        exact absurd rfl (follow_singleton_eq_file hloc hbytes).2.1
    | false =>
      simp only [hend, Bool.false_eq_true, if_false, List.append_nil] at hloc
      rcases List.eq_nil_or_concat' (steps p) with hs | ⟨front, name, hs⟩
      · rw [hs] at hloc
        obtain rfl := Except.ok.inj hloc
        simp [content?_start_of_steps_eq_nil hflaw hs] at hbytes
      · rw [hs, follow_append] at hloc
        cases hf : follow w.root (w.start p) front with
        | error reason => simp [hf, Except.bind] at hloc
        | ok dir =>
          simp only [hf, Except.bind] at hloc
          obtain ⟨⟨entries, hdir⟩, hdot, hdots, hlong, rfl⟩ := follow_singleton_eq_file hloc hbytes
          have hnew : w.newPlace .isADirectory p = .ok (dir ++ [name]) := by
            simp [newPlace, hflaw, hs, hf, Except.bind, hdir, hdot, hdots, hlong]
          have hnot : w.root.isDirAt (dir ++ [name]) = false := by
            rw [Dir.isDirAt, Dir.content?_eq_some_iff.mp hbytes]
          rw [writeText, write, hnew]
          simp [Except.bind, hnot, hend]

end Upkeep.Workspace
