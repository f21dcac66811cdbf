import Upkeep.Proofs.Workspace.Access
import Upkeep.Run.Fix

/-!
# Visits of files

A run visits files one after the other. What a visit reads, says and writes hangs on the bytes of its own
file, so the visits of a run can be told from the workspace in which it starts.

* `verdict`: what is said of a file, and `fixedBytes`: the bytes that it has behind the visit.
* `fixFile_snd`, `content?_fixFile`: one visit. It keeps the outline of the workspace (`outline_fixFile`).
* `foldl_visits`: a run that writes, over files of which no two are the same (`Apart`).
* `foldl_previews`: a run that does not write.
-/

namespace Upkeep

open Text

theorem Text.toBytes_of_ofBytes? {bytes : ByteArray} {t : Text} (h : ofBytes? bytes = some t) :
    toBytes t = bytes := by
  obtain ⟨s, hs, rfl⟩ := Option.map_eq_some_iff.mp h
  unfold String.fromUTF8? at hs
  split at hs
  · obtain rfl := Option.some.inj hs
    rw [toBytes, String.ofList_toList]
    rfl
  · cases hs

namespace Workspace

theorem readText_eq_ok {w : Workspace} {p : Path} {t : Text} (h : w.readText p = .ok t) :
    ∃ place bytes, w.file? p = some place ∧ w.root.content? place = some bytes ∧
      ofBytes? bytes = some t := by
  cases hf : w.file? p with
  | none =>
    obtain ⟨reason, hr⟩ := readText_of_file?_eq_none hf
    rw [hr] at h
    cases h
  | some place =>
    obtain ⟨-, bytes, hbytes⟩ := file?_eq_some_iff.mp hf
    refine ⟨place, bytes, rfl, hbytes, ?_⟩
    rw [readText_eq hf hbytes] at h
    cases ht : ofBytes? bytes with
    | none => simp [ht] at h
    | some other => simpa [ht] using h

end Workspace

namespace Run

/-- What a run says of a file, by what reading the file gives. -/
def verdict (path : Path) (dryRun : Bool) (fix : Text → Outcome) :
    Except FileError Text → Except Failure FileChange
  | .error reason => .error (.file .readSource path reason)
  | .ok before =>
    let o := fix before
    .ok ⟨path, o.applied, decide (o.text ≠ before) && !dryRun, before, o.text, o.notes⟩

/-- The bytes of a file behind a fix. Bytes that are no text stay. -/
def fixedBytes (fix : Text → Outcome) (bytes : ByteArray) : ByteArray :=
  match ofBytes? bytes with
  | some before => toBytes (fix before).text
  | none => bytes

variable {w v : Workspace} {path : Path} {fix : Text → Outcome} {place : Place} {bytes : ByteArray}

/-! ## One visit -/

theorem fixFile_of_error (dryRun : Bool) {reason : FileError} (h : w.readText path = .error reason) :
    fixFile w path dryRun fix = (w, verdict path dryRun fix (w.readText path)) := by
  rw [fixFile, h]
  rfl

theorem fixFile_dry (w : Workspace) (path : Path) (fix : Text → Outcome) :
    fixFile w path true fix = (w, verdict path true fix (w.readText path)) := by
  cases h : w.readText path with
  | error reason => rw [fixFile_of_error true h, h]
  | ok before => simp [fixFile, h, verdict]

theorem fixFile_real {before : Text} (hfile : w.file? path = some place)
    (hread : w.readText path = .ok before) : fixFile w path false fix =
      (if (fix before).text = before then w else w.put place (.file (toBytes (fix before).text)),
        verdict path false fix (w.readText path)) := by
  rw [hread, fixFile, hread]
  by_cases ho : (fix before).text = before
  · simp [ho, verdict]
  · simp [ho, verdict, Workspace.writeText_eq hfile]

theorem fixFile_snd (w : Workspace) (path : Path) (dryRun : Bool) (fix : Text → Outcome) :
    (fixFile w path dryRun fix).2 = verdict path dryRun fix (w.readText path) := by
  cases dryRun with
  | true => rw [fixFile_dry]
  | false =>
    cases h : w.readText path with
    | error reason => rw [fixFile_of_error false h, h]
    | ok before =>
      obtain ⟨place, bytes, hfile, -, -⟩ := Workspace.readText_eq_ok h
      rw [fixFile_real hfile h, h]

theorem outline_fixFile (w : Workspace) (path : Path) (dryRun : Bool) (fix : Text → Outcome) :
    (fixFile w path dryRun fix).1.outline = w.outline := by
  cases dryRun with
  | true => rw [fixFile_dry]
  | false =>
    cases h : w.readText path with
    | error reason => rw [fixFile_of_error false h]
    | ok before =>
      obtain ⟨place, bytes, hfile, hbytes, -⟩ := Workspace.readText_eq_ok h
      rw [fixFile_real hfile h]
      split
      · rfl
      · exact Workspace.outline_put hbytes _

theorem sameShape_fixFile (w : Workspace) (path : Path) (dryRun : Bool) (fix : Text → Outcome) :
    w.SameShape (fixFile w path dryRun fix).1 := .of_outline (outline_fixFile w path dryRun fix)

/-- A visit rewrites its own file and leaves the others. -/
theorem content?_fixFile (w : Workspace) (path : Path) (fix : Text → Outcome) (q : Place) :
    (fixFile w path false fix).1.root.content? q =
      if w.file? path = some q then (w.root.content? q).map (fixedBytes fix) else w.root.content? q := by
  cases hread : w.readText path with
  | error reason =>
    rw [fixFile_of_error false hread]
    split
    · next hfile =>
      obtain ⟨-, bytes, hbytes⟩ := Workspace.file?_eq_some_iff.mp hfile
      rw [Workspace.readText_eq hfile hbytes] at hread
      cases ht : ofBytes? bytes with
      | none => simp [hbytes, fixedBytes, ht]
      | some before => simp [ht] at hread
    · rfl
  | ok before =>
    obtain ⟨place, bytes, hfile, hbytes, ht⟩ := Workspace.readText_eq_ok hread
    rw [fixFile_real hfile hread, hfile]
    by_cases hq : place = q
    · subst hq
      rw [if_pos rfl, hbytes, Option.map_some, fixedBytes, ht]
      by_cases ho : (fix before).text = before
      · simp [ho, hbytes, toBytes_of_ofBytes? ht]
      · simp [ho, Workspace.put, Dir.content?_put hbytes]
    · have hne : ¬ some place = some q := fun h => hq (Option.some.inj h)
      rw [if_neg hne]
      split
      · rfl
      · simp [Workspace.put, Dir.content?_put hbytes, Ne.symm hq]

/-! ## Entries of a report -/

/-- The entry of a visited file. -/
def noted (path : Path) (dryRun : Bool) (fix : Text → Outcome) (read : Except FileError Text) :
    Except SkippedFile FileChange :=
  (verdict path dryRun fix read).mapError fun failure => ⟨path, .failed failure⟩

/-- The files that were handled, by their entries. -/
def changes (es : List (Except SkippedFile FileChange)) : List FileChange := es.filterMap Except.toOption

/-- The files that were not handled, by their entries. -/
def skips (es : List (Except SkippedFile FileChange)) : List SkippedFile :=
  es.filterMap fun
    | .ok _ => none
    | .error skipped => some skipped

theorem mem_changes_iff {es : List (Except SkippedFile FileChange)} {c : FileChange} :
    c ∈ changes es ↔ .ok c ∈ es := by
  rw [changes, List.mem_filterMap]
  constructor
  · rintro ⟨e, he, hc⟩
    cases e with
    | error f => cases hc
    | ok d => exact Option.some.inj hc ▸ he
  · exact fun he => ⟨_, he, rfl⟩

theorem mem_skips_iff {es : List (Except SkippedFile FileChange)} {f : SkippedFile} :
    f ∈ skips es ↔ .error f ∈ es := by
  rw [skips, List.mem_filterMap]
  constructor
  · rintro ⟨e, he, hf⟩
    cases e with
    | error g => exact Option.some.inj hf ▸ he
    | ok c => cases hf
  · exact fun he => ⟨_, he, rfl⟩

theorem record_verdict (r : Report) (path : Path) (dryRun : Bool) (fix : Text → Outcome)
    (read : Except FileError Text) : r.record path (verdict path dryRun fix read) =
      { r with
        files := r.files ++ changes [noted path dryRun fix read]
        skipped := r.skipped ++ skips [noted path dryRun fix read] } := by
  rw [noted]
  cases verdict path dryRun fix read with
  | ok c => simp [Report.record, Except.mapError, changes, skips, Except.toOption]
  | error failure => simp [Report.record, Except.mapError, changes, skips, Except.toOption]

/-! ## Visits in a row -/

section Visits

variable {α β : Type} {step : Workspace × β → α → Workspace × β} {paths : α → Path}
  {fixes : α → Text → Outcome} {note : β → α → Except FileError Text → β}

/-- A run that writes, over files of which no two are the same. What is noted of each visit is what it would be if
it were the only one, and every file is fixed as if alone. -/
theorem foldl_visits
    (hstep : ∀ v b a, w.SameShape v → step (v, b) a =
      ((fixFile v (paths a) false (fixes a)).1, note b a (v.readText (paths a))))
    {xs : List α} (hapart : w.Apart (xs.map paths)) (hsame : w.SameShape v)
    (hbytes : ∀ a ∈ xs, ∀ q, w.file? (paths a) = some q → v.root.content? q = w.root.content? q) (b : β) :
    ∃ u, xs.foldl step (v, b) = (u, xs.foldl (fun b a => note b a (w.readText (paths a))) b) ∧
      w.SameShape u ∧
      (∀ a ∈ xs, ∀ q, w.file? (paths a) = some q →
        u.root.content? q = (w.root.content? q).map (fixedBytes (fixes a))) ∧
      ∀ q, (∀ a ∈ xs, w.file? (paths a) ≠ some q) → u.root.content? q = v.root.content? q := by
  induction xs generalizing v b with
  | nil => exact ⟨v, rfl, hsame, fun a ha => absurd ha List.not_mem_nil, fun _ _ => rfl⟩
  | cons a xs ih =>
    obtain ⟨hfirst, hrest⟩ := List.pairwise_cons.mp hapart
    have hother : ∀ c ∈ xs, ∀ q, w.file? (paths c) = some q → w.file? (paths a) ≠ some q := by
      intro c hc q hcq haq
      rcases hfirst (paths c) (List.mem_map_of_mem hc) with hn | hne
      · rw [hn] at haq
        cases haq
      · exact hne (haq.trans hcq.symm)
    have hread := hsame.readText_eq (hbytes a List.mem_cons_self)
    have hcontent := content?_fixFile v (paths a) (fixes a)
    simp only [hsame.file?_eq] at hcontent
    obtain ⟨u, hu, hshape, hfixed, hkept⟩ := ih hrest
      (hsame.trans (sameShape_fixFile v (paths a) false (fixes a)))
      (fun c hc q hq => by
        rw [hcontent, if_neg (hother c hc q hq)]
        exact hbytes c (List.mem_cons_of_mem a hc) q hq)
      (note b a (w.readText (paths a)))
    refine ⟨u, ?_, hshape, ?_, ?_⟩
    · rw [List.foldl_cons, hstep v b a hsame, hread, hu, List.foldl_cons]
    · intro c hc q hq
      rcases List.mem_cons.mp hc with rfl | hc
      · rw [hkept q fun c' hc' hq' => hother c' hc' q hq' hq, hcontent, if_pos hq,
          hbytes c List.mem_cons_self q hq]
      · exact hfixed c hc q hq
    · intro q hq
      rw [hkept q fun c hc => hq c (List.mem_cons_of_mem a hc), hcontent,
        if_neg (hq a List.mem_cons_self)]

theorem foldl_previews (hstep : ∀ b a, step (w, b) a = (w, note b a (w.readText (paths a))))
    (xs : List α) (b : β) : xs.foldl step (w, b) =
      (w, xs.foldl (fun b a => note b a (w.readText (paths a))) b) := by
  induction xs generalizing b with
  | nil => rfl
  | cons a xs ih => rw [List.foldl_cons, hstep, ih, List.foldl_cons]

end Visits

end Run
end Upkeep
