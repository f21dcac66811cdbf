import Upkeep.Proofs.Fix.Outcome

/-!
# Uses that a run leaves guarded

A run on findings from the bottom up only adds lines. `Shows` is what the edited buffer has to do with the old one: each
line of it, moved, and each guard. From it follow where the guards stand (`Shows.stands`) and which uses are guarded.

A finding that is left may have been judged by lines that the guards before it have moved. `Settled.keeps_guarded` goes
along the run: either no guard stands above the line where the finding looks, so that this is its use, or the line is
below the last guard, and then so is the use, as both are at most as far below the line that waits as the use the guard
was inserted for.

`uses_guarded` puts these together.
-/

namespace Upkeep.MountedGuard

open Text Buffer

variable {b c : Buffer} {f : Finding} {fs : List Finding} {g : Guard} {gs : List Guard}
  {use wait top last : Nat} {t reason : Text}

/-! ## What a use is left with -/

/-- The nearest line above a use that waits. -/
structure WaitsFor (b : Buffer) (use wait : Nat) : Prop where
  waits : mentions b awaitWord wait = true
  wait_lt : wait < use
  nearest : ∀ i, wait < i → i < use → mentions b awaitWord i = false

/-- The reasons that leave a use without a guard. -/
def openReasons : List Text :=
  ["line out of range".toList, "no await within ".toList ++ Text.ofNat waitLookback ++ " lines".toList,
    "context used inside the awaited statement".toList]

/-- Between the nearest line that waits and the use stands a line that guards, in the old buffer or of the guards. -/
def IsKept (b : Buffer) (gs : List Guard) (use : Nat) : Prop :=
  ∃ wait, WaitsFor b use wait ∧ ((∃ j, wait < j ∧ j ≤ use ∧ mentions b mountedWord j = true) ∨
    ∃ g ∈ gs, wait < g.place ∧ g.place ≤ use)

theorem guarded_of_left (h : step b f = .left reason) (hreason : reason ∉ openReasons) :
    ∃ wait, wait? b f.lineIndex = some wait ∧ isGuarded b (wait + 1) f.lineIndex = true := by
  rw [step] at h
  split at h
  · obtain rfl := Edit.left.inj h
    simp [openReasons] at hreason
  · split at h
    · obtain rfl := Edit.left.inj h
      simp [openReasons] at hreason
    · next wait hwait =>
      split at h
      · next hguarded => exact ⟨wait, hwait, hguarded⟩
      · dsimp only at h
        split at h
        · obtain rfl := Edit.left.inj h
          simp [openReasons] at hreason
        · split at h
          · cases h
          · obtain rfl := Edit.left.inj h
            simp [openReasons] at hreason

theorem exists_of_isGuarded (h : isGuarded b (wait + 1) use = true) :
    ∃ j, wait < j ∧ j ≤ use ∧ mentions b mountedWord j = true := by
  rw [isGuarded, List.any_eq_true] at h
  obtain ⟨j, hj, hmounted⟩ := h
  rw [List.mem_range'_1] at hj
  exact ⟨j, by omega, by omega, hmounted⟩

theorem IsGuardAt.isKept (hg : IsGuardAt b last g) (hmem : g ∈ gs) (hplace : g.place ≤ use) (huse : use ≤ last) :
    IsKept b gs use :=
  have hwait : g.wait < use := Nat.lt_of_lt_of_le hg.wait_lt_place hplace
  ⟨g.wait, ⟨hg.waits, hwait, fun i hi hlt => hg.nearest i hi (Nat.lt_of_lt_of_le hlt huse)⟩,
    .inr ⟨g, hmem, hg.wait_lt_place, hplace⟩⟩

/-! ## Along a run -/

/-- What the last guard is to the uses that are left: there is none yet, and no line from `top` on, or the uses up to
`last` stand no further down than the one it was inserted for. -/
def IsLast (b c : Buffer) (gs : List Guard) (top last : Nat) : Prop :=
  c.length ≤ top ∨ ∃ g ∈ gs, ∃ use, IsGuardAt b use g ∧ g.place = top ∧ last ≤ use

theorem IsLast.mono (h : IsLast b c gs top last) (huse : use ≤ last) : IsLast b c gs top use := by
  rcases h with h | ⟨g, hg, v, hguard, hplace, hle⟩
  · exact .inl h
  · exact .inr ⟨g, hg, v, hguard, hplace, Nat.le_trans huse hle⟩

theorem Settled.isKept (h : Settled b c top last) (htop : IsLast b c gs top last) (hf : f.lineIndex ≤ last)
    (hguard : ∀ g, guardAt? c f.lineIndex = some g → g ∈ gs)
    (hreason : ∀ reason, step c f = .left reason → reason ∉ openReasons) : IsKept b gs f.lineIndex := by
  by_cases hlt : f.lineIndex < top
  · -- the step looks at lines of the old buffer
    cases hg : guardAt? c f.lineIndex with
    | some g =>
      have hasked := guardAt?_eq_some_iff.mp (h.guardAt?_eq hlt ▸ hg)
      exact hasked.isKept (hguard g hg) hasked.place_le (Nat.le_refl _)
    | none =>
      obtain ⟨reason, hleft⟩ := step_of_guardAt?_eq_none hg
      obtain ⟨wait, hwait, hguarded⟩ := guarded_of_left hleft (hreason reason hleft)
      obtain ⟨hwaits, hwaituse, -, hnearest⟩ := wait?_eq_some_iff.mp hwait
      obtain ⟨j, hj, hjuse, hmounted⟩ := exists_of_isGuarded hguarded
      have hold : ∀ i part, i ≤ f.lineIndex → mentions c part i = mentions b part i :=
        fun i part hi => IsGuardAt.mentions_congr (h.agree i (by omega))
      refine ⟨wait, ⟨?_, hwaituse, fun i hi hiuse => ?_⟩, .inl ⟨j, hj, hjuse, ?_⟩⟩
      · rw [← hold wait awaitWord (Nat.le_of_lt hwaituse)]
        exact hwaits
      · rw [← hold i awaitWord (Nat.le_of_lt hiuse)]
        exact hnearest i hi hiuse
      · rw [← hold j mountedWord hjuse]
        exact hmounted
  · rcases htop with hlen | ⟨g, hg, use, hasked, hplace, hle⟩
    · have hleft : step c f = .left "line out of range".toList := by
        rw [step, if_pos (Nat.le_trans hlen (Nat.not_lt.mp hlt))]
      exact absurd (by simp [openReasons]) (hreason _ hleft)
    · exact hasked.isKept hg (by omega) (Nat.le_trans hf hle)

/-- A run keeps the uses that it does not leave open. -/
theorem Settled.keeps_guarded (h : Settled b c top last) (htop : IsLast b c gs top last)
    (hgs : ∀ g ∈ guards c fs, g ∈ gs) (hlast : ∀ f ∈ fs, f.lineIndex ≤ last)
    (hfs : fs.Pairwise fun f g => g.lineIndex ≤ f.lineIndex) {r? : Option Text}
    (hr : (f, r?) ∈ fs.zip (Edit.reasons step c fs)) (hreason : ∀ reason ∈ r?, reason ∉ openReasons) :
    IsKept b gs f.lineIndex := by
  induction fs generalizing c top last with
  | nil => simp at hr
  | cons f' fs ih =>
    obtain ⟨hle, hfs⟩ := List.pairwise_cons.mp hfs
    have hf' := hlast f' List.mem_cons_self
    rw [guards] at hgs
    rw [Edit.reasons] at hr
    cases hg : guardAt? c f'.lineIndex with
    | some g =>
      rw [hg] at hgs
      rw [step_of_guardAt?_eq_some hg] at hr
      obtain ⟨hmem, hgs⟩ := List.forall_mem_cons.mp hgs
      rcases List.mem_cons.mp hr with heq | hr
      · obtain ⟨rfl, rfl⟩ := Prod.mk.inj heq
        refine h.isKept htop hf' (fun g' hg' => ?_) fun reason hleft => ?_
        · obtain rfl := Option.some.inj (hg.symm.trans hg')
          exact hmem
        · rw [step_of_guardAt?_eq_some hg] at hleft
          cases hleft
      · have hasked := guardAt?_eq_some_iff.mp (h.guardAt?_eq (h.lt_top hf' hg) ▸ hg)
        exact ih (h.insert hf' hg) (.inr ⟨g, hmem, f'.lineIndex, hasked, rfl, Nat.le_refl _⟩) hgs hle hfs hr
    | none =>
      obtain ⟨reason, hleft⟩ := step_of_guardAt?_eq_none hg
      rw [hg] at hgs
      rw [hleft] at hr
      rcases List.mem_cons.mp hr with heq | hr
      · obtain ⟨rfl, rfl⟩ := Prod.mk.inj heq
        refine h.isKept htop hf' (fun g' hg' => ?_) fun reason' hleft' => ?_
        · rw [hg] at hg'
          cases hg'
        · obtain rfl := Edit.left.inj (hleft.symm.trans hleft')
          exact hreason reason rfl
      · exact ih (h.mono hf') (htop.mono hf') hgs hle hfs hr

theorem answers_guards (t : Text) (hfs : fs.Pairwise fun f g => g.line ≤ f.line) :
    Answers (Buffer.ofText t) (Buffer.ofText t).length fs (guards (Buffer.ofText t) fs) ∧
      ∀ f r?, (f, r?) ∈ fs.zip (Edit.reasons step (Buffer.ofText t) fs) →
        (∀ reason ∈ r?, reason ∉ openReasons) →
          IsKept (Buffer.ofText t) (guards (Buffer.ofText t) fs) f.lineIndex := by
  cases fs with
  | nil => exact ⟨⟨by simp [guards], .nil, by simp⟩, by simp⟩
  | cons f fs =>
    have hindex : (f :: fs).Pairwise fun f g => g.lineIndex ≤ f.lineIndex :=
      hfs.imp fun hle => Nat.sub_le_sub_right hle 1
    have hlast : ∀ f' ∈ f :: fs, f'.lineIndex ≤ f.lineIndex :=
      List.forall_mem_cons.mpr ⟨Nat.le_refl _, (List.pairwise_cons.mp hindex).1⟩
    have hstart : Settled (Buffer.ofText t) (Buffer.ofText t) (Buffer.ofText t).length f.lineIndex :=
      .start (framed_ofText t)
    exact ⟨hstart.answers hlast hindex, fun f' r? hr hreason =>
      hstart.keeps_guarded (.inl (Nat.le_refl _)) (fun _ hg => hg) hlast hindex hr hreason⟩

/-! ## The edited buffer -/

/-- Where the guards of a run go, by the old lines. -/
abbrev placesOf (gs : List Guard) : List Nat := gs.map (·.place)

/-- A buffer that has the lines of another one and the guards, each above the line it goes before. -/
structure Shows (b c : Buffer) (gs : List Guard) : Prop where
  length_eq : c.length = b.length + gs.length
  old : ∀ i, c.content? (shift (placesOf gs) i) = b.content? i
  new : ∀ g ∈ gs, c.content? (shift (placesOf gs) g.place - 1) = some g.content

theorem shows_fix (t : Text) (h : Answers (Buffer.ofText t) (Buffer.ofText t).length fs (guards (Buffer.ofText t) fs)) :
    Shows (Buffer.ofText t) (Buffer.ofText (fix t fs).text) (guards (Buffer.ofText t) fs) := by
  have hb := framed_ofText t
  have hdescends := h.descends hb
  have hplaces : ((guards (Buffer.ofText t) fs).map (·.toInsertion)).map (·.place) =
      placesOf (guards (Buffer.ofText t) fs) := List.map_map
  have hcontents : (Buffer.ofText (fix t fs).text).contents =
      ((Buffer.ofText t).insertAll ((guards (Buffer.ofText t) fs).map (·.toInsertion))).contents := by
    rw [text_fix, contents_ofText_toText (framed_insertAll hb hdescends)]
  refine ⟨?_, fun i => ?_, fun g hg => ?_⟩
  · rw [← length_contents, hcontents, length_contents, length_insertAll hb hdescends, List.length_map]
  · rw [content?_eq, hcontents, ← content?_eq, ← hplaces]
    exact content?_insertAll_shift hb hdescends i
  · rw [content?_eq, hcontents, ← content?_eq, ← hplaces]
    exact content?_insertAll_place hb hdescends (List.mem_map_of_mem hg)

theorem text_fix_eq_weave (h : Answers (Buffer.ofText t) (Buffer.ofText t).length fs (guards (Buffer.ofText t) fs)) :
    (fix t fs).text = (weave (LineEnd.ofText t) ((guards (Buffer.ofText t) fs).map (·.toInsertion)) 0
      (linesWithEnds t)).flatten := by
  have hb := framed_ofText t
  rw [text_fix, Buffer.toText, lines_insertAll hb (h.descends hb)]
  rfl

/-- How a guard stands: right below a line that ends a statement, which is the line that waits or one below it, and
indented as that one. -/
structure Stands (c : Buffer) (places : List Nat) (g : Guard) : Prop where
  waits : mentions c awaitWord (shift places g.wait) = true
  content : ∃ words, (words = stateGuard ∨ words = contextGuard) ∧
    c.content? (shift places g.place - 1) = some (c.indent (shift places g.wait) ++ words)
  below : ∃ stop, shift places g.place - 1 = stop + 1 ∧ shift places g.wait ≤ stop ∧ endsAt c stop = true

section Shows

variable (hshows : Shows b c gs) (h : Answers b b.length fs gs)

include hshows h

theorem Shows.stands (hg : g ∈ gs) : Stands c (placesOf gs) g := by
  obtain ⟨f, -, hguard⟩ := h.isGuardAt hg
  obtain ⟨stop, hplace, hle, -, hends, -⟩ := hguard.behind
  have hindent : c.indent (shift (placesOf gs) g.wait) = b.indent g.wait := by
    rw [Buffer.indent, Buffer.indent, hshows.old]
  have habove : shift (placesOf gs) g.place = shift (placesOf gs) stop + 2 := by
    have hmem : g.place ∈ placesOf gs := List.mem_map_of_mem hg
    rw [hplace] at hmem ⊢
    exact shift_succ_of_mem hmem h.nodup_places
  refine ⟨?_, ⟨guardFor b f.lineIndex, guardFor_eq b f.lineIndex, ?_⟩, shift (placesOf gs) stop, ?_, ?_, ?_⟩
  · rw [IsGuardAt.mentions_congr (hshows.old g.wait)]
    exact hguard.waits
  · rw [hshows.new g hg, hguard.content, hindent]
  · rw [habove]
    rfl
  · exact shift_le_shift hle
  · rw [IsGuardAt.endsAt_congr (hshows.old stop)]
    exact hends

theorem Shows.exists_mentions (hkept : IsKept b gs use) : ∃ wait, WaitsFor b use wait ∧
    ∃ j, shift (placesOf gs) wait < j ∧ j ≤ shift (placesOf gs) use ∧ mentions c mountedWord j = true := by
  obtain ⟨wait, hwait, ⟨j, hj, hjuse, hmounted⟩ | ⟨g, hg, hplace, hguse⟩⟩ := hkept
  · refine ⟨wait, hwait, shift (placesOf gs) j, shift_lt_shift hj, shift_le_shift hjuse, ?_⟩
    rw [IsGuardAt.mentions_congr (hshows.old j)]
    exact hmounted
  · obtain ⟨f, -, hguard⟩ := h.isGuardAt hg
    have hmem : g.place ∈ placesOf gs := List.mem_map_of_mem hg
    have hbelow := shift_add_one_lt hmem hplace
    have habove : shift (placesOf gs) g.place ≤ shift (placesOf gs) use := shift_le_shift hguse
    refine ⟨wait, hwait, shift (placesOf gs) g.place - 1, by omega, by omega, ?_⟩
    rw [mentions, hshows.new g hg, Option.any_some]
    exact contains_mountedWord hguard

end Shows

/-- A run on findings from the bottom up only adds lines, as many as it counts: guards that stand right below a line
that ends a statement, indented as the line that waits above it. The notes are the reasons for which findings are left,
and each use that is not left open has a line that guards it, between where the nearest line that waits has come to
stand and where the use has. -/
theorem uses_guarded (t : Text) (fs : List Finding) (hsorted : fs.Pairwise fun f g => g.line ≤ f.line) :
    ∃ gs : List Guard,
      (fix t fs).text = (weave (LineEnd.ofText t) (gs.map (·.toInsertion)) 0 (linesWithEnds t)).flatten ∧
      (fix t fs).applied = gs.length ∧
      Shows (Buffer.ofText t) (Buffer.ofText (fix t fs).text) gs ∧
      (∀ g ∈ gs, Stands (Buffer.ofText (fix t fs).text) (placesOf gs) g) ∧
      (Edit.reasons step (Buffer.ofText t) fs).length = fs.length ∧
      ((fix t fs).notes = (fs.zip (Edit.reasons step (Buffer.ofText t) fs)).filterMap fun (f, r?) =>
        r?.map (Edit.note f)) ∧
      ∀ f r?, (f, r?) ∈ fs.zip (Edit.reasons step (Buffer.ofText t) fs) →
        (∀ reason ∈ r?, reason ∉ openReasons) →
          ∃ wait, WaitsFor (Buffer.ofText t) f.lineIndex wait ∧
            ∃ j, shift (placesOf gs) wait < j ∧ j ≤ shift (placesOf gs) f.lineIndex ∧
              mentions (Buffer.ofText (fix t fs).text) mountedWord j = true := by
  obtain ⟨hanswers, hkept⟩ := answers_guards t hsorted
  have hshows := shows_fix t hanswers
  refine ⟨guards (Buffer.ofText t) fs, text_fix_eq_weave hanswers, applied_fix t fs, hshows,
    fun g hg => hshows.stands hanswers hg, Edit.length_reasons _ _ _, Edit.notes_run _ _ _, fun f r? hr hreason => ?_⟩
  exact hshows.exists_mentions hanswers (hkept f r? hr hreason)

/-- Two lines that wait, the first over two lines, and uses in it and behind both. -/
def drifting : Text :=
  "class _S extends State<W> \x7b\n  go() async \x7b\n    await f(\n      1);\n    a(context);\n".toList ++
    "    b(context);\n    await g(context);\n    c(context);\n  \x7d\n\x7d\n".toList

/-- Uses in `drifting` from the bottom up, one of them below its end. The fifth line is the guard of the sixth one when
it is looked at. -/
def driftingUses : List Finding :=
  [20, 8, 6, 5, 4, 2].map fun n => ⟨.info, ['m'], ['f'], n, 1, Rule.buildContextAcrossWait⟩

theorem uses_guarded_drifting :
    driftingUses.Pairwise (fun f g => g.line ≤ f.line) ∧
      Edit.reasons step (Buffer.ofText drifting) driftingUses =
        [some "line out of range".toList, none, none, some "already guarded".toList,
          some "context used inside the awaited statement".toList, some "no await within 20 lines".toList] ∧
      ∃ gs : List Guard, gs.length = 2 ∧
        (∀ g ∈ gs, Stands (Buffer.ofText (fix drifting driftingUses).text) (placesOf gs) g) ∧
        ∃ wait, WaitsFor (Buffer.ofText drifting) 4 wait ∧
          ∃ j, shift (placesOf gs) wait < j ∧ j ≤ shift (placesOf gs) 4 ∧
            mentions (Buffer.ofText (fix drifting driftingUses).text) mountedWord j = true := by
  have hsorted : driftingUses.Pairwise fun f g => g.line ≤ f.line := by decide
  have hreasons : Edit.reasons step (Buffer.ofText drifting) driftingUses =
      [some "line out of range".toList, none, none, some "already guarded".toList,
        some "context used inside the awaited statement".toList, some "no await within 20 lines".toList] := by
    decide +kernel
  have htwo : (fix drifting driftingUses).applied = 2 := by decide +kernel
  obtain ⟨gs, -, happlied, -, hstands, -, -, hguarded⟩ := uses_guarded drifting driftingUses hsorted
  refine ⟨hsorted, hreasons, gs, happlied.symm.trans htwo, hstands, ?_⟩
  refine hguarded ⟨.info, ['m'], ['f'], 5, 1, Rule.buildContextAcrossWait⟩ (some "already guarded".toList) ?_ ?_
  · rw [hreasons]
    simp [driftingUses]
  · rintro reason ⟨⟩
    decide +kernel

end Upkeep.MountedGuard
