import Upkeep.Proofs.Fix.GuardedUses

/-!
# Guards and the statements that wait

A guard goes behind the first line that ends in a semicolon, from the line that waits on. Where an awaited call goes
over several lines and has a function with statements of its own in it, that is the end of one of those.

* `awaited b wait stop`: the text from the first `await ` of a line to the end of another one, and `IsClosed`: no
  parenthesis that is opened there is left open.
* `EndsAwaited`: the first line that ends in a semicolon and by which all is closed. A guard stands right behind that
  line or above it (`IsGuardAt.place_le_of_endsAwaited`), and behind it if and only if all is closed above the guard
  (`IsGuardAt.endsAwaited_iff`).
* `Shows.awaited_eq`: what is awaited stays together, as no other guard goes between a line that waits and its guard.

`behind_statement_iff` says when all guards of a run stand behind the statements they belong to.
-/

namespace Upkeep.MountedGuard

open Text Buffer

variable {b c : Buffer} {g : Guard} {gs : List Guard} {fs : List Finding} {use wait wait' stop : Nat}

/-! ## The statement that waits -/

/-- A line from its first `await ` on. -/
def fromAwait (line : Text) : Text :=
  match breakOn? awaitWord line with
  | some (_, rest) => awaitWord ++ rest
  | none => []

/-- The text from the first `await ` of the line at `wait` to the end of the line at `stop`. -/
def awaited (b : Buffer) (wait stop : Nat) : Text :=
  fromAwait (b.contentAt wait) ++ (List.range (stop - wait)).flatMap fun k => b.contentAt (wait + (k + 1))

/-- No more parentheses are opened there than closed. -/
def IsClosed (b : Buffer) (wait stop : Nat) : Prop :=
  (awaited b wait stop).count '(' ≤ (awaited b wait stop).count ')'

instance : Decidable (IsClosed b wait stop) := inferInstanceAs (Decidable (_ ≤ _))

/-- The first line that ends in a semicolon and by which all parentheses are closed. -/
structure EndsAwaited (b : Buffer) (wait stop : Nat) : Prop where
  le : wait ≤ stop
  ends : endsAt b stop = true
  closed : IsClosed b wait stop
  first : ∀ i, wait ≤ i → i < stop → endsAt b i = true → ¬ IsClosed b wait i

theorem IsGuardAt.endsAwaited_iff (hg : IsGuardAt b use g) :
    EndsAwaited b g.wait (g.place - 1) ↔ IsClosed b g.wait (g.place - 1) := by
  obtain ⟨stop, hplace, hle, -, hends, hfirst⟩ := hg.behind
  rw [hplace, Nat.add_sub_cancel]
  refine ⟨fun h => h.closed, fun hclosed => ⟨hle, hends, hclosed, fun i hi hlt hi' => ?_⟩⟩
  rw [hfirst i hi hlt] at hi'
  cases hi'

theorem IsGuardAt.place_le_of_endsAwaited (hg : IsGuardAt b use g) (h : EndsAwaited b g.wait stop) :
    g.place ≤ stop + 1 := by
  obtain ⟨stop', hplace, -, -, -, hfirst⟩ := hg.behind
  refine Nat.le_of_not_lt fun hlt => ?_
  have hends := h.ends
  rw [hfirst stop h.le (by omega)] at hends
  cases hends

theorem awaited_congr (h : ∀ k ≤ stop - wait, c.contentAt (wait' + k) = b.contentAt (wait + k)) :
    awaited c wait' (wait' + (stop - wait)) = awaited b wait stop := by
  have hwait : c.contentAt wait' = b.contentAt wait := h 0 (Nat.zero_le _)
  have hbelow : ∀ k ∈ List.range (stop - wait), c.contentAt (wait' + (k + 1)) = b.contentAt (wait + (k + 1)) :=
    fun k hk => h (k + 1) (List.mem_range.mp hk)
  rw [awaited, awaited, Nat.add_sub_cancel_left, hwait, List.flatMap_congr hbelow]

/-! ## The edited buffer -/

theorem Answers.place_le_or (h : Answers b b.length fs gs) (hg : g ∈ gs) {g' : Guard} (hg' : g' ∈ gs) :
    g'.place ≤ g.wait ∨ g.place ≤ g'.place := by
  have hwait := h.wait_lt_place hg'
  obtain ⟨front, rest, rfl⟩ := List.append_of_mem hg
  obtain ⟨-, hrest, hfront⟩ := List.pairwise_append.mp h.descending
  rcases List.mem_append.mp hg' with hmem | hmem
  · have := hfront g' hmem g List.mem_cons_self
    exact .inr (by omega)
  · rcases List.mem_cons.mp hmem with rfl | hmem
    · exact .inr (Nat.le_refl _)
    · exact .inl ((List.pairwise_cons.mp hrest).1 g' hmem)

/-- All is closed between the line that waits and the line above the guard, where these have come to stand. -/
def ClosedAbove (c : Buffer) (places : List Nat) (g : Guard) : Prop :=
  IsClosed c (shift places g.wait) (shift places g.place - 2)

section Shows

variable (hshows : Shows b c gs) (h : Answers b b.length fs gs) (hg : g ∈ gs)

include hshows h hg

/-- Between a line that waits and its guard all lines stay together. -/
theorem Shows.awaited_eq : awaited c (shift (placesOf gs) g.wait) (shift (placesOf gs) g.place - 2) =
    awaited b g.wait (g.place - 1) := by
  have hwait := h.wait_lt_place hg
  obtain ⟨stop, hplace⟩ : ∃ stop, g.place = stop + 1 := ⟨g.place - 1, by omega⟩
  have hmem : stop + 1 ∈ placesOf gs := hplace ▸ List.mem_map_of_mem hg
  have hshift : ∀ j, g.wait ≤ j → j ≤ stop →
      shift (placesOf gs) j = shift (placesOf gs) g.wait + (j - g.wait) := by
    intro j hj hstop
    refine shift_eq_add hj fun p hp hpj => ?_
    obtain ⟨g', hg', rfl⟩ := List.mem_map.mp hp
    have := h.place_le_or hg hg'
    omega
  rw [hplace, shift_succ_of_mem hmem h.nodup_places, Nat.add_sub_cancel, Nat.add_sub_cancel,
    hshift stop (by omega) (Nat.le_refl _)]
  refine awaited_congr fun k hk => ?_
  have hline := hshift (g.wait + k) (Nat.le_add_right _ _) (by omega)
  rw [Nat.add_sub_cancel_left] at hline
  rw [contentAt, ← hline, hshows.old, ← contentAt]

theorem Shows.closedAbove_iff : ClosedAbove c (placesOf gs) g ↔ IsClosed b g.wait (g.place - 1) := by
  rw [ClosedAbove, IsClosed, IsClosed, hshows.awaited_eq h hg]

end Shows

theorem Answers.exists_same (h : Answers b b.length fs gs) {f : Finding} (hf : f ∈ fs)
    (hg : IsGuardAt b f.lineIndex g) : ∃ h ∈ gs, h.wait = g.wait ∧ h.place = g.place := by
  obtain ⟨g', hg', hwait, hle⟩ := h.answered f hf g hg.use_lt hg
  obtain ⟨f', -, hguard⟩ := h.isGuardAt hg'
  refine ⟨g', hg', ?_⟩
  rcases Nat.le_total f'.lineIndex f.lineIndex with hlines | hlines
  · exact hg.eq_of_wait_lt hguard hlines (Nat.lt_of_lt_of_le hwait hguard.place_le)
  · obtain ⟨hwaits, hplaces⟩ := hguard.eq_of_wait_lt hg hlines (Nat.lt_of_lt_of_le hguard.wait_lt_place hle)
    exact ⟨hwaits.symm, hplaces.symm⟩

/-- In the edited text all is closed between a line that waits and its guard, if and only if the guard stands behind
the first line that ends in a semicolon and by which all is closed; else it stands above that line. All guards of a run
stand so if and only if those that findings ask for would. -/
theorem behind_statement_iff (t : Text) (fs : List Finding) (hsorted : fs.Pairwise fun f g => g.line ≤ f.line) :
    ∃ gs : List Guard,
      (fix t fs).text = (weave (LineEnd.ofText t) (gs.map (·.toInsertion)) 0 (linesWithEnds t)).flatten ∧
      (fix t fs).applied = gs.length ∧
      (∀ g ∈ gs, Stands (Buffer.ofText (fix t fs).text) (placesOf gs) g) ∧
      (∀ g ∈ gs, ClosedAbove (Buffer.ofText (fix t fs).text) (placesOf gs) g ↔
        EndsAwaited (Buffer.ofText t) g.wait (g.place - 1)) ∧
      (∀ g ∈ gs, ∀ stop, EndsAwaited (Buffer.ofText t) g.wait stop → g.place ≤ stop + 1) ∧
      ((∀ g ∈ gs, ClosedAbove (Buffer.ofText (fix t fs).text) (placesOf gs) g) ↔
        ∀ f ∈ fs, ∀ g, IsGuardAt (Buffer.ofText t) f.lineIndex g →
          EndsAwaited (Buffer.ofText t) g.wait (g.place - 1)) := by
  obtain ⟨hanswers, -⟩ := answers_guards t hsorted
  have hshows := shows_fix t hanswers
  have hclosed : ∀ g ∈ guards (Buffer.ofText t) fs,
      ClosedAbove (Buffer.ofText (fix t fs).text) (placesOf (guards (Buffer.ofText t) fs)) g ↔
        EndsAwaited (Buffer.ofText t) g.wait (g.place - 1) := by
    intro g hg
    obtain ⟨f, -, hguard⟩ := hanswers.isGuardAt hg
    rw [hshows.closedAbove_iff hanswers hg, hguard.endsAwaited_iff]
  refine ⟨guards (Buffer.ofText t) fs, text_fix_eq_weave hanswers, applied_fix t fs,
    fun g hg => hshows.stands hanswers hg, hclosed, fun g hg stop hstop => ?_, fun hall f hf g hg => ?_,
    fun hall g hg => ?_⟩
  · obtain ⟨f, -, hguard⟩ := hanswers.isGuardAt hg
    exact hguard.place_le_of_endsAwaited hstop
  · obtain ⟨g', hg', hwait, hplace⟩ := hanswers.exists_same hf hg
    rw [← hwait, ← hplace]
    exact (hclosed g' hg').mp (hall g' hg')
  · obtain ⟨f, hf, hguard⟩ := hanswers.isGuardAt hg
    exact (hclosed g hg).mpr (hall f hf g hguard)

/-- A call with a function over several lines that waits, and behind it a use. -/
def enclosing : Text :=
  "go(context) async \x7b\n  await run(() \x7b\n    log();\n  \x7d);\n  pop(context);\n\x7d\n".toList

def enclosingUse : Finding := ⟨.info, ['m'], ['f'], 5, 3, Rule.buildContextAcrossWait⟩

theorem behind_statement_iff_enclosing :
    [enclosingUse].Pairwise (fun f g => g.line ≤ f.line) ∧
      ∃ gs : List Guard, gs.length = 1 ∧
        (∀ g ∈ gs, Stands (Buffer.ofText (fix enclosing [enclosingUse]).text) (placesOf gs) g) ∧
        ¬ ∀ g ∈ gs, ClosedAbove (Buffer.ofText (fix enclosing [enclosingUse]).text) (placesOf gs) g := by
  have hsorted : [enclosingUse].Pairwise fun f g => g.line ≤ f.line := List.pairwise_singleton _ _
  have hone : (fix enclosing [enclosingUse]).applied = 1 := by decide +kernel
  have hasked : guardAt? (Buffer.ofText enclosing) 4 =
      some ⟨⟨3, "  if (!context.mounted) return;".toList⟩, 1⟩ := by decide +kernel
  have hopen : ¬ IsClosed (Buffer.ofText enclosing) 1 2 := by decide +kernel
  obtain ⟨gs, -, happlied, hstands, -, -, hiff⟩ := behind_statement_iff enclosing [enclosingUse] hsorted
  refine ⟨hsorted, gs, happlied.symm.trans hone, hstands, fun hall => hopen ?_⟩
  exact (hiff.mp hall enclosingUse List.mem_cons_self _ (guardAt?_eq_some_iff.mp hasked)).closed

/-- The guard is inserted into the function, behind its statement, where the call that waits is still open. -/
theorem guard_inside_function :
    let c := Buffer.ofText (fix enclosing [enclosingUse]).text
    (∀ mark ∈ ["\"".toList, "\x27".toList, "//".toList, "/*".toList], contains mark enclosing = false) ∧
      [enclosingUse].Pairwise (fun f g => g.line ≤ f.line) ∧ (fix enclosing [enclosingUse]).applied = 1 ∧
      mentions c awaitWord 1 = true ∧ c.content? 3 = some "  if (!context.mounted) return;".toList ∧
      ¬ IsClosed c 1 2 := by
  decide +kernel

end Upkeep.MountedGuard
