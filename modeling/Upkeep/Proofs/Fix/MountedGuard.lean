import Upkeep.Fix.MountedGuard
import Upkeep.Proofs.Source.Insertion
import Upkeep.Proofs.Text.Splitting

/-!
# Guards are inserted once

A run handles uses from the bottom up, so a guard never moves the lines that a later use looks at, except
for uses right below the guard, which it already guards.

* `IsGuardAt b use g`: what `g` is if it is the guard that a use asks for. `guardAt?_eq_some_iff` says
  that a step inserts just that.
* `guards b fs`: the guards that a run inserts, and `run_guards`: the run does nothing else.
* `Settled`: the invariant of the run. Above the last guard the buffer is the old one, and no use from
  there to the last one handled asks for a guard.
* `Answers`: what the run leaves behind. Every guard was asked for in the old text, each goes above the
  line that waits for the guard before, and every use that asked in the old text has a guard between
  its waiting line and itself.
* `guardAt?_insertAll_shift`: in the edited text a use asks only if it asked in the old text and has no
  such guard.

`guards_inserted_once` puts these together for a second run on the edited text.
-/

namespace Upkeep.MountedGuard

open Text Buffer

abbrev awaitWord : Text := "await ".toList

abbrev mountedWord : Text := "mounted".toList

/-- Whether the line at `i` ends a statement. -/
def endsAt (b : Buffer) (i : Nat) : Bool := (b.content? i).any endsStatement

/-- A guard, with the line that waits. -/
structure Guard extends Insertion where
  wait : Nat
  deriving DecidableEq, Repr

variable {b c : Buffer} {g h : Guard} {i j k use : Nat}

/-! ## Looking lines up -/

theorem find?_reverse_range'_eq_some_iff {p : Nat → Bool} {s n : Nat} :
    (List.range' s n).reverse.find? p = some i ↔
      p i = true ∧ s ≤ i ∧ i < s + n ∧ ∀ j, i < j → j < s + n → p j = false := by
  induction n with
  | zero =>
    simp only [List.range'_zero, List.reverse_nil, List.find?_nil, reduceCtorEq, false_iff]
    rintro ⟨-, hs, hi, -⟩
    omega
  | succ n ih =>
    rw [List.range'_concat, List.reverse_concat, List.find?_cons, Nat.one_mul]
    cases hp : p (s + n) with
    | true =>
      simp only [Option.some.injEq]
      constructor
      · rintro rfl
        exact ⟨hp, by omega, by omega, fun j hij hj => by omega⟩
      · rintro ⟨-, -, hi, hlast⟩
        by_contra hne
        have := hlast (s + n) (by omega) (by omega)
        rw [hp] at this
        cases this
    | false =>
      simp only [ih]
      constructor
      · rintro ⟨hpi, hs, hi, hlast⟩
        refine ⟨hpi, hs, by omega, fun j hij hj => ?_⟩
        rcases Nat.lt_or_eq_of_le (Nat.le_of_lt_succ (by omega : j < s + n + 1)) with hj | rfl
        · exact hlast j hij hj
        · exact hp
      · rintro ⟨hpi, hs, hi, hlast⟩
        have hne : i ≠ s + n := by
          rintro rfl
          rw [hp] at hpi
          cases hpi
        exact ⟨hpi, hs, by omega, fun j hij hj => hlast j hij (by omega)⟩

theorem wait?_eq_some_iff : wait? b use = some i ↔ mentions b awaitWord i = true ∧ i < use ∧
    use ≤ i + waitLookback ∧ ∀ j, i < j → j < use → mentions b awaitWord j = false := by
  rw [wait?, find?_reverse_range'_eq_some_iff, Nat.add_sub_cancel' (Nat.sub_le use waitLookback)]
  constructor
  · rintro ⟨hi, hs, hlt, hlast⟩
    exact ⟨hi, hlt, by omega, hlast⟩
  · rintro ⟨hi, hlt, hnear, hlast⟩
    exact ⟨hi, by omega, hlt, hlast⟩

theorem isGuarded_eq_false_iff : isGuarded b (i + 1) use = false ↔
    ∀ j, i < j → j ≤ use → mentions b mountedWord j = false := by
  rw [isGuarded, List.any_eq_false]
  simp only [List.mem_range'_1, Bool.not_eq_true]
  constructor
  · intro hall j hij hj
    exact hall j ⟨by omega, by omega⟩
  · rintro hall j ⟨hij, hj⟩
    exact hall j (by omega) (by omega)

theorem findIdx?_eq_some_iff_any {p : Text → Bool} {lines : List Text} {n : Nat} :
    lines.findIdx? p = some n ↔ lines[n]?.any p = true ∧ ∀ j < n, lines[j]?.any p = false := by
  induction lines generalizing n with
  | nil => simp
  | cons line rest ih =>
    rw [List.findIdx?_cons]
    cases hp : p line with
    | true =>
      cases n with
      | zero => simp [hp]
      | succ n =>
        simp only [if_true, Option.some.injEq, Nat.zero_ne_add_one, false_iff, not_and]
        intro _ hall
        have := hall 0 (Nat.succ_pos n)
        simp [hp] at this
    | false =>
      rw [if_neg Bool.false_ne_true, Option.map_eq_some_iff]
      cases n with
      | zero => simp [hp]
      | succ n =>
        simp only [ih, Nat.forall_lt_succ_left, List.getElem?_cons_zero, List.getElem?_cons_succ,
          Option.any_some, hp, true_and, Nat.succ.injEq, exists_eq_right]

theorem statementEnd?_eq_some_iff : statementEnd? b i = some k ↔
    i ≤ k ∧ endsAt b k = true ∧ ∀ j, i ≤ j → j < k → endsAt b j = false := by
  have hline : ∀ j, (b.contents.drop i)[j]?.any endsStatement = endsAt b (i + j) := fun j => by
    rw [List.getElem?_drop, endsAt, content?_eq]
  simp only [statementEnd?, Option.map_eq_some_iff, findIdx?_eq_some_iff_any, hline]
  constructor
  · rintro ⟨n, ⟨hn, hall⟩, rfl⟩
    refine ⟨Nat.le_add_right i n, hn, fun j hij hj => ?_⟩
    rw [← Nat.add_sub_cancel' hij]
    exact hall (j - i) (by omega)
  · rintro ⟨hik, hk, hall⟩
    refine ⟨k - i, ⟨?_, fun j hj => hall (i + j) (by omega) (by omega)⟩, by omega⟩
    rwa [Nat.add_sub_cancel' hik]

/-! ## The guard that a use asks for -/

/-- The guard that a step inserts for a use, if it inserts one. -/
def guardAt? (b : Buffer) (use : Nat) : Option Guard :=
  if b.length ≤ use then none
  else (wait? b use).bind fun wait =>
    if isGuarded b (wait + 1) use then none
    else (statementEnd? b wait).bind fun stop =>
      if stop < use then some ⟨⟨stop + 1, b.indent wait ++ guardFor b use⟩, wait⟩ else none

theorem step_of_guardAt?_eq_some {f : Finding} (hg : guardAt? b f.lineIndex = some g) :
    step b f = .edited (b.insert g.place g.content) := by
  rw [guardAt?] at hg
  rw [step]
  split at hg
  · cases hg
  · next hlen =>
    obtain ⟨wait, hwait, hg⟩ := Option.bind_eq_some_iff.mp hg
    split at hg
    · cases hg
    · next hguarded =>
      obtain ⟨stop, hstop, hg⟩ := Option.bind_eq_some_iff.mp hg
      split at hg
      · next hlt =>
        obtain rfl := Option.some.inj hg
        simp only [hwait, hstop, if_neg hlen, if_neg hguarded, if_pos hlt]
      · cases hg

theorem step_of_guardAt?_eq_none {f : Finding} (hg : guardAt? b f.lineIndex = none) :
    ∃ reason, step b f = .left reason := by
  rw [guardAt?] at hg
  rw [step]
  split at hg
  · next hlen => exact ⟨_, by simp only [if_pos hlen]; rfl⟩
  · next hlen =>
    simp only [if_neg hlen]
    split
    · exact ⟨_, rfl⟩
    · next wait hwait =>
      rw [hwait, Option.bind_some] at hg
      split
      · exact ⟨_, rfl⟩
      · next hguarded =>
        rw [if_neg hguarded] at hg
        split
        · exact ⟨_, rfl⟩
        · next stop hstop =>
          rw [hstop, Option.bind_some] at hg
          split
          · next hlt => rw [if_pos hlt] at hg; cases hg
          · exact ⟨_, rfl⟩

/-- What a guard is that a use asks for: it goes behind the first line from the waiting line on that ends
a statement, that line is above the use, and the use is neither far below the wait nor guarded. -/
structure IsGuardAt (b : Buffer) (use : Nat) (g : Guard) : Prop where
  use_lt : use < b.length
  waits : mentions b awaitWord g.wait = true
  wait_lt : g.wait < use
  near : use ≤ g.wait + waitLookback
  nearest : ∀ i, g.wait < i → i < use → mentions b awaitWord i = false
  unguarded : ∀ i, g.wait < i → i ≤ use → mentions b mountedWord i = false
  behind : ∃ stop, g.place = stop + 1 ∧ g.wait ≤ stop ∧ stop < use ∧ endsAt b stop = true ∧
    ∀ i, g.wait ≤ i → i < stop → endsAt b i = false
  content : g.content = b.indent g.wait ++ guardFor b use

theorem guardAt?_eq_some_iff : guardAt? b use = some g ↔ IsGuardAt b use g := by
  rw [guardAt?]
  constructor
  · intro hg
    split at hg
    · cases hg
    · next hlen =>
      obtain ⟨wait, hwait, hg⟩ := Option.bind_eq_some_iff.mp hg
      obtain ⟨hwaits, hlt, hnear, hnearest⟩ := wait?_eq_some_iff.mp hwait
      split at hg
      · cases hg
      · next hguarded =>
        have hfree := isGuarded_eq_false_iff.mp (Bool.not_eq_true _ ▸ hguarded)
        obtain ⟨stop, hstop, hg⟩ := Option.bind_eq_some_iff.mp hg
        obtain ⟨hle, hends, hfirst⟩ := statementEnd?_eq_some_iff.mp hstop
        split at hg
        · next hstopuse =>
          obtain rfl := Option.some.inj hg
          exact ⟨Nat.not_le.mp hlen, hwaits, hlt, hnear, hnearest, hfree,
            ⟨stop, rfl, hle, hstopuse, hends, hfirst⟩, rfl⟩
        · cases hg
  · intro hg
    obtain ⟨stop, hplace, hle, hstopuse, hends, hfirst⟩ := hg.behind
    have hwait := wait?_eq_some_iff.mpr ⟨hg.waits, hg.wait_lt, hg.near, hg.nearest⟩
    have hfree := isGuarded_eq_false_iff.mpr hg.unguarded
    have hstop := statementEnd?_eq_some_iff.mpr ⟨hle, hends, hfirst⟩
    rw [if_neg (Nat.not_le.mpr hg.use_lt), hwait, Option.bind_some, hfree, if_neg Bool.false_ne_true,
      hstop, Option.bind_some, if_pos hstopuse, ← hplace, ← hg.content]

namespace IsGuardAt

theorem wait_lt_place (hg : IsGuardAt b use g) : g.wait < g.place := by
  obtain ⟨stop, hplace, hle, -⟩ := hg.behind
  omega

theorem place_le (hg : IsGuardAt b use g) : g.place ≤ use := by
  obtain ⟨stop, hplace, -, hlt, -⟩ := hg.behind
  omega

theorem eq_of_wait_lt (hg : IsGuardAt b use g) (hh : IsGuardAt b k h) (hk : k ≤ use)
    (hwait : g.wait < k) : h.wait = g.wait ∧ h.place = g.place := by
  have hw : h.wait = g.wait := by
    rcases Nat.lt_trichotomy h.wait g.wait with hlt | heq | hlt
    · have := hh.nearest g.wait hlt hwait
      rw [hg.waits] at this
      cases this
    · exact heq
    · have := hg.nearest h.wait hlt (Nat.lt_of_lt_of_le hh.wait_lt hk)
      rw [hh.waits] at this
      cases this
  refine ⟨hw, ?_⟩
  obtain ⟨stop, hplace, hle, -, hends, hfirst⟩ := hg.behind
  obtain ⟨stop', hplace', hle', -, hends', hfirst'⟩ := hh.behind
  rw [hw] at hle' hfirst'
  rcases Nat.lt_trichotomy stop stop' with hlt | heq | hlt
  · rw [hfirst' stop hle hlt] at hends
    cases hends
  · omega
  · rw [hfirst stop' hle' hlt] at hends'
    cases hends'

theorem mentions_congr {part : Text} (hc : c.content? j = b.content? i) :
    mentions c part j = mentions b part i := by
  rw [mentions, mentions, hc]

theorem endsAt_congr (hc : c.content? j = b.content? i) : endsAt c j = endsAt b i := by
  rw [endsAt, endsAt, hc]

theorem lt_length_congr (hc : c.content? j = b.content? i) (hi : i < b.length) : j < c.length := by
  rw [content?_eq, content?_eq] at hc
  rw [← length_contents] at hi ⊢
  rw [List.getElem?_eq_getElem hi] at hc
  exact (List.getElem?_eq_some_iff.mp hc).1

theorem of_window {wait : Nat} (hg : IsGuardAt b (g.wait + (use - wait)) g) (hlt : wait < use)
    (hc : ∀ i, wait ≤ i → i ≤ use → c.content? i = b.content? (g.wait + (i - wait))) :
    IsGuardAt c use ⟨⟨wait + (g.place - g.wait), c.indent wait ++ guardFor c use⟩, wait⟩ where
  use_lt := lt_length_congr (hc use (Nat.le_of_lt hlt) (Nat.le_refl _)) hg.use_lt
  waits := by
    rw [mentions_congr (hc wait (Nat.le_refl _) (Nat.le_of_lt hlt)), Nat.sub_self]
    exact hg.waits
  wait_lt := hlt
  near := by
    have := hg.near
    show use ≤ wait + waitLookback
    omega
  nearest i hi hiuse := by
    have hi : wait < i := hi
    rw [mentions_congr (hc i (by omega) (by omega))]
    exact hg.nearest _ (by omega) (by omega)
  unguarded i hi hiuse := by
    have hi : wait < i := hi
    rw [mentions_congr (hc i (by omega) hiuse)]
    exact hg.unguarded _ (by omega) (by omega)
  behind := by
    obtain ⟨stop, hplace, hle, hstop, hends, hfirst⟩ := hg.behind
    refine ⟨wait + (stop - g.wait), ?_, Nat.le_add_right _ _, by omega, ?_, fun i hi histop => ?_⟩
    · show wait + (g.place - g.wait) = wait + (stop - g.wait) + 1
      omega
    · have hback : g.wait + (wait + (stop - g.wait) - wait) = stop := by omega
      rw [endsAt_congr (hc _ (by omega) (by omega)), hback]
      exact hends
    · have hi : wait ≤ i := hi
      rw [endsAt_congr (hc i hi (by omega))]
      exact hfirst _ (by omega) (by omega)
  content := rfl

theorem congr (hc : ∀ i ≤ use, c.content? i = b.content? i) (hg : IsGuardAt b use g) :
    IsGuardAt c use g := by
  have hlt := hg.wait_lt
  have hplace := hg.wait_lt_place
  have hback : ∀ i, g.wait ≤ i → g.wait + (i - g.wait) = i := fun i hi => by omega
  have hclass : inStateClass c use = inStateClass b use := by
    rw [inStateClass, inStateClass, Bool.eq_iff_iff, List.any_eq_true, List.any_eq_true]
    refine exists_congr fun i => and_congr_right fun hi => ?_
    rw [List.mem_range'_1] at hi
    rw [mentions_congr (hc i (by omega)), mentions_congr (hc i (by omega))]
  have hcontent : c.indent g.wait ++ guardFor c use = g.content := by
    rw [hg.content, guardFor, guardFor, hclass, Buffer.indent, Buffer.indent, hc g.wait (by omega)]
  have hwindow : IsGuardAt c use
      ⟨⟨g.wait + (g.place - g.wait), c.indent g.wait ++ guardFor c use⟩, g.wait⟩ := by
    refine of_window (b := b) ?_ hlt fun i hi hiuse => ?_
    · rw [hback use (Nat.le_of_lt hlt)]
      exact hg
    · rw [hback i hi]
      exact hc i hiuse
  rwa [hcontent, hback g.place (Nat.le_of_lt hplace)] at hwindow

end IsGuardAt

theorem guardAt?_congr (hc : ∀ i ≤ use, c.content? i = b.content? i) :
    guardAt? c use = guardAt? b use := by
  ext g
  rw [guardAt?_eq_some_iff, guardAt?_eq_some_iff]
  exact ⟨fun hg => hg.congr fun i hi => (hc i hi).symm, fun hg => hg.congr hc⟩

/-! ## What guards look like -/

theorem guardFor_eq (b : Buffer) (use : Nat) :
    guardFor b use = stateGuard ∨ guardFor b use = contextGuard := by
  rw [guardFor]
  split
  · exact .inl rfl
  · exact .inr rfl

theorem not_isBlank_of_mem_indent {d : Char} (hd : d ∈ b.indent i) : isBlank d = true :=
  List.all_eq_true.mp List.all_takeWhile d hd

theorem not_mem_content {d : Char} (hg : IsGuardAt b use g) (hblank : isBlank d = false)
    (hd : d ∉ stateGuard ∧ d ∉ contextGuard) : d ∉ g.content := by
  rw [hg.content, List.mem_append, not_or]
  constructor
  · intro hmem
    rw [not_isBlank_of_mem_indent hmem] at hblank
    cases hblank
  · rcases guardFor_eq b use with h | h <;> rw [h]
    · exact hd.1
    · exact hd.2

theorem isContent_guard (hb : Framed b.lines) (hg : IsGuardAt b use g) : IsContent g.content := by
  rw [hg.content]
  constructor
  · rw [List.mem_append, not_or]
    refine ⟨fun hmem => ?_, ?_⟩
    · rw [Buffer.indent, content?_eq] at hmem
      cases hline : b.contents[g.wait]? with
      | none => simp [hline, leadingBlanks] at hmem
      | some line =>
        rw [hline, Option.getD_some] at hmem
        have hfeed := (isContent_of_mem_contents hb (List.mem_of_getElem? hline)).no_feed
        exact hfeed ((List.takeWhile_sublist _).subset hmem)
    · rcases guardFor_eq b use with h | h <;> rw [h] <;> decide
  · have hlast : (guardFor b use).getLast? = some ';' := by
      rcases guardFor_eq b use with h | h <;> rw [h] <;> decide
    rw [List.getLast?_append, hlast, Option.some_or]
    decide

theorem not_contains_awaitWord (hg : IsGuardAt b use g) : contains awaitWord g.content = false :=
  contains_of_not_mem (c := 'w') (by decide) (not_mem_content hg (by decide) (by decide))

theorem contains_mountedWord (hg : IsGuardAt b use g) : contains mountedWord g.content = true := by
  rw [contains_iff, hg.content]
  rcases guardFor_eq b use with h | h <;> rw [h]
  · exact ⟨b.indent g.wait ++ "if (!".toList, ") return;".toList, by
      rw [List.append_assoc, List.append_assoc]; rfl⟩
  · exact ⟨b.indent g.wait ++ "if (!context.".toList, ") return;".toList, by
      rw [List.append_assoc, List.append_assoc]; rfl⟩

/-! ## What a run inserts -/

def guards (b : Buffer) : List Finding → List Guard
  | [] => []
  | f :: fs =>
    match guardAt? b f.lineIndex with
    | some g => g :: guards (b.insert g.place g.content) fs
    | none => guards b fs

theorem run_guards (p : Edit.Progress) (fs : List Finding) :
    (fs.foldl (Edit.advance step) p).buffer =
        p.buffer.insertAll ((guards p.buffer fs).map (·.toInsertion)) ∧
      (fs.foldl (Edit.advance step) p).applied = p.applied + (guards p.buffer fs).length := by
  induction fs generalizing p with
  | nil => exact ⟨rfl, rfl⟩
  | cons f fs ih =>
    rw [List.foldl_cons, guards]
    cases hg : guardAt? p.buffer f.lineIndex with
    | some g =>
      have hadvance : Edit.advance step p f =
          { p with buffer := p.buffer.insert g.place g.content, applied := p.applied + 1 } := by
        rw [Edit.advance, step_of_guardAt?_eq_some hg]
      obtain ⟨hbuffer, happlied⟩ := ih (Edit.advance step p f)
      rw [hadvance] at hbuffer happlied ⊢
      refine ⟨hbuffer, happlied.trans ?_⟩
      rw [List.length_cons, Nat.add_right_comm, Nat.add_assoc]
    | none =>
      obtain ⟨reason, hleft⟩ := step_of_guardAt?_eq_none hg
      have hadvance : Edit.advance step p f =
          { p with notes := p.notes ++ [Edit.note f reason] } := by
        rw [Edit.advance, hleft]
      rw [hadvance]
      exact ih _

theorem text_fix (t : Text) (fs : List Finding) : (fix t fs).text =
    ((Buffer.ofText t).insertAll ((guards (Buffer.ofText t) fs).map (·.toInsertion))).toText :=
  congrArg Buffer.toText (run_guards ⟨Buffer.ofText t, 0, []⟩ fs).1

theorem applied_fix (t : Text) (fs : List Finding) :
    (fix t fs).applied = (guards (Buffer.ofText t) fs).length :=
  (run_guards ⟨Buffer.ofText t, 0, []⟩ fs).2.trans (Nat.zero_add _)

theorem guards_eq_nil {fs : List Finding} (h : ∀ f ∈ fs, guardAt? b f.lineIndex = none) :
    guards b fs = [] := by
  induction fs with
  | nil => rfl
  | cons f fs ih =>
    rw [guards, h f List.mem_cons_self]
    exact ih fun f' hf' => h f' (List.mem_cons_of_mem _ hf')

/-! ## The invariant of a run -/

/-- Between two findings of a run from the bottom up. Above the last guard, at `top`, the buffer is the
old one, and no use from there to the last one handled asks for a guard. -/
structure Settled (b c : Buffer) (top last : Nat) : Prop where
  framed : Framed c.lines
  agree : ∀ i < top, c.content? i = b.content? i
  quiet : ∀ v, top ≤ v → v ≤ last → guardAt? c v = none

namespace Settled

variable {top last : Nat}

theorem start (hb : Framed b.lines) : Settled b b b.length last where
  framed := hb
  agree _ _ := rfl
  quiet v hv _ := by rw [guardAt?, if_pos hv]

theorem guardAt?_eq (h : Settled b c top last) (hu : use < top) :
    guardAt? c use = guardAt? b use :=
  guardAt?_congr fun i hi => h.agree i (Nat.lt_of_le_of_lt hi hu)

theorem lt_top (h : Settled b c top last) (hu : use ≤ last) (hg : guardAt? c use = some g) :
    use < top := by
  by_contra htop
  rw [h.quiet use (Nat.not_lt.mp htop) hu] at hg
  cases hg

theorem mono (h : Settled b c top last) (hu : use ≤ last) : Settled b c top use :=
  ⟨h.framed, h.agree, fun v hv hvu => h.quiet v hv (Nat.le_trans hvu hu)⟩

theorem quiet_insert (hc : Framed c.lines) (hg : IsGuardAt c use g) (hk : g.place ≤ k) (hku : k ≤ use) :
    guardAt? (c.insert g.place g.content) k = none := by
  have hplace : g.place ≤ c.length := Nat.le_trans hg.place_le (Nat.le_of_lt hg.use_lt)
  have hline := content?_insert hc (isContent_guard hc hg) hplace
  rw [Option.eq_none_iff_forall_ne_some]
  intro h hh
  rw [guardAt?_eq_some_iff] at hh
  rcases Nat.lt_trichotomy h.wait g.place with hlt | heq | hlt
  · have hguarded := hh.unguarded g.place hlt hk
    rw [mentions, hline, if_neg (Nat.lt_irrefl _), if_pos rfl, Option.any_some,
      contains_mountedWord hg] at hguarded
    cases hguarded
  · have hwaits := hh.waits
    rw [mentions, hline, heq, if_neg (Nat.lt_irrefl _), if_pos rfl, Option.any_some,
      not_contains_awaitWord hg] at hwaits
    cases hwaits
  · have hwaits := hh.waits
    have hafter := hh.wait_lt
    have hbefore := hg.wait_lt_place
    rw [mentions, hline, if_neg (by omega), if_neg (by omega), ← mentions,
      hg.nearest (h.wait - 1) (by omega) (by omega)] at hwaits
    cases hwaits

theorem insert (h : Settled b c top last) (hu : use ≤ last) (hg : guardAt? c use = some g) :
    Settled b (c.insert g.place g.content) g.place use := by
  have htop := h.lt_top hu hg
  have hguard := guardAt?_eq_some_iff.mp hg
  have hcontent := isContent_guard h.framed hguard
  have hplace := hguard.place_le
  refine ⟨framed_insert h.framed hcontent.no_feed _, fun i hi => ?_, fun v hv hvu => ?_⟩
  · rw [content?_insert h.framed hcontent (Nat.le_trans hplace (Nat.le_of_lt hguard.use_lt)), if_pos hi]
    exact h.agree i (by omega)
  · exact quiet_insert h.framed hguard hv hvu

end Settled

/-- What the guards of a run are to the findings above `top`. -/
structure Answers (b : Buffer) (top : Nat) (fs : List Finding) (gs : List Guard) : Prop where
  asked : ∀ g ∈ gs, ∃ f ∈ fs, f.lineIndex < top ∧ IsGuardAt b f.lineIndex g
  descending : gs.Pairwise fun g h => h.place ≤ g.wait
  answered : ∀ f ∈ fs, ∀ g, f.lineIndex < top → IsGuardAt b f.lineIndex g →
    ∃ h ∈ gs, g.wait < h.place ∧ h.place ≤ f.lineIndex

namespace Answers

variable {top : Nat} {f : Finding} {fs : List Finding} {gs : List Guard}

theorem skip (h : Answers b top fs gs) (hf : f.lineIndex < top → guardAt? b f.lineIndex = none) :
    Answers b top (f :: fs) gs where
  asked g hg := by
    obtain ⟨f', hf', hguard⟩ := h.asked g hg
    exact ⟨f', List.mem_cons_of_mem _ hf', hguard⟩
  descending := h.descending
  answered f' hf' g htop hg := by
    rcases List.mem_cons.mp hf' with rfl | hf'
    · rw [← guardAt?_eq_some_iff, hf htop] at hg
      cases hg
    · exact h.answered f' hf' g htop hg

theorem cons (h : Answers b g.place fs gs) (htop : f.lineIndex < top)
    (hg : IsGuardAt b f.lineIndex g) (hfs : ∀ f' ∈ fs, f'.lineIndex ≤ f.lineIndex) :
    Answers b top (f :: fs) (g :: gs) where
  asked g' hg' := by
    rcases List.mem_cons.mp hg' with rfl | hg'
    · exact ⟨f, List.mem_cons_self, htop, hg⟩
    · obtain ⟨f', hf', hplace, hguard⟩ := h.asked g' hg'
      exact ⟨f', List.mem_cons_of_mem _ hf', by have := hfs f' hf'; omega, hguard⟩
  descending := by
    refine List.pairwise_cons.mpr ⟨fun g' hg' => ?_, h.descending⟩
    obtain ⟨f', hf', hplace, hguard⟩ := h.asked g' hg'
    have hle := hguard.place_le
    by_contra hwait
    have hsame := (hg.eq_of_wait_lt hguard (hfs f' hf') (by omega)).2
    omega
  answered f' hf' g' htop' hg' := by
    have hwait := hg.wait_lt_place
    rcases List.mem_cons.mp hf' with rfl | hf'
    · have hsame := (hg.eq_of_wait_lt hg' (Nat.le_refl _) hg.wait_lt).1
      exact ⟨g, List.mem_cons_self, by omega, hg.place_le⟩
    · by_cases hplace : f'.lineIndex < g.place
      · obtain ⟨h', hh', hbetween⟩ := h.answered f' hf' g' hplace hg'
        exact ⟨h', List.mem_cons_of_mem _ hh', hbetween⟩
      · have hsame := (hg.eq_of_wait_lt hg' (hfs f' hf') (by omega)).1
        exact ⟨g, List.mem_cons_self, by omega, by omega⟩

end Answers

theorem Settled.answers {top last : Nat} {fs : List Finding} (h : Settled b c top last)
    (hlast : ∀ f ∈ fs, f.lineIndex ≤ last) (hfs : fs.Pairwise fun f g => g.lineIndex ≤ f.lineIndex) :
    Answers b top fs (guards c fs) := by
  induction fs generalizing c top last with
  | nil => exact ⟨by simp [guards], .nil, by simp⟩
  | cons f fs ih =>
    obtain ⟨hle, hfs⟩ := List.pairwise_cons.mp hfs
    have hf := hlast f List.mem_cons_self
    rw [guards]
    cases hg : guardAt? c f.lineIndex with
    | some g =>
      have htop := h.lt_top hf hg
      have hguard := guardAt?_eq_some_iff.mp (h.guardAt?_eq htop ▸ hg)
      exact (ih (h.insert hf hg) hle hfs).cons htop hguard hle
    | none =>
      refine (ih (h.mono hf) hle hfs).skip fun htop => ?_
      rw [← h.guardAt?_eq htop]
      exact hg

/-! ## The second run -/

variable {ins : List Insertion}

/-- A use of the edited text asks for a guard only if it asked in the old text, and if none of the
inserted guards stands between it and the line that waits. -/
theorem guardAt?_insertAll_shift (hb : Framed b.lines) (hins : b.Descending ins)
    (hawait : ∀ x ∈ ins, contains awaitWord x.content = false)
    (hmounted : ∀ x ∈ ins, contains mountedWord x.content = true)
    (hh : IsGuardAt (b.insertAll ins) (shift (ins.map (·.place)) use) h) :
    ∃ g, IsGuardAt b use g ∧ ∀ p ∈ ins.map (·.place), ¬ (g.wait < p ∧ p ≤ use) := by
  -- the line that waits is not an inserted one
  have hold : ∃ i, h.wait = shift (ins.map (·.place)) i := by
    rcases insertAll_cases hb hins (Nat.lt_trans hh.wait_lt hh.use_lt) with ⟨i, -, hi⟩ | ⟨x, hx, hnew⟩
    · exact ⟨i, hi⟩
    · have hwaits := hh.waits
      rw [mentions, hnew, Option.any_some, hawait x hx] at hwaits
      cases hwaits
  obtain ⟨wait, hwait⟩ := hold
  have hlt : wait < use := lt_of_shift_lt (hwait ▸ hh.wait_lt)
  -- an inserted line below it would guard
  have hbetween : ∀ p ∈ ins.map (·.place), ¬ (wait < p ∧ p ≤ use) := by
    rintro p hp ⟨hwp, hpu⟩
    have hbelow := shift_add_one_lt hp hwp
    have habove : shift (ins.map (·.place)) p ≤ shift (ins.map (·.place)) use := shift_le_shift hpu
    obtain ⟨x, hx, rfl⟩ := List.mem_map.mp hp
    have hguarded := hh.unguarded (shift (ins.map (·.place)) x.place - 1) (by omega) (by omega)
    rw [mentions, content?_insertAll_place hb hins hx, Option.any_some, hmounted x hx] at hguarded
    cases hguarded
  -- so the lines from there to the use have kept their distances
  have hshift : ∀ j, wait ≤ j → j ≤ use → shift (ins.map (·.place)) j = h.wait + (j - wait) :=
    fun j hwj hju => by
      rw [hwait]
      exact shift_eq_add hwj fun p hp hpj => hbetween p hp ⟨hpj.1, by omega⟩
  rw [hshift use (Nat.le_of_lt hlt) (Nat.le_refl _)] at hh
  refine ⟨_, hh.of_window hlt fun j hwj hju => ?_, hbetween⟩
  rw [← hshift j hwj hju]
  exact (content?_insertAll_shift hb hins j).symm

/-- A finding at the place its line has after some insertions. -/
def moved (places : List Nat) (f : Finding) : Finding :=
  { f with line := shift places f.lineIndex + 1 }

theorem lineIndex_moved (places : List Nat) (f : Finding) :
    (moved places f).lineIndex = shift places f.lineIndex :=
  Nat.add_sub_cancel _ 1

section answers

variable {fs : List Finding} {gs : List Guard}

theorem Answers.isGuardAt (h : Answers b b.length fs gs) (hg : g ∈ gs) :
    ∃ f ∈ fs, IsGuardAt b f.lineIndex g := by
  obtain ⟨f, hf, -, hguard⟩ := h.asked g hg
  exact ⟨f, hf, hguard⟩

theorem Answers.wait_lt_place (h : Answers b b.length fs gs) (hg : g ∈ gs) : g.wait < g.place := by
  obtain ⟨f, -, hguard⟩ := h.isGuardAt hg
  exact hguard.wait_lt_place

theorem Answers.descends (hb : Framed b.lines) (h : Answers b b.length fs gs) :
    b.Descending (gs.map (·.toInsertion)) := by
  refine ⟨List.forall_mem_map.mpr fun g hg => ?_, List.forall_mem_map.mpr fun g hg => ?_, ?_⟩
  · obtain ⟨f, -, hguard⟩ := h.isGuardAt hg
    exact isContent_guard hb hguard
  · obtain ⟨f, -, hguard⟩ := h.isGuardAt hg
    exact Nat.lt_of_le_of_lt hguard.place_le hguard.use_lt
  · rw [List.pairwise_map]
    refine h.descending.imp_of_mem fun {g h'} hg _ hle => ?_
    exact Nat.lt_of_le_of_lt hle (h.wait_lt_place hg)

theorem Answers.nodup_places (h : Answers b b.length fs gs) : (gs.map (·.place)).Nodup := by
  rw [List.Nodup, List.pairwise_map]
  refine h.descending.imp_of_mem fun {g h'} hg _ hle => ?_
  have := h.wait_lt_place hg
  omega

theorem Answers.nodup_waits (h : Answers b b.length fs gs) : (gs.map (·.wait)).Nodup := by
  rw [List.Nodup, List.pairwise_map]
  refine h.descending.imp_of_mem fun {g h'} _ hh hle => ?_
  have := h.wait_lt_place hh
  omega

theorem Answers.guardAt?_eq_none (hb : Framed b.lines) (h : Answers b b.length fs gs) {f : Finding}
    (hf : f ∈ fs) :
    guardAt? (b.insertAll (gs.map (·.toInsertion))) (shift (gs.map (·.place)) f.lineIndex) = none := by
  have hplaces : (gs.map (·.toInsertion)).map (·.place) = gs.map (·.place) := by
    rw [List.map_map]
    rfl
  rw [Option.eq_none_iff_forall_ne_some]
  intro k hk
  rw [guardAt?_eq_some_iff, ← hplaces] at hk
  obtain ⟨g, hg, hfree⟩ := guardAt?_insertAll_shift hb (h.descends hb)
    (List.forall_mem_map.mpr fun g hg => by
      obtain ⟨f, -, hguard⟩ := h.isGuardAt hg
      exact not_contains_awaitWord hguard)
    (List.forall_mem_map.mpr fun g hg => by
      obtain ⟨f, -, hguard⟩ := h.isGuardAt hg
      exact contains_mountedWord hguard) hk
  obtain ⟨h', hh', hbetween⟩ := h.answered f hf g hg.use_lt hg
  rw [hplaces] at hfree
  exact hfree h'.place (List.mem_map_of_mem hh') hbetween

end answers

/-- A run on findings from the bottom up inserts guards that findings ask for, at most one for each line
that waits and one at each place, so that every finding that asked for a guard has one between the line
that waits and its own. A second run, on the edited text and the findings at the places their lines have
there, finds nothing to do. -/
theorem guards_inserted_once (t : Text) (fs : List Finding)
    (hsorted : fs.Pairwise fun f g => g.line ≤ f.line) :
    ∃ gs : List Guard,
      (fix t fs).text = (weave (LineEnd.ofText t) (gs.map (·.toInsertion)) 0
        (linesWithEnds t)).flatten ∧
      (fix t fs).applied = gs.length ∧
      (∀ g ∈ gs, ∃ f ∈ fs, IsGuardAt (Buffer.ofText t) f.lineIndex g) ∧
      (∀ f ∈ fs, ∀ g, IsGuardAt (Buffer.ofText t) f.lineIndex g →
        ∃ h ∈ gs, g.wait < h.place ∧ h.place ≤ f.lineIndex) ∧
      (gs.map (·.place)).Nodup ∧
      (gs.map (·.wait)).Nodup ∧
      (fix (fix t fs).text (fs.map (moved (gs.map (·.place))))).applied = 0 ∧
      (fix (fix t fs).text (fs.map (moved (gs.map (·.place))))).text = (fix t fs).text := by
  have hb := framed_ofText t
  have hindex : fs.Pairwise fun f g => g.lineIndex ≤ f.lineIndex :=
    hsorted.imp fun hle => Nat.sub_le_sub_right hle 1
  have hanswers : Answers (Buffer.ofText t) (Buffer.ofText t).length fs (guards (Buffer.ofText t) fs) := by
    cases fs with
    | nil => exact ⟨by simp [guards], .nil, by simp⟩
    | cons f fs =>
      have hstart : Settled (Buffer.ofText t) (Buffer.ofText t) (Buffer.ofText t).length f.lineIndex :=
        .start hb
      refine hstart.answers ?_ hindex
      exact List.forall_mem_cons.mpr ⟨Nat.le_refl _, (List.pairwise_cons.mp hindex).1⟩
  obtain ⟨gs, hgs⟩ : ∃ gs, guards (Buffer.ofText t) fs = gs := ⟨_, rfl⟩
  rw [hgs] at hanswers
  have hquiet : guards (Buffer.ofText (fix t fs).text) (fs.map (moved (gs.map (·.place)))) = [] := by
    refine guards_eq_nil (List.forall_mem_map.mpr fun f hf => ?_)
    rw [lineIndex_moved, ← hanswers.guardAt?_eq_none hb hf]
    refine guardAt?_congr fun i _ => ?_
    rw [content?_eq, content?_eq, text_fix, hgs,
      contents_ofText_toText (framed_insertAll hb (hanswers.descends hb))]
  refine ⟨gs, ?_, ?_, fun g hg => hanswers.isGuardAt hg,
    fun f hf g hg => hanswers.answered f hf g hg.use_lt hg, hanswers.nodup_places,
    hanswers.nodup_waits, ?_, ?_⟩
  · rw [text_fix, hgs, Buffer.toText, lines_insertAll hb (hanswers.descends hb)]
    rfl
  · rw [applied_fix, hgs]
  · rw [applied_fix, hquiet]
    rfl
  · rw [text_fix, hquiet]
    exact toText_ofText _

/-- A source with three uses behind two lines that wait. -/
def waiting : Text := "await f();\na;\nb;\n  await g();\nc;\n".toList

/-- The uses in `waiting` from the bottom up. -/
def waitingUses : List Finding :=
  [5, 3, 2].map fun n => ⟨.info, ['m'], ['f'], n, 1, Rule.buildContextAcrossWait⟩

theorem guards_inserted_once_waiting :
    waitingUses.Pairwise (fun f g => g.line ≤ f.line) ∧ (fix waiting waitingUses).applied = 2 ∧
      ∃ gs : List Guard, gs.length = 2 ∧ (gs.map (·.wait)).Nodup ∧
        (fix (fix waiting waitingUses).text (waitingUses.map (moved (gs.map (·.place))))).applied = 0 := by
  have hsorted : waitingUses.Pairwise fun f g => g.line ≤ f.line := by decide
  have htwo : (fix waiting waitingUses).applied = 2 := by decide +kernel
  obtain ⟨gs, -, happlied, -, -, -, hwaits, hagain, -⟩ := guards_inserted_once waiting waitingUses hsorted
  exact ⟨hsorted, htwo, gs, happlied.symm.trans htwo, hwaits, hagain⟩

end Upkeep.MountedGuard
