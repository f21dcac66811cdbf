import Mathlib.Data.List.Infix
import Upkeep.Fix.InvalidConst
import Upkeep.Proofs.Source.ConstSpan
import Upkeep.Proofs.Source.Replacement
import Upkeep.Proofs.Source.Size

/-!
# Cuts at reported keywords

When every finding points at a keyword, a run from the bottom right to the top left cuts just these keywords, each with
the blanks behind it as they stand in the old text.

* `choose?_eq_some`: the keyword at the reported column is the one that is chosen.
* `Buffer.OneEnd`: a line that gets back what it had but for its content, which is every line of a text in which
  carriage returns stand before line feeds only (`oneEnd_of_mem_lines`).
* `foldl_pointed`: the run, by induction on the findings. The first finding is the last place in the buffer, so the
  others still point at their keywords behind its cut.
* `pointed_spans_cut`: the same for texts.
-/

namespace Upkeep

open Text

/-! ## Lines with one end -/

namespace Buffer

variable {body c line t : Text} {lines : List Text}

/-- A line in which no carriage return and no line feed stands but in its end, if it has one. -/
inductive OneEnd : Text → Prop
  | opened {body : Text} (hfeed : '\n' ∉ body) (hreturn : '\r' ∉ body) : OneEnd body
  | closed {body : Text} (hfeed : '\n' ∉ body) (hreturn : '\r' ∉ body) (e : LineEnd) : OneEnd (body ++ e.text)

theorem isContent_of_not_mem (hfeed : '\n' ∉ body) (hreturn : '\r' ∉ body) : IsContent body :=
  ⟨hfeed, fun h => hreturn (List.mem_of_getLast? h)⟩

theorem contentOf_eq_self (h : IsContent c) : contentOf c = c := by
  rw [contentOf_of_open h.no_feed, dropEndWhile_return h]

theorem endOf_append_text (h : IsContent c) (e : LineEnd) : endOf (c ++ e.text) = e.text := by
  cases e with
  | crlf =>
    have hcrlf : endsWith ['\r', '\n'] (c ++ LineEnd.crlf.text) = true := endsWith_iff.mpr ⟨c, rfl⟩
    rw [endOf, if_pos hcrlf, LineEnd.text]
  | lf =>
    have hlf : endsWith ['\n'] (c ++ LineEnd.lf.text) = true := endsWith_iff.mpr ⟨c, rfl⟩
    have hcrlf : ¬ endsWith ['\r', '\n'] (c ++ LineEnd.lf.text) = true := by
      rw [endsWith_iff]
      rintro ⟨before, hbefore⟩
      rw [LineEnd.text, show ['\r', '\n'] = ['\r'] ++ ['\n'] from rfl, ← List.append_assoc] at hbefore
      have hc : c = before ++ ['\r'] := List.append_cancel_right hbefore
      exact h.no_return (by rw [hc, List.getLast?_concat])
    rw [endOf, if_neg hcrlf, if_pos hlf, LineEnd.text]

namespace OneEnd

theorem contentOf_append_endOf (h : OneEnd line) : contentOf line ++ endOf line = line := by
  cases h with
  | opened hfeed hreturn =>
    rw [contentOf_eq_self (isContent_of_not_mem hfeed hreturn), endOf_of_open hfeed, List.append_nil]
  | closed hfeed hreturn e =>
    have hbody := isContent_of_not_mem hfeed hreturn
    rw [contentOf_closed hbody, endOf_append_text hbody]

theorem not_mem_contentOf (h : OneEnd line) : '\n' ∉ contentOf line ∧ '\r' ∉ contentOf line := by
  cases h with
  | opened hfeed hreturn =>
    rw [contentOf_eq_self (isContent_of_not_mem hfeed hreturn)]
    exact ⟨hfeed, hreturn⟩
  | closed hfeed hreturn e =>
    rw [contentOf_closed (isContent_of_not_mem hfeed hreturn)]
    exact ⟨hfeed, hreturn⟩

theorem append_endOf (h : OneEnd line) (hfeed : '\n' ∉ c) (hreturn : '\r' ∉ c) :
    OneEnd (c ++ endOf line) ∧ contentOf (c ++ endOf line) = c := by
  have hc := isContent_of_not_mem hfeed hreturn
  cases h with
  | opened hfeed' hreturn' =>
    rw [endOf_of_open hfeed', List.append_nil]
    exact ⟨.opened hfeed hreturn, contentOf_eq_self hc⟩
  | closed hfeed' hreturn' e =>
    rw [endOf_append_text (isContent_of_not_mem hfeed' hreturn')]
    exact ⟨.closed hfeed hreturn e, contentOf_closed hc e⟩

end OneEnd

def ReturnsBeforeFeeds (t : Text) : Prop := ∀ front back, t = front ++ '\r' :: back → back.head? = some '\n'

theorem returnsBeforeFeeds_iff : ReturnsBeforeFeeds t ↔
    ∀ rest ∈ t.tails, rest.head? = some '\r' → rest.tail.head? = some '\n' := by
  simp only [List.mem_tails]
  constructor
  · rintro h rest ⟨front, hfront⟩ hrest
    obtain ⟨back, rfl⟩ := List.head?_eq_some_iff.mp hrest
    exact h front back hfront.symm
  · rintro h front back rfl
    exact h _ (List.suffix_append front _) rfl

instance (t : Text) : Decidable (ReturnsBeforeFeeds t) := decidable_of_iff _ returnsBeforeFeeds_iff.symm

theorem oneEnd_of_closed (hline : Closed line) (h : ReturnsBeforeFeeds (line ++ t)) : OneEnd line := by
  obtain ⟨body, hfeed, rfl⟩ := hline
  by_cases hreturn : '\r' ∈ body
  · obtain ⟨front, back, rfl, hfront⟩ := List.eq_append_cons_of_mem hreturn
    have hnext := h front (back ++ ['\n'] ++ t) (by simp)
    cases back with
    | nil =>
      have hopen : '\n' ∉ front := fun hn => hfeed (List.mem_append_left _ hn)
      have hcrlf : front ++ ['\r'] ++ ['\n'] = front ++ LineEnd.crlf.text := by simp [LineEnd.text]
      rw [hcrlf]
      exact .closed hopen hfront .crlf
    | cons d back =>
      obtain rfl : d = '\n' := by simpa using hnext
      simp at hfeed
  · exact .closed hfeed hreturn .lf

theorem oneEnd_of_mem_lines (hlines : Framed lines) (h : ReturnsBeforeFeeds lines.flatten) :
    ∀ line ∈ lines, OneEnd line := by
  induction hlines with
  | nil => simp
  | @last line hne hopen =>
    have hreturn : '\r' ∉ line := by
      intro hr
      obtain ⟨front, back, rfl⟩ := List.append_of_mem hr
      have hnext := h front back (by simp)
      exact hopen (List.mem_append_right _ (List.mem_cons_of_mem _ (List.mem_of_head? hnext)))
    simpa using OneEnd.opened hopen hreturn
  | @cons line rest hclosed hrest ih =>
    rw [List.flatten_cons] at h
    refine List.forall_mem_cons.mpr ⟨oneEnd_of_closed hclosed h, ih ?_⟩
    intro front back hrest
    exact h (line ++ front) back (by rw [hrest, List.append_assoc])

end Buffer

/-! ## The keyword at a column -/

namespace ConstSpan

variable {s : ConstSpan} {spans : List ConstSpan} {column : Nat}

theorem exists_nearest? (column : Nat) (h : spans ≠ []) : ∃ s, nearest? column spans = some s := by
  cases spans with
  | nil => exact absurd rfl h
  | cons first rest =>
    rw [nearest?]
    split
    · exact ⟨first, rfl⟩
    · split
      · exact ⟨_, rfl⟩
      · exact ⟨first, rfl⟩

theorem nearest?_le (h : nearest? column spans = some s) : ∀ r ∈ spans, s.distance column ≤ r.distance column := by
  induction spans generalizing s with
  | nil => simp
  | cons first rest ih =>
    rw [nearest?] at h
    split at h
    · next hnone =>
      obtain rfl := Option.some.inj h
      have hrest : rest = [] := by
        refine Classical.byContradiction fun hne => ?_
        obtain ⟨t, ht⟩ := exists_nearest? column hne
        rw [hnone] at ht
        cases ht
      simp [hrest]
    · next t ht =>
      have hle := ih ht
      split at h
      · next hlt =>
        obtain rfl := Option.some.inj h
        exact List.forall_mem_cons.mpr ⟨Nat.le_of_lt hlt, hle⟩
      · next hlt =>
        obtain rfl := Option.some.inj h
        refine List.forall_mem_cons.mpr ⟨Nat.le_refl _, fun r hr => ?_⟩
        have := hle r hr
        omega

end ConstSpan

namespace InvalidConst

open Buffer ConstSpan

variable {b : Buffer} {f : Finding} {fs : List Finding} {s : ConstSpan} {line : Text} {i column : Nat}

theorem choose?_eq_some (hs : s ∈ all line) (hcolumn : s.column = column - 1) :
    choose? (all line) column = some s := by
  have hzero : s.distance (column - 1) = 0 := by
    rw [distance, hcolumn]
    omega
  have hnear : s ∈ (all line).filter fun r => decide (r.distance (column - 1) ≤ window) :=
    List.mem_filter.mpr ⟨hs, decide_eq_true (by omega)⟩
  obtain ⟨r, hr⟩ := exists_nearest? (column - 1) (List.ne_nil_of_mem hnear)
  have hle := nearest?_le hr s hnear
  have hrs : r = s := by
    refine eq_of_column_eq (List.mem_of_mem_filter (mem_of_nearest? hr)) hs ?_
    rw [hzero, distance] at hle
    omega
  rw [choose?, hr, hrs, Option.some_or]

def PointsAt (b : Buffer) (f : Finding) : Prop :=
  ∃ s ∈ all (b.contentAt f.lineIndex), s.column = f.column - 1

def columnsOn (fs : List Finding) (i : Nat) (k : Nat) : Bool := fs.any fun f => f.lineIndex = i ∧ f.column = k + 1

/-- A line without the keywords that some findings point at. -/
def withoutReported (fs : List Finding) (i : Nat) (line : Text) : Text :=
  cutOut (cutsAt (columnsOn fs i) (contentOf line)) line

def Before (f g : Finding) : Prop := f.line < g.line ∨ f.line = g.line ∧ f.column < g.column

theorem columnsOn_iff {k : Nat} : columnsOn fs i k = true ↔ ∃ f ∈ fs, f.lineIndex = i ∧ f.column = k + 1 := by
  simp [columnsOn]

theorem withoutReported_nil (i : Nat) (line : Text) : withoutReported [] i line = line := by
  have hnone : cutsAt (columnsOn [] i) (contentOf line) = [] := by simp [cutsAt, columnsOn]
  rw [withoutReported, hnone, cutOut_nil]

theorem content?_of_pointsAt (h : PointsAt b f) : b.content? f.lineIndex = some (b.contentAt f.lineIndex) := by
  obtain ⟨s, hs, -⟩ := h
  refine content?_of_lt (Nat.lt_of_not_le fun hle => ?_)
  rw [contentAt_of_le hle] at hs
  cases hs

/-! ## One cut -/

theorem step_of_pointsAt (hs : s ∈ all (b.contentAt f.lineIndex)) (hcolumn : s.column = f.column - 1) :
    step b f = .edited (b.replace f.lineIndex (s.cut (b.contentAt f.lineIndex))) := by
  rw [step, content?_of_pointsAt ⟨s, hs, hcolumn⟩]
  dsimp only
  rw [choose?_eq_some hs hcolumn]

theorem cut_subset (s : ConstSpan) (line : Text) : s.cut line ⊆ line :=
  List.append_subset.mpr ⟨List.take_subset _ _, List.drop_subset _ _⟩

theorem oneEnd_cut (h : OneEnd line) (s : ConstSpan) : OneEnd (s.cut (contentOf line) ++ endOf line) ∧
    contentOf (s.cut (contentOf line) ++ endOf line) = s.cut (contentOf line) := by
  obtain ⟨hfeed, hreturn⟩ := h.not_mem_contentOf
  exact h.append_endOf (fun hn => hfeed (cut_subset s _ hn)) fun hr => hreturn (cut_subset s _ hr)

theorem contentAt_replace (hlines : ∀ line ∈ b.lines, OneEnd line) (h : PointsAt b f) (s : ConstSpan) :
    (b.replace f.lineIndex (s.cut (b.contentAt f.lineIndex))).contentAt f.lineIndex =
      s.cut (b.contentAt f.lineIndex) := by
  obtain ⟨old, hold, hcontent, hnew⟩ :=
    contentAt_replace_self (content?_of_pointsAt h) (s.cut (b.contentAt f.lineIndex))
  rw [hnew, ← hcontent]
  exact (oneEnd_cut (hlines old (List.mem_of_getElem? hold)) s).2

theorem oneEnd_replace (hlines : ∀ line ∈ b.lines, OneEnd line) (i : Nat) (s : ConstSpan) :
    ∀ line ∈ (b.replace i (s.cut (b.contentAt i))).lines, OneEnd line := by
  intro line hline
  obtain ⟨j, hj⟩ := List.mem_iff_getElem?.mp hline
  rw [replace, List.getElem?_modify] at hj
  obtain ⟨old, hold, rfl⟩ := Option.map_eq_some_iff.mp hj
  have hone := hlines old (List.mem_of_getElem? hold)
  split
  · next hij =>
    have hcontent : b.contentAt i = contentOf old := by rw [contentAt, content?, hij, hold]; rfl
    rw [hcontent]
    exact (oneEnd_cut hone s).1
  · exact hone

theorem pointsAt_replace {g : Finding} (hlines : ∀ line ∈ b.lines, OneEnd line)
    (hs : s ∈ all (b.contentAt f.lineIndex)) (hcolumn : s.column = f.column - 1) (hg : PointsAt b g)
    (hbefore : g.lineIndex = f.lineIndex → g.column - 1 < f.column - 1) :
    PointsAt (b.replace f.lineIndex (s.cut (b.contentAt f.lineIndex))) g := by
  obtain ⟨r, hr, hrcolumn⟩ := hg
  refine ⟨r, ?_, hrcolumn⟩
  by_cases hline : g.lineIndex = f.lineIndex
  · have hlt := hbefore hline
    rw [hline] at hr ⊢
    rw [contentAt_replace hlines ⟨s, hs, hcolumn⟩]
    exact mem_all_cut hs hr (by omega)
  · rwa [contentAt_replace_of_ne _ (Ne.symm hline)]

/-! ## Runs -/

theorem before_lineIndex {g : Finding} (h : Before g f) (hg : 1 ≤ g.line ∧ 1 ≤ g.column)
    (hline : g.lineIndex = f.lineIndex) : g.column - 1 < f.column - 1 := by
  simp only [Finding.lineIndex] at hline
  rcases h with hlt | ⟨-, hlt⟩ <;> omega

theorem withoutReported_cut {old : Text} (hold : OneEnd old) (hs : s ∈ all (contentOf old)) (hf : 1 ≤ f.column)
    (hcolumn : s.column = f.column - 1) (hothers : ∀ g ∈ fs, g.lineIndex = f.lineIndex →
      g.column - 1 < s.column ∧ ∃ r ∈ all (contentOf old), r.column = g.column - 1) :
    withoutReported fs f.lineIndex (s.cut (contentOf old) ++ endOf old) =
      withoutReported (f :: fs) f.lineIndex old := by
  rw [withoutReported, withoutReported, (oneEnd_cut hold s).2]
  conv => rhs; arg 2; rw [← hold.contentOf_append_endOf]
  refine cutOut_cut hs ?_ ?_ (endOf old)
  · intro k
    rw [columnsOn_iff, columnsOn_iff, List.exists_mem_cons_iff]
    refine or_congr ⟨fun h => by omega, fun h => ⟨rfl, by omega⟩⟩ Iff.rfl
  · intro k hk
    obtain ⟨g, hg, hline, hk⟩ := columnsOn_iff.mp hk
    have hother := hothers g hg hline
    rwa [show g.column - 1 = k by omega] at hother

theorem foldl_pointed (p : Edit.Progress) (hlines : ∀ line ∈ p.buffer.lines, OneEnd line)
    (hsorted : fs.Pairwise fun f g => Before g f) (hplaces : ∀ f ∈ fs, 1 ≤ f.line ∧ 1 ≤ f.column)
    (hpoints : ∀ f ∈ fs, PointsAt p.buffer f) :
    (fs.foldl (Edit.advance step) p).buffer.lines = p.buffer.lines.mapIdx (withoutReported fs) ∧
      (fs.foldl (Edit.advance step) p).applied = p.applied + fs.length ∧
      (fs.foldl (Edit.advance step) p).notes = p.notes := by
  induction fs generalizing p with
  | nil =>
    have hself : p.buffer.lines.mapIdx (withoutReported []) = p.buffer.lines := by
      apply List.ext_getElem?
      intro i
      rw [List.getElem?_mapIdx]
      cases p.buffer.lines[i]? with
      | none => rfl
      | some line => rw [Option.map_some, withoutReported_nil]
    exact ⟨hself.symm, rfl, rfl⟩
  | cons f fs ih =>
    obtain ⟨hbefore, hsorted⟩ := List.pairwise_cons.mp hsorted
    obtain ⟨hplace, hplaces⟩ := List.forall_mem_cons.mp hplaces
    obtain ⟨hpoint, hpoints⟩ := List.forall_mem_cons.mp hpoints
    obtain ⟨s, hs, hcolumn⟩ := hpoint
    have hleft : ∀ g ∈ fs, g.lineIndex = f.lineIndex → g.column - 1 < f.column - 1 :=
      fun g hg => before_lineIndex (hbefore g hg) (hplaces g hg)
    have hadvance : Edit.advance step p f = { p with
        buffer := p.buffer.replace f.lineIndex (s.cut (p.buffer.contentAt f.lineIndex)), applied := p.applied + 1 } := by
      rw [Edit.advance, step_of_pointsAt hs hcolumn]
    rw [List.foldl_cons, hadvance]
    obtain ⟨hbuffer, happlied, hnotes⟩ := ih
      ⟨p.buffer.replace f.lineIndex (s.cut (p.buffer.contentAt f.lineIndex)), p.applied + 1, p.notes⟩
      (oneEnd_replace hlines f.lineIndex s) hsorted hplaces fun g hg =>
        pointsAt_replace hlines hs hcolumn (hpoints g hg) (hleft g hg)
    refine ⟨?_, ?_, hnotes⟩
    · rw [hbuffer]
      apply List.ext_getElem?
      intro i
      rw [List.getElem?_mapIdx, List.getElem?_mapIdx, replace, List.getElem?_modify]
      cases hold : p.buffer.lines[i]? with
      | none => rfl
      | some old =>
        have hone := hlines old (List.mem_of_getElem? hold)
        simp only [Option.map_eq_map, Option.map_some, Option.some.injEq]
        split
        · next hi =>
          subst hi
          have hcontent : p.buffer.contentAt f.lineIndex = contentOf old := by rw [contentAt, content?, hold]; rfl
          rw [hcontent] at hs ⊢
          refine withoutReported_cut hone hs hplace.2 hcolumn fun g hg hline => ⟨hcolumn ▸ hleft g hg hline, ?_⟩
          obtain ⟨r, hr, hrcolumn⟩ := hpoints g hg
          rw [hline, hcontent] at hr
          exact ⟨r, hr, hrcolumn⟩
        · next hi =>
          have hsame : columnsOn (f :: fs) i = columnsOn fs i := by
            funext k
            simp [columnsOn, hi]
          rw [withoutReported, withoutReported, hsame]
    · rw [happlied, List.length_cons]
      dsimp only
      omega

/-- In a text in which carriage returns stand before line feeds only, findings from the bottom right to the top left
that point at keywords have just these keywords cut, each with the blanks behind it on the old line. All else stays,
and every finding counts. -/
theorem pointed_spans_cut (t : Text) (fs : List Finding) (hreturns : ReturnsBeforeFeeds t)
    (hsorted : fs.Pairwise fun f g => Before g f) (hplaces : ∀ f ∈ fs, 1 ≤ f.line ∧ 1 ≤ f.column)
    (hpoints : ∀ f ∈ fs, PointsAt (ofText t) f) :
    (fix t fs).text = ((linesWithEnds t).mapIdx fun i line =>
        cutOut (cutsAt (columnsOn fs i) (contentOf line)) line).flatten ∧
      (fix t fs).applied = fs.length ∧ (fix t fs).notes = [] := by
  have hlines : ∀ line ∈ (ofText t).lines, OneEnd line := by
    apply oneEnd_of_mem_lines (framed_ofText t)
    rwa [← toText, toText_ofText]
  obtain ⟨hbuffer, happlied, hnotes⟩ := foldl_pointed ⟨ofText t, 0, []⟩ hlines hsorted hplaces hpoints
  refine ⟨?_, ?_, hnotes⟩
  · exact congrArg List.flatten hbuffer
  · exact happlied.trans (Nat.zero_add _)

/-- Two keywords side by side and a third one with another blank, and a last line that is open. -/
def nestedConsts : Text := "const const A(const\u00A0B());".toList ++ LineEnd.crlf.text ++ "x(const C());".toList

/-- Findings at all keywords of `nestedConsts`, from the last to the first. -/
def constReports : List Finding :=
  [(2, 3), (1, 15), (1, 7), (1, 1)].map fun (line, column) =>
    ⟨.error, "Invalid constant value".toList, "lib/a.dart".toList, line, column, Rule.invalidConstant⟩

theorem pointed_spans_cut_nested : ReturnsBeforeFeeds nestedConsts ∧ (constReports.Pairwise fun f g => Before g f) ∧
    (∀ f ∈ constReports, 1 ≤ f.line ∧ 1 ≤ f.column) ∧ (∀ f ∈ constReports, PointsAt (ofText nestedConsts) f) ∧
    (fix nestedConsts constReports).text = "A(B());".toList ++ LineEnd.crlf.text ++ "x(C());".toList ∧
    (fix nestedConsts constReports).applied = 4 := by
  have hreturns : ReturnsBeforeFeeds nestedConsts := by decide +kernel
  have hsorted : constReports.Pairwise fun f g => Before g f := by
    unfold Before
    decide
  have hplaces : ∀ f ∈ constReports, 1 ≤ f.line ∧ 1 ≤ f.column := by decide
  have hpoints : ∀ f ∈ constReports, PointsAt (ofText nestedConsts) f := by
    unfold PointsAt
    decide +kernel
  obtain ⟨htext, happlied, -⟩ := pointed_spans_cut nestedConsts constReports hreturns hsorted hplaces hpoints
  refine ⟨hreturns, hsorted, hplaces, hpoints, htext.trans ?_, happlied⟩
  decide +kernel

end InvalidConst
end Upkeep
