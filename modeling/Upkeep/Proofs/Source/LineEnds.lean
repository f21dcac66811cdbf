import Upkeep.Proofs.Source.Buffer
import Upkeep.Proofs.Text.Splitting

/-!
# Line ends of edited buffers

`e.IsUsedIn t` says that a text has no line ends but `e`: no line feed without a carriage return before it, or no
carriage return at all. Such texts can be put together (`IsUsedIn.append`), and a part with no line feed right behind
it can be cut out (`IsUsedIn.cut`).

`b.Uniform e` says the same of every line of a buffer, and that new lines end with `e` too. The buffer of a text is
uniform if the text is (`uniform_ofText`), and edits keep that: lines go (`Uniform.sublist`), come
(`Uniform.insert`) or get new content (`Uniform.replace`).
-/

namespace Upkeep

open Text

namespace LineEnd

/-- A text uses no line end but this one. -/
def IsUsedIn : LineEnd → Text → Prop
  | lf, t => '\r' ∉ t
  | crlf, t => ∀ front back, t = front ++ '\n' :: back → front.getLast? = some '\r'

variable {e : LineEnd} {s t u mid : Text}

theorem IsUsedIn.of_open (hn : '\n' ∉ t) (hr : '\r' ∉ t) : e.IsUsedIn t := by
  cases e with
  | lf => exact hr
  | crlf =>
    rintro front back rfl
    simp at hn

theorem isUsedIn_text (e : LineEnd) : e.IsUsedIn e.text := by
  cases e with
  | lf => simp [IsUsedIn, text]
  | crlf =>
    intro front back h
    cases front with
    | nil => exact absurd (List.cons.inj h).1 (by decide)
    | cons c front =>
      obtain ⟨rfl, h⟩ := List.cons.inj h
      cases front with
      | nil => rfl
      | cons d front => exact absurd (congrArg List.length h) (by simp [text])

theorem IsUsedIn.append (hs : e.IsUsedIn s) (ht : e.IsUsedIn t) : e.IsUsedIn (s ++ t) := by
  cases e with
  | lf => exact List.not_mem_append hs ht
  | crlf =>
    intro front back h
    rcases List.append_eq_append_iff.mp h with ⟨rest, rfl, ht'⟩ | ⟨rest, hs', hrest⟩
    · rw [List.getLast?_append, ht rest back ht', Option.some_or]
    · cases rest with
      | nil =>
        -- the line feed is the first character of `t`, which has nothing before it
        have := ht [] back hrest.symm
        cases this
      | cons c rest =>
        obtain ⟨rfl, -⟩ := List.cons.inj hrest
        exact hs front rest hs'

theorem IsUsedIn.left (h : e.IsUsedIn (s ++ t)) : e.IsUsedIn s := by
  cases e with
  | lf => exact fun hs => h (List.mem_append_left t hs)
  | crlf =>
    rintro front back rfl
    exact h front (back ++ t) (by simp)

theorem IsUsedIn.right (h : e.IsUsedIn (s ++ t)) (hs : s.getLast? ≠ some '\r') : e.IsUsedIn t := by
  cases e with
  | lf => exact fun ht => h (List.mem_append_right s ht)
  | crlf =>
    rintro front back rfl
    have hlast := h (s ++ front) back (by simp)
    rw [List.getLast?_append, Option.or_eq_some_iff] at hlast
    exact hlast.resolve_right fun hlast => hs hlast.2

/-- A part can be cut out if no line feed comes right behind it. -/
theorem IsUsedIn.cut (h : e.IsUsedIn (s ++ mid ++ u)) (hu : u.head? ≠ some '\n') : e.IsUsedIn (s ++ u) := by
  cases e with
  | lf =>
    intro hr
    rcases List.mem_append.mp hr with hr | hr <;> exact h (by simp [hr])
  | crlf =>
    intro front back heq
    rcases List.append_eq_append_iff.mp heq with ⟨rest, rfl, rfl⟩ | ⟨rest, rfl, hrest⟩
    · cases rest with
      | nil => simp at hu
      | cons c rest =>
        have := h (s ++ mid ++ c :: rest) back (by simp)
        rw [List.getLast?_append] at this ⊢
        simpa using this
    · cases rest with
      | nil =>
        rw [List.nil_append] at hrest
        rw [← hrest] at hu
        simp at hu
      | cons c rest =>
        obtain ⟨rfl, rfl⟩ := List.cons.inj hrest
        exact h front (rest ++ mid ++ u) (by simp)

theorem isUsedIn_flatten {lines : List Text} (h : ∀ line ∈ lines, e.IsUsedIn line) : e.IsUsedIn lines.flatten := by
  induction lines with
  | nil => exact IsUsedIn.of_open (by simp) (by simp)
  | cons line lines ih =>
    rw [List.flatten_cons]
    exact (h line List.mem_cons_self).append (ih fun l hl => h l (List.mem_cons_of_mem line hl))

/-- A line of which the end is this one, if it has an end. -/
structure Fits (e : LineEnd) (line : Text) : Prop where
  isLine : ∃ body stop, '\n' ∉ body ∧ (stop = [] ∨ stop = ['\n']) ∧ line = body ++ stop
  isUsedIn : e.IsUsedIn line

theorem fits_of_open (hopen : '\n' ∉ s) (hs : e.IsUsedIn s) : e.Fits s :=
  ⟨⟨s, [], hopen, .inl rfl, (List.append_nil s).symm⟩, hs⟩

theorem fits_append_text (hopen : '\n' ∉ s) (hs : e.IsUsedIn s) : e.Fits (s ++ e.text) where
  isLine := by
    obtain ⟨body, hbody, heq⟩ := Buffer.closed_append_text hopen e
    exact ⟨body, ['\n'], hbody, .inr rfl, heq⟩
  isUsedIn := hs.append e.isUsedIn_text

theorem Fits.of_mem_lines {lines : List Text} (hl : Framed lines) (h : e.IsUsedIn lines.flatten) :
    ∀ line ∈ lines, e.Fits line := fun line hline => by
  refine ⟨hl.body_of_mem hline, ?_⟩
  induction hl with
  | nil => cases hline
  | last hne hopen =>
    obtain rfl := List.mem_singleton.mp hline
    simpa using h
  | @cons first rest hclosed hrest ih =>
    rw [List.flatten_cons] at h
    rcases List.mem_cons.mp hline with rfl | hline
    · exact h.left
    · refine ih ?_ hline
      obtain ⟨body, -, rfl⟩ := hclosed
      exact h.right (by simp)

end LineEnd

namespace Buffer

variable {b : Buffer} {e : LineEnd} {c line : Text} {i : Nat}

/-- The lines of a buffer end with `e`, and so do new ones. -/
structure Uniform (b : Buffer) (e : LineEnd) : Prop where
  lineEnd : b.lineEnd = e
  fits : ∀ line ∈ b.lines, e.Fits line

theorem uniform_ofText {t : Text} (ht : LineEnd.ofText t = e) (h : e.IsUsedIn t) : (ofText t).Uniform e where
  lineEnd := ht
  fits := LineEnd.Fits.of_mem_lines (framed_ofText t) (by rwa [← toText_ofText t] at h)

namespace Uniform

theorem isUsedIn_toText (h : b.Uniform e) : e.IsUsedIn b.toText :=
  LineEnd.isUsedIn_flatten fun line hl => (h.fits line hl).isUsedIn

/-! ## Contents -/

theorem isUsedIn_of_subset (h : b.Uniform e) (hl : line ∈ b.lines) (hc : c ⊆ contentOf line) :
    '\n' ∉ c ∧ e.IsUsedIn c := by
  have hopen : '\n' ∉ c := by
    intro hn
    obtain ⟨body, stop, hbody, hstop, rfl⟩ := (h.fits line hl).isLine
    have hmem := hc hn
    rcases hstop with rfl | rfl
    · exact hbody (by simpa using (isPrefix_contentOf _).subset hmem)
    · rw [show ['\n'] = LineEnd.lf.text from rfl, contentOf_append_text hbody] at hmem
      exact hbody ((isPrefix_contentOf _).subset hmem)
  refine ⟨hopen, ?_⟩
  cases e with
  | lf => exact fun hr => (h.fits line hl).isUsedIn ((isPrefix_contentOf _).subset (hc hr))
  | crlf =>
    rintro front back rfl
    simp at hopen

/-! ## Edits -/

theorem sublist {lines : List Text} (h : b.Uniform e) (hsub : lines.Sublist b.lines) :
    ({ b with lines } : Buffer).Uniform e :=
  ⟨h.lineEnd, fun line hl => h.fits line (hsub.subset hl)⟩

theorem fits_of_mem_closedLines (h : b.Uniform e) (hl : line ∈ b.closedLines) : e.Fits line := by
  rw [closedLines] at hl
  split at hl
  · next last hlast =>
    split at hl
    · exact h.fits line hl
    · next hend =>
      rcases List.mem_append.mp hl with hl | hl
      · exact h.fits line ((List.dropLast_sublist b.lines).subset hl)
      · have hfits := h.fits last (List.mem_of_getLast? hlast)
        obtain ⟨body, stop, hbody, hstop, rfl⟩ := hfits.isLine
        obtain rfl : stop = [] := hstop.resolve_right fun hs => hend (endsWith_iff.mpr ⟨body, by rw [hs]⟩)
        rw [List.append_nil] at hl hfits
        rw [List.mem_singleton.mp hl, h.lineEnd]
        exact LineEnd.fits_append_text hbody hfits.isUsedIn
  · cases hl

theorem insert (h : b.Uniform e) (hopen : '\n' ∉ c) (hc : e.IsUsedIn c) (i : Nat) : (b.insert i c).Uniform e := by
  have hnew : e.Fits (c ++ b.lineEnd.text) := by
    rw [h.lineEnd]
    exact LineEnd.fits_append_text hopen hc
  rw [Buffer.insert]
  split
  · next hi =>
    refine ⟨h.lineEnd, fun line hl => ?_⟩
    rcases (List.mem_insertIdx (Nat.le_of_lt hi)).mp hl with rfl | hl
    · exact hnew
    · exact h.fits line hl
  · refine ⟨h.lineEnd, fun line hl => ?_⟩
    rcases List.mem_append.mp hl with hl | hl
    · exact h.fits_of_mem_closedLines hl
    · rw [List.mem_singleton.mp hl]
      exact hnew

theorem fits_append_endOf (h : b.Uniform e) (hl : line ∈ b.lines) (hopen : '\n' ∉ c) (hc : e.IsUsedIn c) :
    e.Fits (c ++ endOf line) := by
  have huses := (h.fits line hl).isUsedIn
  rw [endOf]
  split
  · next hcrlf =>
    obtain ⟨before, rfl⟩ := endsWith_iff.mp hcrlf
    cases e with
    | lf => exact absurd (by simp) huses
    | crlf => exact LineEnd.fits_append_text hopen hc
  · next hcrlf =>
    split
    · next hlf =>
      obtain ⟨before, rfl⟩ := endsWith_iff.mp hlf
      cases e with
      | lf => exact LineEnd.fits_append_text hopen hc
      | crlf =>
        obtain ⟨front, rfl⟩ := List.getLast?_eq_some_iff.mp (huses before [] rfl)
        exact absurd (endsWith_iff.mpr ⟨front, by simp⟩) hcrlf
    · rw [List.append_nil]
      exact LineEnd.fits_of_open hopen hc

theorem replace (h : b.Uniform e) (hopen : '\n' ∉ c) (hc : e.IsUsedIn c) (i : Nat) :
    (b.replace i c).Uniform e := by
  refine ⟨h.lineEnd, fun line hl => ?_⟩
  obtain ⟨j, hj⟩ := List.mem_iff_getElem?.mp hl
  rw [Buffer.replace, List.getElem?_modify] at hj
  obtain ⟨old, hold, rfl⟩ := Option.map_eq_some_iff.mp hj
  have hmem := List.mem_of_getElem? hold
  split
  · exact h.fits_append_endOf hmem hopen hc
  · exact h.fits old hmem

end Uniform

end Buffer
end Upkeep
