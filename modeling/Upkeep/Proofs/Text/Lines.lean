import Upkeep.Proofs.Text.Splitting

/-!
# Lines and texts

`Framed lines` says that some lines with their ends are the lines of a text: each is closed by its only
line feed, and the last may be open. The lines of every text are framed (`framed_linesWithEnds`), and
framed lines are the lines of the text that they make (`linesWithEnds_flatten`). Removing lines,
inserting a closed line and closing the last one keep the frame. Lines joined by line feeds are read
back (`lines_intercalate`). Behind a line feed a text goes on with lines of its own (`lines_append`), and closing the
last line is seen in that line alone (`lines_close`).

An open line of which nothing is left is no line of the text. `Parted lines` allows for one at the end, and is all that
the edits of lines need; framed lines are parted ones without an empty line (`framed_iff`).
-/

namespace Upkeep.Text

def Closed (line : Text) : Prop := ∃ body, '\n' ∉ body ∧ line = body ++ ['\n']

/-- The lines of a text: all closed, but the last may be open. -/
inductive Framed : List Text → Prop
  | nil : Framed []
  | last {line : Text} (hne : line ≠ []) (hopen : '\n' ∉ line) : Framed [line]
  | cons {line : Text} {rest : List Text} (hclosed : Closed line) (hrest : Framed rest) :
      Framed (line :: rest)

/-- Some lines of which all but the last are closed. The last may be open, and empty. -/
inductive Parted : List Text → Prop
  | nil : Parted []
  | last {line : Text} (hopen : '\n' ∉ line) : Parted [line]
  | cons {line : Text} {rest : List Text} (hclosed : Closed line) (hrest : Parted rest) : Parted (line :: rest)

/-! ## Cutting after line feeds -/

theorem linesWithEnds_append {body : Text} (h : '\n' ∉ body) (rest : Text) :
    linesWithEnds (body ++ '\n' :: rest) = (body ++ ['\n']) :: linesWithEnds rest := by
  induction body with
  | nil => simp [linesWithEnds]
  | cons c body ih =>
    obtain ⟨hc, hbody⟩ : '\n' ≠ c ∧ '\n' ∉ body := by simpa using h
    rw [List.cons_append, linesWithEnds, if_neg hc.symm, ih hbody]
    rfl

theorem linesWithEnds_eq_singleton {line : Text} (hne : line ≠ []) (h : '\n' ∉ line) :
    linesWithEnds line = [line] := by
  induction line with
  | nil => exact absurd rfl hne
  | cons c line ih =>
    obtain ⟨hc, hline⟩ : '\n' ≠ c ∧ '\n' ∉ line := by simpa using h
    rw [linesWithEnds, if_neg hc.symm]
    cases line with
    | nil => rfl
    | cons d line => rw [ih (by simp) hline]

theorem framed_linesWithEnds (t : Text) : Framed (linesWithEnds t) := by
  induction t with
  | nil => exact .nil
  | cons c t ih =>
    rw [linesWithEnds]
    split
    · exact .cons ⟨[], by simp, rfl⟩ ih
    · next hc =>
      cases hls : linesWithEnds t with
      | nil => exact .last (by simp) (by simpa using Ne.symm hc)
      | cons line rest =>
        rw [hls] at ih
        cases ih with
        | last hne hopen => exact .last (by simp) (by simpa using ⟨Ne.symm hc, hopen⟩)
        | cons hclosed hrest =>
          obtain ⟨body, hbody, rfl⟩ := hclosed
          exact .cons ⟨c :: body, by simpa using ⟨Ne.symm hc, hbody⟩, rfl⟩ hrest

theorem linesWithEnds_flatten {lines : List Text} (h : Framed lines) :
    linesWithEnds lines.flatten = lines := by
  induction h with
  | nil => rfl
  | last hne hopen => simpa using linesWithEnds_eq_singleton hne hopen
  | cons hclosed hrest ih =>
    obtain ⟨body, hbody, rfl⟩ := hclosed
    rw [List.flatten_cons, List.append_assoc, List.singleton_append, linesWithEnds_append hbody, ih]

/-! ## Edits of parted lines -/

section Parted

variable {lines part : List Text} {line : Text} {i : Nat}

theorem Parted.closed_or_open (h : Parted lines) (hl : line ∈ lines) : Closed line ∨ '\n' ∉ line := by
  induction h with
  | nil => cases hl
  | last hopen => exact .inr (List.mem_singleton.mp hl ▸ hopen)
  | cons hclosed _ ih =>
    rcases List.mem_cons.mp hl with rfl | hl
    · exact .inl hclosed
    · exact ih hl

theorem Parted.all_closed_or_last_open (h : Parted lines) : (∀ l ∈ lines, Closed l) ∨
    ∃ front last, (∀ l ∈ front, Closed l) ∧ '\n' ∉ last ∧ lines = front ++ [last] := by
  induction h with
  | nil => exact .inl (by simp)
  | last hopen => exact .inr ⟨[], _, by simp, hopen, rfl⟩
  | cons hclosed hrest ih =>
    rcases ih with hall | ⟨front, last, hfront, hopen, rfl⟩
    · exact .inl (List.forall_mem_cons.mpr ⟨hclosed, hall⟩)
    · exact .inr ⟨_ :: front, last, List.forall_mem_cons.mpr ⟨hclosed, hfront⟩, hopen, rfl⟩

theorem Parted.sublist (h : Parted lines) (hp : part.Sublist lines) : Parted part := by
  induction h generalizing part with
  | nil => rw [List.sublist_nil.mp hp]; exact .nil
  | last hopen =>
    cases hp with
    | cons _ hp => rw [List.sublist_nil.mp hp]; exact .nil
    | cons_cons _ hp => rw [List.sublist_nil.mp hp]; exact .last hopen
  | cons hclosed hrest ih =>
    cases hp with
    | cons _ hp => exact ih hp
    | cons_cons _ hp => exact .cons hclosed (ih hp)

theorem Parted.insertIdx (h : Parted lines) (hl : Closed line) (hi : i < lines.length) :
    Parted (lines.insertIdx i line) := by
  induction h generalizing i with
  | nil => simp at hi
  | last hopen =>
    obtain rfl : i = 0 := by simpa using hi
    exact .cons hl (.last hopen)
  | cons hclosed hrest ih =>
    cases i with
    | zero => exact .cons hl (.cons hclosed hrest)
    | succ i => exact .cons hclosed (ih (by simpa using hi))

theorem Parted.modify (h : Parted lines) {f : Text → Text} (hclosed : ∀ line, Closed line → Closed (f line))
    (hopen : ∀ line, '\n' ∉ line → '\n' ∉ f line) (i : Nat) : Parted (lines.modify i f) := by
  induction h generalizing i with
  | nil =>
    rw [List.modify_nil]
    exact .nil
  | @last line hline =>
    cases i with
    | zero => exact .last (hopen line hline)
    | succ i =>
      rw [List.modify_succ_cons, List.modify_nil]
      exact .last hline
  | @cons line rest hline hrest ih =>
    cases i with
    | zero => exact .cons (hclosed line hline) hrest
    | succ i => exact .cons hline (ih i)

theorem Parted.getD_linesWithEnds (h : Parted lines) (i : Nat) :
    (linesWithEnds lines.flatten).getD i [] = lines.getD i [] := by
  induction h generalizing i with
  | nil => rfl
  | @last line hopen =>
    rw [List.flatten_singleton]
    by_cases hne : line = []
    · subst hne
      cases i <;> rfl
    · rw [linesWithEnds_eq_singleton hne hopen]
  | @cons line rest hclosed hrest ih =>
    obtain ⟨body, hbody, rfl⟩ := hclosed
    rw [List.flatten_cons, List.append_assoc, List.singleton_append, linesWithEnds_append hbody]
    cases i with
    | zero => rfl
    | succ i => exact ih i

end Parted

/-! ## Edits of framed lines -/

theorem Closed.ne_nil {line : Text} (h : Closed line) : line ≠ [] := by
  obtain ⟨body, -, rfl⟩ := h
  simp

theorem framed_iff {lines : List Text} : Framed lines ↔ Parted lines ∧ [] ∉ lines := by
  constructor
  · intro h
    induction h with
    | nil => exact ⟨.nil, by simp⟩
    | last hne hopen => exact ⟨.last hopen, by simpa using hne⟩
    | cons hclosed _ ih => exact ⟨.cons hclosed ih.1, by simpa using ⟨hclosed.ne_nil, ih.2⟩⟩
  · rintro ⟨h, hne⟩
    induction h with
    | nil => exact .nil
    | last hopen => exact .last (by simpa using hne) hopen
    | cons hclosed _ ih => exact .cons hclosed (ih fun h => hne (List.mem_cons_of_mem _ h))

theorem Framed.parted {lines : List Text} (h : Framed lines) : Parted lines := (framed_iff.mp h).1

theorem Framed.sublist {lines part : List Text} (h : Framed lines) (hp : part.Sublist lines) :
    Framed part := by
  obtain ⟨hparted, hne⟩ := framed_iff.mp h
  exact framed_iff.mpr ⟨hparted.sublist hp, fun hn => hne (hp.subset hn)⟩

theorem Framed.insertIdx {lines : List Text} (h : Framed lines) {line : Text} (hl : Closed line)
    {i : Nat} (hi : i < lines.length) : Framed (lines.insertIdx i line) := by
  obtain ⟨hparted, hne⟩ := framed_iff.mp h
  refine framed_iff.mpr ⟨hparted.insertIdx hl hi, fun hn => ?_⟩
  rcases (List.mem_insertIdx (Nat.le_of_lt hi)).mp hn with rfl | hn
  · exact hl.ne_nil rfl
  · exact hne hn

theorem Framed.append {front back : List Text} (hfront : ∀ line ∈ front, Closed line) (hback : Framed back) :
    Framed (front ++ back) := by
  induction front with
  | nil => exact hback
  | cons line front ih =>
    obtain ⟨hline, hrest⟩ := List.forall_mem_cons.mp hfront
    exact .cons hline (ih hrest)

theorem framed_of_closed {lines : List Text} (h : ∀ line ∈ lines, Closed line) : Framed lines := by
  have happend := Framed.append h .nil
  rwa [List.append_nil] at happend

theorem Framed.closed_or_open {lines : List Text} (h : Framed lines) :
    (∀ line ∈ lines, Closed line) ∨ ∃ front line, (∀ l ∈ front, Closed l) ∧ line ≠ [] ∧
      '\n' ∉ line ∧ lines = front ++ [line] := by
  obtain ⟨hparted, hne⟩ := framed_iff.mp h
  rcases hparted.all_closed_or_last_open with hall | ⟨front, line, hfront, hopen, rfl⟩
  · exact .inl hall
  · have hline : line ≠ [] := by
      rintro rfl
      exact hne (by simp)
    exact .inr ⟨front, line, hfront, hline, hopen, rfl⟩

theorem Framed.body_of_mem {lines : List Text} (h : Framed lines) {line : Text} (hl : line ∈ lines) :
    ∃ body stop, '\n' ∉ body ∧ (stop = [] ∨ stop = ['\n']) ∧ line = body ++ stop := by
  have hbody : ∀ l, Closed l → ∃ body stop, '\n' ∉ body ∧ (stop = [] ∨ stop = ['\n']) ∧
      l = body ++ stop := fun l ⟨body, hb, he⟩ => ⟨body, ['\n'], hb, .inr rfl, he⟩
  rcases h.closed_or_open with hall | ⟨front, last, hfront, -, hopen, rfl⟩
  · exact hbody line (hall line hl)
  · rcases List.mem_append.mp hl with hl | hl
    · exact hbody line (hfront line hl)
    · rw [List.mem_singleton.mp hl]
      exact ⟨last, [], hopen, .inl rfl, by simp⟩

/-! ## Joined lines -/

theorem dropLineEnd_eq_self {line : Text} (h : '\n' ∉ line) : dropLineEnd line = line := by
  rw [dropLineEnd]
  split
  · next hr => exact absurd (List.mem_reverse.mp (hr ▸ List.mem_cons_self)) h
  · next hr => exact absurd (List.mem_reverse.mp (hr ▸ List.mem_cons_self)) h
  · rfl

theorem dropLineEnd_append {line : Text} (h : line.getLast? ≠ some '\r') :
    dropLineEnd (line ++ ['\n']) = line := by
  rw [dropLineEnd, List.reverse_append, List.reverse_singleton, List.singleton_append]
  split
  · next hr =>
    have : line.getLast? = some '\r' := by
      rw [List.getLast?_eq_head?_reverse, (List.cons.inj hr).2, List.head?_cons]
    exact absurd this h
  · next hr => rw [← (List.cons.inj hr).2, List.reverse_reverse]
  · next hr => exact absurd rfl (hr line.reverse)

theorem lines_intercalate {xs : List Text} (hn : ∀ x ∈ xs, '\n' ∉ x)
    (hr : ∀ x ∈ xs, x.getLast? ≠ some '\r') (hne : ∀ x ∈ xs, x ≠ []) :
    lines (['\n'].intercalate xs) = xs := by
  induction xs with
  | nil => rfl
  | cons x xs ih =>
    have hx := hn x List.mem_cons_self
    cases xs with
    | nil =>
      rw [List.intercalate_singleton, lines, linesWithEnds_eq_singleton (hne x List.mem_cons_self) hx,
        List.map_singleton, dropLineEnd_eq_self hx]
    | cons y xs =>
      rw [List.intercalate_cons_cons, List.append_assoc, List.singleton_append, lines,
        linesWithEnds_append hx, List.map_cons, dropLineEnd_append (hr x List.mem_cons_self)]
      congr 1
      exact ih (fun z hz => hn z (List.mem_cons_of_mem _ hz))
        (fun z hz => hr z (List.mem_cons_of_mem _ hz)) (fun z hz => hne z (List.mem_cons_of_mem _ hz))

/-! ## Lines of two texts -/

variable {t : Text}

theorem closed_of_endsWith (h : t = [] ∨ endsWith ['\n'] t = true) : ∀ line ∈ linesWithEnds t, Closed line := by
  rcases (framed_linesWithEnds t).closed_or_open with hall | ⟨front, line, -, hne, hopen, hlines⟩
  · exact hall
  · have ht : t = front.flatten ++ line := by
      rw [← flatten_linesWithEnds t, hlines, List.flatten_append, List.flatten_singleton]
    rcases h with rfl | hend
    · exact absurd (List.append_eq_nil_iff.mp ht.symm).2 hne
    · obtain ⟨before, hbefore⟩ := endsWith_iff.mp hend
      exact absurd (mem_of_append_eq hne (ht.symm.trans hbefore)) hopen

theorem exists_open_line (hne : t ≠ []) (h : endsWith ['\n'] t = false) : ∃ front line,
    (∀ l ∈ front, Closed l) ∧ '\n' ∉ line ∧ linesWithEnds t = front ++ [line] := by
  rcases (framed_linesWithEnds t).closed_or_open with hall | ⟨front, line, hfront, -, hopen, hlines⟩
  · rcases List.eq_nil_or_concat (linesWithEnds t) with hnil | ⟨front, last, hlines⟩
    · exact absurd (by rw [← flatten_linesWithEnds t, hnil, List.flatten_nil]) hne
    · obtain ⟨body, -, rfl⟩ := hall last (by rw [hlines]; simp)
      have ht : t = (front.flatten ++ body) ++ ['\n'] := by
        rw [← flatten_linesWithEnds t, hlines, List.concat_eq_append, List.flatten_append, List.flatten_singleton,
          List.append_assoc]
      exact absurd ht (endsWith_eq_false_iff.mp h _)
  · exact ⟨front, line, hfront, hopen, hlines⟩

theorem lines_append (ht : t = [] ∨ endsWith ['\n'] t = true) (u : Text) : lines (t ++ u) = lines t ++ lines u := by
  have hframed := Framed.append (closed_of_endsWith ht) (framed_linesWithEnds u)
  have hlines := linesWithEnds_flatten hframed
  rw [List.flatten_append, flatten_linesWithEnds, flatten_linesWithEnds] at hlines
  rw [lines, hlines, List.map_append, lines, lines]

theorem lines_close (hne : t ≠ []) (h : endsWith ['\n'] t = false) : ∃ front line,
    lines t = front ++ [line] ∧ lines (t ++ ['\n']) = front ++ [dropLineEnd (line ++ ['\n'])] := by
  obtain ⟨front, line, hfront, hopen, hlines⟩ := exists_open_line hne h
  refine ⟨front.map dropLineEnd, line, ?_, ?_⟩
  · rw [lines, hlines, List.map_append, List.map_singleton, dropLineEnd_eq_self hopen]
  · have hframed : Framed (front ++ [line ++ ['\n']]) := .append hfront (.cons ⟨line, hopen, rfl⟩ .nil)
    have ht : t ++ ['\n'] = (front ++ [line ++ ['\n']]).flatten := by
      rw [← flatten_linesWithEnds t, hlines]
      simp
    rw [lines, ht, linesWithEnds_flatten hframed, List.map_append, List.map_singleton]

end Upkeep.Text
