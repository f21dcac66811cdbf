import Mathlib.Data.List.InsertIdx
import Upkeep.Proofs.Text.Lines
import Upkeep.Proofs.Text.Trimming
import Upkeep.Source.Buffer

/-!
# Contents of edited buffers

A buffer whose lines are framed is the buffer of its text (`lines_ofText_toText`). If they are parted at least, its
edits are edits of a list when they are seen through `contents`: `contents_insert` inserts at an index, clamped to the
end, whatever the line ends are.

`pick b ns` are the lines with the numbers `ns`.

`IsContent c` says that `c` can be the content of a line. Every content of a framed buffer is one.
-/

namespace Upkeep

/-- What a line can hold before its end: no line feed, and no carriage return at the end. -/
structure IsContent (c : Text) : Prop where
  no_feed : '\n' ∉ c
  no_return : c.getLast? ≠ some '\r'

namespace Buffer

open Text

variable {b : Buffer} {c line : Text} {i j : Nat}

/-! ## Line ends -/

theorem dropEndWhile_return (hc : IsContent c) : dropEndWhile (· == '\r') c = c := by
  refine dropEndWhile_eq_self fun before d hd => ?_
  have hlast := hc.no_return
  rw [hd, List.getLast?_concat] at hlast
  simpa using fun h => hlast (congrArg some h)

theorem isPrefix_contentOf (line : Text) : contentOf line <+: line :=
  (isPrefix_dropEndWhile _ _).trans (isPrefix_dropEndWhile _ _)

theorem contentOf_of_open (h : '\n' ∉ line) : contentOf line = dropEndWhile (· == '\r') line := by
  rw [contentOf, dropEndWhile_eq_self (t := line)]
  rintro before d rfl
  have hd : '\n' ≠ d := by
    rintro rfl
    exact h (by simp)
  simpa using hd.symm

theorem contentOf_append_text (h : '\n' ∉ line) (e : LineEnd) :
    contentOf (line ++ e.text) = contentOf line := by
  have hfeed : dropEndWhile (· == '\n') line = line := by
    refine dropEndWhile_eq_self fun before d hd => ?_
    have hne : d ≠ '\n' := by
      rintro rfl
      exact h (by simp [hd])
    simpa using hne
  cases e with
  | lf =>
    rw [LineEnd.text, contentOf, dropEndWhile_append (by simp), hfeed, contentOf_of_open h]
  | crlf =>
    have hsplit : line ++ LineEnd.crlf.text = line ++ ['\r'] ++ ['\n'] := by simp [LineEnd.text]
    have hret : dropEndWhile (· == '\n') (line ++ ['\r']) = line ++ ['\r'] := by
      refine dropEndWhile_eq_self fun before d hd => ?_
      obtain rfl : '\r' = d := by simpa using congrArg List.getLast? hd
      rfl
    rw [hsplit, contentOf, dropEndWhile_append (by simp), hret, dropEndWhile_append (by simp),
      contentOf_of_open h]

theorem contentOf_closed (hc : IsContent c) (e : LineEnd) : contentOf (c ++ e.text) = c := by
  rw [contentOf_append_text hc.no_feed, contentOf_of_open hc.no_feed, dropEndWhile_return hc]

theorem closed_append_text (h : '\n' ∉ line) (e : LineEnd) : Closed (line ++ e.text) := by
  cases e with
  | lf => exact ⟨line, h, rfl⟩
  | crlf => exact ⟨line ++ ['\r'], by simpa using h, by simp [LineEnd.text]⟩

theorem isContent_of_mem_contents (hb : Framed b.lines) (h : c ∈ b.contents) : IsContent c := by
  obtain ⟨line, hl, rfl⟩ := List.mem_map.mp h
  obtain ⟨body, stop, hbody, hstop, rfl⟩ := hb.body_of_mem hl
  have hcontent : contentOf (body ++ stop) = dropEndWhile (· == '\r') body := by
    rw [← contentOf_of_open hbody]
    rcases hstop with rfl | rfl
    · rw [List.append_nil]
    · exact contentOf_append_text hbody .lf
  rw [hcontent]
  constructor
  · intro hn
    have hsub := (List.dropWhile_sublist (p := (· == '\r')) (l := body.reverse)).subset
    exact hbody (List.mem_reverse.mp (hsub (List.mem_reverse.mp hn)))
  · rw [dropEndWhile, List.getLast?_reverse]
    intro hr
    have hall := List.head?_dropWhile_not (· == '\r') body.reverse
    rw [hr] at hall
    simp at hall

/-! ## Texts of buffers -/

theorem framed_ofText (t : Text) : Framed (ofText t).lines := framed_linesWithEnds t

theorem lines_ofText_toText (hb : Framed b.lines) : (ofText b.toText).lines = b.lines :=
  linesWithEnds_flatten hb

theorem contents_ofText_toText (hb : Framed b.lines) : (ofText b.toText).contents = b.contents := by
  rw [contents, lines_ofText_toText hb, contents]

theorem length_contents (b : Buffer) : b.contents.length = b.length := by
  simp [contents, length]

/-! ## Contents by line -/

/-- The content of the line at `n`, and of no line nothing. -/
def contentAt (b : Buffer) (n : Nat) : Text := (b.content? n).getD []

theorem contentAt_eq (b : Buffer) (i : Nat) : b.contentAt i = contentOf (b.lines.getD i []) := by
  rw [contentAt, content?, List.getD_eq_getElem?_getD]
  cases b.lines[i]? <;> rfl

theorem contentAt_of_le (h : b.length ≤ i) : b.contentAt i = [] := by
  rw [← length_contents] at h
  rw [contentAt, content?_eq, List.getElem?_eq_none h, Option.getD_none]

theorem content?_of_lt (h : i < b.length) : b.content? i = some (b.contentAt i) := by
  rw [← length_contents] at h
  rw [contentAt, content?_eq, List.getElem?_eq_getElem h, Option.getD_some]

/-! ## Some of the lines -/

def pick (b : Buffer) (ns : List Nat) : Buffer := { b with lines := ns.map fun n => b.lines.getD n [] }

theorem contents_pick (b : Buffer) (ns : List Nat) : (b.pick ns).contents = ns.map b.contentAt := by
  rw [contents, pick, List.map_map]
  apply List.map_congr_left
  intro n _
  exact (contentAt_eq b n).symm

theorem map_getD_range' (lines : List Text) (i n : Nat) (h : i + n ≤ lines.length) :
    (List.range' i n).map (fun k => lines.getD k []) = (lines.drop i).take n := by
  apply List.ext_getElem
  · simp
    omega
  · intro j hj hj'
    have hlt : i + j < lines.length := by
      simp at hj
      omega
    simp [List.getD_eq_getElem?_getD, List.getElem?_eq_getElem hlt]

theorem pick_range (b : Buffer) : b.pick (List.range b.length) = b := by
  have hlines := map_getD_range' b.lines 0 b.length (by simp [length])
  rw [List.drop_zero, List.take_of_length_le (by simp [length])] at hlines
  rw [pick, List.range_eq_range', hlines]

/-! ## Insertion -/

theorem closedLines_cases (hb : Parted b.lines) :
    ((∀ l ∈ b.lines, Closed l) ∧ b.closedLines = b.lines) ∨
      ∃ front line, (∀ l ∈ front, Closed l) ∧ '\n' ∉ line ∧ b.lines = front ++ [line] ∧
        b.closedLines = front ++ [line ++ b.lineEnd.text] := by
  rcases hb.all_closed_or_last_open with hall | ⟨front, line, hfront, hopen, hlines⟩
  · refine .inl ⟨hall, ?_⟩
    rw [closedLines]
    split
    · next last hlast =>
      obtain ⟨body, -, hbody⟩ := hall last (List.mem_of_getLast? hlast)
      rw [if_pos (endsWith_iff.mpr ⟨body, hbody⟩)]
    · next hnil => exact (List.getLast?_eq_none_iff.mp hnil).symm
  · refine .inr ⟨front, line, hfront, hopen, hlines, ?_⟩
    have hend : endsWith ['\n'] line = false := endsWith_of_not_mem List.mem_cons_self hopen
    rw [closedLines, hlines, List.getLast?_concat]
    simp [hend]

theorem contents_closedLines (hb : Parted b.lines) : b.closedLines.map contentOf = b.contents := by
  rcases closedLines_cases hb with ⟨-, h⟩ | ⟨front, line, -, hline, hlines, hclosed⟩
  · rw [h, contents]
  · rw [hclosed, contents, hlines, List.map_append, List.map_append, List.map_singleton,
      List.map_singleton, contentOf_append_text hline]

theorem closed_of_mem_closedLines (hb : Parted b.lines) : ∀ l ∈ b.closedLines, Closed l := by
  rcases closedLines_cases hb with ⟨hall, h⟩ | ⟨front, line, hfront, hline, -, hclosed⟩
  · rw [h]
    exact hall
  · rw [hclosed]
    intro l hl
    rcases List.mem_append.mp hl with hl | hl
    · exact hfront l hl
    · rw [List.mem_singleton.mp hl]
      exact closed_append_text hline _

theorem contents_insert (hb : Parted b.lines) (hc : IsContent c) (i : Nat) :
    (b.insert i c).contents = b.contents.insertIdx (min i b.length) c := by
  rw [insert]
  split
  · next hi =>
    have hmin : min i b.length = i := Nat.min_eq_left (Nat.le_of_lt hi)
    rw [contents, List.map_insertIdx, contentOf_closed hc, ← contents, hmin]
  · next hi =>
    have hmin : min i b.length = b.contents.length := by
      rw [length_contents]
      exact Nat.min_eq_right (Nat.not_lt.mp hi)
    rw [contents, List.map_append, contents_closedLines hb, List.map_singleton, contentOf_closed hc,
      hmin, List.insertIdx_length_self]

theorem closed_of_mem_appended (hb : Parted b.lines) (hc : '\n' ∉ c) :
    ∀ l ∈ b.closedLines ++ [c ++ b.lineEnd.text], Closed l := by
  intro l hl
  rcases List.mem_append.mp hl with hl | hl
  · exact closed_of_mem_closedLines hb l hl
  · rw [List.mem_singleton.mp hl]
    exact closed_append_text hc _

theorem parted_insert (hb : Parted b.lines) (hc : '\n' ∉ c) (i : Nat) : Parted (b.insert i c).lines := by
  rw [insert]
  split
  · next hi => exact hb.insertIdx (closed_append_text hc _) hi
  · exact (framed_of_closed (closed_of_mem_appended hb hc)).parted

theorem framed_insert (hb : Framed b.lines) (hc : '\n' ∉ c) (i : Nat) :
    Framed (b.insert i c).lines := by
  rw [insert]
  split
  · next hi => exact hb.insertIdx (closed_append_text hc _) hi
  · exact framed_of_closed (closed_of_mem_appended hb.parted hc)

theorem content?_insert (hb : Framed b.lines) (hc : IsContent c) (hi : i ≤ b.length) (j : Nat) :
    (b.insert i c).content? j =
      if j < i then b.content? j else if j = i then some c else b.content? (j - 1) := by
  rw [content?_eq, contents_insert hb.parted hc, Nat.min_eq_left hi, List.getElem?_insertIdx,
    length_contents]
  simp only [content?_eq]
  split
  · rfl
  · split
    · next hj => rw [if_pos (hj ▸ hi)]
    · rfl

theorem length_insert (hb : Framed b.lines) (hc : IsContent c) (i : Nat) :
    (b.insert i c).length = b.length + 1 := by
  rw [← length_contents, contents_insert hb.parted hc, List.length_insertIdx_of_le_length, length_contents]
  rw [length_contents]
  exact Nat.min_le_right _ _

end Buffer
end Upkeep
