import Upkeep.Proofs.Source.Replacement

/-!
# Edited buffers as edited lists

Lines are inserted, removed and replaced by their index. Seen through its contents a buffer takes these edits as a list
does, whatever ends its lines have, and whether the last one has an end.

* `LineEdit`: an edit, with `onList` and `onBuffer`.
* `Follows b e lines`: the relation of a buffer and a list that a step keeps (`Follows.onBuffer`) and so a run
  (`Follows.editAll`). It needs lines that are parted: an open last line may have become empty.
* `getElem?_onBuffer`: an edit keeps the lines that it does not name, with their ends. Only a line that is added behind
  an open one closes that.
* `edited_as_list`: all this about the edits of a text.
-/

namespace Upkeep

open Text

/-- An edit of a line, by its index. -/
inductive LineEdit where
  | insert (i : Nat) (content : Text)
  | remove (i : Nat)
  | replace (i : Nat) (content : Text)
  deriving DecidableEq, Repr

namespace LineEdit

/-- The edit of a list. A line that is inserted behind the end becomes the last one, and lines that are not there are
neither removed nor replaced. -/
def onList : LineEdit → List Text → List Text
  | insert i c, lines => lines.insertIdx (min i lines.length) c
  | remove i, lines => lines.eraseIdx i
  | replace i c, lines => lines.set i c

def onBuffer : LineEdit → Buffer → Buffer
  | insert i c, b => b.insert i c
  | remove i, b => b.remove i
  | replace i c, b => b.replace i c

/-- The new content, if there is one, can be the content of a line. -/
def Fits : LineEdit → Prop
  | insert _ c => IsContent c
  | remove _ => True
  | replace _ c => IsContent c

/-- The line that an edit removes or replaces. -/
def named? : LineEdit → Option Nat
  | insert _ _ => none
  | remove i => some i
  | replace i _ => some i

/-- Where another line than this one stands behind the edit. -/
def placeOf : LineEdit → Nat → Nat
  | insert i _, j => if i ≤ j then j + 1 else j
  | remove i, j => if i < j then j - 1 else j
  | replace _ _, j => j

/-- Whether the edit adds a line behind `n` lines. -/
def appendsTo : LineEdit → Nat → Bool
  | insert i _, n => decide (n ≤ i)
  | remove _, _ => false
  | replace _ _, _ => false

end LineEdit

namespace Buffer

def editAll (b : Buffer) (edits : List LineEdit) : Buffer := edits.foldl (fun b e => e.onBuffer b) b

/-- A buffer has the contents `lines`, ends new lines with `e`, and has no open line but the last. -/
structure Follows (b : Buffer) (e : LineEnd) (lines : List Text) : Prop where
  contents : b.contents = lines
  lineEnd : b.lineEnd = e
  parted : Parted b.lines

variable {b : Buffer} {line : Text} {lines : List Text} {j : Nat} {e : LineEnd} {edit : LineEdit}

/-! ## Contents -/

theorem Follows.onBuffer (h : b.Follows e lines) (hfits : edit.Fits) :
    (edit.onBuffer b).Follows e (edit.onList lines) := by
  obtain ⟨rfl, hend, hb⟩ := h
  cases edit with
  | insert i c =>
    refine ⟨?_, ?_, parted_insert hb hfits.no_feed i⟩
    · rw [LineEdit.onBuffer, LineEdit.onList, contents_insert hb hfits, length_contents]
    · rw [LineEdit.onBuffer, insert]
      split <;> exact hend
  | remove i => exact ⟨contents_remove b i, hend, hb.sublist (List.eraseIdx_sublist b.lines i)⟩
  | replace i c => exact ⟨contents_replace hb hfits i, hend, parted_replace hb hfits.no_feed i⟩

theorem Follows.editAll (h : b.Follows e lines) {edits : List LineEdit} (hfits : ∀ edit ∈ edits, edit.Fits) :
    (b.editAll edits).Follows e (edits.foldl (fun lines edit => edit.onList lines) lines) := by
  induction edits generalizing b lines with
  | nil => exact h
  | cons edit edits ih =>
    obtain ⟨hfirst, hrest⟩ := List.forall_mem_cons.mp hfits
    exact ih (h.onBuffer hfirst) hrest

theorem follows_ofText (t : Text) : (ofText t).Follows (LineEnd.ofText t) (ofText t).contents :=
  ⟨rfl, rfl, (framed_ofText t).parted⟩

/-! ## The other lines -/

theorem getElem?_closedLines (hb : Parted b.lines) (h : b.lines[j]? = some line) :
    b.closedLines[j]? = some (if '\n' ∈ line then line else line ++ b.lineEnd.text) := by
  have hclosed : ∀ l, Closed l → '\n' ∈ l := by
    rintro l ⟨body, -, rfl⟩
    simp
  rcases closedLines_cases hb with ⟨hall, hsame⟩ | ⟨front, last, hfront, hopen, hlines, hnew⟩
  · rw [hsame, h, if_pos (hclosed line (hall line (List.mem_of_getElem? h)))]
  · rw [hlines] at h
    rw [hnew]
    by_cases hj : j < front.length
    · rw [List.getElem?_append_left hj] at h ⊢
      rw [h, if_pos (hclosed line (hfront line (List.mem_of_getElem? h)))]
    · rw [List.getElem?_append_right (Nat.not_lt.mp hj)] at h ⊢
      obtain ⟨hlt, rfl⟩ := List.getElem?_eq_some_iff.mp h
      have hzero : j - front.length = 0 := by simpa using hlt
      simp [hzero, hopen]

/-- A line that an edit does not name stays as it is, and gets an end if it had none and a line is added behind it. -/
theorem getElem?_onBuffer (hb : Parted b.lines) (h : b.lines[j]? = some line) (hj : edit.named? ≠ some j) :
    (edit.onBuffer b).lines[edit.placeOf j]? =
      some (if edit.appendsTo b.length ∧ '\n' ∉ line then line ++ b.lineEnd.text else line) := by
  obtain ⟨hlt, -⟩ := List.getElem?_eq_some_iff.mp h
  cases edit with
  | insert i c =>
    rw [LineEdit.onBuffer, insert, LineEdit.placeOf, LineEdit.appendsTo, length]
    split
    · next hi =>
      have hnot : ¬ b.lines.length ≤ i := by omega
      rw [List.getElem?_insertIdx]
      by_cases hij : i ≤ j
      · rw [if_pos hij, if_neg (by omega), if_neg (by omega), Nat.add_sub_cancel, h]
        simp [hnot]
      · rw [if_neg hij, if_pos (by omega), h]
        simp [hnot]
    · next hi =>
      -- the new line comes behind all others, so that only the closing of the last one is seen
      have hle : b.lines.length ≤ i := by omega
      have hclosed := getElem?_closedLines hb h
      rw [if_neg (by omega), List.getElem?_append_left (List.getElem?_eq_some_iff.mp hclosed).1, hclosed]
      by_cases hfeed : '\n' ∈ line <;> simp [hfeed, hle]
  | remove i =>
    have hij : i ≠ j := fun hij => hj (congrArg some hij)
    simp only [LineEdit.onBuffer, remove, LineEdit.placeOf, LineEdit.appendsTo, List.getElem?_eraseIdx]
    by_cases hlt : i < j
    · rw [if_pos hlt, if_neg (by omega), Nat.sub_add_cancel (by omega), h]
      simp
    · rw [if_neg hlt, if_pos (by omega), h]
      simp
  | replace i c =>
    have hij : i ≠ j := fun hij => hj (congrArg some hij)
    simp only [LineEdit.onBuffer, replace, LineEdit.placeOf, LineEdit.appendsTo, List.getElem?_modify, h]
    simp [hij]

/-! ## Edits of a text -/

/-- Edits of the buffer of a text are edits of the list of its contents. All lines but the last stay closed, no line has
a line feed but at its end, and whatever edit comes next keeps the lines that it does not name, with their ends. Without
edits the text is the same. -/
theorem edited_as_list (t : Text) (edits : List LineEdit) (h : ∀ edit ∈ edits, edit.Fits) :
    ((ofText t).editAll edits).contents = edits.foldl (fun lines edit => edit.onList lines) (ofText t).contents ∧
    Parted ((ofText t).editAll edits).lines ∧
    (∀ (edit : LineEdit) (j : Nat) (line : Text), ((ofText t).editAll edits).lines[j]? = some line →
      edit.named? ≠ some j →
      (edit.onBuffer ((ofText t).editAll edits)).lines[edit.placeOf j]? =
        some (if edit.appendsTo ((ofText t).editAll edits).length ∧ '\n' ∉ line then line ++ (LineEnd.ofText t).text
          else line)) ∧
    ((ofText t).editAll []).toText = t := by
  obtain ⟨hcontents, hend, hparted⟩ := (follows_ofText t).editAll h
  refine ⟨hcontents, hparted, fun edit j line hline hj => ?_, toText_ofText t⟩
  rw [← hend]
  exact getElem?_onBuffer hparted hline hj

/-- The first line of a text goes, and the open one that is left becomes empty. -/
def emptying : List LineEdit := [.remove 0, .replace 0 []]

/-- The empty line gets the end of the text when a line is added behind it. -/
theorem edited_as_list_emptying : (∀ edit ∈ emptying, edit.Fits) ∧
    ((ofText "a\r\nb".toList).editAll emptying).contents = [[]] ∧
    ((LineEdit.insert 5 ['c']).onBuffer ((ofText "a\r\nb".toList).editAll emptying)).lines[0]? =
      some ['\r', '\n'] := by
  have hfits : ∀ edit ∈ emptying, edit.Fits :=
    List.forall_mem_cons.mpr ⟨trivial, List.forall_mem_singleton.mpr ⟨by simp, by simp⟩⟩
  obtain ⟨hcontents, -, hkept, -⟩ := edited_as_list "a\r\nb".toList emptying hfits
  refine ⟨hfits, hcontents.trans (by decide), ?_⟩
  exact (hkept (.insert 5 ['c']) 0 [] (by decide) (by decide)).trans (by decide)

end Buffer
end Upkeep
