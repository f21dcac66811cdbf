import Upkeep.Proofs.Source.Buffer

/-!
# Replaced lines

A line that gets other content keeps its end, so all lines but the last stay closed. The last one may be open, and
then nothing is left of it if its new content is empty: such a buffer has a line that its text does not have.

Replaced lines are parted (`parted_replace`), and a parted buffer has the contents of its text, line by line
(`contentAt_ofText_toText`).

The content of a line leaves out all carriage returns at the end of the line, and the end that a replacement keeps has
one of them at most. What stands between the two is lost with every replacement: `content_put_back_iff` says for which
lines there is something, and `returns_lost` is a text with two such lines.
-/

namespace Upkeep

namespace Buffer

open Text

variable {b : Buffer} {c line : Text} {i : Nat}

theorem contentAt_ofText_toText (hb : Parted b.lines) (i : Nat) : (ofText b.toText).contentAt i = b.contentAt i := by
  rw [contentAt_eq, contentAt_eq, ofText, toText, hb.getD_linesWithEnds]

theorem not_mem_contentOf (h : Closed line ∨ '\n' ∉ line) : '\n' ∉ contentOf line := by
  rcases h with ⟨body, hbody, rfl⟩ | hopen
  · rw [show ['\n'] = LineEnd.lf.text from rfl, contentOf_append_text hbody]
    exact fun hn => hbody ((isPrefix_contentOf body).subset hn)
  · exact fun hn => hopen ((isPrefix_contentOf line).subset hn)

theorem closed_append_endOf (hc : '\n' ∉ c) (h : Closed line) : Closed (c ++ endOf line) := by
  obtain ⟨body, -, rfl⟩ := h
  rw [endOf]
  split
  · exact closed_append_text hc .crlf
  · rw [if_pos (endsWith_iff.mpr ⟨body, rfl⟩)]
    exact closed_append_text hc .lf

theorem endOf_of_open (h : '\n' ∉ line) : endOf line = [] := by
  have hend : ∀ tail, '\n' ∈ tail → ¬ endsWith tail line = true := by
    intro tail htail hends
    obtain ⟨before, rfl⟩ := endsWith_iff.mp hends
    exact h (List.mem_append_right before htail)
  rw [endOf, if_neg (hend _ (by decide)), if_neg (hend _ (by decide))]

theorem parted_replace (hb : Parted b.lines) (hc : '\n' ∉ c) (i : Nat) : Parted (b.replace i c).lines := by
  refine hb.modify (fun line hclosed => closed_append_endOf hc hclosed) (fun line hopen => ?_) i
  rwa [endOf_of_open hopen, List.append_nil]

theorem contentAt_replace_of_ne (c : Text) {i j : Nat} (h : i ≠ j) : (b.replace i c).contentAt j = b.contentAt j := by
  rw [contentAt, contentAt, content?, content?, replace, List.getElem?_modify]
  simp only [if_neg h, Option.map_eq_map, Option.map_id_fun', id_eq]

theorem contentAt_replace_self (h : b.content? i = some line) (c : Text) : ∃ old, b.lines[i]? = some old ∧
    contentOf old = line ∧ (b.replace i c).contentAt i = contentOf (c ++ endOf old) := by
  obtain ⟨old, hold, hline⟩ := Option.map_eq_some_iff.mp h
  refine ⟨old, hold, hline, ?_⟩
  rw [contentAt, content?, replace, List.getElem?_modify, hold]
  simp only [if_true, Option.map_eq_map, Option.map_some, Option.getD_some]

/-! ## Carriage returns before the end -/

/-- Whether a line has more carriage returns behind its content than belong to the end that a replacement keeps. -/
def isLoose (line : Text) : Bool := endsWith ['\r', '\r', '\n'] line || endsWith ['\r'] line

section returns

variable {body content returns : Text}

theorem endsWith_concat (d : Char) (tail t : Text) : endsWith (tail ++ [d]) (t ++ [d]) = endsWith tail t := by
  simp [endsWith, startsWith, after?]

theorem endsWith_append_iff {d : Char} (hc : endsWith [d] content = false) (hr : ∀ r ∈ returns, r = d) :
    endsWith [d] (content ++ returns) = true ↔ returns ≠ [] := by
  rcases List.eq_nil_or_concat returns with rfl | ⟨front, last, rfl⟩
  · simp [hc]
  · obtain rfl : last = d := hr last (by simp)
    exact iff_of_true (endsWith_iff.mpr ⟨content ++ front, by simp⟩) (by simp)

theorem isLoose_closed (body : Text) : isLoose (body ++ ['\n']) = endsWith ['\r', '\r'] body := by
  have hreturn : endsWith ['\r'] (body ++ ['\n']) = false := by simp [endsWith, startsWith, after?]
  rw [isLoose, hreturn, Bool.or_false]
  exact endsWith_concat '\n' ['\r', '\r'] body

theorem isLoose_open (h : '\n' ∉ line) : isLoose line = endsWith ['\r'] line := by
  rw [isLoose, endsWith_of_not_mem (c := '\n') (by simp) h, Bool.false_or]

theorem endOf_closed (body : Text) :
    endOf (body ++ ['\n']) = if endsWith ['\r'] body then ['\r', '\n'] else ['\n'] := by
  have hcrlf : endsWith ['\r', '\n'] (body ++ ['\n']) = endsWith ['\r'] body := endsWith_concat '\n' ['\r'] body
  rw [endOf, hcrlf, if_pos (endsWith_iff.mpr ⟨body, rfl⟩)]

theorem exists_eq_content_append (h : '\n' ∉ body) : ∃ returns, body = contentOf body ++ returns ∧
    (∀ r ∈ returns, r = '\r') ∧ endsWith ['\r'] (contentOf body) = false := by
  obtain ⟨returns, hbody, hreturns⟩ := exists_eq_dropEndWhile_append (· == '\r') body
  rw [contentOf_of_open h]
  exact ⟨returns, hbody, by simpa using hreturns, endsWith_dropEndWhile '\r' body⟩

theorem exists_returns (h : Closed line ∨ '\n' ∉ line) : ∃ returns, (∀ r ∈ returns, r = '\r') ∧
    line = contentOf line ++ returns ++ endOf line ∧ (returns = [] ↔ isLoose line = false) := by
  rcases h with ⟨body, hbody, rfl⟩ | hopen
  · obtain ⟨returns, hsplit, hreturns, hends⟩ := exists_eq_content_append hbody
    have hcontent : contentOf (body ++ ['\n']) = contentOf body := contentOf_append_text hbody .lf
    rw [hcontent, isLoose_closed, endOf_closed]
    generalize contentOf body = content at hsplit hends
    subst hsplit
    rcases List.eq_nil_or_concat returns with rfl | ⟨front, last, rfl⟩
    · -- the line feed alone is the end
      rw [List.append_nil, hends]
      refine ⟨[], by simp, by simp, iff_of_true rfl ?_⟩
      rw [endsWith_eq_false_iff] at hends ⊢
      rintro before rfl
      exact hends (before ++ ['\r']) (by simp)
    · -- the last carriage return belongs to the end, and the others do not
      obtain rfl : last = '\r' := hreturns last (by simp)
      rw [List.concat_eq_append] at hreturns ⊢
      have hfront : ∀ r ∈ front, r = '\r' := fun r hr => hreturns r (List.mem_append_left _ hr)
      have hpair : endsWith ['\r', '\r'] (content ++ (front ++ ['\r'])) = endsWith ['\r'] (content ++ front) := by
        rw [← List.append_assoc]
        exact endsWith_concat '\r' ['\r'] (content ++ front)
      refine ⟨front, hfront, ?_, ?_⟩
      · rw [if_pos ((endsWith_append_iff hends hreturns).mpr (by simp))]
        simp
      · rw [hpair, ← Bool.not_eq_true, endsWith_append_iff hends hfront, not_not]
  · obtain ⟨returns, hsplit, hreturns, hends⟩ := exists_eq_content_append hopen
    have hloose := endsWith_append_iff hends hreturns
    rw [← hsplit] at hloose
    refine ⟨returns, hreturns, ?_, ?_⟩
    · rw [endOf_of_open hopen, List.append_nil]
      exact hsplit
    · rw [isLoose_open hopen, ← Bool.not_eq_true, hloose, not_not]

end returns

/-! ## Other contents -/

theorem contentOf_append_endOf (h : Closed line ∨ '\n' ∉ line) (hc : IsContent c) : contentOf (c ++ endOf line) = c := by
  rcases h with ⟨body, -, rfl⟩ | hopen
  · rw [endOf_closed]
    split
    · exact contentOf_closed hc .crlf
    · exact contentOf_closed hc .lf
  · rw [endOf_of_open hopen, List.append_nil, contentOf_of_open hc.no_feed, dropEndWhile_return hc]

theorem contents_replace (hb : Parted b.lines) (hc : IsContent c) (i : Nat) :
    (b.replace i c).contents = b.contents.set i c := by
  apply List.ext_getElem?
  intro j
  rw [contents, contents, replace, List.getElem?_map, List.getElem?_modify, List.getElem?_set']
  cases hline : b.lines[j]? with
  | none => simp [hline]
  | some line =>
    have hkept := contentOf_append_endOf (hb.closed_or_open (List.mem_of_getElem? hline)) hc
    by_cases hij : i = j
    · simp [hij, hline, hkept]
    · simp [hij, hline]

/-! ## Texts of replaced lines -/

theorem toText_replace (h : b.lines[i]? = some line) (c : Text) : (b.replace i c).toText =
    (b.lines.take i).flatten ++ c ++ (endOf line ++ (b.lines.drop (i + 1)).flatten) := by
  obtain ⟨hi, rfl⟩ := List.getElem?_eq_some_iff.mp h
  rw [toText, replace, List.modify_eq_take_cons_drop hi]
  simp

theorem toText_eq_append (h : b.lines[i]? = some line) :
    b.toText = (b.lines.take i).flatten ++ line ++ (b.lines.drop (i + 1)).flatten := by
  obtain ⟨hi, rfl⟩ := List.getElem?_eq_some_iff.mp h
  calc b.toText = (b.lines.take i ++ b.lines[i] :: b.lines.drop (i + 1)).flatten := by
        rw [← List.drop_eq_getElem_cons hi, List.take_append_drop, toText]
    _ = _ := by simp only [List.flatten_append, List.flatten_cons, List.append_assoc]

/-- New content takes the place of the old one and of the carriage returns behind that, so that the old content can be
put back if and only if there are none: the line does not end in two carriage returns and a line feed, and not in a
carriage return. -/
theorem content_put_back_iff (t : Text) (i : Nat) (line : Text) (h : (ofText t).lines[i]? = some line) :
    (((ofText t).replace i (contentOf line)).toText = t ↔ isLoose line = false) ∧
    ∃ front returns back, t = front ++ contentOf line ++ returns ++ back ∧ (∀ r ∈ returns, r = '\r') ∧
      (returns = [] ↔ isLoose line = false) ∧ ∀ c, ((ofText t).replace i c).toText = front ++ c ++ back := by
  have hline := (framed_ofText t).parted.closed_or_open (List.mem_of_getElem? h)
  obtain ⟨returns, hreturns, hsplit, hnone⟩ := exists_returns hline
  have ht : t = ((ofText t).lines.take i).flatten ++ contentOf line ++ returns ++
      (endOf line ++ ((ofText t).lines.drop (i + 1)).flatten) := by
    calc t = (ofText t).toText := (toText_ofText t).symm
      _ = ((ofText t).lines.take i).flatten ++ (contentOf line ++ returns ++ endOf line) ++
          ((ofText t).lines.drop (i + 1)).flatten := by rw [← hsplit, ← toText_eq_append h]
      _ = _ := by simp only [List.append_assoc]
  refine ⟨?_, _, returns, _, ht, hreturns, hnone, toText_replace h⟩
  rw [toText_replace h, ← hnone]
  constructor
  · intro hkept
    have hlength := congrArg List.length (hkept.trans ht)
    simp only [List.length_append] at hlength
    exact List.eq_nil_of_length_eq_zero (by omega)
  · rintro rfl
    rw [List.append_nil] at ht
    exact ht.symm

/-- A carriage return too many before the end of the first line, and one at the end of the text. -/
def doubled : Text := "a\r\r\nb\r\nc\r".toList

/-- The line with one carriage return and a line feed stays as it is. -/
theorem content_put_back_iff_doubled : (ofText doubled).lines[1]? = some "b\r\n".toList ∧
    ((ofText doubled).replace 1 ['b']).toText = doubled := by
  have hline : (ofText doubled).lines[1]? = some "b\r\n".toList := by decide
  refine ⟨hline, ?_⟩
  exact (content_put_back_iff doubled 1 _ hline).1.mpr (by decide)

/-- The other two lines lose a carriage return each when their content is put back. -/
theorem returns_lost :
    ((ofText doubled).content? 0 = some ['a'] ∧
      ((ofText doubled).replace 0 ['a']).toText = "a\r\nb\r\nc\r".toList) ∧
    ((ofText doubled).content? 2 = some ['c'] ∧
      ((ofText doubled).replace 2 ['c']).toText = "a\r\r\nb\r\nc".toList) ∧
    ¬ ∀ i c, (ofText doubled).content? i = some c → ((ofText doubled).replace i c).toText = doubled := by
  obtain ⟨hcontent, htext⟩ : (ofText doubled).content? 0 = some ['a'] ∧
      ((ofText doubled).replace 0 ['a']).toText = "a\r\nb\r\nc\r".toList := by decide
  refine ⟨⟨hcontent, htext⟩, by decide, fun hall => ?_⟩
  have hkept := hall 0 ['a'] hcontent
  rw [htext] at hkept
  exact absurd hkept (by decide)

end Buffer
end Upkeep
