import Upkeep.Text.Basic

/-!
# White space

`isBlank` is the Unicode property White_Space. `trim` drops the blanks at both ends;
`splitWhitespace` gives the words between blanks. A text that is its own `trim` starts and ends
with something else (`trimStart_eq_self_iff`, `trimEnd_eq_self_iff`).
-/

namespace Upkeep.Text

/-- White space of all scripts. -/
def isBlank (c : Char) : Bool :=
  let n := c.toNat
  (9 ≤ n && n ≤ 13) || n == 0x20 || n == 0x85 || n == 0xA0 || n == 0x1680 ||
    (0x2000 ≤ n && n ≤ 0x200A) || n == 0x2028 || n == 0x2029 || n == 0x202F || n == 0x205F ||
    n == 0x3000

theorem isBlank_of_isWhitespace {c : Char} (h : c.isWhitespace = true) : isBlank c = true := by
  simp only [Char.isWhitespace, Bool.or_eq_true, decide_eq_true_eq] at h
  obtain ((rfl | rfl) | rfl) | rfl := h <;> decide

def allBlank (t : Text) : Bool := t.all isBlank

/-- `t` without the blanks at its start. -/
def trimStart (t : Text) : Text := t.dropWhile isBlank

/-- `t` without the blanks at its end. -/
def trimEnd (t : Text) : Text := dropEndWhile isBlank t

/-- `t` without the blanks at both ends. -/
def trim (t : Text) : Text := trimEnd (trimStart t)

/-- The blanks at the start of `t`. -/
def leadingBlanks (t : Text) : Text := t.takeWhile isBlank

theorem leadingBlanks_append_trimStart (t : Text) : leadingBlanks t ++ trimStart t = t :=
  List.takeWhile_append_dropWhile

theorem trimStart_eq_self_iff {t : Text} :
    trimStart t = t ↔ ∀ c rest, t = c :: rest → isBlank c = false := by
  cases t with
  | nil => simp [trimStart]
  | cons c t =>
    by_cases h : isBlank c = true
    · simp only [trimStart, List.dropWhile_cons, h, if_true]
      constructor
      · intro he
        have := congrArg List.length he
        have hle := (List.dropWhile_sublist (p := isBlank) (l := t)).length_le
        simp at this; omega
      · intro hc; have := hc c t rfl; simp [h] at this
    · simp [trimStart, h]

theorem trimEnd_eq_self_iff {t : Text} :
    trimEnd t = t ↔ ∀ before c, t = before ++ [c] → isBlank c = false := by
  have h := trimStart_eq_self_iff (t := t.reverse)
  rw [trimEnd, dropEndWhile, List.reverse_eq_iff]
  rw [trimStart] at h
  rw [h]
  constructor
  · rintro hc before c rfl; exact hc c before.reverse (by simp)
  · intro hc c rest he
    exact hc rest.reverse c (by simpa using congrArg List.reverse he)

/-- The words of a text: its longest runs without blanks. -/
def splitWhitespace (t : Text) : List Text :=
  go [] t
where
  /-- The words of `t` behind the part `word` of a word, last character first. -/
  go (word : Text) : Text → List Text
    | [] => if word.isEmpty then [] else [word.reverse]
    | c :: t =>
      if isBlank c then
        if word.isEmpty then go [] t else word.reverse :: go [] t
      else go (c :: word) t

end Upkeep.Text
