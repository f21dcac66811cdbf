/-!
# Texts

A text is the list of its characters, so that every scan is a recursion on the data.

* `breakOn? sep t` cuts `t` around the first `sep`; `breakOn?_eq_some` puts the cut back together.
* `splitOn sep t` cuts at every `sep` from the left; `intercalate_splitOn` joins the pieces again.
* `linesWithEnds t` cuts after every line feed, and loses nothing (`flatten_linesWithEnds`).
-/

namespace Upkeep

abbrev Text := List Char

namespace Text

def ofNat (n : Nat) : Text := Nat.toDigits 10 n

/-- ASCII capitals become small letters; all else stays. -/
def toLower (t : Text) : Text := t.map Char.toLower

/-- What follows `head` in a text that starts with it. -/
def after? : Text → Text → Option Text
  | [], t => some t
  | _ :: _, [] => none
  | c :: head, d :: t => if c = d then after? head t else none

theorem after?_eq_some_iff {head t rest : Text} : after? head t = some rest ↔ t = head ++ rest := by
  induction head generalizing t with
  | nil => simp [after?]
  | cons c head ih =>
    cases t with
    | nil => simp [after?]
    | cons d t =>
      by_cases h : c = d
      · simp [after?, h, ih]
      · simp [after?, h, Ne.symm h]

theorem after?_append (head rest : Text) : after? head (head ++ rest) = some rest :=
  after?_eq_some_iff.mpr rfl

/-- Whether `t` starts with `head`. -/
def startsWith (head t : Text) : Bool := (after? head t).isSome

/-- Whether `t` ends with `tail`. -/
def endsWith (tail t : Text) : Bool := startsWith tail.reverse t.reverse

theorem startsWith_iff {head t : Text} : startsWith head t = true ↔ ∃ rest, t = head ++ rest := by
  simp [startsWith, Option.isSome_iff_exists, after?_eq_some_iff]

theorem endsWith_iff {tail t : Text} : endsWith tail t = true ↔ ∃ before, t = before ++ tail := by
  rw [endsWith, startsWith_iff]
  constructor
  · rintro ⟨rest, h⟩
    exact ⟨rest.reverse, by simpa using congrArg List.reverse h⟩
  · rintro ⟨before, rfl⟩
    exact ⟨before.reverse, by simp⟩

/-- The parts before and after the first occurrence of `sep`. -/
def breakOn? (sep : Text) : Text → Option (Text × Text)
  | [] => if sep.isEmpty then some ([], []) else none
  | c :: t =>
    match after? sep (c :: t) with
    | some rest => some ([], rest)
    | none => (breakOn? sep t).map fun (before, rest) => (c :: before, rest)

theorem breakOn?_eq_some {sep t before rest : Text} (h : breakOn? sep t = some (before, rest)) :
    t = before ++ sep ++ rest := by
  induction t generalizing before with
  | nil =>
    unfold breakOn? at h
    split at h <;> simp_all
  | cons c t ih =>
    unfold breakOn? at h
    split at h
    · next r hr =>
      obtain ⟨rfl, rfl⟩ := by simpa using h
      simpa using after?_eq_some_iff.mp hr
    · obtain ⟨⟨b, r⟩, hb, he⟩ := Option.map_eq_some_iff.mp h
      obtain ⟨rfl, rfl⟩ := by simpa using he
      simp [ih hb]

/-- Whether `part` occurs in `t`. -/
def contains (part t : Text) : Bool := (breakOn? part t).isSome

/-- The parts before and after the last `c`. -/
def breakAtLast? (c : Char) (t : Text) : Option (Text × Text) :=
  (breakOn? [c] t.reverse).map fun (after, before) => (before.reverse, after.reverse)

theorem breakAtLast?_eq_some {c : Char} {t before after : Text}
    (h : breakAtLast? c t = some (before, after)) : t = before ++ c :: after := by
  obtain ⟨⟨a, b⟩, hb, he⟩ := Option.map_eq_some_iff.mp h
  obtain ⟨rfl, rfl⟩ := by simpa using he
  have := congrArg List.reverse (breakOn?_eq_some hb)
  simpa using this

/-- The pieces between the occurrences of `sep`, found from the left. An empty `sep` cuts nothing. -/
def splitOn (sep t : Text) : List Text :=
  if _hs : sep = [] then [t] else
    match _h : breakOn? sep t with
    | none => [t]
    | some (before, rest) => before :: splitOn sep rest
termination_by t.length
decreasing_by
  have hl := congrArg List.length (breakOn?_eq_some _h)
  have := List.length_pos_iff.mpr _hs
  simp at hl; omega

theorem splitOn_ne_nil (sep t : Text) : splitOn sep t ≠ [] := by
  unfold splitOn; split
  · simp
  · split <;> simp

theorem intercalate_splitOn (sep t : Text) : sep.intercalate (splitOn sep t) = t := by
  fun_induction splitOn sep t with
  | case1 => simp
  | case2 => simp
  | case3 t hs before rest h ih =>
    rw [breakOn?_eq_some h]
    obtain ⟨p, ps, hp⟩ := List.exists_cons_of_ne_nil (splitOn_ne_nil sep rest)
    rw [hp] at ih ⊢
    rw [List.intercalate_cons_cons, ih]

/-- At most `n` cuts at `c`, from the left. -/
def splitUpTo (c : Char) : Nat → Text → List Text
  | 0, t => [t]
  | n + 1, t =>
    match breakOn? [c] t with
    | none => [t]
    | some (before, rest) => before :: splitUpTo c n rest

/-- Every `c` becomes `d`. -/
def replaceChar (c d : Char) (t : Text) : Text := t.map fun x => if x = c then d else x

/-- `t` without its last characters as long as they satisfy `p`. -/
def dropEndWhile (p : Char → Bool) (t : Text) : Text := (t.reverse.dropWhile p).reverse

/-! ## Lines -/

/-- The lines of a text, each with the line feed that ends it; the last may have none. -/
def linesWithEnds : Text → List Text
  | [] => []
  | c :: t =>
    if c = '\n' then ['\n'] :: linesWithEnds t
    else match linesWithEnds t with
      | [] => [[c]]
      | line :: lines => (c :: line) :: lines

theorem flatten_linesWithEnds (t : Text) : (linesWithEnds t).flatten = t := by
  induction t with
  | nil => rfl
  | cons c t ih =>
    unfold linesWithEnds
    split
    · simp_all
    · split <;> simp_all

/-- A line without its line feed and one carriage return before that. A line without a line feed
stays as it is. -/
def dropLineEnd (line : Text) : Text :=
  match line.reverse with
  | '\n' :: '\r' :: rest => rest.reverse
  | '\n' :: rest => rest.reverse
  | _ => line

def lines (t : Text) : List Text := (linesWithEnds t).map dropLineEnd

end Text
end Upkeep
