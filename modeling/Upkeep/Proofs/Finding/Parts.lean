import Upkeep.Finding.Layout
import Upkeep.Proofs.Text.Splitting
import Upkeep.Proofs.Text.Trimming

/-!
# Reading the parts of an analyzer line

A line that puts a severity, a location, a rule and pieces of a message between marks is read back by
its location: `Placed.ofSeparated?_marked`, for messages in front of the location, behind it or both.

* `Placed f`: what tells the location and the rule of `f` from the other parts.
* `location?_location`: a location is read back, colons in the file or not.
* `ofMachine?_append_eq_none`: the machine layout, which is tried first, does not take such a line. The text
  up to its first bar holds a mark, so it is not a severity.
-/

namespace Upkeep

open Text

/-! ## Severities -/

namespace Severity

variable {s : Severity} {c : Char} {t : Text}

def words : Severity → List Text
  | info => ["info".toList, "lint".toList, "hint".toList]
  | warning => ["warning".toList]
  | error => ["error".toList]

theorem ofWord?_eq_some_iff : ofWord? t = some s ↔ toLower (trim t) ∈ s.words := by
  unfold ofWord?
  generalize toLower (trim t) = w
  dsimp only
  split
  · next h => subst h; cases s <;> decide
  · split
    · next h => subst h; cases s <;> decide
    · split
      · next h => rcases h with rfl | rfl | rfl <;> cases s <;> decide
      · cases s <;> simp_all [words]

theorem isAlpha_of_mem_words (h : t ∈ s.words) : ∀ c ∈ t, c.isAlpha = true := by
  have hwords : s.words.all (·.all Char.isAlpha) = true := by cases s <;> decide
  exact List.all_eq_true.mp (List.all_eq_true.mp hwords t h)

theorem ofWord?_eq_none (hc : c.isAlpha = false) (hblank : isBlank c = false) (h : c ∈ t) : ofWord? t = none := by
  cases hs : ofWord? t with
  | none => rfl
  | some s =>
    have hmem : c.toLower ∈ toLower (trim t) := List.mem_map_of_mem (mem_trim h hblank)
    rw [toLower_of_not_isAlpha hc] at hmem
    rw [isAlpha_of_mem_words (ofWord?_eq_some_iff.mp hs) c hmem] at hc
    cases hc

theorem word_mem_words (s : Severity) : s.word ∈ s.words := by
  cases s <;> decide

theorem word_ne_nil (s : Severity) : s.word ≠ [] := by
  cases s <;> decide

theorem trim_word (s : Severity) : trim s.word = s.word := by
  cases s <;> decide

theorem not_mem_word (s : Severity) (hc : c.isAlpha = false) : c ∉ s.word := by
  intro h
  rw [isAlpha_of_mem_words s.word_mem_words c h] at hc
  cases hc

end Severity

namespace Finding

variable {c : Char} {f : Finding} {rule : Text} {parts : List Text}

theorem bullet_eq : bullet = spaced '•' := by decide

theorem dash_eq : dash = spaced '-' := by decide

/-! ## Locations and rules -/

/-- What tells the location and the rule of a finding from the other parts of its line. The numbers fit
into 64 bits. -/
structure Placed (f : Finding) : Prop where
  line_pos : 0 < f.line
  line_lt : f.line < countLimit
  column_pos : 0 < f.column
  column_lt : f.column < countLimit
  file_ne : f.file ≠ []
  file_trim : trim f.file = f.file
  rule_ne : f.rule ≠ []
  rule_trim : trim f.rule = f.rule
  rule_location : location? f.rule = none
  rule_stop : endsWith ['.'] f.rule = false

theorem not_mem_ofNat {n : Nat} (hc : c.isDigit = false) : c ∉ ofNat n := by
  intro h
  rw [isDigit_of_mem_ofNat h] at hc
  cases hc

theorem location_eq (f : Finding) :
    f.location = f.file ++ (':' :: ofNat f.line ++ [':']) ++ ofNat f.column := by
  simp [location]

namespace Placed

theorem trim_location (hf : Placed f) : trim f.location = f.location := by
  rw [location_eq]
  refine trim_append (trim_eq_self_iff.mp hf.file_trim).1 hf.file_ne ?_ Nat.toDigits_ne_nil _
  exact (trim_eq_self_iff.mp (trim_ofNat f.column)).2

theorem location?_location (hf : Placed f) :
    location? f.location = some (f.file, f.line, f.column) := by
  have hcolumn : breakAtLast? ':' f.location = some (f.file ++ ':' :: ofNat f.line, ofNat f.column) :=
    breakAtLast?_append (not_mem_ofNat (by decide)) _
  have hline : breakAtLast? ':' (f.file ++ ':' :: ofNat f.line) = some (f.file, ofNat f.line) :=
    breakAtLast?_append (not_mem_ofNat (by decide)) _
  simp only [location?, hf.trim_location, hcolumn, Option.bind_eq_bind, Option.bind_some,
    positive?_ofNat hf.column_pos hf.column_lt, hline, positive?_ofNat hf.line_pos hf.line_lt,
    hf.file_trim, if_neg hf.file_ne]

theorem ruleOf_rule (hf : Placed f) (message : Text) : ruleOf f.rule message = f.rule := by
  have hdots : dropEndWhile (· == '.') f.rule = f.rule := by
    refine dropEndWhile_eq_self fun before d hd => ?_
    have hne := endsWith_eq_false_iff.mp hf.rule_stop before
    rw [beq_eq_false_iff_ne]
    rintro rfl
    exact hne hd
  rw [ruleOf, hdots, if_neg fun h => hf.rule_ne h.1]

end Placed

theorem endsWith_location (hc : c.isDigit = false) (f : Finding) :
    endsWith [' ', c] f.location = false := by
  rw [endsWith_eq_false_iff]
  intro before h
  have hlast := congrArg List.getLast? h
  rw [location_eq, List.getLast?_append, List.getLast?_append] at hlast
  cases hd : (ofNat f.column).getLast? with
  | none => exact Nat.toDigits_ne_nil (List.getLast?_eq_none_iff.mp hd)
  | some d =>
    rw [hd] at hlast
    obtain rfl : d = c := by simpa using hlast
    exact not_mem_ofNat hc (List.mem_of_getLast? hd)

theorem contains_location (h : contains (spaced c) f.file = false) :
    contains (spaced c) f.location = false := by
  rw [location_eq, List.append_assoc]
  refine not_contains_spaced_append h ?_
  have hblank : ∀ n, ' ' ∉ ofNat n := fun n => not_mem_ofNat (by decide)
  simp [hblank]

theorem splitAtLocation?_eq_none (h : ∀ part ∈ parts, location? part = none) :
    splitAtLocation? parts = none := by
  induction parts with
  | nil => rfl
  | cons part parts ih =>
    obtain ⟨hpart, hparts⟩ := List.forall_mem_cons.mp h
    rw [splitAtLocation?, ih hparts, hpart]
    rfl

theorem splitAtLocation?_append {part : Text} {l : Text × Nat × Nat} (hpart : location? part = some l)
    (hparts : ∀ part ∈ parts, location? part = none) (front : List Text) :
    splitAtLocation? (front ++ part :: parts) = some (front, l, parts) := by
  induction front with
  | nil =>
    rw [List.nil_append, splitAtLocation?, splitAtLocation?_eq_none hparts, hpart]
    rfl
  | cons first front ih => rw [List.cons_append, splitAtLocation?, ih]

/-! ## Lines -/

theorem Placed.ofParts?_eq (hf : Placed f) (default : Severity) (sep : Text) {front back : List Text}
    (hback : ∀ part ∈ back, location? part = none) :
    ofParts? default sep (f.severity.word :: front ++ f.location :: (back ++ [f.rule])) =
      some { f with message := sep.intercalate (front ++ back) } := by
  have hrest : ∀ part ∈ back ++ [f.rule], location? part = none := by
    rw [List.forall_mem_append, List.forall_mem_singleton]
    exact ⟨hback, hf.rule_location⟩
  simp only [ofParts?, splitAtLocation?_append hf.location?_location hrest, Option.bind_eq_bind,
    Option.bind_some, splitSeverity, Severity.ofWord?_word, List.dropLast_concat, List.getLast?_concat,
    Option.getD_some, hf.ruleOf_rule]

/-- A finding between marks, with some parts of its message before the location and some behind it. -/
def marked (c : Char) (f : Finding) (front back : List Text) : Text :=
  (spaced c).intercalate (f.severity.word :: (front ++ f.location :: back) ++ [f.rule])

theorem marked_eq (c : Char) (f : Finding) (front back : List Text) : marked c f front back =
    f.severity.word ++ spaced c ++ (spaced c).intercalate (front ++ f.location :: back ++ [f.rule]) :=
  intercalate_cons_concat _ _ _ _

theorem Placed.trim_marked (hf : Placed f) (c : Char) (front back : List Text) :
    trim (marked c f front back) = marked c f front back := by
  obtain ⟨before, hbefore⟩ := intercalate_concat (spaced c) (front ++ f.location :: back) f.rule
  have hword := (trim_eq_self_iff.mp f.severity.trim_word).1
  have hrule := (trim_eq_self_iff.mp hf.rule_trim).2
  rw [marked_eq, hbefore, List.append_assoc, ← List.append_assoc (spaced c), ← List.append_assoc]
  exact trim_append hword f.severity.word_ne_nil hrule hf.rule_ne _

theorem not_mem_marked {d : Char} (hd : d.isAlphanum = false) (hcolon : d ≠ ':') (hmark : d ∉ spaced c)
    (hfile : d ∉ f.file) (hrule : d ∉ f.rule) {front back : List Text} (hfront : ∀ t ∈ front, d ∉ t)
    (hback : ∀ t ∈ back, d ∉ t) : d ∉ marked c f front back := by
  obtain ⟨halpha, hdigit⟩ : d.isAlpha = false ∧ d.isDigit = false := by
    rwa [Char.isAlphanum, Bool.or_eq_false_iff] at hd
  have hlocation : d ∉ f.location := by
    simp [location, hfile, hcolon, not_mem_ofNat hdigit]
  refine not_mem_intercalate hmark ?_
  rw [List.forall_mem_append, List.forall_mem_cons, List.forall_mem_append, List.forall_mem_cons,
    List.forall_mem_singleton]
  exact ⟨⟨f.severity.not_mem_word halpha, hfront, hlocation, hback⟩, hrule⟩

theorem ofMachine?_append_eq_none (hc : c.isAlpha = false) (hblank : isBlank c = false) {t : Text} (hbar : '|' ∉ t)
    (hmem : c ∈ t) (rest : Text) : ofMachine? (t ++ rest) = none := by
  obtain ⟨more, pieces, hsplit⟩ := splitUpTo_head hbar machineBars rest
  rw [ofMachine?, hsplit]
  split
  · next h =>
    rw [← (List.cons.inj h).1, Severity.ofWord?_eq_none hc hblank (List.mem_append_left more hmem)]
    rfl
  · rfl

theorem ofMachine?_marked (hc : c = '•' ∨ c = '-') (f : Finding) (front back : List Text) :
    ofMachine? (marked c f front back) = none := by
  have hbar : '|' ∉ f.severity.word ++ spaced c := by
    rw [List.mem_append, not_or]
    refine ⟨f.severity.not_mem_word (by decide), ?_⟩
    rcases hc with rfl | rfl <;> decide
  have hmem : c ∈ f.severity.word ++ spaced c := List.mem_append_right _ mem_spaced
  rw [marked_eq]
  rcases hc with rfl | rfl <;> exact ofMachine?_append_eq_none (by decide) (by decide) hbar hmem _

theorem Placed.ofSeparated?_marked (hc : c = '•' ∨ c = '-') (hf : Placed f)
    (hfile : contains (spaced c) f.file = false) (hrule : contains (spaced c) f.rule = false)
    (front back : List Text) (hfront : ∀ t ∈ front, endsWith [' ', c] t = false)
    (hback : ∀ t ∈ back, endsWith [' ', c] t = false)
    (hnone : ∀ t ∈ back, ∀ part ∈ splitOn (spaced c) t, location? (trim part) = none)
    (default : Severity) :
    ofSeparated? default (spaced c) (marked c f front back) =
      some { f with message := (spaced c).intercalate ((front.flatMap (splitOn (spaced c))).map trim ++
        (back.flatMap (splitOn (spaced c))).map trim) } := by
  have hblank : c ≠ ' ' := by rcases hc with rfl | rfl <;> decide
  have hdigit : c.isDigit = false := by rcases hc with rfl | rfl <;> decide
  have hmark : c ∉ f.severity.word :=
    f.severity.not_mem_word (by rcases hc with rfl | rfl <;> decide)
  have hword : contains (spaced c) f.severity.word = false :=
    contains_of_not_mem mem_spaced hmark
  have hwordend : endsWith [' ', c] f.severity.word = false :=
    endsWith_of_not_mem (by simp) hmark
  have hends : ∀ part ∈ f.severity.word :: (front ++ f.location :: back),
      endsWith [' ', c] part = false := by
    rw [List.forall_mem_cons, List.forall_mem_append, List.forall_mem_cons]
    exact ⟨hwordend, hfront, endsWith_location hdigit f, hback⟩
  have hcontains : contains (spaced c) (marked c f front back) = true :=
    contains_iff.mpr ⟨_, _, marked_eq c f front back⟩
  have hsplit : (splitOn (spaced c) (marked c f front back)).map trim =
      f.severity.word :: (front.flatMap (splitOn (spaced c))).map trim ++
        f.location :: ((back.flatMap (splitOn (spaced c))).map trim ++ [f.rule]) := by
    rw [marked, splitOn_intercalate_spaced hblank hends, splitOn_of_not_contains hrule,
      List.flatMap_cons, splitOn_of_not_contains hword, List.flatMap_append, List.flatMap_cons,
      splitOn_of_not_contains (contains_location hfile)]
    simp only [List.map_append, List.map_cons, List.map_nil, f.severity.trim_word, hf.trim_location,
      hf.rule_trim, List.nil_append, List.append_assoc, List.cons_append]
  have hlocation : ∀ part ∈ (back.flatMap (splitOn (spaced c))).map trim, location? part = none := by
    rw [List.forall_mem_map]
    intro part hpart
    obtain ⟨t, ht, hpart⟩ := List.mem_flatMap.mp hpart
    exact hnone t ht part hpart
  rw [ofSeparated?, if_pos hcontains, hsplit, hf.ofParts?_eq default _ hlocation]

end Finding
end Upkeep
