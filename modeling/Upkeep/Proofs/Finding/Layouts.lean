import Upkeep.Proofs.Finding.Machine

/-!
# The layouts agree

`layouts_agree`: a finding is read from its bulleted line, from its dashed line, each with the location
behind the message or in front of it, and from its machine line in any case, and it is the same
finding each time.
-/

namespace Upkeep

open Text

namespace Finding

variable {f : Finding} {t u : Text}

/-- A text that no separator cuts. -/
structure Unmarked (t : Text) : Prop where
  bullet : '•' ∉ t
  dash : contains dash t = false

/-- A finding that every layout can hold. -/
structure Plain (f : Finding) : Prop extends Placed f where
  file_unmarked : Unmarked f.file
  rule_unmarked : Unmarked f.rule
  message_unmarked : Unmarked f.message
  file_bar : '|' ∉ f.file
  rule_bar : '|' ∉ f.rule
  message_trim : trim f.message = f.message
  message_end : endsWith " -".toList f.message = false
  message_location : location? f.message = none

/-! ## Marks -/

variable {c : Char}

theorem Unmarked.contains_spaced (h : Unmarked t) (hc : c = '•' ∨ c = '-') :
    contains (spaced c) t = false := by
  rcases hc with rfl | rfl
  · exact contains_of_not_mem mem_spaced h.bullet
  · rw [← dash_eq]
    exact h.dash

theorem Plain.message_mark (hf : Plain f) (hc : c = '•' ∨ c = '-') :
    endsWith [' ', c] f.message = false := by
  rcases hc with rfl | rfl
  · exact endsWith_of_not_mem (by simp) hf.message_unmarked.bullet
  · exact hf.message_end

theorem Plain.contains_bullet (hf : Plain f) {front back : List Text}
    (hfront : ∀ t ∈ front, t = f.message) (hback : ∀ t ∈ back, t = f.message) :
    contains bullet (marked '-' f front back) = false := by
  have hmem : '•' ∉ marked '-' f front back :=
    not_mem_marked (by decide) (by decide) (by decide) hf.file_unmarked.bullet hf.rule_unmarked.bullet
      (fun t ht => by rw [hfront t ht]; exact hf.message_unmarked.bullet)
      (fun t ht => by rw [hback t ht]; exact hf.message_unmarked.bullet)
  rw [bullet_eq]
  exact contains_of_not_mem mem_spaced hmem

theorem Plain.ofSeparated?_marked (hf : Plain f) (hc : c = '•' ∨ c = '-') {front back : List Text}
    (hmessage : front ++ back = [f.message]) (default : Severity) :
    ofSeparated? default (spaced c) (marked c f front back) = some f := by
  have hall : ∀ t ∈ front ++ back, t = f.message := by simp [hmessage]
  obtain ⟨hfront, hback⟩ := List.forall_mem_append.mp hall
  have hsplit := splitOn_of_not_contains (hf.message_unmarked.contains_spaced hc)
  have hparts : (front.flatMap (splitOn (spaced c))).map trim ++
      (back.flatMap (splitOn (spaced c))).map trim = [f.message] := by
    rw [← List.map_append, ← List.flatMap_append, hmessage, List.flatMap_singleton, hsplit,
      List.map_singleton, hf.message_trim]
  rw [hf.toPlaced.ofSeparated?_marked hc (hf.file_unmarked.contains_spaced hc)
    (hf.rule_unmarked.contains_spaced hc) front back ?_ ?_ ?_ default, hparts,
    List.intercalate_singleton]
  · intro t ht
    rw [hfront t ht]
    exact hf.message_mark hc
  · intro t ht
    rw [hback t ht]
    exact hf.message_mark hc
  · intro t ht part hpart
    rw [hback t ht, hsplit, List.mem_singleton] at hpart
    rw [hpart, hf.message_trim]
    exact hf.message_location

theorem Plain.ofLine?_marked (hf : Plain f) (hc : c = '•' ∨ c = '-') (front back : List Text)
    (hmessage : front ++ back = [f.message]) (default : Severity) :
    ofLine? default (marked c f front back) = some f := by
  have hseparated := hf.ofSeparated?_marked hc hmessage default
  rw [ofLine?, hf.trim_marked, ofMachine?_marked hc]
  rcases hc with rfl | rfl
  · rw [bullet_eq, hseparated]
    rfl
  · have hall : ∀ t ∈ front ++ back, t = f.message := by simp [hmessage]
    obtain ⟨hfront, hback⟩ := List.forall_mem_append.mp hall
    have hbullet : ofSeparated? default bullet (marked '-' f front back) = none := by
      rw [ofSeparated?, hf.contains_bullet hfront hback, if_neg Bool.false_ne_true]
    rw [hbullet, dash_eq, hseparated]
    rfl

/-! ## Bars -/

theorem not_mem_of_toLower (h : toLower t = u) (hc : c.toLower = c) (hu : c ∉ u) : c ∉ t := by
  intro ht
  have hmem : c.toLower ∈ toLower t := List.mem_map_of_mem ht
  rw [hc, h] at hmem
  exact hu hmem

theorem Plain.ofLine?_barred (hf : Plain f) {severity kind rule length : Text}
    (hs : toLower severity = f.severity.word) (hr : toLower rule = f.rule) (hkind : '|' ∉ kind)
    (hlength : '|' ∉ length) (default : Severity) :
    ofLine? default (barred f severity kind rule length) = some f := by
  have hword : toLower severity ∈ f.severity.words := hs ▸ f.severity.word_mem_words
  have hbarrable : Barrable { f with rule } :=
    { hf with
      file_ne := by rw [hf.file_trim]; exact hf.file_ne
      rule_bar := not_mem_of_toLower hr (by decide) hf.rule_bar }
  have htrimmed : ({ f with rule } : Finding).trimmed = f := by
    have hrule : toLower (trim rule) = f.rule := by rw [toLower_trim, hr, hf.rule_trim]
    simp only [trimmed, hf.message_trim, hf.file_trim, hrule]
  exact (hbarrable.ofLine?_barred hword hkind hlength default).trans (congrArg some htrimmed)

/-- The five layouts of a finding. A machine line has its severity and its rule in any case, and they
are read in lower case. -/
theorem layouts_agree (default : Severity) (f : Finding) (hf : Plain f)
    (severity kind rule length : Text) (hseverity : toLower severity = f.severity.word)
    (hrule : toLower rule = f.rule) (hkind : '|' ∉ kind) (hlength : '|' ∉ length) :
    ofLine? default (bullet.intercalate [f.severity.word, f.message, f.location, f.rule]) = some f ∧
    ofLine? default (bullet.intercalate [f.severity.word, f.location, f.message, f.rule]) = some f ∧
    ofLine? default (dash.intercalate [f.severity.word, f.message, f.location, f.rule]) = some f ∧
    ofLine? default (dash.intercalate [f.severity.word, f.location, f.message, f.rule]) = some f ∧
    ofLine? default (['|'].intercalate [severity, kind, rule, f.file, ofNat f.line, ofNat f.column,
      length, f.message]) = some f :=
  ⟨hf.ofLine?_marked (.inl rfl) [f.message] [] rfl default,
    hf.ofLine?_marked (.inl rfl) [] [f.message] rfl default,
    hf.ofLine?_marked (.inr rfl) [f.message] [] rfl default,
    hf.ofLine?_marked (.inr rfl) [] [f.message] rfl default,
    hf.ofLine?_barred hseverity hrule hkind hlength default⟩

def dashing : Finding :=
  ⟨.error, "a|b: c -d".toList, "C:/m.dart".toList, 3, 18446744073709551615, "r_x".toList⟩

theorem layouts_agree_dashing : Plain dashing ∧
    ofLine? .info (dash.intercalate [dashing.severity.word, dashing.location, dashing.message,
      dashing.rule]) = some dashing ∧
    ofLine? .info (['|'].intercalate ["ErrOr".toList, "T - •".toList, "R_x".toList, dashing.file,
      ofNat dashing.line, ofNat dashing.column, [], dashing.message]) = some dashing := by
  have hplaced : Placed dashing := by constructor <;> decide
  have hplain : Plain dashing := by
    refine ⟨hplaced, ?_, ?_, ?_, ?_, ?_, ?_, ?_, ?_⟩
    any_goals decide
    all_goals exact ⟨by decide, by decide⟩
  obtain ⟨-, -, -, hdash, hbars⟩ := layouts_agree .info dashing hplain "ErrOr".toList "T - •".toList
    "R_x".toList [] (by decide) (by decide) (by decide) (by decide)
  exact ⟨hplain, hdash, hbars⟩

end Finding
end Upkeep
