import Upkeep.Finding.Listing
import Upkeep.Proofs.Finding.Parts
import Upkeep.Proofs.Text.Lines

/-!
# Printed findings are read back

`findings_read_back`: the line printed for a finding is read as that finding, whatever its message
quotes, except that blanks around bullets in the message are lost; and a listing of such lines is read
as the list of findings.

The message may hold bullets, dashes, bars and other locations: the reader takes the last location of the
line, and behind the printed one there is only the rule. So the message does not decide what is edited.
-/

namespace Upkeep

open Text

namespace Finding

variable {f : Finding} {fs : List Finding}

/-- A finding whose location, rule and message end where their bullets start. -/
structure Printable (f : Finding) : Prop extends Placed f where
  file_bullet : contains bullet f.file = false
  rule_bullet : contains bullet f.rule = false
  message_end : endsWith " •".toList f.message = false

def pieces (f : Finding) : List Text := splitOn bullet f.message

theorem display_eq (f : Finding) : f.display = marked '•' f [f.message] [] := rfl

/-! ## One line -/

theorem Printable.ofLine?_display (hf : Printable f) (default : Severity) :
    ofLine? default f.display = some { f with message := bullet.intercalate (f.pieces.map trim) } := by
  have hfile := hf.file_bullet
  have hrule := hf.rule_bullet
  rw [bullet_eq] at hfile hrule
  have hseparated := hf.ofSeparated?_marked (.inl rfl) hfile hrule [f.message] []
    (List.forall_mem_singleton.mpr hf.message_end) (by simp) (by simp) default
  rw [ofLine?, display_eq, hf.trim_marked, ofMachine?_marked (.inl rfl), bullet_eq, hseparated, pieces,
    bullet_eq]
  simp

theorem intercalate_pieces (h : ∀ piece ∈ f.pieces, trim piece = piece) :
    bullet.intercalate (f.pieces.map trim) = f.message := by
  rw [List.map_congr_left h, List.map_id', pieces, intercalate_splitOn]

/-! ## Listings -/

/-- A finding whose texts have no line feeds. -/
structure OneLine (f : Finding) : Prop where
  message : '\n' ∉ f.message
  file : '\n' ∉ f.file
  rule : '\n' ∉ f.rule

theorem OneLine.not_mem_display (h : OneLine f) : '\n' ∉ f.display := by
  rw [display_eq]
  exact not_mem_marked (by decide) (by decide) (by decide) h.file h.rule
    (List.forall_mem_singleton.mpr h.message) (by simp)

theorem display_ne_nil (f : Finding) : f.display ≠ [] := by
  rw [display_eq, marked_eq]
  simp [f.severity.word_ne_nil]

theorem Placed.getLast?_display (hf : Placed f) : f.display.getLast? ≠ some '\r' := by
  intro h
  obtain ⟨before, hbefore⟩ := List.getLast?_eq_some_iff.mp h
  have hend := (trim_eq_self_iff.mp (hf.trim_marked '•' [f.message] [])).2
  have hblank := trimEnd_eq_self_iff.mp hend before '\r' hbefore
  exact absurd hblank (by decide)

theorem ofText_display (default : Severity) (h : ∀ f ∈ fs, Printable f ∧
    (∀ piece ∈ f.pieces, trim piece = piece) ∧ OneLine f) :
    Listing.ofText default (['\n'].intercalate (fs.map display)) =
      ⟨fs, ⟨fs.length, fs.length, 0⟩⟩ := by
  have hlines : lines (['\n'].intercalate (fs.map display)) = fs.map display := by
    refine lines_intercalate ?_ ?_ ?_ <;> rw [List.forall_mem_map]
    · exact fun f hf => (h f hf).2.2.not_mem_display
    · exact fun f hf => (h f hf).1.getLast?_display
    · exact fun f _ => display_ne_nil f
  rw [Listing.ofText, hlines]
  clear hlines
  induction fs with
  | nil => rfl
  | cons f fs ih =>
    obtain ⟨⟨hf, hpieces, -⟩, hfs⟩ := List.forall_mem_cons.mp h
    have hline := hf.ofLine?_display default
    rw [intercalate_pieces hpieces] at hline
    rw [List.map_cons, List.foldr_cons, ih hfs, Listing.cons, hline, List.length_cons]

/-- Printing and reading. The first part is about every message that does not end in a blank and a
bullet. -/
theorem findings_read_back (default : Severity) :
    (∀ f, Printable f →
      ofLine? default f.display =
        some { f with message := bullet.intercalate (f.pieces.map trim) } ∧
      ((∀ piece ∈ f.pieces, trim piece = piece) → ofLine? default f.display = some f)) ∧
    ∀ fs : List Finding,
      (∀ f ∈ fs, Printable f ∧ (∀ piece ∈ f.pieces, trim piece = piece) ∧ OneLine f) →
      Listing.ofText default (['\n'].intercalate (fs.map display)) =
        ⟨fs, ⟨fs.length, fs.length, 0⟩⟩ := by
  refine ⟨fun f hf => ⟨hf.ofLine?_display default, fun hpieces => ?_⟩,
    fun fs hfs => ofText_display default hfs⟩
  rw [hf.ofLine?_display default, intercalate_pieces hpieces]

def quoting : Finding :=
  ⟨.warning, "a - b|c • w.dart:7:7".toList, "C:/m.dart".toList, 18446744073709551615, 1, "r".toList⟩

theorem findings_read_back_quoting : Printable quoting ∧ (∀ piece ∈ quoting.pieces, trim piece = piece) ∧
    OneLine quoting ∧ ofLine? .info quoting.display = some quoting ∧
    Listing.ofText .info (['\n'].intercalate ([quoting, quoting].map display)) =
      ⟨[quoting, quoting], ⟨2, 2, 0⟩⟩ := by
  have hplaced : Placed quoting := by constructor <;> decide
  have hprint : Printable quoting := ⟨hplaced, by decide, by decide, by decide⟩
  have hpieces : ∀ piece ∈ quoting.pieces, trim piece = piece := by decide +kernel
  have hline : OneLine quoting := by constructor <;> decide
  obtain ⟨hone, hmany⟩ := findings_read_back .info
  refine ⟨hprint, hpieces, hline, (hone quoting hprint).2 hpieces, hmany [quoting, quoting] ?_⟩
  simp only [List.forall_mem_cons, List.not_mem_nil, false_implies, implies_true, and_true]
  exact ⟨⟨hprint, hpieces, hline⟩, hprint, hpieces, hline⟩

end Finding
end Upkeep
