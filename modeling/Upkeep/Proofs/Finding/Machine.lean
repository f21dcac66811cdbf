import Upkeep.Proofs.Finding.Parts

/-!
# Machine lines

A machine line is cut at its first seven bars. What stands behind them is the message, so that may hold bars, marks and
locations, and the line is never read in another layout.

* `Barrable f`: the texts in front of the message of `f` do not hold bars.
* `ofLine?_barred`: the machine line of such a finding is read as the finding, with its texts trimmed.
* `machine_lines_read`: besides, a line with a mark behind its severity is in another layout, with bars or without.
-/

namespace Upkeep

open Text

namespace Severity

variable {s : Severity} {c : Char} {t : Text}

theorem trim_of_toLower_mem (h : toLower t ∈ s.words) : trim t = t := by
  have htrim : ∀ w ∈ s.words, trim w = w := by cases s <;> decide
  exact trim_eq_self_of_toLower (htrim _ h)

theorem ofWord?_of_toLower_mem (h : toLower t ∈ s.words) : ofWord? t = some s := by
  rw [ofWord?_eq_some_iff, trim_of_toLower_mem h]
  exact h

theorem ne_nil_of_toLower_mem (h : toLower t ∈ s.words) : t ≠ [] := by
  rintro rfl
  cases s <;> revert h <;> decide

theorem not_mem_of_toLower_mem (h : toLower t ∈ s.words) (hc : c.isAlpha = false) : c ∉ t := by
  intro hmem
  have hlower : c.toLower ∈ toLower t := List.mem_map_of_mem hmem
  rw [toLower_of_not_isAlpha hc] at hlower
  rw [isAlpha_of_mem_words h c hlower] at hc
  cases hc

end Severity

namespace Finding

variable {f : Finding} {word kind length : Text}

/-- A finding in the machine layout, with its severity and rule as they are written there. -/
def barred (f : Finding) (severity kind rule length : Text) : Text :=
  ['|'].intercalate [severity, kind, rule, f.file, ofNat f.line, ofNat f.column, length, f.message]

/-- A finding with numbers of 64 bits, a file, and no bars but in its message. -/
structure Barrable (f : Finding) : Prop where
  line_pos : 0 < f.line
  line_lt : f.line < countLimit
  column_pos : 0 < f.column
  column_lt : f.column < countLimit
  file_ne : trim f.file ≠ []
  file_bar : '|' ∉ f.file
  rule_bar : '|' ∉ f.rule

/-- A finding as it is read from its machine line. -/
def trimmed (f : Finding) : Finding :=
  { f with message := trim f.message, file := trim f.file, rule := toLower (trim f.rule) }

theorem trim_barred (hword : toLower word ∈ f.severity.words) (kind rule length : Text) :
    trim (barred f word kind rule length) =
      barred { f with message := trimEnd f.message } word kind rule length := by
  have hstart : trimStart word = word :=
    (trim_eq_self_iff.mp (Severity.trim_of_toLower_mem hword)).1
  obtain ⟨front, hfront⟩ : ∃ front, ∀ message,
      barred { f with message } word kind rule length = word ++ front ++ '|' :: message :=
    ⟨'|' :: kind ++ '|' :: rule ++ '|' :: f.file ++ '|' :: ofNat f.line ++ '|' :: ofNat f.column ++
      '|' :: length, fun message => by simp [barred, List.intercalate_cons_cons]⟩
  have hbar : isBlank '|' = false := by decide
  calc trim (barred f word kind rule length)
      = trimEnd (trimStart (word ++ (front ++ '|' :: f.message))) := by rw [trim, hfront f.message, List.append_assoc]
    _ = trimEnd (word ++ front ++ '|' :: f.message) := by
        rw [trimStart_append hstart (Severity.ne_nil_of_toLower_mem hword), List.append_assoc]
    _ = word ++ front ++ '|' :: trimEnd f.message := dropEndWhile_append_cons hbar
    _ = barred { f with message := trimEnd f.message } word kind rule length := (hfront _).symm

theorem Barrable.ofMachine?_barred (hf : Barrable f) (hword : toLower word ∈ f.severity.words) (hkind : '|' ∉ kind)
    (hlength : '|' ∉ length) : ofMachine? (barred f word kind f.rule length) = some f.trimmed := by
  have hnumber : ∀ n, '|' ∉ ofNat n := fun n => not_mem_ofNat (by decide)
  have hbars : ∀ part ∈ [word, kind, f.rule, f.file, ofNat f.line, ofNat f.column, length], '|' ∉ part := by
    simp only [List.forall_mem_cons, List.not_mem_nil, false_implies, implies_true, and_true]
    exact ⟨Severity.not_mem_of_toLower_mem hword (by decide), hkind, hf.rule_bar, hf.file_bar, hnumber _, hnumber _,
      hlength⟩
  have hsplit : splitUpTo '|' machineBars (barred f word kind f.rule length) =
      [word, kind, f.rule, f.file, ofNat f.line, ofNat f.column, length, f.message] :=
    splitUpTo_intercalate hbars f.message
  simp only [ofMachine?, hsplit, Severity.ofWord?_of_toLower_mem hword, Option.bind_eq_bind, Option.bind_some,
    positive?_ofNat hf.line_pos hf.line_lt, positive?_ofNat hf.column_pos hf.column_lt, if_neg hf.file_ne, trimmed]

theorem Barrable.ofLine?_barred (hf : Barrable f) (hword : toLower word ∈ f.severity.words) (hkind : '|' ∉ kind)
    (hlength : '|' ∉ length) (default : Severity) :
    ofLine? default (barred f word kind f.rule length) = some f.trimmed := by
  have hbarrable : Barrable { f with message := trimEnd f.message } := { hf with }
  have hmachine := hbarrable.ofMachine?_barred hword hkind hlength
  rw [ofLine?, trim_barred hword, hmachine, trimmed, trim_trimEnd]
  rfl

theorem ofMachine?_trim_eq_none {c : Char} (hc : c = '•' ∨ c = '-') (hbar : '|' ∉ word) {line : Text}
    (hline : startsWith (word ++ spaced c) (trimStart line) = true) : ofMachine? (trim line) = none := by
  obtain ⟨rest, hrest⟩ := startsWith_iff.mp hline
  have hblank : isBlank c = false := by rcases hc with rfl | rfl <;> decide
  have hspaced : word ++ spaced c ++ rest = word ++ [' '] ++ c :: (' ' :: rest) := by simp [spaced]
  have htrim : trim line = word ++ [' ', c] ++ trimEnd (' ' :: rest) := by
    rw [trim, hrest, hspaced, trimEnd, dropEndWhile_append_cons hblank]
    simp [trimEnd]
  have halpha : c.isAlpha = false := by rcases hc with rfl | rfl <;> decide
  have hbar' : '|' ∉ word ++ [' ', c] := by rcases hc with rfl | rfl <;> simpa using hbar
  rw [htrim]
  exact ofMachine?_append_eq_none halpha hblank hbar' (by simp) _

/-- Machine lines are read as such, whatever their messages say. The severity may be any of its words in any case, and
the texts between bars may stand between blanks. A line that starts with the word of a severity and a mark is none. -/
theorem machine_lines_read (default : Severity) :
    (∀ f, Barrable f → ∀ word kind length : Text, toLower word ∈ f.severity.words → '|' ∉ kind → '|' ∉ length →
      ofLine? default (['|'].intercalate [word, kind, f.rule, f.file, ofNat f.line, ofNat f.column, length,
        f.message]) =
      some { f with message := trim f.message, file := trim f.file, rule := toLower (trim f.rule) }) ∧
    ∀ s word c line, toLower word ∈ Severity.words s → c = '•' ∨ c = '-' →
      startsWith (word ++ spaced c) (trimStart line) = true → ofMachine? (trim line) = none :=
  ⟨fun _ hf _ _ _ hword hkind hlength => hf.ofLine?_barred hword hkind hlength default,
    fun _ _ _ _ hword hc hline =>
      ofMachine?_trim_eq_none hc (Severity.not_mem_of_toLower_mem hword (by decide)) hline⟩

/-- A finding with a message that looks like a line of each layout, and blanks around its texts. -/
def lookalike : Finding :=
  ⟨.info, " error|T|R|b.dart|1|1|1|m • c.dart:2:2 - d.dart:3:3 • r ".toList, " C:/a.dart\t".toList,
    18446744073709551615, 1, " Rule_X".toList⟩

/-- The line is read with its own location and rule. -/
theorem machine_lines_read_lookalike : Barrable lookalike ∧
    ofLine? .error (['|'].intercalate ["HiNt".toList, " • ".toList, lookalike.rule, lookalike.file,
      ofNat lookalike.line, ofNat lookalike.column, [], lookalike.message]) =
      some ⟨.info, "error|T|R|b.dart|1|1|1|m • c.dart:2:2 - d.dart:3:3 • r".toList, "C:/a.dart".toList,
        18446744073709551615, 1, "rule_x".toList⟩ ∧
    ofMachine? (trim " Lint - |T|R|b.dart|1|1|1|m".toList) = none := by
  have hbarrable : Barrable lookalike := by constructor <;> decide
  have htrimmed : lookalike.trimmed = ⟨.info, "error|T|R|b.dart|1|1|1|m • c.dart:2:2 - d.dart:3:3 • r".toList,
      "C:/a.dart".toList, 18446744073709551615, 1, "rule_x".toList⟩ := by decide +kernel
  obtain ⟨hread, hmarked⟩ := machine_lines_read .error
  have hline := hread lookalike hbarrable "HiNt".toList " • ".toList [] (by decide) (by decide) (by decide)
  exact ⟨hbarrable, hline.trans (congrArg some htrimmed),
    hmarked .info "Lint".toList '-' _ (by decide) (.inr rfl) (by decide)⟩

end Finding
end Upkeep
