import Upkeep.Proofs.Fix.ImportPlacement
import Upkeep.Proofs.Text.Splitting

/-!
# Which texts get a Material import

* `Uses t`: a text uses the library if one of its symbols stands in it apart from other words. The scan finds just these
  (`usesSymbols_iff`).
* `Imports t`: a line of the text is an import of the library.
* `imported_iff`: a text that uses the library imports it behind the fix, unless it names the URI and no line imports it.
  Then it stays, as `import_missing_behind_comment` shows.

A line that is added belongs to the header, so that what stands below the header stays (`drop_headerLength_fix`).
-/

namespace Upkeep.MaterialImport

open Text Buffer Directive

variable {t : Text} {before? : Option Char}

/-- A symbol of the library with what follows it in a text. Members are used behind a dot, the others as whole words. -/
def IsSymbol (word behind : Text) : Prop :=
  word ∈ memberUses ∨ word ∈ wordUses ∧ behind.head?.any isWordChar = false

/-- A symbol of the library stands in a text, apart from other words. -/
def Uses (t : Text) : Prop :=
  ∃ before word behind, t = before ++ (word ++ behind) ∧ before.getLast?.any isWordChar = false ∧
    IsSymbol word behind

def Imports (t : Text) : Prop := ∃ line ∈ (ofText t).contents, isImportOf uri line = true

/-! ## Symbols -/

theorem ne_nil_of_isSymbol {word behind : Text} (h : IsSymbol word behind) : word ≠ [] := by
  have hall : ∀ w ∈ memberUses ++ wordUses, w ≠ [] := by decide
  apply hall
  rw [List.mem_append]
  exact h.imp_right And.left

theorem usesAt_iff : usesAt before? t = true ↔
    before?.any isWordChar = false ∧ ∃ word behind, t = word ++ behind ∧ IsSymbol word behind := by
  rw [usesAt, Bool.and_eq_true, Bool.not_eq_true', Bool.or_eq_true, List.any_eq_true, List.any_eq_true]
  apply and_congr_right
  intro _
  constructor
  · rintro (⟨word, hword, hstart⟩ | ⟨word, hword, hstart⟩)
    · obtain ⟨behind, rfl⟩ := startsWith_iff.mp hstart
      exact ⟨word, behind, rfl, .inl hword⟩
    · split at hstart
      · next behind hbehind =>
        refine ⟨word, behind, after?_eq_some_iff.mp hbehind, .inr ⟨hword, ?_⟩⟩
        simpa using hstart
      · cases hstart
  · rintro ⟨word, behind, rfl, hword | ⟨hword, hbehind⟩⟩
    · exact .inl ⟨word, hword, startsWith_iff.mpr ⟨behind, rfl⟩⟩
    · refine .inr ⟨word, hword, ?_⟩
      simp [after?_append, hbehind]

theorem usesFrom_iff : usesFrom before? t = true ↔
    ∃ front word behind, t = front ++ (word ++ behind) ∧ (front.getLast?.or before?).any isWordChar = false ∧
      IsSymbol word behind := by
  induction t generalizing before? with
  | nil =>
    constructor
    · intro h
      cases h
    · rintro ⟨front, word, behind, ht, -, hword⟩
      have hnil : word = [] := by
        simp only [List.nil_eq, List.append_eq_nil_iff] at ht
        exact ht.2.1
      exact absurd hnil (ne_nil_of_isSymbol hword)
  | cons c t ih =>
    rw [usesFrom, Bool.or_eq_true, usesAt_iff, ih]
    constructor
    · rintro (⟨hbefore, word, behind, ht, hword⟩ | ⟨front, word, behind, rfl, hfront, hword⟩)
      · exact ⟨[], word, behind, ht, hbefore, hword⟩
      · refine ⟨c :: front, word, behind, rfl, ?_, hword⟩
        rw [getLast?_cons_or]
        exact hfront
    · rintro ⟨front, word, behind, ht, hfront, hword⟩
      cases front with
      | nil => exact .inl ⟨hfront, word, behind, ht, hword⟩
      | cons d front =>
        obtain ⟨rfl, rfl⟩ := List.cons.inj ht
        rw [getLast?_cons_or] at hfront
        exact .inr ⟨front, word, behind, rfl, hfront, hword⟩

theorem usesSymbols_iff : usesSymbols t = true ↔ Uses t := by
  rw [usesSymbols, usesFrom_iff, Uses]
  simp only [Option.or_none]

theorem isNeeded_iff : isNeeded t = true ↔ (¬ ∃ a b, t = a ++ uri ++ b) ∧ Uses t := by
  rw [isNeeded, Bool.and_eq_true, Bool.not_eq_true', usesSymbols_iff, ← contains_iff, Bool.not_eq_true]

/-! ## The text behind the fix -/

theorem isImportOf_directive : isImportOf uri directive = true := by decide

theorem isHeaderLine_directive : isHeaderLine directive = true :=
  isHeaderLine_of_startsDirective (startsDirective_of_isImportOf isImportOf_directive)

theorem fix_of_not_isNeeded (h : ¬ isNeeded t = true) : fix t = Outcome.unchanged t := by
  rw [fix, if_neg h]

theorem framed_insert_directive (t : Text) : Framed ((ofText t).insert (ofText t).importPoint directive).lines :=
  framed_insert (framed_ofText t) isContent_directive.no_feed _

theorem drop_headerLength_fix (t : Text) :
    (ofText (fix t).text).contents.drop (ofText (fix t).text).headerLength =
      (ofText t).contents.drop (ofText t).headerLength := by
  by_cases h : isNeeded t = true
  · rw [text_fix_of_isNeeded h, contents_ofText_toText (framed_insert_directive t),
      headerLength_ofText_toText (framed_insert_directive t),
      drop_headerLength_insert (framed_ofText t) isContent_directive isHeaderLine_directive (ofText t).importPoint_le]
  · rw [text_fix_of_not_isNeeded h]

theorem imports_fix_of_isNeeded (h : isNeeded t = true) : Imports (fix t).text := by
  have hle := Nat.le_trans (ofText t).importPoint_le (ofText t).headerLength_le
  rw [← length_contents] at hle
  refine ⟨directive, ?_, isImportOf_directive⟩
  rw [text_fix_of_isNeeded h, contents_ofText_toText (framed_insert_directive t),
    contents_insert_header (framed_ofText t) isContent_directive (ofText t).importPoint_le, List.mem_insertIdx hle]
  exact .inl rfl

theorem named_of_imports (h : Imports t) : ∃ a b, t = a ++ uri ++ b := by
  obtain ⟨content, hcontent, himport⟩ := h
  obtain ⟨line, hline, rfl⟩ := List.mem_map.mp hcontent
  have htext : uri <:+: (ofText t).toText :=
    ((isInfix_of_isImportOf himport).trans (isPrefix_contentOf line).isInfix).trans (List.infix_of_mem_flatten hline)
  rw [toText_ofText] at htext
  obtain ⟨a, b, hab⟩ := htext
  exact ⟨a, b, hab.symm⟩

theorem fix_fix (t : Text) : fix (fix t).text = Outcome.unchanged (fix t).text := by
  by_cases h : isNeeded t = true
  · apply fix_of_not_isNeeded
    rw [isNeeded_iff]
    intro hneeded
    exact hneeded.1 (named_of_imports (imports_fix_of_isNeeded h))
  · rw [text_fix_of_not_isNeeded h, fix_of_not_isNeeded h]

/-- A text that uses the library imports it behind the fix if and only if it did so before or does not name the URI at
all. A text that names the URI stays as it is, wherever that stands. -/
theorem imported_iff (t : Text) (h : Uses t) :
    (Imports (fix t).text ↔ ((∃ a b, t = a ++ uri ++ b) → Imports t)) ∧
    ((∃ a b, t = a ++ uri ++ b) → fix t = Outcome.unchanged t) := by
  have hstays : (∃ a b, t = a ++ uri ++ b) → fix t = Outcome.unchanged t := by
    intro hnamed
    apply fix_of_not_isNeeded
    rw [isNeeded_iff]
    exact fun hneeded => hneeded.1 hnamed
  refine ⟨⟨?_, ?_⟩, hstays⟩
  · intro himports hnamed
    rw [hstays hnamed] at himports
    exact himports
  · intro himports
    by_cases hnamed : ∃ a b, t = a ++ uri ++ b
    · rw [hstays hnamed]
      exact himports hnamed
    · exact imports_fix_of_isNeeded (isNeeded_iff.mpr ⟨hnamed, h⟩)

def mixedColors : Text :=
  "import 'package:flutter/widgets.dart';\nfinal c = MyColors.red ?? Colors.red;\n".toList

theorem imported_iff_mixedColors : Uses mixedColors ∧ Imports (fix mixedColors).text := by
  have huses : Uses mixedColors := by
    refine ⟨"import 'package:flutter/widgets.dart';\nfinal c = MyColors.red ?? ".toList, "Colors.".toList,
      "red;\n".toList, ?_, ?_, .inl ?_⟩ <;> decide +kernel
  obtain ⟨hiff, -⟩ := imported_iff mixedColors huses
  refine ⟨huses, hiff.mpr ?_⟩
  rw [← contains_iff]
  intro hnamed
  exact absurd hnamed (by decide +kernel)

def commentedOut : Text := "// ".toList ++ directive ++ "\nfinal c = Icons.add;\n".toList

/-- The comment names the URI, and the file stays without the import. -/
theorem import_missing_behind_comment :
    Uses commentedOut ∧ fix commentedOut = Outcome.unchanged commentedOut ∧ ¬ Imports (fix commentedOut).text := by
  have huses : Uses commentedOut := by
    refine ⟨"// ".toList ++ directive ++ "\nfinal c = ".toList, "Icons.".toList, "add;\n".toList, ?_, ?_, .inl ?_⟩ <;>
      decide +kernel
  have hstays : fix commentedOut = Outcome.unchanged commentedOut :=
    fix_of_not_isNeeded (by decide +kernel)
  refine ⟨huses, hstays, ?_⟩
  rw [hstays]
  rintro ⟨line, hline, himport⟩
  have hnone : ∀ l ∈ (ofText commentedOut).contents, isImportOf uri l = false := by decide +kernel
  rw [hnone line hline] at himport
  cases himport

end Upkeep.MaterialImport
