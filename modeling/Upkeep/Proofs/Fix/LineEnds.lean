import Upkeep.Fix.Fixer
import Upkeep.Proofs.Fix.ImportPlacement
import Upkeep.Proofs.Fix.Outcome
import Upkeep.Proofs.Source.LineEnds

/-!
# Fixers keep line ends

A text with the line ends of only one system gets no others by any fixer.

* The steps of the fixers that follow findings keep a buffer uniform: `UnusedImport.uniform_step` takes lines away,
  `InvalidConst.uniform_step` cuts inside a line and `MountedGuard.uniform_step` adds one.
* `ConstructorConst.isUsedIn_strip`: what is cut before a constructor may hold line feeds. It ends at the name, so no
  other line feed loses the character before it.
* `line_ends_kept`: all six fixers.
-/

namespace Upkeep

open Text Buffer

variable {e : LineEnd} {t : Text} {b b' : Buffer} {f : Finding}

/-! ## Steps for findings -/

theorem UnusedImport.uniform_step (h : b.Uniform e) (hstep : step b f = .edited b') : b'.Uniform e := by
  have hsub := lines_step_sublist hstep
  obtain ⟨uri, i, -, -, rfl⟩ := of_step hstep
  exact h.sublist hsub

theorem InvalidConst.uniform_step (h : b.Uniform e) (hstep : step b f = .edited b') : b'.Uniform e := by
  obtain ⟨line, span, hline, -, rfl⟩ := of_step hstep
  obtain ⟨old, hold, rfl⟩ := Option.map_eq_some_iff.mp hline
  have hcut : span.cut (contentOf old) ⊆ contentOf old :=
    List.append_subset.mpr ⟨List.take_subset _ _, List.drop_subset _ _⟩
  obtain ⟨hopen, hused⟩ := h.isUsedIn_of_subset (List.mem_of_getElem? hold) hcut
  exact h.replace hopen hused _

theorem Buffer.Uniform.isUsedIn_indent (h : b.Uniform e) (i : Nat) : '\n' ∉ b.indent i ∧ e.IsUsedIn (b.indent i) := by
  rw [indent, content?]
  cases hline : b.lines[i]? with
  | none => exact ⟨by simp [leadingBlanks], .of_open (by simp [leadingBlanks]) (by simp [leadingBlanks])⟩
  | some line => exact h.isUsedIn_of_subset (List.mem_of_getElem? hline) (List.takeWhile_sublist _).subset

theorem MountedGuard.uniform_step (h : b.Uniform e) (hstep : step b f = .edited b') : b'.Uniform e := by
  obtain ⟨g, hg, rfl⟩ := of_step hstep
  have hguard : '\n' ∉ guardFor b f.lineIndex ∧ '\r' ∉ guardFor b f.lineIndex := by
    rw [guardFor]
    split <;> decide
  obtain ⟨hopen, hused⟩ := h.isUsedIn_indent g.wait
  rw [hg.content]
  exact h.insert (List.not_mem_append hopen hguard.1) (hused.append (.of_open hguard.1 hguard.2)) _

/-! ## Scans -/

namespace ConstructorConst

variable {names : List Text} {before? : Option Char} {n : Nat}

theorem head?_drop_removable (h : removable names before? t = n + 1) : (t.drop (n + 1)).head? ≠ some '\n' := by
  rw [removable] at h
  split at h
  · cases h
  · next rest hrest =>
    dsimp only at h
    split at h
    · have hdrop : t.drop (n + 1) = trimStart rest := by
        rw [after?_eq_some_iff.mp hrest, ← h, ← List.drop_drop]
        change rest.drop _ = _
        nth_rewrite 2 [← leadingBlanks_append_trimStart rest]
        exact List.drop_left
      rw [hdrop]
      intro hn
      have hblank := List.head?_dropWhile_not isBlank rest
      rw [← trimStart, hn] at hblank
      exact absurd hblank (by decide)
    · cases h

/-- `kept` is what is left of the text before, with which the rest may be put together again. -/
theorem isUsedIn_strip (kept : Text) (skip : Nat) (h : e.IsUsedIn (kept ++ t.drop skip)) :
    e.IsUsedIn (kept ++ (strip names before? skip t).1) := by
  induction t generalizing before? skip kept with
  | nil => simpa [strip] using h
  | cons c t ih =>
    cases skip with
    | succ skip => exact ih kept skip h
    | zero =>
      rw [strip]
      split
      · have hkept : e.IsUsedIn (kept ++ [c] ++ (strip names (some c) 0 t).1) :=
          ih (kept ++ [c]) 0 (by simpa using h)
        simpa using hkept
      · next more hmore =>
        have hcut : e.IsUsedIn (kept ++ (c :: t).take (more + 1) ++ (c :: t).drop (more + 1)) := by
          rw [List.append_assoc, List.take_append_drop]
          exact h
        exact ih kept more (hcut.cut (head?_drop_removable hmore))

theorem isUsedIn_fix (h : e.IsUsedIn t) : e.IsUsedIn (fix names t).text := isUsedIn_strip [] 0 h

end ConstructorConst

theorem MaterialImport.isUsedIn_fix (hend : LineEnd.ofText t = e) (h : e.IsUsedIn t) :
    e.IsUsedIn (fix t).text := by
  rw [fix]
  split
  · have hopen : '\n' ∉ directive ∧ '\r' ∉ directive := by decide
    exact ((uniform_ofText hend h).insert hopen.1 (.of_open hopen.1 hopen.2) _).isUsedIn_toText
  · exact h

theorem FoundationImport.isUsedIn_fix (hend : LineEnd.ofText t = e) (h : e.IsUsedIn t) :
    e.IsUsedIn (fix t).text := by
  have hcleared : (removeMisplaced (ofText t)).Uniform e :=
    (uniform_ofText hend h).sublist (sublist_removeMisplaced (ofText t))
  rw [fix]
  dsimp only
  split
  · exact h
  · split
    · exact hcleared.isUsedIn_toText
    · have hopen : '\n' ∉ directive ∧ '\r' ∉ directive := by decide
      exact (hcleared.insert hopen.1 (.of_open hopen.1 hopen.2) _).isUsedIn_toText

/-! ## All fixers -/

theorem FindingFixer.isUsedIn_fix (x : FindingFixer) (fs : List Finding) (hend : LineEnd.ofText t = e)
    (h : e.IsUsedIn t) : e.IsUsedIn (x.fix t fs).text := by
  have hrun : ∀ step : Buffer → Finding → Edit,
      (∀ {b b' f}, b.Uniform e → step b f = .edited b' → b'.Uniform e) → e.IsUsedIn (Edit.run step t fs).text := by
    intro step hstep
    obtain ⟨b, htext, hb⟩ : ∃ b : Buffer, (Edit.run step t fs).text = b.toText ∧ b.Uniform e :=
      Edit.run_induction (fun b _ => b.Uniform e) (uniform_ofText hend h) fun _ _ _ _ hb => hstep hb
    rw [htext]
    exact hb.isUsedIn_toText
  cases x with
  | unusedImports => exact hrun _ UnusedImport.uniform_step
  | invalidConst => exact hrun _ InvalidConst.uniform_step
  | contextGuards => exact hrun _ MountedGuard.uniform_step

theorem ScanFixer.isUsedIn_fix (x : ScanFixer) (hend : LineEnd.ofText t = e) (h : e.IsUsedIn t) :
    e.IsUsedIn (x.fix t).text := by
  cases x with
  | constMisuse names => exact ConstructorConst.isUsedIn_fix h
  | materialImports => exact MaterialImport.isUsedIn_fix hend h
  | foundationImports => exact FoundationImport.isUsedIn_fix hend h

/-- The fixers keep line ends, for all findings and all chosen constructors. In a text that has carriage returns with
line feeds and no line feed without one no fixer makes such a line feed, and in a text without carriage returns no
fixer makes one of these. -/
theorem line_ends_kept (t : Text) :
    (Text.contains ['\r', '\n'] t = true → LineEnd.crlf.IsUsedIn t →
      (∀ (x : FindingFixer) fs, LineEnd.crlf.IsUsedIn (x.fix t fs).text) ∧
        ∀ x : ScanFixer, LineEnd.crlf.IsUsedIn (x.fix t).text) ∧
    ('\r' ∉ t → (∀ (x : FindingFixer) fs, '\r' ∉ (x.fix t fs).text) ∧ ∀ x : ScanFixer, '\r' ∉ (x.fix t).text) := by
  refine ⟨fun hcontains h => ?_, fun h => ?_⟩
  · have hend : LineEnd.ofText t = .crlf := by rw [LineEnd.ofText, if_pos hcontains]
    exact ⟨fun x fs => x.isUsedIn_fix fs hend h, fun x => x.isUsedIn_fix hend h⟩
  · have hend : LineEnd.ofText t = .lf := by
      rw [LineEnd.ofText, contains_of_not_mem (c := '\r') (by simp) h]
      rfl
    have hlf : LineEnd.lf.IsUsedIn t := h
    exact ⟨fun x fs => x.isUsedIn_fix fs hend hlf, fun x => x.isUsedIn_fix hend hlf⟩

/-- A line that ends with a carriage return and a line feed, and an import behind which nothing ends. -/
def openImport : Text := "// Icons.add".toList ++ LineEnd.crlf.text ++ "import 'a';".toList

/-- The open import is closed as the line before it, and so is the import that comes behind it. In a text without
carriage returns a keyword goes together with the line feed behind it. -/
theorem line_ends_kept_behind_open_line :
    ((ScanFixer.materialImports.fix openImport).text =
      openImport ++ LineEnd.crlf.text ++ MaterialImport.directive ++ LineEnd.crlf.text ∧
    LineEnd.crlf.IsUsedIn (ScanFixer.materialImports.fix openImport).text) ∧
    ((ScanFixer.constMisuse ["Text".toList]).fix "const\nText();\n".toList).text = "Text();\n".toList ∧
    '\r' ∉ ((ScanFixer.constMisuse ["Text".toList]).fix "const\nText();\n".toList).text := by
  have hclosed : LineEnd.crlf.Fits ("// Icons.add".toList ++ LineEnd.crlf.text) :=
    LineEnd.fits_append_text (by decide) (.of_open (by decide) (by decide))
  have hused : LineEnd.crlf.IsUsedIn openImport :=
    hclosed.isUsedIn.append (.of_open (t := "import 'a';".toList) (by decide) (by decide))
  refine ⟨⟨by decide +kernel, ?_⟩, by decide +kernel, ?_⟩
  · exact ((line_ends_kept _).1 (by decide +kernel) hused).2 .materialImports
  · exact ((line_ends_kept _).2 (by decide)).2 (.constMisuse ["Text".toList])

end Upkeep
