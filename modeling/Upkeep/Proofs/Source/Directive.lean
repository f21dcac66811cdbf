import Mathlib.Data.List.TakeWhile
import Upkeep.Proofs.Source.Buffer
import Upkeep.Source.Directive

/-!
# Directives and the header

* `Buffer.InHeader b p i`: line `i` of the header satisfies `p`. `afterLastInHeader?_eq_some_iff` says
  that the index behind the last such line is what the look-up gives.
* `header_insert`: a line added to the header belongs to it, and what stands below stays
  (`drop_headerLength_insert`).
* `importUri?_eq_some_iff`: a line imports the URI that it is written with (`WritesImport`), and `imports_as_written`:
  one at most, and none if a directive only goes on there.
* `startsDirective_of_header`: a line of the header that opens with `import` starts a directive, also
  when its end is trimmed.
* `not_startsDirective`: no directive starts on the lines behind the first one of a directive, so a
  directive reaches at most to the next (`directiveEnd_lt`).
-/

namespace Upkeep

open Text Directive

/-! ## Starts of lines -/

namespace Directive

variable {word line : Text}

theorem trimEnd_append_of_not_allBlank {t u : Text} (hu : allBlank u = false) :
    trimEnd (t ++ u) = t ++ trimEnd u := by
  obtain ⟨c, hc, hblank⟩ : ∃ c ∈ u, isBlank c = false := by simpa [allBlank] using hu
  have hmem := mem_dropWhile (p := isBlank) (List.mem_reverse.mpr hc) hblank
  rw [trimEnd, trimEnd, dropEndWhile, dropEndWhile, List.reverse_append, List.dropWhile_append,
    if_neg (by simpa using List.ne_nil_of_mem hmem), List.reverse_append, List.reverse_reverse]

theorem startsWith_trim {rest : Text} (h : trimStart line = word ++ rest)
    (hrest : allBlank rest = false) : startsWith word (trim line) = true := by
  rw [trim, h, trimEnd_append_of_not_allBlank hrest]
  exact startsWith_iff.mpr ⟨_, rfl⟩

theorem startsDirective_of_trimStart {rest : Text} (h : trimStart line = importWord ++ rest)
    (hrest : allBlank rest = false) : startsDirective line = true := by
  simp [startsDirective, startsWith_trim h hrest]

theorem startsDirective_of_header (h : opensWith importWord line = true)
    (hheader : isHeaderLine line = true) : startsDirective line = true := by
  obtain ⟨rest, hrest⟩ := startsWith_iff.mp h
  cases hb : allBlank rest with
  | false => exact startsDirective_of_trimStart hrest hb
  | true =>
    have htrim : trim line = "import".toList := by
      have hsplit : importWord ++ rest = "import".toList ++ (' ' :: rest) := rfl
      rw [trim, hrest, hsplit, trimEnd, dropEndWhile_append]
      · decide
      · exact List.forall_mem_cons.mpr ⟨by decide, List.all_eq_true.mp hb⟩
    rw [isHeaderLine, htrim] at hheader
    exact absurd hheader (by decide)

theorem isHeaderLine_of_startsDirective (h : startsDirective line = true) :
    isHeaderLine line = true := by
  rw [startsDirective, Bool.or_eq_true] at h
  rcases h with h | h <;> simp [isHeaderLine, h]

/-! ## Imports -/

/-- A line has a URI between two quotes of one kind, and the word of an import before that. Blanks may stand before the
word and before the quotes, and anything behind them. -/
def WritesImport (line uri : Text) : Prop :=
  ∃ before between q rest, (∀ c ∈ before, isBlank c = true) ∧ (∀ c ∈ between, isBlank c = true) ∧
    (q = '\'' ∨ q = '"') ∧ q ∉ uri ∧ line = before ++ importWord ++ between ++ q :: uri ++ q :: rest

variable {uri : Text}

theorem quotedHead?_eq_some_iff {t : Text} : quotedHead? t = some uri ↔
    ∃ q rest, (q = '\'' ∨ q = '"') ∧ q ∉ uri ∧ t = q :: uri ++ q :: rest := by
  constructor
  · intro h
    cases t with
    | nil => cases h
    | cons q t =>
      rw [quotedHead?] at h
      split at h
      · next hq =>
        obtain ⟨⟨body, rest⟩, hbreak, rfl⟩ := Option.map_eq_some_iff.mp h
        obtain ⟨hbody, rfl⟩ := breakOn?_singleton_eq_some_iff.mp hbreak
        exact ⟨q, rest, hq, hbody, rfl⟩
      · cases h
  · rintro ⟨q, rest, hq, huri, rfl⟩
    rw [List.cons_append, quotedHead?, if_pos hq, breakOn?_singleton huri, Option.map_some]

theorem after?_importWord {before between : Text} {q : Char} (hbefore : ∀ c ∈ before, isBlank c = true)
    (hbetween : ∀ c ∈ between, isBlank c = true) (hq : q = '\'' ∨ q = '"') (quoted : Text) :
    after? importWord (trimStart (before ++ importWord ++ between ++ q :: quoted)) = some (between ++ q :: quoted) ∧
      trimStart (between ++ q :: quoted) = q :: quoted := by
  have hblank : isBlank q = false := by rcases hq with rfl | rfl <;> rfl
  constructor
  · rw [List.append_assoc, List.append_assoc, trimStart_append_of_blanks hbefore rfl, after?_append]
  · exact trimStart_append_of_blanks hbetween hblank

theorem importUri?_eq_some_iff : importUri? line = some uri ↔ WritesImport line uri := by
  rw [importUri?, Option.bind_eq_some_iff]
  constructor
  · rintro ⟨behind, hbehind, hquoted⟩
    obtain ⟨q, rest, hq, huri, hsplit⟩ := quotedHead?_eq_some_iff.mp hquoted
    refine ⟨leadingBlanks line, leadingBlanks behind, q, rest, List.all_eq_true.mp List.all_takeWhile,
      List.all_eq_true.mp List.all_takeWhile, hq, huri, ?_⟩
    calc line = leadingBlanks line ++ trimStart line := (leadingBlanks_append_trimStart line).symm
      _ = leadingBlanks line ++ (importWord ++ (leadingBlanks behind ++ trimStart behind)) := by
        rw [after?_eq_some_iff.mp hbehind, leadingBlanks_append_trimStart]
      _ = _ := by rw [hsplit]; simp only [List.append_assoc]
  · rintro ⟨before, between, q, rest, hbefore, hbetween, hq, huri, rfl⟩
    obtain ⟨hword, hquote⟩ := after?_importWord hbefore hbetween hq (uri ++ q :: rest)
    rw [List.append_assoc _ (q :: uri), List.cons_append]
    refine ⟨_, hword, ?_⟩
    rw [hquote]
    exact quotedHead?_eq_some_iff.mpr ⟨q, rest, hq, huri, rfl⟩

theorem isImportOf_iff : isImportOf uri line = true ↔ WritesImport line uri := by
  rw [isImportOf, beq_iff_eq, importUri?_eq_some_iff]

theorem WritesImport.startsWith_trim (h : WritesImport line uri) : startsWith importWord (trim line) = true := by
  obtain ⟨behind, hbehind, hquoted⟩ := Option.bind_eq_some_iff.mp (importUri?_eq_some_iff.mpr h)
  refine Directive.startsWith_trim (after?_eq_some_iff.mp hbehind) ?_
  rw [Bool.eq_false_iff]
  intro hblank
  have hnil : trimStart behind = [] := List.dropWhile_eq_nil_iff.mpr (List.all_eq_true.mp hblank)
  rw [hnil] at hquoted
  cases hquoted

theorem startsDirective_of_isImportOf (h : isImportOf uri line = true) : startsDirective line = true := by
  simp [startsDirective, (isImportOf_iff.mp h).startsWith_trim]

theorem isInfix_of_isImportOf (h : isImportOf uri line = true) : uri <:+: line := by
  obtain ⟨before, between, q, rest, -, -, -, -, rfl⟩ := isImportOf_iff.mp h
  exact ⟨before ++ importWord ++ between ++ [q], q :: rest, by simp⟩

/-! ## The last line with a property -/

theorem afterLast?_eq_none {p : Text → Bool} {lines : List Text} (h : afterLast? p lines = none) :
    ∀ line ∈ lines, p line = false := by
  induction lines with
  | nil => simp
  | cons line rest ih =>
    rw [afterLast?] at h
    split at h
    · cases h
    · next hrest =>
      split at h
      · cases h
      · next hp => exact List.forall_mem_cons.mpr ⟨by simpa using hp, ih hrest⟩

theorem afterLast?_eq_some {p : Text → Bool} {lines : List Text} {n : Nat}
    (h : afterLast? p lines = some n) :
    ∃ i, n = i + 1 ∧ (∃ line, lines[i]? = some line ∧ p line = true) ∧
      ∀ j line, lines[j]? = some line → p line = true → j ≤ i := by
  induction lines generalizing n with
  | nil => simp [afterLast?] at h
  | cons head rest ih =>
    rw [afterLast?] at h
    split at h
    · next m hm =>
      obtain ⟨i, rfl, ⟨line, hline, hp⟩, hlast⟩ := ih hm
      refine ⟨i + 1, by simpa using h.symm, ⟨line, by simpa using hline, hp⟩, ?_⟩
      intro j other hother hpo
      cases j with
      | zero => omega
      | succ j => exact Nat.succ_le_succ (hlast j other (by simpa using hother) hpo)
    · next hnone =>
      split at h
      · next hp =>
        refine ⟨0, by simpa using h.symm, ⟨head, by simp, hp⟩, ?_⟩
        intro j other hother hpo
        cases j with
        | zero => exact Nat.le_refl 0
        | succ j =>
          have hmem : other ∈ rest := List.mem_of_getElem? (by simpa using hother)
          have hnp := afterLast?_eq_none hnone other hmem
          rw [hpo] at hnp
          cases hnp
      · cases h

/-! ## Lines up to a semicolon -/

theorem linesToClose?_eq_some {lines : List Text} {n : Nat} (h : linesToClose? lines = some n) :
    n ≤ lines.length ∧ ∀ line ∈ lines.take n, startsDirective line = false := by
  induction lines generalizing n with
  | nil => simp [linesToClose?] at h
  | cons head rest ih =>
    rw [linesToClose?] at h
    split at h
    · cases h
    · next hstart =>
      have hhead : startsDirective head = false := by simpa using hstart
      split at h
      · obtain rfl : 1 = n := by simpa using h
        exact ⟨by simp, by simpa using hhead⟩
      · obtain ⟨m, hm, rfl⟩ := Option.map_eq_some_iff.mp h
        obtain ⟨hle, hall⟩ := ih hm
        exact ⟨by simpa using hle, by simpa using ⟨hhead, hall⟩⟩

end Directive

namespace Buffer

variable {b : Buffer} {p : Text → Bool} {i j k n : Nat}

/-! ## The header -/

/-- Line `i` belongs to the header and satisfies `p`. -/
def InHeader (b : Buffer) (p : Text → Bool) (i : Nat) : Prop :=
  ∃ line, b.header[i]? = some line ∧ p line = true

/-- Line `i` is the last of the header that satisfies `p`. -/
def IsLastInHeader (b : Buffer) (p : Text → Bool) (i : Nat) : Prop :=
  b.InHeader p i ∧ ∀ j, b.InHeader p j → j ≤ i

theorem header_eq_take (b : Buffer) : b.header = b.contents.take b.headerLength := by
  exact List.prefix_iff_eq_take.mp (List.takeWhile_prefix _)

theorem drop_headerLength (b : Buffer) :
    b.contents.drop b.headerLength = b.contents.dropWhile isHeaderLine := by
  have hsplit : b.header ++ b.contents.dropWhile isHeaderLine = b.contents :=
    List.takeWhile_append_dropWhile
  have hdrop := congrArg (List.drop b.headerLength) hsplit
  rw [headerLength, List.drop_left] at hdrop
  exact hdrop.symm

theorem headerLength_le (b : Buffer) : b.headerLength ≤ b.length := by
  rw [headerLength, header, ← length_contents]
  exact (List.takeWhile_sublist _).length_le

theorem InHeader.lt (h : b.InHeader p i) : i < b.headerLength := by
  obtain ⟨line, hline, -⟩ := h
  exact (List.getElem?_eq_some_iff.mp hline).1

theorem InHeader.isHeaderLine {line : Text} (hline : b.header[i]? = some line) :
    Directive.isHeaderLine line = true := by
  have hmem := List.mem_of_getElem? hline
  exact List.all_eq_true.mp List.all_takeWhile line hmem

theorem content?_of_header {line : Text} (h : b.header[i]? = some line) : b.content? i = some line := by
  rw [header_eq_take] at h
  obtain ⟨hi, -⟩ := List.getElem?_eq_some_iff.mp h
  rw [content?_eq, ← h, List.getElem?_take_of_lt]
  simp only [List.length_take] at hi
  omega

theorem afterLastInHeader?_eq_some_iff :
    b.afterLastInHeader? p = some n ↔ ∃ i, n = i + 1 ∧ b.IsLastInHeader p i := by
  constructor
  · intro h
    obtain ⟨i, hn, hi, hlast⟩ := afterLast?_eq_some h
    exact ⟨i, hn, hi, fun j ⟨line, hline, hp⟩ => hlast j line hline hp⟩
  · rintro ⟨i, rfl, hi, hlast⟩
    cases hm : b.afterLastInHeader? p with
    | none =>
      obtain ⟨line, hline, hp⟩ := hi
      have hnp := afterLast?_eq_none hm line (List.mem_of_getElem? hline)
      rw [hp] at hnp
      cases hnp
    | some m =>
      obtain ⟨j, rfl, hj, hjlast⟩ := afterLast?_eq_some hm
      have hij : i ≤ j := by
        obtain ⟨line, hline, hp⟩ := hi
        exact hjlast i line hline hp
      have hji := hlast j hj
      rw [Nat.le_antisymm hij hji]

theorem afterLastInHeader?_eq_none_iff : b.afterLastInHeader? p = none ↔ ∀ i, ¬ b.InHeader p i := by
  constructor
  · rintro h i ⟨line, hline, hp⟩
    have hnp := afterLast?_eq_none h line (List.mem_of_getElem? hline)
    rw [hp] at hnp
    cases hnp
  · intro h
    cases hm : b.afterLastInHeader? p with
    | none => rfl
    | some n =>
      obtain ⟨i, -, hi, -⟩ := afterLastInHeader?_eq_some_iff.mp hm
      exact absurd hi (h i)

theorem importPoint_eq (h : b.InHeader (opensWith importWord) i) :
    ∃ last, b.importPoint = last + 1 ∧ b.IsLastInHeader (opensWith importWord) last := by
  cases hm : b.afterLastInHeader? (opensWith importWord) with
  | none => exact absurd h (afterLastInHeader?_eq_none_iff.mp hm i)
  | some n =>
    obtain ⟨last, rfl, hlast⟩ := afterLastInHeader?_eq_some_iff.mp hm
    exact ⟨last, by rw [importPoint, hm]; rfl, hlast⟩

/-! ## Lines added to the header -/

theorem header_ofText_toText (hb : Framed b.lines) : (ofText b.toText).header = b.header := by
  rw [header, contents_ofText_toText hb, header]

theorem headerLength_ofText_toText (hb : Framed b.lines) : (ofText b.toText).headerLength = b.headerLength := by
  rw [headerLength, header_ofText_toText hb, headerLength]

section Insertion

variable {lines : List Text} {line : Text}

theorem takeWhile_insertIdx (hline : p line = true) (hn : n ≤ (lines.takeWhile p).length) :
    (lines.insertIdx n line).takeWhile p = (lines.takeWhile p).insertIdx n line := by
  induction lines generalizing n with
  | nil =>
    obtain rfl : n = 0 := by simpa using hn
    simp [hline]
  | cons first rest ih =>
    cases n with
    | zero => simp [hline]
    | succ n =>
      by_cases hfirst : p first = true
      · rw [List.takeWhile_cons_of_pos hfirst, List.length_cons] at hn
        rw [List.insertIdx_succ_cons, List.takeWhile_cons_of_pos hfirst, List.takeWhile_cons_of_pos hfirst,
          List.insertIdx_succ_cons, ih (by omega)]
      · simp [hfirst] at hn

theorem dropWhile_insertIdx (hline : p line = true) (hn : n ≤ (lines.takeWhile p).length) :
    (lines.insertIdx n line).dropWhile p = lines.dropWhile p := by
  induction lines generalizing n with
  | nil =>
    obtain rfl : n = 0 := by simpa using hn
    simp [hline]
  | cons first rest ih =>
    cases n with
    | zero => simp [hline]
    | succ n =>
      by_cases hfirst : p first = true
      · rw [List.takeWhile_cons_of_pos hfirst, List.length_cons] at hn
        rw [List.insertIdx_succ_cons, List.dropWhile_cons_of_pos hfirst, List.dropWhile_cons_of_pos hfirst,
          ih (by omega)]
      · simp [hfirst] at hn

theorem contents_insert_header (hb : Framed b.lines) (hc : IsContent line) (hn : n ≤ b.headerLength) :
    (b.insert n line).contents = b.contents.insertIdx n line := by
  have hle := b.headerLength_le
  rw [contents_insert hb.parted hc, Nat.min_eq_left (by omega)]

theorem header_insert (hb : Framed b.lines) (hc : IsContent line) (hline : isHeaderLine line = true)
    (hn : n ≤ b.headerLength) : (b.insert n line).header = b.header.insertIdx n line := by
  rw [header, contents_insert_header hb hc hn, takeWhile_insertIdx hline hn, header]

theorem drop_headerLength_insert (hb : Framed b.lines) (hc : IsContent line) (hline : isHeaderLine line = true)
    (hn : n ≤ b.headerLength) :
    (b.insert n line).contents.drop (b.insert n line).headerLength = b.contents.drop b.headerLength := by
  rw [drop_headerLength, contents_insert_header hb hc hn, dropWhile_insertIdx hline hn, drop_headerLength]

end Insertion

/-! ## Directives -/

theorem directiveEnd_of_closes {line : Text} (h : b.content? i = some line)
    (hc : closes line = true) : b.directiveEnd i = i := by
  rw [content?_eq] at h
  obtain ⟨hi, rfl⟩ := List.getElem?_eq_some_iff.mp h
  rw [directiveEnd, List.drop_eq_getElem_cons hi]
  simp [hc]

theorem not_startsDirective (hik : i < k) (hk : k ≤ b.directiveEnd i) :
    ∃ line, b.content? k = some line ∧ startsDirective line = false := by
  rw [directiveEnd] at hk
  split at hk
  · omega
  · next first rest hdrop =>
    split at hk
    · omega
    · cases hn : linesToClose? rest with
      | none => rw [hn, Option.getD_none] at hk; omega
      | some n =>
        rw [hn, Option.getD_some] at hk
        obtain ⟨hle, hall⟩ := linesToClose?_eq_some hn
        have hlt : k - i - 1 < rest.length := by omega
        have hline : b.content? k = rest[k - i - 1]? := by
          have hkth : b.contents[k]? = (b.contents.drop i)[k - i]? := by
            rw [List.getElem?_drop]
            congr 1
            omega
          rw [content?_eq, hkth, hdrop, List.getElem?_cons, if_neg (by omega)]
        refine ⟨rest[k - i - 1], by rw [hline, List.getElem?_eq_getElem hlt], ?_⟩
        refine hall _ (List.mem_take_iff_getElem.mpr ⟨k - i - 1, ?_, rfl⟩)
        omega

theorem directiveEnd_lt {line : Text} (hij : i < j) (hj : b.content? j = some line)
    (hs : startsDirective line = true) : b.directiveEnd i < j := by
  by_contra hle
  obtain ⟨other, hother, hns⟩ := not_startsDirective hij (Nat.not_lt.mp hle)
  rw [hj] at hother
  obtain rfl := Option.some.inj hother
  rw [hs] at hns
  cases hns

end Buffer

namespace Directive

/-! ## What imports look like -/

/-- A line imports the URIs that it is written with, and so one at most. A line that does not open with the word of
an import imports nothing, and nor does a line on which a directive goes on. -/
theorem imports_as_written (line : Text) :
    (∀ uri, importUri? line = some uri ↔ WritesImport line uri) ∧
    (∀ uri uri', WritesImport line uri → WritesImport line uri' → uri = uri') ∧
    (startsWith importWord (trim line) = false → ∀ uri, ¬ WritesImport line uri ∧ isImportOf uri line = false) ∧
    ∀ (b : Buffer) (i k : Nat), i < k → k ≤ b.directiveEnd i → b.content? k = some line →
      ∀ uri, isImportOf uri line = false := by
  refine ⟨fun uri => importUri?_eq_some_iff, ?_, ?_, ?_⟩
  · intro uri uri' h h'
    rw [← importUri?_eq_some_iff] at h h'
    exact Option.some.inj (h.symm.trans h')
  · intro hopens uri
    have hwrites : ¬ WritesImport line uri := by
      intro h
      rw [h.startsWith_trim] at hopens
      cases hopens
    exact ⟨hwrites, Bool.eq_false_iff.mpr fun h => hwrites (isImportOf_iff.mp h)⟩
  · intro b i k hik hk hline uri
    obtain ⟨other, hother, hquiet⟩ := Buffer.not_startsDirective hik hk
    obtain rfl := Option.some.inj (hline.symm.trans hother)
    rw [Bool.eq_false_iff]
    intro himport
    rw [startsDirective_of_isImportOf himport] at hquiet
    cases hquiet

/-- An import with an apostrophe in its URI, behind blanks of two kinds, and with quotes behind it. -/
def apostrophe : Text := "\u2003import \t\"it's\" as it; // 'x'".toList

/-- The outer quotes count. On a wrapped import the clause imports nothing, whatever it has between quotes. -/
theorem imports_as_written_apostrophe :
    WritesImport apostrophe "it's".toList ∧ ¬ WritesImport apostrophe ['x'] ∧
    isImportOf ['x'] "    show 'x';".toList = false ∧ ¬ WritesImport "    show 'x';".toList ['x'] := by
  obtain ⟨hread, hone, -, -⟩ := imports_as_written apostrophe
  obtain ⟨-, -, hclosed, hclause⟩ := imports_as_written "    show 'x';".toList
  have hwrites : WritesImport apostrophe "it's".toList := (hread _).mp (by decide +kernel)
  refine ⟨hwrites, fun hother => absurd (hone _ _ hwrites hother) (by decide), ?_, ?_⟩
  · exact hclause (.ofText "import 'a'\n    show 'x';\n".toList) 0 1 (by decide) (by decide +kernel)
      (by decide +kernel) ['x']
  · exact (hclosed (by decide +kernel) ['x']).1

end Directive
end Upkeep
