import Upkeep.Fix.FoundationImport
import Upkeep.Fix.MaterialImport
import Upkeep.Proofs.Source.Directive

/-!
# Where imports are added

Both fixes that add an import put it behind a *line* of the header that opens with `import`. A directive
that goes on on the next lines is therefore split, if it is the one behind which the import is put.

* `keepsDirective_insert_iff`: a directive stays in one piece unless the index of an inserted directive
  lies behind its first line and not behind its last.
* `importPoint_inside_iff`, `FoundationImport.point?_inside_iff`: the only import at risk is the one right
  above the index.
* `directive_split_iff`: for both fixes, the imports that are split, read off the text.

Removing misplaced imports moves no line of the header and none of a directive that starts there
(`content?_removeMisplaced`).
-/

namespace Upkeep

open Text Directive

namespace Buffer

variable {b : Buffer} {p : Text → Bool} {i n : Nat}

/-- The lines of the directive at `i` follow each other in `out`, in order and at most one line lower. -/
def KeepsDirective (b out : Buffer) (i : Nat) : Prop :=
  ∃ shift ≤ 1, ∀ k, i ≤ k → k ≤ b.directiveEnd i → out.content? (k + shift) = b.content? k

theorem keepsDirective_of_agree {out : Buffer}
    (h : ∀ k ≤ b.directiveEnd i, out.content? k = b.content? k) : b.KeepsDirective out i :=
  ⟨0, by omega, fun k _ hk => h k hk⟩

theorem keepsDirective_insert_iff {front : Buffer} {d : Text} (hfront : Framed front.lines)
    (hagree : ∀ k ≤ b.directiveEnd i, front.content? k = b.content? k) (hd : IsContent d)
    (hstart : startsDirective d = true) (hcloses : closes d = true) (hn : n ≤ front.length) :
    b.KeepsDirective (front.insert n d) i ↔ ¬ (i < n ∧ n ≤ b.directiveEnd i) := by
  have hline := content?_insert hfront hd hn
  constructor
  · -- the new line would have to be a line of the directive, or its first line and close it
    rintro ⟨shift, hshift, hkeep⟩ ⟨hin, hne⟩
    have hnew : (front.insert n d).content? n = some d := by
      rw [hline, if_neg (Nat.lt_irrefl n), if_pos rfl]
    have hnot : ∀ k, i < k → k ≤ b.directiveEnd i → b.content? k ≠ some d := by
      intro k hik hk he
      have := directiveEnd_lt hik he hstart
      omega
    rcases Nat.le_one_iff_eq_zero_or_eq_one.mp hshift with rfl | rfl
    · exact hnot n hin hne ((hkeep n (by omega) hne).symm.trans hnew)
    · have hpred := hkeep (n - 1) (by omega) (by omega)
      rw [Nat.sub_add_cancel (by omega), hnew] at hpred
      by_cases hi : n - 1 = i
      · rw [hi] at hpred
        have := directiveEnd_of_closes hpred.symm hcloses
        omega
      · exact hnot (n - 1) (by omega) (by omega) hpred.symm
  · intro hout
    by_cases hin : i < n
    · refine keepsDirective_of_agree fun k hk => ?_
      rw [hline, if_pos (by omega), hagree k hk]
    · refine ⟨1, Nat.le_refl 1, fun k hik hk => ?_⟩
      rw [hline, if_neg (by omega), if_neg (by omega), Nat.add_sub_cancel, hagree k hk]

theorem keepsDirective_ofText_toText {out : Buffer} (h : Framed out.lines) :
    b.KeepsDirective (ofText out.toText) i ↔ b.KeepsDirective out i := by
  simp only [KeepsDirective, content?_eq, contents_ofText_toText h]

theorem inside_iff_of_isLast (hp : ∀ line, isHeaderLine line = true → p line = true →
    startsDirective line = true) {last : Nat} (hlast : b.IsLastInHeader p last) :
    (i < last + 1 ∧ last + 1 ≤ b.directiveEnd i) ↔ i = last ∧ i < b.directiveEnd i := by
  constructor
  · rintro ⟨hi, he⟩
    by_cases hil : i = last
    · exact ⟨hil, by omega⟩
    · obtain ⟨line, hline, hpl⟩ := hlast.1
      have hstart := hp line (InHeader.isHeaderLine hline) hpl
      have := directiveEnd_lt (by omega : i < last) (content?_of_header hline) hstart
      omega
  · rintro ⟨rfl, he⟩
    exact ⟨Nat.lt_succ_self i, he⟩

theorem IsLastInHeader.eq {j : Nat} (hi : b.IsLastInHeader p i) (hj : b.IsLastInHeader p j) : i = j :=
  Nat.le_antisymm (hj.2 i hi.1) (hi.2 j hj.1)

theorem importPoint_inside_iff (h : b.InHeader (opensWith importWord) i) :
    (i < b.importPoint ∧ b.importPoint ≤ b.directiveEnd i) ↔
      b.IsLastInHeader (opensWith importWord) i ∧ i < b.directiveEnd i := by
  obtain ⟨last, hn, hlast⟩ := importPoint_eq h
  rw [hn, inside_iff_of_isLast (fun line hh ho => startsDirective_of_header ho hh) hlast]
  constructor
  · rintro ⟨rfl, he⟩
    exact ⟨hlast, he⟩
  · rintro ⟨hi, he⟩
    exact ⟨hi.eq hlast, he⟩

end Buffer

/-! ## The Material import -/

namespace MaterialImport

def point? (t : Text) : Option Nat :=
  if isNeeded t then some (Buffer.ofText t).importPoint else none

/-- The import at `i` is the last of the header and goes on on the next line, and the fix adds one. -/
def Splits (t : Text) (i : Nat) : Prop :=
  isNeeded t = true ∧ (Buffer.ofText t).IsLastInHeader (opensWith importWord) i ∧
    i < (Buffer.ofText t).directiveEnd i

theorem isContent_directive : IsContent directive := ⟨by decide, by decide⟩

theorem point?_inside_iff {t : Text} {i : Nat}
    (hi : (Buffer.ofText t).InHeader (opensWith importWord) i) :
    (∃ n, point? t = some n ∧ i < n ∧ n ≤ (Buffer.ofText t).directiveEnd i) ↔ Splits t i := by
  rw [point?, Splits, ← Buffer.importPoint_inside_iff hi]
  split
  · next h => simp [h]
  · next h => simp [h]

theorem text_fix_of_isNeeded {t : Text} (h : isNeeded t = true) : (fix t).text =
    ((Buffer.ofText t).insert (Buffer.ofText t).importPoint directive).toText := by
  rw [fix, if_pos h]

theorem text_fix_of_not_isNeeded {t : Text} (h : ¬ isNeeded t = true) : (fix t).text = t := by
  rw [fix, if_neg h, Outcome.unchanged]

theorem keepsDirective_fix_iff {t : Text} {i : Nat}
    (hi : (Buffer.ofText t).InHeader (opensWith importWord) i) :
    (Buffer.ofText t).KeepsDirective (Buffer.ofText (fix t).text) i ↔ ¬ Splits t i := by
  by_cases h : isNeeded t = true
  · have hframed := Buffer.framed_ofText t
    have hlen := Nat.le_trans (Buffer.ofText t).importPoint_le (Buffer.ofText t).headerLength_le
    have hins := Buffer.framed_insert hframed isContent_directive.no_feed
      (Buffer.ofText t).importPoint
    rw [text_fix_of_isNeeded h, Buffer.keepsDirective_ofText_toText hins,
      Buffer.keepsDirective_insert_iff hframed (fun _ _ => rfl) isContent_directive (by decide)
        (by decide) hlen, Buffer.importPoint_inside_iff hi, Splits]
    simp [h]
  · rw [text_fix_of_not_isNeeded h, Splits]
    have hkeep := Buffer.keepsDirective_of_agree (b := Buffer.ofText t) (i := i) fun _ _ => rfl
    simp [h, hkeep]

end MaterialImport

/-! ## The Foundation import -/

namespace FoundationImport

open Buffer (InHeader IsLastInHeader)

def pointIn (b : Buffer) : Nat := (b.afterLastInHeader? (opensWith flutterImport)).getD b.importPoint

/-- Whether the header gets an import: one is misplaced and the header has none. -/
def isAdded (b : Buffer) : Bool := misplaced b != 0 && !b.header.any isImport

def point? (t : Text) : Option Nat :=
  if isAdded (Buffer.ofText t) then some (pointIn (removeMisplaced (Buffer.ofText t))) else none

/-- Line `i` is the one behind which the header gets its import: the last import of a Flutter library,
or the last import of any if there is none. -/
def IsAbovePoint (b : Buffer) (i : Nat) : Prop :=
  b.IsLastInHeader (opensWith flutterImport) i ∨
    (∀ j, ¬ b.InHeader (opensWith flutterImport) j) ∧ b.IsLastInHeader (opensWith importWord) i

/-- The import at `i` is the one behind which the fix adds another, and goes on on the next line. -/
def Splits (t : Text) (i : Nat) : Prop :=
  isAdded (Buffer.ofText t) = true ∧ IsAbovePoint (Buffer.ofText t) i ∧
    i < (Buffer.ofText t).directiveEnd i

variable {b : Buffer} {i k : Nat}

theorem isContent_directive : IsContent directive := ⟨by decide, by decide⟩

theorem startsDirective_of_flutterImport {line : Text} (h : opensWith flutterImport line = true) :
    startsDirective line = true := by
  obtain ⟨rest, hrest⟩ := startsWith_iff.mp h
  have hword : flutterImport = importWord ++ "'package:flutter/".toList := by decide
  rw [hword, List.append_assoc] at hrest
  exact startsDirective_of_trimStart hrest rfl

/-! ### Removing misplaced imports -/

theorem contents_removeMisplaced (b : Buffer) : (removeMisplaced b).contents =
    b.header ++ (b.contents.drop b.headerLength).filter (!isImport ·) := by
  rw [b.header_eq_take, Buffer.contents, removeMisplaced, List.map_append, List.map_take,
    Buffer.contents, ← List.map_drop, List.filter_map]
  rfl

theorem isHeaderLine_of_isImport {line : Text} (h : isImport line = true) :
    isHeaderLine line = true :=
  isHeaderLine_of_startsDirective (startsDirective_of_isImportOf h)

theorem header_removeMisplaced (b : Buffer) : (removeMisplaced b).header = b.header := by
  have hall : ∀ line ∈ b.header, isHeaderLine line = true := List.all_eq_true.mp List.all_takeWhile
  have hrest : ((b.contents.dropWhile isHeaderLine).filter (!isImport ·)).takeWhile isHeaderLine = [] := by
    have hhead := List.head?_dropWhile_not isHeaderLine b.contents
    cases hd : b.contents.dropWhile isHeaderLine with
    | nil => rfl
    | cons line rest =>
      rw [hd] at hhead
      have hline : isHeaderLine line = false := hhead
      have himport : isImport line = false :=
        Bool.eq_false_iff.mpr fun h => by simp [isHeaderLine_of_isImport h] at hline
      simp [himport, hline]
  rw [Buffer.header, contents_removeMisplaced, List.takeWhile_append_of_pos hall, b.drop_headerLength,
    hrest, List.append_nil]

theorem getElem?_filter_of_forall {p : Text → Bool} {lines : List Text}
    (h : ∀ j ≤ k, ∀ line, lines[j]? = some line → p line = true) :
    (lines.filter p)[k]? = lines[k]? := by
  induction lines generalizing k with
  | nil => rfl
  | cons line rest ih =>
    rw [List.filter_cons_of_pos (h 0 (Nat.zero_le k) line rfl)]
    cases k with
    | zero => rfl
    | succ k =>
      rw [List.getElem?_cons_succ, List.getElem?_cons_succ]
      exact ih fun j hj other hother => h (j + 1) (Nat.succ_le_succ hj) other hother

theorem content?_removeMisplaced {p : Text → Bool} (hi : b.InHeader p i) (hk : k ≤ b.directiveEnd i) :
    (removeMisplaced b).content? k = b.content? k := by
  have hlt := hi.lt
  rw [Buffer.content?_eq, Buffer.content?_eq, contents_removeMisplaced]
  by_cases hkh : k < b.headerLength
  · rw [List.getElem?_append_left hkh, b.header_eq_take, List.getElem?_take_of_lt hkh]
  · have hsub : b.headerLength + (k - b.headerLength) = k := by omega
    rw [List.getElem?_append_right (Nat.not_lt.mp hkh), ← Buffer.headerLength,
      getElem?_filter_of_forall, List.getElem?_drop, hsub]
    intro j hj line hline
    rw [List.getElem?_drop, ← Buffer.content?_eq] at hline
    obtain ⟨other, hother, hns⟩ := Buffer.not_startsDirective (b := b) (i := i)
      (k := b.headerLength + j) (by omega) (by omega)
    obtain rfl := Option.some.inj (hline.symm.trans hother)
    cases him : isImport line with
    | false => rfl
    | true => rw [startsDirective_of_isImportOf him] at hns; cases hns

theorem sublist_removeMisplaced (b : Buffer) : (removeMisplaced b).lines.Sublist b.lines := by
  have hsub := (List.Sublist.refl (b.lines.take b.headerLength)).append
    (List.filter_sublist (p := fun line => !isImport (Buffer.contentOf line))
      (l := b.lines.drop b.headerLength))
  rwa [List.take_append_drop] at hsub

theorem framed_removeMisplaced (hb : Framed b.lines) : Framed (removeMisplaced b).lines :=
  hb.sublist (sublist_removeMisplaced b)

/-! ### The index of the import -/

theorem pointIn_removeMisplaced (b : Buffer) : pointIn (removeMisplaced b) = pointIn b := by
  simp only [pointIn, Buffer.importPoint, Buffer.afterLastInHeader?, header_removeMisplaced]

theorem pointIn_le (b : Buffer) : pointIn b ≤ b.headerLength := by
  rw [pointIn]
  cases hm : b.afterLastInHeader? (opensWith flutterImport) with
  | none => exact b.importPoint_le
  | some n => exact afterLast?_le hm

theorem pointIn_inside_iff (hi : b.InHeader (opensWith importWord) i) :
    (i < pointIn b ∧ pointIn b ≤ b.directiveEnd i) ↔ IsAbovePoint b i ∧ i < b.directiveEnd i := by
  rw [pointIn, IsAbovePoint]
  cases hm : b.afterLastInHeader? (opensWith flutterImport) with
  | none =>
    have hnone := Buffer.afterLastInHeader?_eq_none_iff.mp hm
    have hno : ¬ b.IsLastInHeader (opensWith flutterImport) i := fun h => hnone i h.1
    rw [Option.getD_none, Buffer.importPoint_inside_iff hi]
    simp [hnone, hno]
  | some n =>
    obtain ⟨last, rfl, hlast⟩ := Buffer.afterLastInHeader?_eq_some_iff.mp hm
    rw [Option.getD_some, Buffer.inside_iff_of_isLast
      (fun line _ ho => startsDirective_of_flutterImport ho) hlast]
    constructor
    · rintro ⟨rfl, he⟩
      exact ⟨.inl hlast, he⟩
    · rintro ⟨h | ⟨hnone, -⟩, he⟩
      · exact ⟨h.eq hlast, he⟩
      · exact absurd hlast.1 (hnone last)

/-! ### The fix -/

theorem point?_inside_iff {t : Text} (hi : (Buffer.ofText t).InHeader (opensWith importWord) i) :
    (∃ n, point? t = some n ∧ i < n ∧ n ≤ (Buffer.ofText t).directiveEnd i) ↔ Splits t i := by
  rw [point?, Splits, ← pointIn_inside_iff hi, pointIn_removeMisplaced]
  split
  · next h => simp [h]
  · next h => simp [h]

theorem text_fix_of_isAdded {t : Text} (h : isAdded (Buffer.ofText t) = true) :
    (fix t).text = ((removeMisplaced (Buffer.ofText t)).insert
      (pointIn (removeMisplaced (Buffer.ofText t))) directive).toText := by
  obtain ⟨hm, hh⟩ : misplaced (Buffer.ofText t) ≠ 0 ∧
      (Buffer.ofText t).header.any isImport = false := by simpa [isAdded] using h
  simp only [fix, if_neg hm, hh]
  rfl

theorem text_fix_of_not_isAdded {t : Text} (h : ¬ isAdded (Buffer.ofText t) = true) :
    (fix t).text = t ∨ (fix t).text = (removeMisplaced (Buffer.ofText t)).toText := by
  by_cases hm : misplaced (Buffer.ofText t) = 0
  · left
    rw [fix, if_pos hm, Outcome.unchanged]
  · right
    have hh : (Buffer.ofText t).header.any isImport = true := by
      simp only [isAdded, bne_iff_ne.mpr hm, Bool.true_and, Bool.not_eq_true', Bool.not_eq_false] at h
      exact h
    simp only [fix, if_neg hm, if_pos hh]

theorem keepsDirective_fix_iff {t : Text} (hi : (Buffer.ofText t).InHeader (opensWith importWord) i) :
    (Buffer.ofText t).KeepsDirective (Buffer.ofText (fix t).text) i ↔ ¬ Splits t i := by
  have hfront := framed_removeMisplaced (Buffer.framed_ofText t)
  have hagree : ∀ k ≤ (Buffer.ofText t).directiveEnd i,
      (removeMisplaced (Buffer.ofText t)).content? k = (Buffer.ofText t).content? k :=
    fun k hk => content?_removeMisplaced hi hk
  by_cases h : isAdded (Buffer.ofText t) = true
  · have hlen := Nat.le_trans (pointIn_le (removeMisplaced (Buffer.ofText t)))
      (Buffer.headerLength_le _)
    have hins := Buffer.framed_insert hfront isContent_directive.no_feed
      (pointIn (removeMisplaced (Buffer.ofText t)))
    rw [text_fix_of_isAdded h, Buffer.keepsDirective_ofText_toText hins,
      Buffer.keepsDirective_insert_iff hfront hagree isContent_directive (by decide) (by decide) hlen,
      pointIn_removeMisplaced, pointIn_inside_iff hi, Splits]
    simp [h]
  · have hkeep : (Buffer.ofText t).KeepsDirective (Buffer.ofText (fix t).text) i := by
      rcases text_fix_of_not_isAdded h with ht | ht
      · rw [ht]
        exact Buffer.keepsDirective_of_agree fun _ _ => rfl
      · rw [ht, Buffer.keepsDirective_ofText_toText hfront]
        exact Buffer.keepsDirective_of_agree hagree
    simp [Splits, h, hkeep]

end FoundationImport

/-! ## Both fixes -/

/-- The imports of a header that an added import splits. The index of the added line lies inside a
directive, and its lines do not stay in one piece, exactly for the import right above that index if
it goes on on the next line. -/
theorem directive_split_iff (t : Text) (i : Nat)
    (hi : (Buffer.ofText t).InHeader (opensWith importWord) i) :
    (((∃ n, MaterialImport.point? t = some n ∧ i < n ∧ n ≤ (Buffer.ofText t).directiveEnd i) ↔
        MaterialImport.Splits t i) ∧
      ((Buffer.ofText t).KeepsDirective (Buffer.ofText (MaterialImport.fix t).text) i ↔
        ¬ MaterialImport.Splits t i)) ∧
    (((∃ n, FoundationImport.point? t = some n ∧ i < n ∧ n ≤ (Buffer.ofText t).directiveEnd i) ↔
        FoundationImport.Splits t i) ∧
      ((Buffer.ofText t).KeepsDirective (Buffer.ofText (FoundationImport.fix t).text) i ↔
        ¬ FoundationImport.Splits t i)) :=
  ⟨⟨MaterialImport.point?_inside_iff hi, MaterialImport.keepsDirective_fix_iff hi⟩,
    ⟨FoundationImport.point?_inside_iff hi, FoundationImport.keepsDirective_fix_iff hi⟩⟩

/-- A source with two imports, the first of which ends on the line of a comment. -/
def stacked : Text :=
  FoundationImport.flutterImport ++ "w'\n// as w;\nimport 'b';\n".toList ++
    "final c = Icons.add;\n".toList ++ FoundationImport.directive

/-- The Material import goes behind the second import, the Foundation import behind the first line. -/
theorem directive_split_iff_stacked :
    (Buffer.ofText stacked).InHeader (opensWith importWord) 0 ∧
      (Buffer.ofText stacked).KeepsDirective (Buffer.ofText (MaterialImport.fix stacked).text) 0 ∧
      ¬ (Buffer.ofText stacked).KeepsDirective (Buffer.ofText (FoundationImport.fix stacked).text) 0 := by
  have hi : (Buffer.ofText stacked).InHeader (opensWith importWord) 0 :=
    ⟨FoundationImport.flutterImport ++ "w'".toList, by decide +kernel, by decide⟩
  have hb : (Buffer.ofText stacked).InHeader (opensWith importWord) 2 :=
    ⟨"import 'b';".toList, by decide +kernel, by decide⟩
  obtain ⟨⟨-, hmaterial⟩, ⟨hinside, hfoundation⟩⟩ := directive_split_iff stacked 0 hi
  refine ⟨hi, hmaterial.mpr ?_, fun h => hfoundation.mp h (hinside.mp ⟨1, ?_⟩)⟩
  · rintro ⟨-, ⟨-, hlast⟩, -⟩
    exact absurd (hlast 2 hb) (by decide)
  · exact ⟨by decide +kernel, by decide, by decide +kernel⟩

/-- A source whose only import has its `show` clause on the next line. -/
def wrapped : Text :=
  "import 'a'\n    show A;\n".toList ++ "final c = Icons.add;\n".toList ++ FoundationImport.directive

theorem inHeader_wrapped : (Buffer.ofText wrapped).InHeader (opensWith importWord) 0 :=
  ⟨"import 'a'".toList, by decide +kernel, by decide⟩

/-- Both fixes put their line between the import and its clause. -/
theorem clause_torn_off :
    (Buffer.ofText wrapped).directiveEnd 0 = 1 ∧
    (MaterialImport.point? wrapped = some 1 ∧
      ¬ (Buffer.ofText wrapped).KeepsDirective (Buffer.ofText (MaterialImport.fix wrapped).text) 0) ∧
    (FoundationImport.point? wrapped = some 1 ∧
      ¬ (Buffer.ofText wrapped).KeepsDirective (Buffer.ofText (FoundationImport.fix wrapped).text) 0) := by
  have he : (Buffer.ofText wrapped).directiveEnd 0 = 1 := by decide +kernel
  have hm : MaterialImport.point? wrapped = some 1 := by decide +kernel
  have hf : FoundationImport.point? wrapped = some 1 := by decide +kernel
  refine ⟨he, ⟨hm, ?_⟩, ⟨hf, ?_⟩⟩
  · rw [MaterialImport.keepsDirective_fix_iff inHeader_wrapped,
      ← MaterialImport.point?_inside_iff inHeader_wrapped]
    exact fun h => h ⟨1, hm, by omega, by omega⟩
  · rw [FoundationImport.keepsDirective_fix_iff inHeader_wrapped,
      ← FoundationImport.point?_inside_iff inHeader_wrapped]
    exact fun h => h ⟨1, hf, by omega, by omega⟩

end Upkeep
