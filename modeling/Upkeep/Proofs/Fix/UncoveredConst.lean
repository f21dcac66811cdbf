import Mathlib.Data.List.Infix
import Upkeep.Proofs.Fix.ConstructorConst

/-!
# A second scan for keywords before chosen constructors

What a scan leaves can hold a keyword before a call that was none before: one behind which a removed stretch stood, or
the beginning of a dotted name and then a removed stretch. `Uncovers` is what a text must hold for that, and
`applied_fix_fix_eq_zero_iff` says that a second scan finds something in this case only. Two keywords side by side are
such a case.

Both halves go along the scan (`scan_induction`): what is left starts in the old text (`exists_of_stripped_eq`), and as
far as it differs a removed stretch lies in it (`stripped_eq_append`); the other way round a keyword that is not removed
is left (`exists_stripped_eq`).

`misused_consts_stripped` puts together what is removed, what is left, and what a second scan finds.
-/

namespace Upkeep.ConstructorConst

open Text
open ConstSpan (keyword)

variable {names given : List Text} {before? : Option Char}
  {t u v w z blanks name gap rest blanks' name' gap' rest' : Text} {c d : Char} {x : Cut}

/-! ## Names and blanks -/

theorem not_isWordChar_of_isBlank (h : isBlank c = true) : isWordChar c = false := by
  have hname : (isAlphanumeric c = false ∧ (c == '_') = false) ∧ (c == '$') = false := by
    simpa only [ConstSpan.isNameChar, Bool.or_eq_false_iff] using ConstSpan.not_isNameChar_of_isBlank h
  obtain ⟨⟨halnum, hline⟩, -⟩ := hname
  -- letters are settled by that, so the blanks are only looked for in the other tables
  have hall : ∀ n ∈ ConstSpan.blankPoints, (inRanges mark (Char.ofNat n) || inRanges decimalDigit (Char.ofNat n) ||
      inRanges connector (Char.ofNat n)) = false := by
    simp only [inRanges, ← Array.any_toList]
    decide +kernel
  have hothers := hall c.toNat (ConstSpan.toNat_mem_blankPoints h)
  rw [Char.ofNat_toNat] at hothers
  unfold isAlphanumeric at halnum
  unfold isWordChar
  split at halnum
  · next hlt => rw [if_pos hlt, halnum, hline, Bool.false_or]
  · next hlt =>
    rw [if_neg hlt, (Bool.or_eq_false_iff.mp halnum).1, Bool.false_or, hothers, Bool.and_false]

theorem any_head?_blanks_append (h : ∀ c ∈ u, isBlank c = true) (ht : u = [] → t.head?.any isNamePart = false) :
    (u ++ t).head?.any isNamePart = false := by
  cases u with
  | nil => exact ht rfl
  | cons c u => exact not_isNamePart_of_isBlank (h c List.mem_cons_self)

theorem name_eq_of_append_eq (hv : ∀ c ∈ v, isNamePart c = true) (hgap : ∀ c ∈ gap, isBlank c = true)
    (hw : ∀ c ∈ w, isNamePart c = true) (hgap' : ∀ c ∈ gap', isBlank c = true)
    (h : v ++ (gap ++ '(' :: rest) = w ++ (gap' ++ '(' :: rest')) : v = w := by
  have hrest : (gap ++ '(' :: rest).head?.any isNamePart = false := any_head?_blanks_append hgap fun _ => rfl
  have hrest' : (gap' ++ '(' :: rest').head?.any isNamePart = false := any_head?_blanks_append hgap' fun _ => rfl
  exact (append_inj_of_all hv hrest hw hrest' h).1

theorem append_ne_append_blanks (hv : ∀ c ∈ v, isNamePart c = true) (hgap : ∀ c ∈ gap, isBlank c = true)
    (hw : ∀ c ∈ w, isNamePart c = true) (hblanks : ∀ c ∈ blanks, isBlank c = true) (hne : blanks ≠ [])
    (hname : ∀ c ∈ name, isNamePart c = true) (hname' : name ≠ []) :
    v ++ (gap ++ '(' :: rest) ≠ w ++ (blanks ++ (name ++ u)) := by
  intro h
  obtain ⟨-, hbehind⟩ := append_inj_of_all hv (any_head?_blanks_append hgap fun _ => rfl) hw
    (any_head?_blanks_append hblanks fun h => absurd h hne) h
  obtain ⟨-, hrest⟩ := append_inj_of_all hgap (any_head?_paren rest) hblanks (any_head?_append hname hname' u) hbehind
  obtain ⟨c, name, rfl⟩ := List.exists_cons_of_ne_nil hname'
  obtain ⟨rfl, -⟩ := List.cons.inj hrest
  exact absurd (hname '(' List.mem_cons_self) (by decide)

theorem exists_name_cut {v₁ v₂ : Text} (hblanks : ∀ c ∈ blanks, isBlank c = true) (hgap : ∀ c ∈ gap, isBlank c = true)
    (hpart : isNamePart d = true) (hword : (v₁.getLast?.or (some 'c')).any isWordChar = false)
    (hcut : "onst".toList ++ (blanks ++ (name ++ (gap ++ ['(']))) = v₁ ++ d :: v₂) :
    ∃ beginning ending, name = beginning ++ ending ∧ v₁ = "onst".toList ++ (blanks ++ beginning) ∧
      d :: v₂ = ending ++ (gap ++ ['(']) := by
  rcases List.append_eq_append_iff.mp hcut with ⟨a, ha, hrest⟩ | ⟨a, ha, -⟩
  · rcases List.append_eq_append_iff.mp hrest with ⟨beginning, rfl, hname⟩ | ⟨e, hb, hv₂⟩
    · rcases List.append_eq_append_iff.mp hname with ⟨g, -, hg⟩ | ⟨ending, hsplit, hv₂⟩
      · -- behind the name are blanks and a parenthesis
        have hmem : d ∈ gap ++ ['('] := hg ▸ List.mem_append_right g List.mem_cons_self
        rcases List.mem_append.mp hmem with hd | hd
        · rw [not_isNamePart_of_isBlank (hgap d hd)] at hpart
          cases hpart
        · obtain rfl := List.mem_singleton.mp hd
          exact absurd hpart (by decide)
      · exact ⟨beginning, ending, hsplit, ha, hv₂⟩
    · cases e with
      | nil => exact ⟨[], name, rfl, by rw [ha, hb, List.append_nil, List.append_nil], hv₂⟩
      | cons d' e =>
        obtain ⟨rfl, -⟩ := List.cons.inj hv₂
        rw [not_isNamePart_of_isBlank (hblanks d (hb ▸ List.mem_append_right a List.mem_cons_self))] at hpart
        cases hpart
  · -- in the keyword itself a word is going on
    have hkeyword : ∀ c ∈ "onst".toList, isWordChar c = true := List.all_eq_true.mp (by decide)
    have hinside : (v₁.getLast?.or (some 'c')).any isWordChar = true := by
      cases hlast : v₁.getLast? with
      | none => decide
      | some c => exact hkeyword c (ha ▸ List.mem_append_left a (List.mem_of_getLast? hlast))
    rw [hword] at hinside
    cases hinside

theorem isNamePart_keyword : ∀ c ∈ keyword, isNamePart c = true := List.all_eq_true.mp (by decide)

theorem Calls.of_before (h : Calls names before? t blanks name gap rest) {other? : Option Char}
    (hother : other?.any isWordChar = false) : Calls names other? t blanks name gap rest :=
  { h with not_in_word := hother }

theorem any_getLast?_of_blanks (h : ∀ c ∈ blanks, isBlank c = true) : blanks.getLast?.any isWordChar = false := by
  cases hlast : blanks.getLast? with
  | none => rfl
  | some c => exact not_isWordChar_of_isBlank (h c (List.mem_of_getLast? hlast))

theorem any_getLast?_or {other? : Option Char} (h : (t.getLast?.or before?).any isWordChar = false)
    (hother : other?.any isWordChar = false) : (t.getLast?.or other?).any isWordChar = false := by
  cases hlast : t.getLast? with
  | none => exact hother
  | some c => rwa [hlast] at h

/-! ## What stays -/

section Stays

variable (hnames : ∀ name ∈ names, isName name = true)

include hnames

theorem removable_name (hv : ∀ c ∈ v, isNamePart c = true) (hgap : ∀ c ∈ gap, isBlank c = true)
    (before? : Option Char) (rest : Text) :
    removable names before? (v ++ (gap ++ '(' :: rest)) = 0 := by
  rw [removable_eq_zero_iff hnames]
  rintro ⟨blanks, name, gap', rest', h⟩
  exact append_ne_append_blanks hv hgap isNamePart_keyword h.isBlank h.ne_nil (isNamePart_of_mem (hnames name h.mem))
    (ne_nil_of_isName (hnames name h.mem)) h.text_eq

theorem removable_inside (hv : ∀ c ∈ v, isNamePart c = true) (hne : v ≠ [])
    (hblanks : ∀ c ∈ blanks, isBlank c = true) (hne' : blanks ≠ []) (before? : Option Char) (u : Text) :
    removable names before? (v ++ (keyword ++ (blanks ++ u))) = 0 := by
  rw [removable_eq_zero_iff hnames]
  rintro ⟨blanks', name, gap, rest, h⟩
  have hall : ∀ c ∈ v ++ keyword, isNamePart c = true :=
    fun c hc => (List.mem_append.mp hc).elim (hv c) (isNamePart_keyword c)
  have htext : (v ++ keyword) ++ (blanks ++ u) = keyword ++ (blanks' ++ (name ++ (gap ++ '(' :: rest))) := by
    rw [← h.text_eq, List.append_assoc]
  have hkeyword := (append_inj_of_all hall (any_head?_blanks_append hblanks fun h => absurd h hne') isNamePart_keyword
    (any_head?_blanks_append h.isBlank fun h' => absurd h' h.ne_nil) htext).1
  exact hne (List.append_left_eq_self.mp hkeyword)

theorem stripped_call (hv : ∀ c ∈ v, isNamePart c = true) (hgap : ∀ c ∈ gap, isBlank c = true)
    (before? : Option Char) (rest : Text) :
    stripped names before? (v ++ (gap ++ '(' :: rest)) = v ++ (gap ++ '(' :: stripped names (some '(') rest) := by
  have hname : ∀ s s', v = s ++ s' → s' ≠ [] → ∀ before?,
      removable names before? (s' ++ (gap ++ '(' :: rest)) = 0 := by
    rintro s s' rfl - before?
    exact removable_name hnames (fun c hc => hv c (List.mem_append_right s hc)) hgap before? rest
  have hmem : 'c' ∉ gap ++ ['('] := by
    rw [List.mem_append]
    rintro (hc | hc)
    · exact ne_of_isBlank (hgap 'c' hc) rfl
    · exact absurd hc (by decide)
  have hparen : gap ++ '(' :: rest = (gap ++ ['(']) ++ rest := by rw [List.append_assoc, List.singleton_append]
  rw [stripped_append hname, hparen, stripped_append_of_not_mem hmem, List.getLast?_concat, Option.some_or,
    List.append_assoc, List.singleton_append]

end Stays

/-! ## Along the scan -/

section Scan

variable (hnames : ∀ name ∈ names, isName name = true)

include hnames

/-- A scan keeps a character, or goes on behind what it removes. -/
theorem scan_induction {motive : Option Char → Text → Prop}
    (nil : ∀ before?, motive before? [])
    (keep : ∀ before? c t, removable names before? (c :: t) = 0 → motive (some c) t → motive before? (c :: t))
    (drop : ∀ before? t blanks name gap rest, Calls names before? t blanks name gap rest →
      motive blanks.getLast? (name ++ (gap ++ '(' :: rest)) → motive before? t)
    (before? : Option Char) (t : Text) : motive before? t := by
  induction hlength : t.length using Nat.strongRecOn generalizing before? t with
  | ind n ih =>
    subst hlength
    cases t with
    | nil => exact nil before?
    | cons c t =>
      rcases removable_eq_zero_or hnames before? (c :: t) with hzero | ⟨blanks, name, gap, rest, hcalls⟩
      · exact keep before? c t hzero (ih t.length (Nat.lt_succ_self _) (some c) t rfl)
      · refine drop before? (c :: t) blanks name gap rest hcalls (ih _ ?_ blanks.getLast? _ rfl)
        have htext := congrArg List.length hcalls.text_eq
        have hpos : 0 < keyword.length := by decide
        simp only [List.length_append] at htext ⊢
        omega

/-- What is left from some character on is left of a part of the text that starts with it. -/
theorem exists_of_stripped_eq (h : stripped names before? t = w ++ d :: z) : ∃ front rest, t = front ++ d :: rest ∧
      removable names (front.getLast?.or before?) (d :: rest) = 0 ∧ stripped names (some d) rest = z ∧
      ((w.getLast?.or before?).any isWordChar = false → (front.getLast?.or before?).any isWordChar = false) := by
  induction before?, t using scan_induction hnames generalizing w with
  | nil before? => simp [stripped_nil] at h
  | keep before? c t hzero ih =>
    rw [stripped_cons hzero] at h
    cases w with
    | nil =>
      obtain ⟨rfl, hz⟩ := List.cons.inj h
      exact ⟨[], t, rfl, hzero, hz, id⟩
    | cons e w =>
      obtain ⟨rfl, htail⟩ := List.cons.inj h
      obtain ⟨front, rest, rfl, hremovable, hrest, hword⟩ := ih htail
      rw [← getLast?_cons_or c front before?] at hremovable hword
      rw [← getLast?_cons_or c w before?] at hword
      exact ⟨c :: front, rest, rfl, hremovable, hrest, hword⟩
  | drop before? t blanks name gap rest hcalls ih =>
    rw [hcalls.stripped_eq hnames] at h
    obtain ⟨front, rest', htext, hremovable, hrest, hword⟩ := ih h
    have hlast := getLast?_keyword_or hcalls.ne_nil front before?
    refine ⟨keyword ++ (blanks ++ front), rest', ?_, hlast ▸ hremovable, hrest, ?_⟩
    · rw [hcalls.text_eq, htext, List.append_assoc, List.append_assoc]
    · rw [hlast]
      exact fun hw => hword (any_getLast?_or hw (any_getLast?_of_blanks hcalls.isBlank))

/-- What is left starts like the text, or up to the first removed stretch and then like the call behind it. -/
theorem stripped_eq_append (h : stripped names before? t = v ++ z) :
    (∃ t', t = v ++ t') ∨ ∃ v₁ v₂ here blanks name gap rest, v = v₁ ++ v₂ ∧ v₂ ≠ [] ∧ t = v₁ ++ here ∧
      Calls names (v₁.getLast?.or before?) here blanks name gap rest ∧
      stripped names blanks.getLast? (name ++ (gap ++ '(' :: rest)) = v₂ ++ z := by
  induction v generalizing before? t with
  | nil => exact .inl ⟨t, rfl⟩
  | cons e v ih =>
    cases t with
    | nil => cases h
    | cons c t =>
      rcases removable_eq_zero_or hnames before? (c :: t) with hzero | ⟨blanks, name, gap, rest, hcalls⟩
      · rw [stripped_cons hzero] at h
        obtain ⟨rfl, htail⟩ := List.cons.inj h
        rcases ih htail with ⟨t', rfl⟩ | ⟨v₁, v₂, here, blanks, name, gap, rest, rfl, hne, rfl, hcalls, hbehind⟩
        · exact .inl ⟨t', rfl⟩
        · rw [← getLast?_cons_or c v₁ before?] at hcalls
          exact .inr ⟨c :: v₁, v₂, here, blanks, name, gap, rest, rfl, hne, rfl, hcalls, hbehind⟩
      · rw [hcalls.stripped_eq hnames] at h
        exact .inr ⟨[], e :: v, c :: t, blanks, name, gap, rest, rfl, List.cons_ne_nil e v, rfl, hcalls, h⟩

end Scan

/-! ## What a second scan finds -/

/-- A keyword that no word runs into, blanks, perhaps the beginning of a name, and a keyword before a call, where the
beginning and the name of the call are a chosen name too. -/
def Uncovers (names : List Text) (t : Text) : Prop :=
  ∃ front blanks beginning here blanks' name gap rest,
    t = front ++ (keyword ++ (blanks ++ (beginning ++ here))) ∧ front.getLast?.any isWordChar = false ∧
      blanks ≠ [] ∧ (∀ c ∈ blanks, isBlank c = true) ∧
      Calls names beginning.getLast? here blanks' name gap rest ∧ beginning ++ name ∈ names

theorem uncovers_of_calls_stripped (hnames : ∀ name ∈ names, isName name = true) {here : Text}
    (h : stripped names none t = w ++ here) (hcalls : Calls names w.getLast? here blanks name gap rest) :
    Uncovers names t := by
  have hname := isNamePart_of_mem (hnames name hcalls.mem)
  have hhere : here = 'c' :: (("onst".toList ++ (blanks ++ (name ++ (gap ++ ['('])))) ++ rest) := by
    rw [hcalls.text_eq]
    simp [keyword]
  rw [hhere] at h
  obtain ⟨front, t', rfl, hzero, hstripped, hword⟩ := exists_of_stripped_eq hnames h
  simp only [Option.or_none] at hzero hword
  have hfront := hword hcalls.not_in_word
  rcases stripped_eq_append hnames hstripped with
    ⟨t'', rfl⟩ | ⟨v₁, v₂, here', blanks', name', gap', rest', hcut, hne, rfl, hcalls', hbehind⟩
  · -- nothing is removed in the keyword and the call, so that they would have been found
    refine absurd ⟨blanks, name, gap, t'', { hcalls with text_eq := ?_, not_in_word := hfront }⟩
      ((removable_eq_zero_iff hnames).mp hzero)
    simp [keyword]
  · -- what is left behind the removed stretch starts with the name of a call
    have hname' := isNamePart_of_mem (hnames name' hcalls'.mem)
    rw [stripped_call hnames hname' hcalls'.gap_isBlank] at hbehind
    obtain ⟨d, v₂, rfl⟩ := List.exists_cons_of_ne_nil hne
    have hpart : isNamePart d = true := by
      obtain ⟨d', name'', hcons⟩ := List.exists_cons_of_ne_nil (ne_nil_of_isName (hnames name' hcalls'.mem))
      rw [hcons] at hbehind hname'
      obtain ⟨rfl, -⟩ := List.cons.inj hbehind
      exact hname' d' List.mem_cons_self
    obtain ⟨beginning, ending, hsplit, rfl, hv₂⟩ :=
      exists_name_cut hcalls.isBlank hcalls.gap_isBlank hpart hcalls'.not_in_word hcut
    have hending : ∀ c ∈ ending, isNamePart c = true := by
      rw [hsplit] at hname
      exact fun c hc => hname c (List.mem_append_right beginning hc)
    have hparen : name' ++ (gap' ++ '(' :: stripped names (some '(') rest') = ending ++ (gap ++ '(' :: rest) := by
      rw [hbehind, hv₂]
      simp
    have hsame : name' = ending :=
      name_eq_of_append_eq hname' hcalls'.gap_isBlank hending hcalls.gap_isBlank hparen
    have hlast := hcalls'.not_in_word
    rw [← List.append_assoc, List.getLast?_append, Option.or_assoc] at hlast
    refine ⟨front, blanks, beginning, here', blanks', name', gap', rest', ?_, hfront, hcalls.ne_nil, hcalls.isBlank,
      hcalls'.of_before ?_, ?_⟩
    · simp [keyword]
    · rw [← Option.or_none (o := beginning.getLast?)]
      exact any_getLast?_or hlast rfl
    · rw [hsame, ← hsplit]
      exact hcalls.mem

section Uncovering

variable {beginning here : Text} (hnames : ∀ name ∈ names, isName name = true)
  (hblanks : ∀ c ∈ blanks, isBlank c = true) (hcalls : Calls names beginning.getLast? here blanks' name gap rest)
  (hmem : beginning ++ name ∈ names)

include hnames hblanks hcalls hmem

theorem removable_uncovering (before? : Option Char) :
    removable names before? (keyword ++ (blanks ++ (beginning ++ here))) = 0 := by
  have hwhole : ∀ c ∈ beginning ++ keyword, isNamePart c = true := by
    have hname := isNamePart_of_mem (hnames _ hmem)
    exact fun c hc => (List.mem_append.mp hc).elim (fun h => hname c (List.mem_append_left name h))
      (isNamePart_keyword c)
  have hkeyword : beginning ++ keyword ≠ [] := List.append_ne_nil_of_right_ne_nil beginning (by decide)
  have hhere : beginning ++ here = (beginning ++ keyword) ++ (blanks' ++ (name ++ (gap ++ '(' :: rest))) := by
    rw [hcalls.text_eq, List.append_assoc]
  rw [removable_eq_zero_iff hnames]
  rintro ⟨blanks'', name', gap', rest', h⟩
  have htext := List.append_cancel_left h.text_eq
  have hname' := hnames name' h.mem
  rw [hhere] at htext
  obtain ⟨-, hbehind⟩ := append_inj_of_all hblanks (any_head?_append hwhole hkeyword _) h.isBlank
    (any_head?_append (isNamePart_of_mem hname') (ne_nil_of_isName hname') _) htext
  exact append_ne_append_blanks (isNamePart_of_mem hname') h.gap_isBlank hwhole hcalls.isBlank hcalls.ne_nil
    (isNamePart_of_mem (hnames name hcalls.mem)) (ne_nil_of_isName (hnames name hcalls.mem)) hbehind.symm

theorem stripped_uncovering (hne : blanks ≠ []) (before? : Option Char) :
    stripped names before? (keyword ++ (blanks ++ (beginning ++ here))) =
      keyword ++ (blanks ++ ((beginning ++ name) ++ (gap ++ '(' :: stripped names (some '(') rest))) := by
  have hzero := removable_uncovering hnames hblanks hcalls hmem before?
  have htail : keyword ++ (blanks ++ (beginning ++ here)) =
      'c' :: ((keyword ++ blanks).tail ++ (beginning ++ here)) := rfl
  have hinside : ∀ s s', beginning = s ++ s' → s' ≠ [] → ∀ before?, removable names before? (s' ++ here) = 0 := by
    rintro s s' rfl hne' before?
    have hpart : ∀ c ∈ s', isNamePart c = true := by
      have hname := isNamePart_of_mem (hnames _ hmem)
      exact fun c hc => hname c (List.mem_append_left name (List.mem_append_right s hc))
    rw [hcalls.text_eq]
    exact removable_inside hnames hpart hne' hcalls.isBlank hcalls.ne_nil before? _
  have hlast : (beginning.getLast?.or none).any isWordChar = false := by
    rw [Option.or_none]
    exact hcalls.not_in_word
  have hbefore : (beginning.getLast?.or blanks.getLast?).any isWordChar = false :=
    any_getLast?_or hlast (any_getLast?_of_blanks hblanks)
  have hname := isNamePart_of_mem (hnames name hcalls.mem)
  rw [htail] at hzero ⊢
  rw [stripped_cons hzero, stripped_append_of_not_mem (ConstSpan.not_mem_tail hblanks), getLast?_tail_or hne,
    stripped_append hinside, (hcalls.of_before hbefore).stripped_eq hnames,
    stripped_call hnames hname hcalls.gap_isBlank, List.append_assoc beginning]
  rfl

/-- A keyword that stays is left, and with it what comes to stand behind it. -/
theorem exists_stripped_eq (hne : blanks ≠ []) {front : Text}
    (hfront : (front.getLast?.or before?).any isWordChar = false) :
    ∃ w z, stripped names before? (front ++ (keyword ++ (blanks ++ (beginning ++ here)))) =
      w ++ (keyword ++ (blanks ++ ((beginning ++ name) ++ (gap ++ '(' :: z)))) ∧
        (w.getLast?.or before?).any isWordChar = false := by
  generalize htext : front ++ (keyword ++ (blanks ++ (beginning ++ here))) = t
  induction before?, t using scan_induction hnames generalizing front with
  | nil before? => simp [keyword] at htext
  | keep before? c t hzero ih =>
    cases front with
    | nil =>
      rw [← htext, List.nil_append, stripped_uncovering hnames hblanks hcalls hmem hne before?]
      exact ⟨[], _, rfl, hfront⟩
    | cons d front =>
      obtain ⟨rfl, hrest⟩ := List.cons.inj htext
      rw [getLast?_cons_or] at hfront
      obtain ⟨w, z, hleft, hw⟩ := ih hfront hrest
      rw [← getLast?_cons_or d w before?] at hw
      exact ⟨d :: w, z, by rw [stripped_cons hzero, hleft, List.cons_append], hw⟩
  | drop before? t blanks'' name' gap' rest' h ih =>
    cases front with
    | nil =>
      have hzero := removable_uncovering hnames hblanks hcalls hmem before?
      rw [← List.nil_append (keyword ++ _), htext] at hzero
      exact absurd ⟨blanks'', name', gap', rest', h⟩ ((removable_eq_zero_iff hnames).mp hzero)
    | cons d front =>
      rw [← htext] at h ⊢
      obtain ⟨front', hd, hrest⟩ := h.exists_front_eq (List.cons_ne_nil d front)
      rw [hd, getLast?_keyword_or h.ne_nil] at hfront
      obtain ⟨w, z, hleft, hw⟩ := ih hfront hrest.symm
      rw [h.stripped_eq hnames]
      exact ⟨w, z, hleft, any_getLast?_or hw h.not_in_word⟩

end Uncovering

/-! ## The two scans -/

/-- The keyword before a call somewhere in a text, and the blanks behind it. -/
def IsMisuse (names : List Text) (t : Text) (x : Cut) : Prop :=
  ∃ front here blanks name gap rest, t = front ++ here ∧ Calls names front.getLast? here blanks name gap rest ∧
    x = ⟨front.length, front.length + (keyword ++ blanks).length⟩

theorem mem_misuses_iff (hnames : ∀ name ∈ names, isName name = true) :
    x ∈ misuses names t ↔ IsMisuse names t x := by
  rw [misuses, mem_misusesFrom_iff hnames, IsMisuseFrom, IsMisuse]
  simp only [Nat.zero_add, Option.or_none]

theorem applied_fix_eq_zero_iff (hnames : ∀ name ∈ names, isName name = true) (t : Text) :
    (fix names t).applied = 0 ↔ ¬ ∃ x, IsMisuse names t x := by
  rw [fix_eq hnames, List.length_eq_zero_iff, List.eq_nil_iff_forall_not_mem, not_exists]
  exact forall_congr' fun x => not_congr (mem_misuses_iff hnames)

theorem text_fix (names : List Text) (t : Text) : (fix names t).text = stripped names none t := rfl

theorem applied_fix_fix_eq_zero_iff (hnames : ∀ name ∈ names, isName name = true) (t : Text) :
    (fix names (fix names t).text).applied = 0 ↔ ¬ Uncovers names t := by
  rw [applied_fix_eq_zero_iff hnames, text_fix]
  refine not_congr ⟨?_, ?_⟩
  · rintro ⟨x, w, here, blanks, name, gap, rest, hleft, hcalls, -⟩
    exact uncovers_of_calls_stripped hnames hleft hcalls
  · rintro ⟨front, blanks, beginning, here, blanks', name, gap, rest, rfl, hfront, hne, hblanks, hcalls, hmem⟩
    rw [← Option.or_none (o := front.getLast?)] at hfront
    obtain ⟨w, z, hleft, hw⟩ := exists_stripped_eq hnames hblanks hcalls hmem hne hfront
    rw [Option.or_none] at hw
    exact ⟨_, w, _, blanks, beginning ++ name, gap, z, hleft, ⟨rfl, hw, hne, hblanks, hmem, hcalls.gap_isBlank⟩, rfl⟩

def KeywordsInARow (t : Text) : Prop :=
  ∃ front blanks rest, t = front ++ (keyword ++ (blanks ++ (keyword ++ rest))) ∧ blanks ≠ [] ∧
    ∀ c ∈ blanks, isBlank c = true

/-- The keyword, blanks and the keyword again at the start of a text. -/
def startsInARow (t : Text) : Bool :=
  match after? keyword t with
  | some behind => !(leadingBlanks behind).isEmpty && startsWith keyword (trimStart behind)
  | none => false

theorem keywordsInARow_iff : KeywordsInARow t ↔ t.tails.any startsInARow = true := by
  rw [List.any_eq_true]
  constructor
  · rintro ⟨front, blanks, rest, rfl, hne, hblanks⟩
    refine ⟨_, (List.mem_tails _ _).mpr ⟨front, rfl⟩, ?_⟩
    have hhead : (keyword ++ rest).head?.any isBlank = false := any_head?_append isNamePart_keyword (by decide) rest
    rw [startsInARow, after?_append]
    dsimp only
    rw [leadingBlanks_append hblanks hhead, trimStart_append_of_blanks hblanks hhead,
      List.isEmpty_eq_false_iff.mpr hne, startsWith_iff.mpr ⟨rest, rfl⟩]
    rfl
  · rintro ⟨here, hhere, hrow⟩
    obtain ⟨front, rfl⟩ := (List.mem_tails _ _).mp hhere
    rw [startsInARow] at hrow
    split at hrow
    · next behind hbehind =>
      simp only [Bool.and_eq_true, Bool.not_eq_true', List.isEmpty_eq_false_iff] at hrow
      obtain ⟨rest, hrest⟩ := startsWith_iff.mp hrow.2
      refine ⟨front, leadingBlanks behind, rest, ?_, hrow.1, List.all_eq_true.mp List.all_takeWhile⟩
      rw [← hrest, leadingBlanks_append_trimStart, ← after?_eq_some_iff.mp hbehind]
    · cases hrow

instance : Decidable (KeywordsInARow t) := decidable_of_iff _ keywordsInARow_iff.symm

theorem keywordsInARow_or_of_uncovers (hnames : ∀ name ∈ names, isName name = true) (h : Uncovers names t) :
    KeywordsInARow t ∨ ∃ name ∈ names, ∃ beginning, beginning ++ '.' :: name ∈ names := by
  obtain ⟨front, blanks, beginning, here, blanks', name, gap, rest, rfl, -, hne, hblanks, hcalls, hmem⟩ := h
  rcases List.eq_nil_or_concat beginning with rfl | ⟨beginning, c, rfl⟩
  · refine .inl ⟨front, blanks, blanks' ++ (name ++ (gap ++ '(' :: rest)), ?_, hne, hblanks⟩
    rw [List.nil_append, hcalls.text_eq]
  · have hpart : isNamePart c = true := isNamePart_of_mem (hnames _ hmem) c (by simp)
    have hword : isWordChar c = false := by
      have := hcalls.not_in_word
      rwa [List.concat_eq_append, List.getLast?_concat, Option.any_some] at this
    have hdot : c = '.' := by
      simp only [isNamePart, Bool.or_eq_true, beq_iff_eq] at hpart
      rcases hpart with (halnum | rfl) | rfl
      · have hascii : c.toNat < 128 := by
          have := toNat_of_isAlphanum halnum
          omega
        rw [isWordChar, if_pos hascii, halnum, Bool.true_or] at hword
        cases hword
      · exact absurd hword (by decide)
      · rfl
    rw [hdot, List.concat_eq_append, List.append_assoc, List.singleton_append] at hmem
    exact .inr ⟨name, hcalls.mem, beginning, hmem⟩

/-- What goes are the keywords before calls of the chosen constructors, each with the blanks behind it, and they are
counted. A second scan finds something where the first one has uncovered it, and nowhere else. -/
theorem misused_consts_stripped (h : names? given = .ok names) (t : Text) :
    names = given.map trim ∧
      (∃ cuts : List Cut, cuts.Pairwise (fun x y => x.stop ≤ y.start) ∧ (∀ x, x ∈ cuts ↔ IsMisuse names t x) ∧
        (fix names t).text = cutOut cuts t ∧ (fix names t).applied = cuts.length) ∧
      ((fix names (fix names t).text).applied = 0 ↔ ¬ Uncovers names t) ∧
      (Uncovers names t → KeywordsInARow t ∨ ∃ name ∈ names, ∃ beginning, beginning ++ '.' :: name ∈ names) := by
  obtain ⟨htrim, hnames⟩ := names?_eq_ok h
  have hfix := fix_eq hnames t
  refine ⟨htrim, ⟨misuses names t, pairwise_misusesFrom hnames, fun x => mem_misuses_iff hnames, ?_, ?_⟩,
    applied_fix_fix_eq_zero_iff hnames t, keywordsInARow_or_of_uncovers hnames⟩
  · rw [hfix]
  · rw [hfix]

theorem misused_consts_stripped_nested :
    let names := ["Text".toList, "Text.rich".toList, "Icon".toList]
    let t := "const Text(xconst Icon(), const TextStyle(), const\n  Text.rich (const const Icon()))".toList
    names? [" Text ".toList, "Text.rich".toList, "Icon".toList] = .ok names ∧
      (fix names t).text = "Text(xconst Icon(), const TextStyle(), Text.rich (const Icon()))".toList ∧
      (∃ cuts : List Cut, cuts.Pairwise (fun x y => x.stop ≤ y.start) ∧ (∀ x, x ∈ cuts ↔ IsMisuse names t x) ∧
        (fix names t).text = cutOut cuts t ∧ (fix names t).applied = cuts.length) ∧
      ((fix names (fix names t).text).applied = 0 ↔ ¬ Uncovers names t) ∧ KeywordsInARow t := by
  intro names t
  have h : names? [" Text ".toList, "Text.rich".toList, "Icon".toList] = .ok names := by decide
  obtain ⟨-, hcuts, hagain, -⟩ := misused_consts_stripped h t
  exact ⟨h, by decide, hcuts, hagain, by decide⟩

/-- A dotted name and its last part: the first scan makes a call of the one from what stands before a call of the
other. -/
theorem second_scan_finds_dotted_name :
    let names := ["Text".toList, "A.Text".toList]
    let t := "const A.const Text(x);".toList
    names? names = .ok names ∧ ¬ KeywordsInARow t ∧ (fix names (fix names t).text).applied ≠ 0 := by
  decide

end Upkeep.ConstructorConst
