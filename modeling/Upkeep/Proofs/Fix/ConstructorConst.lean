import Upkeep.Fix.ConstructorConst
import Upkeep.Proofs.Source.ConstSpan
import Upkeep.Proofs.Text.Trimming

/-!
# Keywords before chosen constructors

The scan takes out just the keywords that stand before a call of a chosen constructor, each with the blanks behind it.

* `Calls names before? t blanks name gap rest`: the keyword, blanks and a call of a constructor, behind the character
  `before?`. `removable_eq_iff` says that nothing else is removable.
* `misuses`: the places of a text at which that is so. They do not overlap, since the first letter of the keyword stands
  at the start of each only (`start_le_of_mem`), so that a scan which skips what it removes loses none of them
  (`strip_eq`).
* `stripped`: what is left, character by character.
-/

namespace Upkeep.ConstructorConst

open Text
open ConstSpan (keyword)

variable {names given : List Text} {before? : Option Char} {t u blanks name gap rest v : Text} {c d : Char}
  {x y : Cut} {n pos : Nat}

theorem getLast?_keyword_or (h : blanks ≠ []) (t : Text) (before? : Option Char) :
    (keyword ++ (blanks ++ t)).getLast?.or before? = t.getLast?.or blanks.getLast? := by
  obtain ⟨last, hlast⟩ : ∃ last, blanks.getLast? = some last :=
    Option.ne_none_iff_exists'.mp fun hnone => h (List.getLast?_eq_none_iff.mp hnone)
  rw [List.getLast?_append, List.getLast?_append, hlast]
  cases t.getLast? <;> rfl

/-! ## Names -/

def isNamePart (c : Char) : Bool := c.isAlphanum || c == '_' || c == '.'

theorem toNat_of_isAlphanum (h : c.isAlphanum = true) :
    48 ≤ c.toNat ∧ c.toNat ≤ 57 ∨ 65 ≤ c.toNat ∧ c.toNat ≤ 90 ∨ 97 ≤ c.toNat ∧ c.toNat ≤ 122 := by
  have hranges : (decide ('A'.val ≤ c.val ∧ c.val ≤ 'Z'.val) ||
      (decide ('a'.val ≤ c.val) && decide (c.val ≤ 'z'.val)) ||
      (decide ('0'.val ≤ c.val) && decide (c.val ≤ '9'.val))) = true := h
  simp only [Bool.or_eq_true, Bool.and_eq_true, decide_eq_true_eq] at hranges
  rcases hranges with (⟨hle, hge⟩ | ⟨hle, hge⟩) | ⟨hle, hge⟩
  · exact .inr (.inl ⟨UInt32.le_iff_toNat_le.mp hle, UInt32.le_iff_toNat_le.mp hge⟩)
  · exact .inr (.inr ⟨UInt32.le_iff_toNat_le.mp hle, UInt32.le_iff_toNat_le.mp hge⟩)
  · exact .inl ⟨UInt32.le_iff_toNat_le.mp hle, UInt32.le_iff_toNat_le.mp hge⟩

theorem not_isNamePart_of_isBlank (h : isBlank c = true) : isNamePart c = false := by
  rw [← Bool.not_eq_true]
  intro hpart
  simp only [isNamePart, Bool.or_eq_true, beq_iff_eq] at hpart
  simp only [isBlank, Bool.or_eq_true, Bool.and_eq_true, decide_eq_true_eq, beq_iff_eq] at h
  rcases hpart with (halnum | rfl) | rfl
  · have := toNat_of_isAlphanum halnum
    omega
  · revert h
    decide
  · revert h
    decide

theorem isNamePart_of_mem (h : isName name = true) : ∀ c ∈ name, isNamePart c = true := by
  cases name with
  | nil => simp
  | cons c rest =>
    rw [isName, Bool.and_eq_true, List.all_eq_true] at h
    refine List.forall_mem_cons.mpr ⟨?_, h.2⟩
    have hfirst := h.1
    simp only [isNamePart, Char.isAlphanum, Bool.or_eq_true] at hfirst ⊢
    rcases hfirst with halpha | hline
    · exact .inl (.inl (.inl halpha))
    · exact .inl (.inr hline)

theorem ne_nil_of_isName (h : isName name = true) : name ≠ [] := by
  rintro rfl
  cases h

theorem of_mapM_trim (h : (given.mapM fun t =>
      if isName (trim t) then Except.ok (trim t) else .error (NameError.notAName (trim t))) = .ok names) :
    names = given.map trim ∧ ∀ name ∈ names, isName name = true := by
  induction given generalizing names with
  | nil =>
    rw [List.mapM_nil] at h
    obtain rfl := Except.ok.inj h
    simp
  | cons t given ih =>
    rw [List.mapM_cons] at h
    by_cases hname : isName (trim t) = true
    · rw [if_pos hname] at h
      cases hrest : given.mapM fun t =>
          if isName (trim t) then Except.ok (trim t) else .error (NameError.notAName (trim t)) with
      | error e =>
        rw [hrest] at h
        cases h
      | ok rest =>
        rw [hrest] at h
        obtain rfl := Except.ok.inj h
        obtain ⟨hmap, hall⟩ := ih hrest
        exact ⟨by rw [hmap, List.map_cons], List.forall_mem_cons.mpr ⟨hname, hall⟩⟩
    · rw [if_neg hname] at h
      cases h

theorem names?_eq_ok (h : names? given = .ok names) :
    names = given.map trim ∧ ∀ name ∈ names, isName name = true := by
  rw [names?] at h
  split at h
  · cases h
  · exact of_mapM_trim h

/-! ## What is removed -/

/-- A keyword behind the character `before?` that stands before a call: behind it are blanks, a name, and an opening
parenthesis that may have blanks before it. -/
structure Calls (names : List Text) (before? : Option Char) (t blanks name gap rest : Text) : Prop where
  text_eq : t = keyword ++ (blanks ++ (name ++ (gap ++ '(' :: rest)))
  not_in_word : before?.any isWordChar = false
  ne_nil : blanks ≠ []
  isBlank : ∀ c ∈ blanks, isBlank c = true
  mem : name ∈ names
  gap_isBlank : ∀ c ∈ gap, Text.isBlank c = true

theorem any_head?_append (h : ∀ c ∈ u, isNamePart c = true) (hne : u ≠ []) (t : Text) :
    (u ++ t).head?.any isBlank = false := by
  obtain ⟨c, u, rfl⟩ := List.exists_cons_of_ne_nil hne
  have hc := h c List.mem_cons_self
  rw [List.cons_append, List.head?_cons, Option.any_some, ← Bool.not_eq_true]
  intro hblank
  rw [not_isNamePart_of_isBlank hblank] at hc
  cases hc

theorem any_head?_paren (rest : Text) : ('(' :: rest).head?.any isBlank = false := by
  rw [List.head?_cons, Option.any_some]
  decide

theorem startsCall_iff : startsCall names t = true ↔
    ∃ name ∈ names, ∃ gap rest, t = name ++ (gap ++ '(' :: rest) ∧ ∀ c ∈ gap, isBlank c = true := by
  rw [startsCall, List.any_eq_true]
  refine exists_congr fun name => and_congr_right fun _ => ?_
  constructor
  · intro h
    split at h
    · next behind hbehind =>
      obtain ⟨rest, hrest⟩ := startsWith_iff.mp h
      refine ⟨leadingBlanks behind, rest, ?_, List.all_eq_true.mp List.all_takeWhile⟩
      rw [after?_eq_some_iff.mp hbehind, ← List.singleton_append, ← hrest, leadingBlanks_append_trimStart]
    · cases h
  · rintro ⟨gap, rest, rfl, hgap⟩
    have hbehind : trimStart (gap ++ '(' :: rest) = ['('] ++ rest :=
      trimStart_append_of_blanks hgap (any_head?_paren rest)
    rw [after?_append]
    dsimp only
    rw [hbehind]
    exact startsWith_iff.mpr ⟨rest, rfl⟩

section Removable

variable (hnames : ∀ name ∈ names, isName name = true)

include hnames

/-- Nothing but a keyword before a call is removable, and of it the keyword and the blanks. -/
theorem removable_eq_iff : removable names before? t = n + 1 ↔
    ∃ blanks name gap rest, Calls names before? t blanks name gap rest ∧ n + 1 = (keyword ++ blanks).length := by
  rw [removable]
  constructor
  · intro h
    split at h
    · cases h
    · next behind hbehind =>
      dsimp only at h
      split at h
      · next hcall =>
        simp only [Bool.and_eq_true, Bool.not_eq_true', List.isEmpty_eq_false_iff] at hcall
        obtain ⟨⟨hword, hne⟩, hstarts⟩ := hcall
        obtain ⟨name, hname, gap, rest, hrest, hgap⟩ := startsCall_iff.mp hstarts
        refine ⟨leadingBlanks behind, name, gap, rest,
          ⟨?_, hword, hne, List.all_eq_true.mp List.all_takeWhile, hname, hgap⟩, ?_⟩
        · rw [← hrest, leadingBlanks_append_trimStart]
          exact after?_eq_some_iff.mp hbehind
        · rw [← h, List.length_append]
          rfl
      · cases h
  · rintro ⟨blanks, name, gap, rest, h, hn⟩
    have hhead : (name ++ (gap ++ '(' :: rest)).head?.any isBlank = false :=
      any_head?_append (isNamePart_of_mem (hnames name h.mem)) (ne_nil_of_isName (hnames name h.mem)) _
    have hcall : startsCall names (name ++ (gap ++ '(' :: rest)) = true :=
      startsCall_iff.mpr ⟨name, h.mem, gap, rest, rfl, h.gap_isBlank⟩
    have hbehind : after? "const".toList t = some (blanks ++ (name ++ (gap ++ '(' :: rest))) :=
      after?_eq_some_iff.mpr h.text_eq
    rw [hbehind]
    dsimp only
    rw [leadingBlanks_append h.isBlank hhead, trimStart_append_of_blanks h.isBlank hhead, hcall, h.not_in_word,
      List.isEmpty_eq_false_iff.mpr h.ne_nil, hn, List.length_append]
    rfl

theorem Calls.removable_eq (h : Calls names before? t blanks name gap rest) :
    removable names before? t = (keyword ++ blanks).length := by
  have hpos : (keyword ++ blanks).length = (keyword ++ blanks).length - 1 + 1 := rfl
  rw [(removable_eq_iff hnames).mpr ⟨blanks, name, gap, rest, h, hpos.symm⟩, ← hpos]

theorem removable_eq_zero_or (before? : Option Char) (t : Text) :
    removable names before? t = 0 ∨ ∃ blanks name gap rest, Calls names before? t blanks name gap rest := by
  cases hn : removable names before? t with
  | zero => exact .inl rfl
  | succ n =>
    obtain ⟨blanks, name, gap, rest, hcalls, -⟩ := (removable_eq_iff hnames).mp hn
    exact .inr ⟨blanks, name, gap, rest, hcalls⟩

theorem removable_eq_zero_iff : removable names before? t = 0 ↔
    ¬ ∃ blanks name gap rest, Calls names before? t blanks name gap rest := by
  refine ⟨?_, (removable_eq_zero_or hnames before? t).resolve_right⟩
  rintro h ⟨blanks, name, gap, rest, hcalls⟩
  rw [hcalls.removable_eq hnames] at h
  cases h

end Removable

/-! ## Places -/

/-- The keywords that stand before calls in a text which starts at position `pos` behind the character `before?`, each
with the blanks behind it. -/
def misusesFrom (names : List Text) (pos : Nat) (before? : Option Char) : Text → List Cut
  | [] => []
  | c :: t =>
    match removable names before? (c :: t) with
    | 0 => misusesFrom names (pos + 1) (some c) t
    | n + 1 => ⟨pos, pos + (n + 1)⟩ :: misusesFrom names (pos + 1) (some c) t

theorem misusesFrom_of_zero (h : removable names before? (c :: t) = 0) :
    misusesFrom names pos before? (c :: t) = misusesFrom names (pos + 1) (some c) t := by
  rw [misusesFrom, h]

theorem misusesFrom_of_succ (h : removable names before? (c :: t) = n + 1) :
    misusesFrom names pos before? (c :: t) = ⟨pos, pos + (n + 1)⟩ :: misusesFrom names (pos + 1) (some c) t := by
  rw [misusesFrom, h]

theorem strip_of_zero (h : removable names before? (c :: t) = 0) :
    strip names before? 0 (c :: t) = (c :: (strip names (some c) 0 t).1, (strip names (some c) 0 t).2) := by
  rw [strip, h]

theorem strip_of_succ (h : removable names before? (c :: t) = n + 1) :
    strip names before? 0 (c :: t) = ((strip names (some c) n t).1, (strip names (some c) n t).2 + 1) := by
  rw [strip, h]

/-- A keyword before a call and the blanks behind it, in such a text. -/
def IsMisuseFrom (names : List Text) (pos : Nat) (before? : Option Char) (t : Text) (x : Cut) : Prop :=
  ∃ front here blanks name gap rest, t = front ++ here ∧
    Calls names (front.getLast?.or before?) here blanks name gap rest ∧
    x = ⟨pos + front.length, pos + front.length + (keyword ++ blanks).length⟩

theorem isMisuseFrom_cons_iff : IsMisuseFrom names pos before? (c :: t) x ↔
    (∃ blanks name gap rest, Calls names before? (c :: t) blanks name gap rest ∧
      x = ⟨pos, pos + (keyword ++ blanks).length⟩) ∨ IsMisuseFrom names (pos + 1) (some c) t x := by
  have hpos : ∀ front : Text, pos + (c :: front).length = pos + 1 + front.length := by
    intro front
    rw [List.length_cons]
    omega
  constructor
  · rintro ⟨front, here, blanks, name, gap, rest, ht, hcalls, rfl⟩
    cases front with
    | nil =>
      rw [List.nil_append] at ht
      exact .inl ⟨blanks, name, gap, rest, ht ▸ hcalls, rfl⟩
    | cons d front =>
      obtain ⟨rfl, rfl⟩ := List.cons.inj ht
      rw [getLast?_cons_or] at hcalls
      rw [hpos]
      exact .inr ⟨front, here, blanks, name, gap, rest, rfl, hcalls, rfl⟩
  · rintro (⟨blanks, name, gap, rest, hcalls, rfl⟩ | ⟨front, here, blanks, name, gap, rest, rfl, hcalls, rfl⟩)
    · exact ⟨[], c :: t, blanks, name, gap, rest, rfl, hcalls, rfl⟩
    · rw [← getLast?_cons_or c front before?] at hcalls
      rw [← hpos]
      exact ⟨c :: front, here, blanks, name, gap, rest, rfl, hcalls, rfl⟩

theorem Calls.exists_front_eq {front : Text} (h : Calls names before? (front ++ 'c' :: u) blanks name gap rest)
    (hne : front ≠ []) : ∃ front', front = keyword ++ (blanks ++ front') ∧
      name ++ (gap ++ '(' :: rest) = front' ++ 'c' :: u := by
  have htext : front ++ 'c' :: u = (keyword ++ blanks) ++ (name ++ (gap ++ '(' :: rest)) := by
    rw [h.text_eq, List.append_assoc]
  rcases List.append_eq_append_iff.mp htext with ⟨inside, hkeyword, hu⟩ | ⟨front', hfront, hbehind⟩
  · cases inside with
    | nil => exact ⟨[], by simpa using hkeyword.symm, by simpa using hu.symm⟩
    | cons d inside =>
      obtain ⟨rfl, -⟩ := List.cons.inj hu
      obtain ⟨e, front, rfl⟩ := List.exists_cons_of_ne_nil hne
      have htail : (keyword ++ blanks).tail = front ++ 'c' :: inside := congrArg List.tail hkeyword
      refine absurd ?_ (ConstSpan.not_mem_tail h.isBlank)
      rw [htail]
      exact List.mem_append_right front List.mem_cons_self
  · exact ⟨front', by rw [hfront, List.append_assoc], hbehind⟩

theorem any_has_eq_false {cuts : List Cut} {j : Nat} (h : ∀ x ∈ cuts, j < x.start) :
    cuts.any (·.has j) = false := by
  rw [← Bool.not_eq_true, any_has_iff]
  rintro ⟨x, hx, hle, -⟩
  exact Nat.not_le.mpr (h x hx) hle

theorem without_cut {cuts : List Cut} (hn : n ≤ t.length) :
    without (fun j => (⟨pos, pos + n⟩ :: cuts).any (·.has j)) pos t =
      without (fun j => cuts.any (·.has j)) (pos + n) (t.drop n) := by
  have hlength : (t.take n).length = n := List.length_take_of_le hn
  conv => lhs; rw [← List.take_append_drop n t]
  rw [without_append, hlength, without_eq_nil, List.nil_append]
  · apply without_congr
    intro j hj _
    rw [List.any_cons, Cut.has, decide_eq_false (by dsimp only; omega), Bool.false_or]
  · intro j hj hlt
    rw [List.any_cons, Cut.has, decide_eq_true (by dsimp only; omega), Bool.true_or]

/-- The keywords before calls in a text. -/
def misuses (names : List Text) (t : Text) : List Cut := misusesFrom names 0 none t

section Places

variable (hnames : ∀ name ∈ names, isName name = true)

include hnames

theorem mem_misusesFrom_iff :
    x ∈ misusesFrom names pos before? t ↔ IsMisuseFrom names pos before? t x := by
  induction t generalizing pos before? with
  | nil =>
    refine iff_of_false (by simp [misusesFrom]) ?_
    rintro ⟨front, here, blanks, name, gap, rest, ht, hcalls, -⟩
    obtain ⟨-, rfl⟩ := List.append_eq_nil_iff.mp ht.symm
    cases hcalls.text_eq
  | cons c t ih =>
    rw [isMisuseFrom_cons_iff, ← ih]
    cases hn : removable names before? (c :: t) with
    | zero =>
      have hnone := (removable_eq_zero_iff hnames).mp hn
      rw [misusesFrom_of_zero hn]
      constructor
      · exact .inr
      · rintro (⟨blanks, name, gap, rest, hcalls, -⟩ | hx)
        · exact absurd ⟨blanks, name, gap, rest, hcalls⟩ hnone
        · exact hx
    | succ n =>
      rw [misusesFrom_of_succ hn, List.mem_cons]
      refine or_congr_left ⟨?_, ?_⟩
      · rintro rfl
        obtain ⟨blanks, name, gap, rest, hcalls, hlen⟩ := (removable_eq_iff hnames).mp hn
        exact ⟨blanks, name, gap, rest, hcalls, by rw [hlen]⟩
      · rintro ⟨blanks, name, gap, rest, hcalls, rfl⟩
        rw [← hn, hcalls.removable_eq hnames]

theorem start_le_of_mem (h : Calls names before? (c :: t) blanks name gap rest)
    (hx : x ∈ misusesFrom names (pos + 1) (some c) t) :
    pos + (keyword ++ blanks).length ≤ x.start := by
  obtain ⟨front, here, blanks', name', gap', rest', rfl, hcalls, rfl⟩ := (mem_misusesFrom_iff hnames).mp hx
  have htext : c :: (front ++ here) =
      (c :: front) ++ 'c' :: ("onst".toList ++ (blanks' ++ (name' ++ (gap' ++ '(' :: rest')))) := by
    rw [hcalls.text_eq]
    rfl
  rw [htext] at h
  obtain ⟨front', hfront, -⟩ := h.exists_front_eq (List.cons_ne_nil c front)
  have hlength := congrArg List.length hfront
  simp only [List.length_cons, List.length_append] at hlength ⊢
  omega

theorem pairwise_misusesFrom :
    (misusesFrom names pos before? t).Pairwise fun x y => x.stop ≤ y.start := by
  induction t generalizing pos before? with
  | nil => exact .nil
  | cons c t ih =>
    cases hn : removable names before? (c :: t) with
    | zero =>
      rw [misusesFrom_of_zero hn]
      exact ih
    | succ n =>
      obtain ⟨blanks, name, gap, rest, hcalls, hlen⟩ := (removable_eq_iff hnames).mp hn
      rw [misusesFrom_of_succ hn]
      refine List.pairwise_cons.mpr ⟨fun y hy => ?_, ih⟩
      rw [hlen]
      exact start_le_of_mem hnames hcalls hy

theorem le_start_of_mem (hx : x ∈ misusesFrom names pos before? t) :
    pos ≤ x.start := by
  obtain ⟨front, here, blanks, name, gap, rest, -, -, rfl⟩ := (mem_misusesFrom_iff hnames).mp hx
  exact Nat.le_add_right _ _

/-- A scan that has some characters to skip, among which no place starts, takes out the places. -/
theorem strip_eq (skip : Nat)
    (h : ∀ x ∈ misusesFrom names pos before? t, pos + skip ≤ x.start) : strip names before? skip t =
      (without (fun j => (misusesFrom names pos before? t).any (·.has j)) (pos + skip) (t.drop skip),
        (misusesFrom names pos before? t).length) := by
  induction t generalizing pos before? skip with
  | nil => cases skip <;> rfl
  | cons c t ih =>
    cases hn : removable names before? (c :: t) with
    | zero =>
      rw [misusesFrom_of_zero hn] at h ⊢
      cases skip with
      | succ skip =>
        have hstart : ∀ x ∈ misusesFrom names (pos + 1) (some c) t, pos + 1 + skip ≤ x.start := by
          intro x hx
          have := h x hx
          omega
        rw [strip, ih skip hstart, List.drop_succ_cons, Nat.add_assoc, Nat.add_comm 1]
      | zero =>
        have hstart : ∀ x ∈ misusesFrom names (pos + 1) (some c) t, pos + 1 + 0 ≤ x.start :=
          fun x hx => le_start_of_mem hnames hx
        rw [strip_of_zero hn, ih 0 hstart, List.drop_zero, List.drop_zero, Nat.add_zero pos, without,
          any_has_eq_false hstart]
        rfl
    | succ n =>
      obtain ⟨blanks, name, gap, rest, hcalls, hlen⟩ := (removable_eq_iff hnames).mp hn
      have hstart : ∀ x ∈ misusesFrom names (pos + 1) (some c) t, pos + (n + 1) ≤ x.start := by
        intro x hx
        rw [hlen]
        exact start_le_of_mem hnames hcalls hx
      rw [misusesFrom_of_succ hn] at h ⊢
      cases skip with
      | succ skip =>
        have := h _ List.mem_cons_self
        dsimp only at this
        omega
      | zero =>
        have hle : n + 1 ≤ (c :: t).length := by
          rw [hlen, hcalls.text_eq]
          simp only [List.length_append]
          omega
        rw [strip_of_succ hn, ih n fun x hx => by have := hstart x hx; omega, Nat.add_zero pos,
          List.drop_zero, without_cut hle, List.drop_succ_cons, List.length_cons, Nat.add_right_comm, Nat.add_assoc pos]

theorem fix_eq (t : Text) :
    fix names t = ⟨cutOut (misuses names t) t, (misuses names t).length, []⟩ := by
  have hstart : ∀ x ∈ misusesFrom names 0 none t, 0 + 0 ≤ x.start := fun _ _ => Nat.zero_le _
  rw [fix, strip_eq hnames 0 hstart]
  rfl

end Places

/-! ## What is kept -/

/-- What the scan leaves of a text behind the character `before?`. -/
def stripped (names : List Text) (before? : Option Char) (t : Text) : Text := (strip names before? 0 t).1

theorem stripped_nil : stripped names before? [] = [] := rfl

theorem stripped_cons (h : removable names before? (c :: t) = 0) :
    stripped names before? (c :: t) = c :: stripped names (some c) t := by
  rw [stripped, strip_of_zero h, stripped]

theorem strip_length_append (before? : Option Char) (s t : Text) :
    (strip names before? s.length (s ++ t)).1 = stripped names (s.getLast?.or before?) t := by
  induction s generalizing before? with
  | nil => rfl
  | cons c s ih =>
    rw [List.cons_append, List.length_cons, strip, ih, getLast?_cons_or]

theorem getLast?_tail_or (h : blanks ≠ []) : (keyword ++ blanks).tail.getLast?.or (some 'c') = blanks.getLast? := by
  have hkeyword := getLast?_keyword_or h [] none
  rw [List.append_nil] at hkeyword
  exact (getLast?_cons_or 'c' (keyword ++ blanks).tail none).symm.trans hkeyword

theorem Calls.stripped_eq (hnames : ∀ name ∈ names, isName name = true)
    (h : Calls names before? t blanks name gap rest) :
    stripped names before? t = stripped names blanks.getLast? (name ++ (gap ++ '(' :: rest)) := by
  have hremovable := h.removable_eq hnames
  have htext : t = 'c' :: ((keyword ++ blanks).tail ++ (name ++ (gap ++ '(' :: rest))) := h.text_eq
  have hlength : (keyword ++ blanks).length = (keyword ++ blanks).tail.length + 1 := rfl
  rw [hlength, htext] at hremovable
  rw [htext, stripped, strip_of_succ hremovable, strip_length_append, getLast?_tail_or h.ne_nil]

theorem removable_of_ne (h : c ≠ 'c') (t : Text) : removable names before? (c :: t) = 0 := by
  have hnone : after? "const".toList (c :: t) = none := if_neg (Ne.symm h)
  rw [removable, hnone]

theorem ne_of_isBlank (h : isBlank c = true) : c ≠ 'c' := by
  rintro rfl
  revert h
  decide

theorem stripped_append (h : ∀ s s', u = s ++ s' → s' ≠ [] → ∀ before?, removable names before? (s' ++ t) = 0)
    (before? : Option Char) : stripped names before? (u ++ t) = u ++ stripped names (u.getLast?.or before?) t := by
  induction u generalizing before? with
  | nil => rfl
  | cons c u ih =>
    have hhere : removable names before? (c :: (u ++ t)) = 0 := h [] (c :: u) rfl (List.cons_ne_nil c u) before?
    have hrest := ih fun s s' hu => h (c :: s) s' (by rw [hu, List.cons_append])
    rw [List.cons_append, stripped_cons hhere, hrest, getLast?_cons_or, List.cons_append]

theorem stripped_append_of_not_mem (h : 'c' ∉ u) (before? : Option Char) (t : Text) :
    stripped names before? (u ++ t) = u ++ stripped names (u.getLast?.or before?) t := by
  refine stripped_append (fun s s' hu hne before? => ?_) before?
  obtain ⟨c, s', rfl⟩ := List.exists_cons_of_ne_nil hne
  refine removable_of_ne ?_ (s' ++ t)
  rintro rfl
  exact h (hu ▸ List.mem_append_right s List.mem_cons_self)

end Upkeep.ConstructorConst
