import Upkeep.Proofs.Fix.Outcome
import Upkeep.Proofs.Source.Directive

/-!
# What goes with an unused import

A run is told by the lines of the source that are left after each finding. With the line of an import go the lines
behind it up to the first one that *ends* in a semicolon, of those that are left.

* `semicolon? b m`: the line of the first semicolon behind the URI that line `m` imports, and `InDirective b m d`:
  line `d` comes no later.
* `removals t fs`: the lines that go with each finding. `IsRemoval` says all about them that the rest needs
  (`removal?_eq_some`), and `text_fix_eq`: nothing else goes.
* `Accounted`: the invariant of a run. Behind a line that is gone, a line that ends in a semicolon is left only below
  another directive, or below a semicolon.
* `deleted_in_directives_iff`: all lines that go belong to directives if and only if each import of several lines ends
  with its own semicolon. `code_lost_behind_comment` is an import that does not.
-/

namespace Upkeep

open Text Directive

/-! ## Where a directive ends -/

namespace Directive

/-- What follows a text between two quotes of one kind at the start of `t`. -/
def behindQuotes? : Text → Option Text
  | [] => none
  | q :: t => if q = '\'' ∨ q = '"' then (Text.breakOn? [q] t).map (·.2) else none

def behindUri? (line : Text) : Option Text :=
  (Text.after? importWord (Text.trimStart line)).bind fun rest => behindQuotes? (Text.trimStart rest)

variable {uri line : Text}

theorem exists_behindUri (h : isImportOf uri line = true) :
    ∃ front q after, behindUri? line = some after ∧ line = front ++ q :: after ∧ (q = '\'' ∨ q = '"') := by
  obtain ⟨before, between, q, after, hbefore, hbetween, hq, huri, rfl⟩ := isImportOf_iff.mp h
  obtain ⟨hword, hquote⟩ := after?_importWord hbefore hbetween hq (uri ++ q :: after)
  refine ⟨before ++ importWord ++ between ++ q :: uri, q, after, ?_, rfl, hq⟩
  rw [List.append_assoc _ (q :: uri), List.cons_append, behindUri?, hword, Option.bind_some, hquote, behindQuotes?,
    if_pos hq, breakOn?_singleton huri, Option.map_some]

theorem mem_of_mem_behindUri {after : Text} {c : Char} (h : behindUri? line = some after) (hc : c ∈ after) :
    c ∈ line := by
  obtain ⟨rest, hrest, hquotes⟩ := Option.bind_eq_some_iff.mp h
  cases htrim : trimStart rest with
  | nil =>
    rw [htrim] at hquotes
    cases hquotes
  | cons q t =>
    rw [htrim, behindQuotes?] at hquotes
    split at hquotes
    · obtain ⟨⟨before, after'⟩, hbreak, rfl⟩ := Option.map_eq_some_iff.mp hquotes
      have hmem : c ∈ trimStart rest := by
        rw [htrim, breakOn?_eq_some hbreak]
        simp [hc]
      have hmem' : c ∈ trimStart line := by
        rw [after?_eq_some_iff.mp hrest]
        exact List.mem_append_right _ ((List.dropWhile_sublist _).subset hmem)
      exact (List.dropWhile_sublist _).subset hmem'
    · cases hquotes

theorem exists_of_closes (h : closes line = true) :
    ∃ before blanks, line = before ++ ';' :: blanks ∧ ∀ c ∈ blanks, isBlank c = true := by
  obtain ⟨before, hbefore⟩ := endsWith_iff.mp h
  obtain ⟨blanks, htrim, hblanks⟩ := exists_eq_dropEndWhile_append isBlank (trimStart line)
  rw [← trimEnd, ← trim, hbefore] at htrim
  refine ⟨leadingBlanks line ++ before, blanks, ?_, hblanks⟩
  calc line = leadingBlanks line ++ trimStart line := (leadingBlanks_append_trimStart line).symm
    _ = leadingBlanks line ++ before ++ ';' :: blanks := by rw [htrim]; simp

theorem semicolon_mem_behindUri (h : isImportOf uri line = true) (hc : closes line = true) :
    ∃ after, behindUri? line = some after ∧ ';' ∈ after := by
  obtain ⟨front, q, after, hafter, rfl, hq⟩ := exists_behindUri h
  obtain ⟨before, blanks, heq, hblanks⟩ := exists_of_closes hc
  have hne : q ≠ ';' := by rcases hq with rfl | rfl <;> decide
  refine ⟨after, hafter, ?_⟩
  rcases List.append_eq_append_iff.mp heq with ⟨rest, -, hrest⟩ | ⟨rest, -, hrest⟩
  · cases rest with
    | nil => exact absurd (List.cons.inj hrest).1 hne
    | cons c rest =>
      rw [(List.cons.inj hrest).2]
      simp
  · cases rest with
    | nil => exact absurd (List.cons.inj hrest).1.symm hne
    | cons c rest =>
      -- the closing quote would be one of the blanks
      have hblank := hblanks q (by rw [(List.cons.inj hrest).2]; simp)
      rcases hq with rfl | rfl <;> exact absurd hblank (by decide)

theorem exists_of_linesToClose? {lines : List Text} {n : Nat} (h : linesToClose? lines = some n) :
    ∃ mid last tail, lines = mid ++ last :: tail ∧ n = mid.length + 1 ∧ closes last = true ∧
      (∀ l ∈ mid, closes l = false) ∧ ∀ l ∈ mid ++ [last], startsDirective l = false := by
  induction lines generalizing n with
  | nil => cases h
  | cons first rest ih =>
    rw [linesToClose?] at h
    split at h
    · cases h
    · next hstart =>
      rw [Bool.not_eq_true] at hstart
      split at h
      · next hcloses =>
        obtain rfl := Option.some.inj h
        exact ⟨[], first, rest, rfl, rfl, hcloses, by simp, by simpa using hstart⟩
      · next hcloses =>
        rw [Bool.not_eq_true] at hcloses
        obtain ⟨k, hk, rfl⟩ := Option.map_eq_some_iff.mp h
        obtain ⟨mid, last, tail, rfl, rfl, hlast, hmid, hstarts⟩ := ih hk
        exact ⟨first :: mid, last, tail, rfl, rfl, hlast, List.forall_mem_cons.mpr ⟨hcloses, hmid⟩,
          List.forall_mem_cons.mpr ⟨hstart, hstarts⟩⟩

theorem startsDirective_of_linesToClose? {lines mid tail : List Text} {last : Text} (h : linesToClose? lines = none)
    (hlines : lines = mid ++ last :: tail) (hlast : closes last = true) :
    ∃ l ∈ mid ++ [last], startsDirective l = true := by
  induction mid generalizing lines with
  | nil =>
    rw [hlines, List.nil_append, linesToClose?] at h
    split at h
    · next hstart => exact ⟨last, by simp, hstart⟩
    · cases h
  | cons first mid ih =>
    rw [hlines, List.cons_append, linesToClose?] at h
    split at h
    · next hstart => exact ⟨first, by simp, hstart⟩
    · split at h
      · cases h
      · obtain ⟨l, hl, hstart⟩ := ih (Option.map_eq_none_iff.mp h) rfl
        exact ⟨l, List.mem_cons_of_mem first hl, hstart⟩

end Directive

namespace Buffer

/-- Whether line `k` has a semicolon. On line `m`, which imports, only one behind the URI counts. -/
def hasSemicolon (b : Buffer) (m k : Nat) : Bool :=
  decide (';' ∈ if k = m then (behindUri? (b.contentAt k)).getD [] else b.contentAt k)

/-- The line of the first semicolon behind the URI that line `m` imports. -/
def semicolon? (b : Buffer) (m : Nat) : Option Nat := (List.range' m (b.length - m)).find? (b.hasSemicolon m)

/-- Line `d` belongs to the directive that starts on line `m`, which ends with its first semicolon. -/
def InDirective (b : Buffer) (m d : Nat) : Prop := m ≤ d ∧ ∀ s, b.semicolon? m = some s → d ≤ s

variable {b : Buffer} {m d k e : Nat} {uri : Text}

theorem lt_length_of_hasSemicolon (h : b.hasSemicolon m k = true) : k < b.length := by
  by_contra hk
  rw [hasSemicolon, contentAt_of_le (Nat.not_lt.mp hk)] at h
  split at h <;> cases h

theorem semicolon?_eq_some_iff : b.semicolon? m = some k ↔
    b.hasSemicolon m k = true ∧ m ≤ k ∧ ∀ j, m ≤ j → j < k → b.hasSemicolon m j = false := by
  rw [semicolon?, List.find?_range'_eq_some, List.mem_range'_1]
  simp only [Bool.not_eq_eq_eq_not, Bool.not_true]
  constructor
  · rintro ⟨hk, ⟨hmk, -⟩, hfirst⟩
    exact ⟨hk, hmk, hfirst⟩
  · rintro ⟨hk, hmk, hfirst⟩
    have := lt_length_of_hasSemicolon hk
    exact ⟨hk, ⟨hmk, by omega⟩, hfirst⟩

theorem inDirective_iff : b.InDirective m d ↔ m ≤ d ∧ ∀ k, m ≤ k → k < d → b.hasSemicolon m k = false := by
  refine and_congr_right fun hmd => ⟨fun h => ?_, fun h s hs => ?_⟩
  · -- the first of the lines with a semicolon would end the directive before `d`
    intro k
    induction k using Nat.strong_induction_on with
    | h k ih =>
      intro hmk hkd
      by_contra hk
      rw [Bool.not_eq_false] at hk
      have := h k (semicolon?_eq_some_iff.mpr ⟨hk, hmk, fun j hmj hj => ih j hj hmj (by omega)⟩)
      omega
  · obtain ⟨hs, hms, -⟩ := semicolon?_eq_some_iff.mp hs
    by_contra hds
    rw [h s hms (by omega)] at hs
    cases hs

theorem inDirective_self (b : Buffer) (m : Nat) : b.InDirective m m :=
  inDirective_iff.mpr ⟨Nat.le_refl m, fun k hmk hkm => absurd hmk (by omega)⟩

theorem InDirective.of_lt (h : b.InDirective m e) (hmk : m < k) (hke : k ≤ e) : b.InDirective k e := by
  rw [inDirective_iff] at h ⊢
  refine ⟨hke, fun j hkj hje => ?_⟩
  have hj := h.2 j (by omega) hje
  rw [hasSemicolon, if_neg (by omega), decide_eq_false_iff_not] at hj
  rw [hasSemicolon, decide_eq_false_iff_not]
  split
  · cases hbehind : behindUri? (b.contentAt j) with
    | none => exact List.not_mem_nil
    | some after => exact fun hc => hj (mem_of_mem_behindUri hbehind hc)
  · exact hj

theorem hasSemicolon_of_closes (hmk : m ≠ k) (h : closes (b.contentAt k) = true) : b.hasSemicolon m k = true := by
  obtain ⟨before, blanks, hline, -⟩ := exists_of_closes h
  rw [hasSemicolon, if_neg hmk.symm, hline]
  simp

theorem hasSemicolon_self (himport : isImportOf uri (b.contentAt m) = true) (h : closes (b.contentAt m) = true) :
    b.hasSemicolon m m = true := by
  obtain ⟨after, hafter, hmem⟩ := semicolon_mem_behindUri himport h
  rw [hasSemicolon, if_pos rfl, hafter]
  simpa using hmem

theorem semicolon?_of_closes (h : b.InDirective m e) (hme : m < e) (hcloses : closes (b.contentAt e) = true) :
    b.semicolon? m = some e :=
  semicolon?_eq_some_iff.mpr
    ⟨hasSemicolon_of_closes (Nat.ne_of_lt hme) hcloses, Nat.le_of_lt hme, (inDirective_iff.mp h).2⟩

end Buffer

namespace UnusedImport

open Buffer

variable {ns : List Nat}

/-! ## One removal -/

/-- Whether a finding names the URI that line `m` imports. -/
def names (b : Buffer) (f : Finding) (m : Nat) : Bool :=
  (uri? f.message).any fun uri => isImportOf uri (b.contentAt m)

/-- The lines that go with a finding, if any, when those of `ns` are left. -/
def removal? (b : Buffer) (ns : List Nat) (f : Finding) : Option (List Nat) :=
  ((uri? f.message).bind fun uri => target? (b.pick ns) uri f).map fun i =>
    (ns.drop i).take ((b.pick ns).directiveEnd i + 1 - i)

/-- The number of lines that go with line `m`, of those that are left behind it. -/
def reach (b : Buffer) (m : Nat) (behind : List Nat) : Nat :=
  if closes (b.contentAt m) then 0 else (linesToClose? (behind.map b.contentAt)).getD 0

/-- What lines go with line `m`, an import that a finding names: those up to one that closes, or none if the line
closes itself or the next line to close, of those left behind, is the line of another directive or behind it. -/
structure IsRemoval (b : Buffer) (f : Finding) (m : Nat) (rest back : List Nat) : Prop where
  named : names b f m = true
  continues : ∀ n ∈ rest, startsDirective (b.contentAt n) = false
  closed : ∀ mid e, rest = mid ++ [e] →
    closes (b.contentAt e) = true ∧ ∀ n ∈ m :: mid, closes (b.contentAt n) = false
  alone : rest = [] → closes (b.contentAt m) = true ∨ ∀ mid e tail, back = mid ++ e :: tail →
    closes (b.contentAt e) = true → ∃ q ∈ mid ++ [e], startsDirective (b.contentAt q) = true

variable {b : Buffer} {f : Finding} {fs : List Finding} {front rest back ns : List Nat} {m : Nat}

theorem exists_isImportOf (h : names b f m = true) : ∃ uri, isImportOf uri (b.contentAt m) = true := by
  obtain ⟨uri, -, himport⟩ := (Option.any_eq_true _ _).mp h
  exact ⟨uri, himport⟩

theorem startsDirective_of_names (h : names b f m = true) : startsDirective (b.contentAt m) = true := by
  obtain ⟨uri, himport⟩ := exists_isImportOf h
  exact startsDirective_of_isImportOf himport

theorem directiveEnd_pick (b : Buffer) (front : List Nat) (m : Nat) (behind : List Nat) :
    (b.pick (front ++ m :: behind)).directiveEnd front.length = front.length + reach b m behind := by
  have hdrop : (b.pick (front ++ m :: behind)).contents.drop front.length =
      b.contentAt m :: behind.map b.contentAt := by
    rw [contents_pick, List.map_append, List.drop_left' (by simp), List.map_cons]
  rw [directiveEnd, hdrop, reach]
  dsimp only
  split <;> simp_all

theorem isRemoval_reach (behind : List Nat) (h : names b f m = true) :
    IsRemoval b f m (behind.take (reach b m behind)) (behind.drop (reach b m behind)) := by
  rw [reach]
  split
  · next hcloses => exact ⟨h, by simp, by simp, fun _ => .inl hcloses⟩
  · next hcloses =>
    rw [Bool.not_eq_true] at hcloses
    cases hlines : linesToClose? (behind.map b.contentAt) with
    | none =>
      refine ⟨h, by simp, by simp, fun _ => .inr fun mid e tail hback hlast => ?_⟩
      have hmap : behind.map b.contentAt = mid.map b.contentAt ++ b.contentAt e :: tail.map b.contentAt := by
        rw [Option.getD_none, List.drop_zero] at hback
        rw [hback, List.map_append, List.map_cons]
      obtain ⟨l, hl, hstart⟩ := startsDirective_of_linesToClose? hlines hmap hlast
      rw [← List.map_singleton (f := b.contentAt), ← List.map_append] at hl
      obtain ⟨q, hq, rfl⟩ := List.mem_map.mp hl
      exact ⟨q, hq, hstart⟩
    | some n =>
      obtain ⟨mid, last, tail, hmap, rfl, hlast, hmid, hstarts⟩ := exists_of_linesToClose? hlines
      obtain ⟨mid, behind, rfl, rfl, htail⟩ := List.map_eq_append_iff.mp hmap
      obtain ⟨e, tail, rfl, rfl, rfl⟩ := List.map_eq_cons_iff.mp htail
      have htake : (mid ++ e :: tail).take ((mid.map b.contentAt).length + 1) = mid ++ [e] := by
        rw [List.length_map, List.take_length_add_append]
        rfl
      rw [Option.getD_some, htake]
      refine ⟨h, fun n hn => ?_, fun mid' e' heq => ?_, fun hnil => absurd hnil (by simp)⟩
      · refine hstarts (b.contentAt n) ?_
        rw [← List.map_singleton (f := b.contentAt), ← List.map_append]
        exact List.mem_map_of_mem hn
      · obtain ⟨rfl, hsame⟩ := List.append_inj' heq rfl
        obtain rfl := List.singleton_inj.mp hsame
        exact ⟨hlast, List.forall_mem_cons.mpr ⟨hcloses, fun n hn => hmid _ (List.mem_map_of_mem hn)⟩⟩

theorem IsRemoval.eq_nil (h : IsRemoval b f m rest back) (hcloses : closes (b.contentAt m) = true) : rest = [] := by
  rcases List.eq_nil_or_concat rest with rfl | ⟨mid, e, rfl⟩
  · rfl
  · have hopen := (h.closed mid e List.concat_eq_append).2 m List.mem_cons_self
    rw [hcloses] at hopen
    cases hopen

theorem removeLines_pick (front behind : List Nat) (m n : Nat) :
    removeLines (b.pick (front ++ m :: behind)) front.length (front.length + n) =
      b.pick (front ++ behind.drop n) := by
  have hdrop : (front ++ m :: behind).drop (front.length + n + 1) = behind.drop n := by
    rw [Nat.add_assoc, List.drop_length_add_append, List.drop_succ_cons]
  simp only [removeLines, pick, ← List.map_take, ← List.map_drop, ← List.map_append, List.take_left, hdrop]

theorem removal?_eq_some {cut : List Nat} (h : removal? b ns f = some cut) :
    ∃ front m rest back, ns = front ++ (m :: rest ++ back) ∧ cut = m :: rest ∧ IsRemoval b f m rest back ∧
      step (b.pick ns) f = .edited (b.pick (front ++ back)) := by
  obtain ⟨i, hi, rfl⟩ := Option.map_eq_some_iff.mp h
  obtain ⟨uri, huri, htarget⟩ := Option.bind_eq_some_iff.mp hi
  obtain ⟨line, hline, himport⟩ := isImportOf_of_target? htarget
  rw [content?_eq, contents_pick, List.getElem?_map] at hline
  obtain ⟨m, hm, rfl⟩ := Option.map_eq_some_iff.mp hline
  obtain ⟨hlt, rfl⟩ := List.getElem?_eq_some_iff.mp hm
  have hsplit : ns = ns.take i ++ ns[i] :: ns.drop (i + 1) := by
    rw [← List.drop_eq_getElem_cons hlt, List.take_append_drop]
  have hlen : (ns.take i).length = i := by rw [List.length_take, Nat.min_eq_left (Nat.le_of_lt hlt)]
  have hend := directiveEnd_pick b (ns.take i) ns[i] (ns.drop (i + 1))
  have hremove := removeLines_pick (b := b) (ns.take i) (ns.drop (i + 1)) ns[i]
    (reach b ns[i] (ns.drop (i + 1)))
  rw [← hsplit, hlen] at hend hremove
  have hnamed : names b f ns[i] = true := by rw [names, huri, Option.any_some, himport]
  have hremoval := isRemoval_reach (ns.drop (i + 1)) hnamed
  refine ⟨ns.take i, ns[i], _, _, ?_, ?_, hremoval, ?_⟩
  · rw [List.cons_append, List.take_append_drop]
    exact hsplit
  · rw [hend, List.drop_eq_getElem_cons hlt, Nat.add_assoc, Nat.add_sub_cancel_left, List.take_succ_cons]
  · simp only [step, huri, htarget, hend, hremove]

theorem removal?_eq_none (h : removal? b ns f = none) : ∃ reason, step (b.pick ns) f = .left reason := by
  rw [removal?, Option.map_eq_none_iff] at h
  rw [step]
  split
  · exact ⟨_, rfl⟩
  · next uri huri =>
    rw [huri, Option.bind_some] at h
    rw [h]
    exact ⟨_, rfl⟩

/-! ## All removals of a run -/

/-- The lines that go with each of some findings, when those of `ns` are left at the start. -/
def removalsFrom (b : Buffer) (ns : List Nat) : List Finding → List (List Nat)
  | [] => []
  | f :: fs =>
    match removal? b ns f with
    | none => removalsFrom b ns fs
    | some cut => cut :: removalsFrom b (ns.filter (· ∉ cut)) fs

/-- The lines of a text that go with each finding. -/
def removals (t : Text) (fs : List Finding) : List (List Nat) :=
  removalsFrom (ofText t) (List.range (ofText t).length) fs

theorem order_of_pairwise (h : (front ++ (m :: rest ++ back)).Pairwise (· < ·)) :
    (∀ k ∈ front, k < m) ∧ (∀ k ∈ rest, m < k) ∧ (∀ k ∈ m :: rest, ∀ j ∈ back, k < j) ∧
      rest.Pairwise (· < ·) ∧ back.Pairwise (· < ·) := by
  obtain ⟨-, hcut, hfront⟩ := List.pairwise_append.mp h
  obtain ⟨hrest, hback, hlt⟩ := List.pairwise_append.mp hcut
  obtain ⟨hm, hrest⟩ := List.pairwise_cons.mp hrest
  exact ⟨fun k hk => hfront k hk m (by simp), hm, hlt, hrest, hback⟩

theorem filter_not_mem_cut (h : (front ++ (m :: rest ++ back)).Nodup) :
    (front ++ (m :: rest ++ back)).filter (· ∉ m :: rest) = front ++ back := by
  obtain ⟨-, hcut, hfront⟩ := List.nodup_append.mp h
  obtain ⟨-, -, hback⟩ := List.nodup_append.mp hcut
  have hkeep : ∀ ks : List Nat, (∀ k ∈ ks, k ∉ m :: rest) → ks.filter (· ∉ m :: rest) = ks := fun ks hks =>
    List.filter_eq_self.mpr fun k hk => decide_eq_true (hks k hk)
  have hnone : (m :: rest).filter (· ∉ m :: rest) = [] :=
    List.filter_eq_nil_iff.mpr fun k hk => by simp only [decide_eq_true_eq, not_not, hk]
  rw [List.filter_append, List.filter_append, hnone, List.nil_append,
    hkeep front fun k hk hmem => hfront k hk k (List.mem_append_left back hmem) rfl,
    hkeep back fun k hk hmem => hback k hmem k hk rfl]

theorem filter_filter_not_mem (ns cut later : List Nat) :
    (ns.filter (· ∉ cut)).filter (· ∉ later) = ns.filter (· ∉ cut ++ later) := by
  rw [List.filter_filter]
  refine List.filter_congr fun k _ => ?_
  simp only [List.mem_append, not_or, Bool.decide_and, Bool.and_comm]

theorem buffer_foldl (fs : List Finding) (hns : ns.Nodup) (applied : Nat) (notes : List Text) :
    (fs.foldl (Edit.advance step) ⟨b.pick ns, applied, notes⟩).buffer =
      b.pick (ns.filter (· ∉ (removalsFrom b ns fs).flatten)) := by
  induction fs generalizing ns applied notes with
  | nil => exact congrArg b.pick (List.filter_eq_self.mpr fun k _ => decide_eq_true List.not_mem_nil).symm
  | cons f fs ih =>
    rw [List.foldl_cons, Edit.advance]
    cases hcut : removal? b ns f with
    | none =>
      obtain ⟨reason, hstep⟩ := removal?_eq_none hcut
      simp only [hstep, removalsFrom, hcut]
      exact ih hns _ _
    | some cut =>
      obtain ⟨front, m, rest, back, rfl, rfl, -, hstep⟩ := removal?_eq_some hcut
      rw [← filter_not_mem_cut hns] at hstep
      simp only [hstep, removalsFrom, hcut, List.flatten_cons, ← filter_filter_not_mem]
      exact ih (hns.filter _) _ _

theorem text_fix_eq (t : Text) (fs : List Finding) : (fix t fs).text =
    ((ofText t).pick ((List.range (ofText t).length).filter (· ∉ (removals t fs).flatten))).toText := by
  have hnodup : (List.range (ofText t).length).Nodup := List.nodup_range
  have hfold := buffer_foldl (b := ofText t) fs hnodup 0 []
  rw [pick_range] at hfold
  exact congrArg Buffer.toText hfold

/-! ## What is left -/

/-- What a run has made of the lines of a buffer, of which those of `ns` are left. -/
structure Accounted (b : Buffer) (ns : List Nat) : Prop where
  ascending : ns.Pairwise (· < ·)
  /-- If the first line of a directive is gone and a later one that closes is left, a directive that is left starts
  between them. -/
  started : ∀ m e, m ∉ ns → startsDirective (b.contentAt m) = true → m < e → b.InDirective m e → e ∈ ns →
    closes (b.contentAt e) = true → ∃ q ∈ ns, m < q ∧ q ≤ e ∧ startsDirective (b.contentAt q) = true
  /-- A line that starts no directive has gone with one above it, and with all lines in between. -/
  followed : ∀ n < b.length, n ∉ ns → startsDirective (b.contentAt n) = false →
    ∃ m, m ∉ ns ∧ m < n ∧ startsDirective (b.contentAt m) = true ∧ ∀ k ∈ ns, ¬ (m < k ∧ k < n)

theorem accounted_range (b : Buffer) : Accounted b (List.range b.length) where
  ascending := List.pairwise_lt_range
  started m e hm hstart hme hin he hcloses := by
    have hlt := List.mem_range.mp he
    exact absurd (List.mem_range.mpr (by omega)) hm
  followed n hn hgone := absurd (List.mem_range.mpr hn) hgone

theorem IsRemoval.started (h : IsRemoval b f m rest back) (hasc : (front ++ (m :: rest ++ back)).Pairwise (· < ·))
    {e : Nat} (he : e ∈ back) (hin : b.InDirective m e) (hcloses : closes (b.contentAt e) = true) :
    ∃ q ∈ back, m < q ∧ q ≤ e ∧ startsDirective (b.contentAt q) = true := by
  obtain ⟨-, hm, hlt, -, hback⟩ := order_of_pairwise hasc
  obtain ⟨hme, hnone⟩ := inDirective_iff.mp hin
  have hmback : ∀ k ∈ back, m < k := hlt m List.mem_cons_self
  rcases List.eq_nil_or_concat rest with rfl | ⟨mid, last, rfl⟩
  · rcases h.alone rfl with hself | hstarted
    · obtain ⟨uri, himport⟩ := exists_isImportOf h.named
      have hsemi := hasSemicolon_self himport hself
      rw [hnone m (Nat.le_refl m) (hmback e he)] at hsemi
      cases hsemi
    · obtain ⟨mid, tail, rfl⟩ := List.append_of_mem he
      obtain ⟨q, hq, hstart⟩ := hstarted mid e tail rfl hcloses
      rcases List.mem_append.mp hq with hq | hq
      · have hqe := (List.pairwise_append.mp hback).2.2 q hq e List.mem_cons_self
        exact ⟨q, List.mem_append_left _ hq, hmback q (List.mem_append_left _ hq), Nat.le_of_lt hqe, hstart⟩
      · obtain rfl := List.mem_singleton.mp hq
        exact ⟨q, he, hmback q he, Nat.le_refl q, hstart⟩
  · rw [List.concat_eq_append] at h hm hlt
    -- the line that closes the removal has a semicolon
    have hlast := (h.closed mid last rfl).1
    have hml : m < last := hm last (by simp)
    have hsemi := hasSemicolon_of_closes (Nat.ne_of_lt hml) hlast
    rw [hnone last (Nat.le_of_lt hml) (hlt last (by simp) e he)] at hsemi
    cases hsemi

theorem Accounted.next (h : Accounted b (front ++ (m :: rest ++ back))) (hr : IsRemoval b f m rest back) :
    Accounted b (front ++ back) := by
  have hsub : (front ++ back).Sublist (front ++ (m :: rest ++ back)) :=
    (List.Sublist.refl front).append (List.sublist_append_right _ back)
  obtain ⟨hfront, hrest, hback, -⟩ := order_of_pairwise h.ascending
  have hgone : m ∉ front ++ back := by
    intro hmem
    rcases List.mem_append.mp hmem with hmem | hmem
    · exact Nat.lt_irrefl m (hfront m hmem)
    · exact Nat.lt_irrefl m (hback m List.mem_cons_self m hmem)
  have hhead : ∀ e ∈ front ++ back, m < e → b.InDirective m e → closes (b.contentAt e) = true →
      ∃ q ∈ front ++ back, m < q ∧ q ≤ e ∧ startsDirective (b.contentAt q) = true := by
    intro e he hme hin hcloses
    have he' : e ∈ back := by
      rcases List.mem_append.mp he with he | he
      · have := hfront e he
        omega
      · exact he
    obtain ⟨q, hq, hlt⟩ := hr.started h.ascending he' hin hcloses
    exact ⟨q, List.mem_append_right front hq, hlt⟩
  have hcases : ∀ k, k ∉ front ++ back → k ∉ front ++ (m :: rest ++ back) ∨ k = m ∨ k ∈ rest := by
    intro k hk
    simp only [List.mem_append, List.mem_cons] at hk ⊢
    tauto
  refine ⟨h.ascending.sublist hsub, ?_, ?_⟩
  · intro m' e hleft hstart hme hin he hcloses
    rcases hcases m' hleft with hleft | rfl | hmem
    · obtain ⟨q, hq, hmq, hqe, hqstart⟩ := h.started m' e hleft hstart hme hin (hsub.subset he) hcloses
      by_cases hqleft : q ∈ front ++ back
      · exact ⟨q, hqleft, hmq, hqe, hqstart⟩
      · -- the directive between the two goes now, but then it goes on to `e` too
        rcases hcases q hqleft with hq' | rfl | hmem
        · exact absurd hq hq'
        · have hne : q ≠ e := fun heq => hqleft (heq ▸ he)
          obtain ⟨q', hq', hlt, hbetween⟩ := hhead e he (by omega) (hin.of_lt hmq hqe) hcloses
          exact ⟨q', hq', by omega, hbetween⟩
        · rw [hr.continues q hmem] at hqstart
          cases hqstart
    · exact hhead e he hme hin hcloses
    · rw [hr.continues m' hmem] at hstart
      cases hstart
  · intro n hn hleft hstart
    rcases hcases n hleft with hleft | rfl | hn'
    · obtain ⟨m', hm', hlt, hstart', hnone⟩ := h.followed n hn hleft hstart
      exact ⟨m', fun hmem => hm' (hsub.subset hmem), hlt, hstart', fun k hk => hnone k (hsub.subset hk)⟩
    · rw [startsDirective_of_names hr.named] at hstart
      cases hstart
    · refine ⟨m, hgone, hrest n hn', startsDirective_of_names hr.named, fun k hk => ?_⟩
      rcases List.mem_append.mp hk with hk | hk
      · have := hfront k hk
        omega
      · have := hback n (List.mem_cons_of_mem m hn') k hk
        omega

theorem exists_of_mem_removalsFrom {cut : List Nat} (h : Accounted b ns) (hcut : cut ∈ removalsFrom b ns fs) :
    ∃ f ∈ fs, ∃ front m rest back, cut = m :: rest ∧ IsRemoval b f m rest back ∧
      Accounted b (front ++ (m :: rest ++ back)) := by
  induction fs generalizing ns with
  | nil => cases hcut
  | cons f fs ih =>
    rw [removalsFrom] at hcut
    split at hcut
    · obtain ⟨f', hf', hrest⟩ := ih h hcut
      exact ⟨f', List.mem_cons_of_mem f hf', hrest⟩
    · next first hfirst =>
      obtain ⟨front, m, rest, back, rfl, rfl, hr, -⟩ := removal?_eq_some hfirst
      rcases List.mem_cons.mp hcut with rfl | hcut
      · exact ⟨f, List.mem_cons_self, front, m, rest, back, rfl, hr, h⟩
      · have hnodup : (front ++ (m :: rest ++ back)).Nodup := h.ascending.imp Nat.ne_of_lt
        rw [filter_not_mem_cut hnodup] at hcut
        obtain ⟨f', hf', hrest⟩ := ih (h.next hr) hcut
        exact ⟨f', List.mem_cons_of_mem f hf', hrest⟩

/-! ## Directives that go as they are -/

def isNamed (b : Buffer) (fs : List Finding) (m : Nat) : Bool := fs.any fun f => names b f m

theorem lt_length_of_isNamed (h : isNamed b fs m = true) : m < b.length := by
  by_contra hm
  obtain ⟨f, -, hnames⟩ := List.any_eq_true.mp h
  obtain ⟨uri, himport⟩ := exists_isImportOf hnames
  rw [contentAt_of_le (Nat.not_lt.mp hm)] at himport
  cases himport

/-- The first semicolon of the directive at line `m`, if there is one, ends its line, and no other directive starts up
to there. -/
def IsTidy (b : Buffer) (m : Nat) : Prop :=
  ∀ s, b.semicolon? m = some s →
    closes (b.contentAt s) = true ∧ ∀ k, m < k → k ≤ s → startsDirective (b.contentAt k) = false

section Removal

variable {e k : Nat} {mid : List Nat}

theorem Accounted.le_of_mem (h : Accounted b (front ++ (m :: (mid ++ [e]) ++ back))) (hk : k ∈ m :: (mid ++ [e])) :
    m ≤ k ∧ k ≤ e := by
  obtain ⟨-, hm, -, hrest, -⟩ := order_of_pairwise h.ascending
  have hlast := (List.pairwise_append.mp hrest).2.2
  have hme := hm e (by simp)
  rcases List.mem_cons.mp hk with rfl | hk
  · omega
  · have := hm k hk
    rcases List.mem_append.mp hk with hk | hk
    · have := hlast k hk e (by simp)
      omega
    · obtain rfl := List.mem_singleton.mp hk
      omega

theorem Accounted.mem_of_between (h : Accounted b (front ++ (m :: (mid ++ [e]) ++ back)))
    (hk : k ∈ front ++ (m :: (mid ++ [e]) ++ back)) (hmk : m < k) (hke : k ≤ e) : k ∈ mid ++ [e] := by
  obtain ⟨hfront, -, hback, -⟩ := order_of_pairwise h.ascending
  rcases List.mem_append.mp hk with hk | hk
  · have := hfront k hk
    omega
  · rcases List.mem_append.mp hk with hk | hk
    · exact (List.mem_cons.mp hk).resolve_left (by omega)
    · have := hback e (by simp) k hk
      omega

theorem semicolon?_of_inDirective (hr : IsRemoval b f m (mid ++ [e]) back)
    (h : Accounted b (front ++ (m :: (mid ++ [e]) ++ back))) {m' : Nat}
    (hstart : startsDirective (b.contentAt m') = true) (hin : b.InDirective m' e) : b.semicolon? m = some e := by
  have hcloses := (hr.closed mid e rfl).1
  have hme : m < e := (order_of_pairwise h.ascending).2.1 e (by simp)
  have hquiet : ∀ q ∈ front ++ (m :: (mid ++ [e]) ++ back), m < q → q ≤ e →
      startsDirective (b.contentAt q) = false := fun q hq hmq hqe => hr.continues q (h.mem_of_between hq hmq hqe)
  have hlast : e ∈ front ++ (m :: (mid ++ [e]) ++ back) := by simp
  have hne : m' ≠ e := by
    rintro rfl
    rw [hquiet m' hlast hme (Nat.le_refl m')] at hstart
    cases hstart
  rcases Nat.lt_or_ge m m' with hlt | hle
  · -- such a directive would have gone before, up to the line or up to another that starts in between
    have hm'e : m' < e := Nat.lt_of_le_of_ne hin.1 hne
    have hgone : m' ∉ front ++ (m :: (mid ++ [e]) ++ back) := fun hmem => by
      rw [hquiet m' hmem hlt hin.1] at hstart
      cases hstart
    obtain ⟨q, hq, hm'q, hqe, hqstart⟩ := h.started m' e hgone hstart hm'e hin hlast hcloses
    rw [hquiet q hq (by omega) hqe] at hqstart
    cases hqstart
  · have hin' : b.InDirective m e := by
      rcases Nat.lt_or_eq_of_le hle with hlt | rfl
      · exact hin.of_lt hlt (Nat.le_of_lt hme)
      · exact hin
    exact semicolon?_of_closes hin' hme hcloses

theorem semicolon?_of_isTidy (hr : IsRemoval b f m (mid ++ [e]) back)
    (h : Accounted b (front ++ (m :: (mid ++ [e]) ++ back))) (htidy : IsTidy b m) : b.semicolon? m = some e := by
  obtain ⟨hcloses, hopen⟩ := hr.closed mid e rfl
  have hme := h.le_of_mem (List.mem_cons_of_mem m (List.mem_append_right mid List.mem_cons_self))
  by_cases hin : b.InDirective m e
  · exact semicolon?_of_inDirective hr h (startsDirective_of_names hr.named) hin
  · -- the semicolon would come before, on a line that closes and has gone with another directive
    simp only [InDirective, not_and, not_forall, Nat.not_le] at hin
    obtain ⟨s, hs, hse⟩ := hin hme.1
    obtain ⟨hsemi, hms, -⟩ := semicolon?_eq_some_iff.mp hs
    obtain ⟨hsclose, hquiet⟩ := htidy s hs
    have hms' : m ≠ s := by
      rintro rfl
      rw [hopen m List.mem_cons_self] at hsclose
      cases hsclose
    by_cases hleft : s ∈ front ++ (m :: (mid ++ [e]) ++ back)
    · have hmem := h.mem_of_between hleft (by omega) (by omega)
      have hmid : s ∈ mid := (List.mem_append.mp hmem).resolve_right fun hmem => by
        have := List.mem_singleton.mp hmem
        omega
      rw [hopen s (List.mem_cons_of_mem m hmid)] at hsclose
      cases hsclose
    · obtain ⟨m', hm', hlt, hstart, hnone⟩ := h.followed s (lt_length_of_hasSemicolon hsemi) hleft
        (hquiet s (by omega) (Nat.le_refl s))
      have hm : m ∈ front ++ (m :: (mid ++ [e]) ++ back) := by simp
      have hmm' : m < m' := by
        have hne : m ≠ m' := fun heq => hm' (heq ▸ hm)
        have := hnone m hm
        omega
      rw [hquiet m' hmm' (Nat.le_of_lt hlt)] at hstart
      cases hstart

end Removal

/-- The lines that go with unused imports. All others stay. Each removal starts with the line of an import that a
finding names. If that line ends in a semicolon it goes alone, else no other directive starts on the lines that go with
it. All these lines belong to directives that are named if and only if each import of several lines goes with those up
to its own semicolon, which it does if the semicolon of each named directive ends its line. -/
theorem deleted_in_directives_iff (t : Text) (fs : List Finding) :
    (fix t fs).text =
      ((ofText t).pick ((List.range (ofText t).length).filter (· ∉ (removals t fs).flatten))).toText ∧
    (∀ cut ∈ removals t fs, ∃ m rest, cut = m :: rest ∧ isNamed (ofText t) fs m = true ∧
      (closes ((ofText t).contentAt m) = true → rest = []) ∧
      ∀ d ∈ rest, m < d ∧ startsDirective ((ofText t).contentAt d) = false) ∧
    ((∀ d ∈ (removals t fs).flatten, ∃ m, isNamed (ofText t) fs m = true ∧ (ofText t).InDirective m d) ↔
      ∀ m mid e, m :: (mid ++ [e]) ∈ removals t fs → (ofText t).semicolon? m = some e) ∧
    ((∀ m, isNamed (ofText t) fs m = true → IsTidy (ofText t) m) →
      ∀ d ∈ (removals t fs).flatten, ∃ m, isNamed (ofText t) fs m = true ∧ (ofText t).InDirective m d) := by
  have hremoval : ∀ cut ∈ removals t fs, ∃ f ∈ fs, ∃ front m rest back, cut = m :: rest ∧
      IsRemoval (ofText t) f m rest back ∧ Accounted (ofText t) (front ++ (m :: rest ++ back)) :=
    fun cut hcut => exists_of_mem_removalsFrom (accounted_range _) hcut
  have hnamed : ∀ {f m rest back}, f ∈ fs → IsRemoval (ofText t) f m rest back → isNamed (ofText t) fs m = true :=
    fun hf hr => List.any_eq_true.mpr ⟨_, hf, hr.named⟩
  have hall : (∀ m mid e, m :: (mid ++ [e]) ∈ removals t fs → (ofText t).semicolon? m = some e) →
      ∀ d ∈ (removals t fs).flatten, ∃ m, isNamed (ofText t) fs m = true ∧ (ofText t).InDirective m d := by
    intro hends d hd
    obtain ⟨cut, hcut, hdcut⟩ := List.mem_flatten.mp hd
    obtain ⟨f, hf, front, m, rest, back, rfl, hr, h⟩ := hremoval cut hcut
    refine ⟨m, hnamed hf hr, ?_⟩
    rcases List.eq_nil_or_concat rest with rfl | ⟨mid, e, rfl⟩
    · rw [List.mem_singleton.mp hdcut]
      exact inDirective_self _ m
    · rw [List.concat_eq_append] at hcut hdcut hr h
      obtain ⟨hmd, hde⟩ := h.le_of_mem hdcut
      refine ⟨hmd, fun s hs => ?_⟩
      rw [hends m mid e hcut] at hs
      exact Option.some.inj hs ▸ hde
  refine ⟨text_fix_eq t fs, fun cut hcut => ?_, ⟨fun hin m mid e hcut => ?_, hall⟩, fun htidy => ?_⟩
  · obtain ⟨f, hf, front, m, rest, back, rfl, hr, h⟩ := hremoval cut hcut
    have hlt := (order_of_pairwise h.ascending).2.1
    exact ⟨m, rest, rfl, hnamed hf hr, hr.eq_nil, fun d hd => ⟨hlt d hd, hr.continues d hd⟩⟩
  · obtain ⟨f, hf, front, m, rest, back, heq, hr, h⟩ := hremoval _ hcut
    obtain ⟨rfl, rfl⟩ := List.cons.inj heq
    obtain ⟨m', hm', hin'⟩ := hin e (List.mem_flatten.mpr ⟨_, hcut, by simp⟩)
    obtain ⟨f', -, hnames⟩ := List.any_eq_true.mp hm'
    exact semicolon?_of_inDirective hr h (startsDirective_of_names hnames) hin'
  · refine hall fun m mid e hcut => ?_
    obtain ⟨f, hf, front, m, rest, back, heq, hr, h⟩ := hremoval _ hcut
    obtain ⟨rfl, rfl⟩ := List.cons.inj heq
    exact semicolon?_of_isTidy hr h (htidy m (hnamed hf hr))

def unusedFile : Finding := ⟨.warning, "Unused import: 'a.dart'".toList, "lib/b.dart".toList, 1, 8, Rule.unusedImport⟩

/-- An import with its clause on the next line, which its semicolon ends. -/
def showing : Text := "import 'a.dart'\n    show A;\nf();\n".toList

/-- The import goes with its clause. -/
theorem deleted_in_directives_iff_showing :
    (∀ m, isNamed (ofText showing) [unusedFile] m = true → IsTidy (ofText showing) m) ∧
    (fix showing [unusedFile]).text = "f();\n".toList ∧ (removals showing [unusedFile]).flatten = [0, 1] ∧
    ∀ d ∈ (removals showing [unusedFile]).flatten,
      ∃ m, isNamed (ofText showing) [unusedFile] m = true ∧ (ofText showing).InDirective m d := by
  have htidy : ∀ m, isNamed (ofText showing) [unusedFile] m = true → IsTidy (ofText showing) m := by
    intro m hm s hs
    have hfirst : ∀ k < 3, isNamed (ofText showing) [unusedFile] k = true → k = 0 := by decide +kernel
    obtain rfl := hfirst m (lt_length_of_isNamed hm) hm
    have hsecond : (ofText showing).semicolon? 0 = some 1 := by decide +kernel
    obtain rfl := Option.some.inj (hsecond.symm.trans hs)
    refine ⟨by decide +kernel, fun k hk hk' => ?_⟩
    obtain rfl : k = 1 := by omega
    decide +kernel
  obtain ⟨-, -, -, hin⟩ := deleted_in_directives_iff showing [unusedFile]
  exact ⟨htidy, by decide +kernel, by decide +kernel, hin htidy⟩

def commented : Text := "import 'a.dart'; // c\nf();\n".toList

/-- The line of code below goes with the import, of which it is no part. -/
theorem code_lost_behind_comment :
    (fix commented [unusedFile]).text = [] ∧ (ofText commented).semicolon? 0 = some 0 ∧
    ¬ ∀ d ∈ (removals commented [unusedFile]).flatten,
      ∃ m, isNamed (ofText commented) [unusedFile] m = true ∧ (ofText commented).InDirective m d := by
  have hsemi : (ofText commented).semicolon? 0 = some 0 := by decide +kernel
  refine ⟨by decide +kernel, hsemi, fun hall => ?_⟩
  obtain ⟨m, hm, -, hin⟩ := hall 1 (by decide +kernel)
  have hfirst : ∀ k < 2, isNamed (ofText commented) [unusedFile] k = true → k = 0 := by decide +kernel
  obtain rfl := hfirst m (lt_length_of_isNamed hm) hm
  exact absurd (hin 0 hsemi) (by decide)

end UnusedImport
end Upkeep
