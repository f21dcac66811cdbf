import Mathlib.Data.List.Forall2
import Mathlib.Data.List.Nodup
import Mathlib.Data.List.Perm.Basic
import Mathlib.Data.Prod.Lex
import Upkeep.Proofs.Category.Meaning
import Upkeep.Proofs.Text.Order
import Upkeep.Proofs.Text.Utf8

/-!
# What is looked up

An answer is known up to the order of its lines, and of that only what the query asks for. For each query of the
catalogue this leaves one thing that can be looked up:

* `rows_of_rowQuery`: the records, main categories first. A record is read as its template (`Record.template?`), so
  `templates_eq_ok_iff` tells what the list of templates is, and when there is none.
* `gives_counts`: each type with an active record, once, with the numbers of its records (`Recounts`).
* `gives_names`: the names of the records without an icon, if all of them are texts.
-/

namespace Upkeep

open Database (Answer Value)

theorem toOption_eq_some_iff {ε α : Type} {x : Except ε α} {a : α} : x.toOption = some a ↔ x = .ok a := by
  cases x <;> simp [Except.toOption]

/-! ## Columns of an answer -/

namespace Database

theorem Value.text?_eq_some_iff {v : Value} {t : Text} : v.text? = some t ↔ v = .ofText t := by
  have hbytes : ∀ bytes : Bytes, (⟨bytes.toArray⟩ : ByteArray) = Text.toBytes t ↔ bytes = (Text.toBytes t).toList := by
    intro bytes
    refine ⟨fun h => ?_, fun h => ?_⟩
    · rw [← h, Text.toList_eq]
    · rw [h, Text.ofList_toList]
  cases v with
  | text bytes => rw [text?, Text.ofBytes?_eq_some_iff, hbytes, ofText, Value.text.injEq]
  | _ => exact ⟨nofun, nofun⟩

theorem Value.text?_ofText (t : Text) : (ofText t).text? = some t := text?_eq_some_iff.mpr rfl

theorem Value.ofText_injective {t u : Text} (h : ofText t = ofText u) : t = u :=
  Option.some.inj ((text?_ofText t).symm.trans ((congrArg text? h).trans (text?_ofText u)))

theorem Value.ofText_ne_null (t : Text) : ofText t ≠ .null := by simp [ofText]

def Value.optionalText? (v : Value) : Option (Option Text) := if v = .null then some none else some <$> v.text?

def Value.number? : Value → Option Int
  | .integer n => some n
  | _ => none

theorem Value.optionalText?_ofText? (t : Option Text) : (ofText? t).optionalText? = some t := by
  cases t with
  | none => rfl
  | some t =>
    rw [ofText?, optionalText?, text?_ofText]
    rfl

theorem Value.optionalText?_eq_some_iff {v : Value} {t : Option Text} : v.optionalText? = some t ↔ v = ofText? t := by
  constructor
  · intro h
    rw [optionalText?] at h
    split at h
    · next hnull =>
      obtain rfl := Option.some.inj h
      exact hnull
    · obtain ⟨text, htext, rfl⟩ := Option.map_eq_some_iff.mp h
      exact text?_eq_some_iff.mp htext
  · rintro rfl
    exact optionalText?_ofText? t

theorem Value.number?_eq_some_iff {v : Value} {n : Int} : v.number? = some n ↔ v = .integer n := by
  cases v <;> simp [number?]

namespace Answer

variable {a : Answer} {i : Nat} {row : List Value}

theorem text?_toOption : (a.text? i row).toOption = (at_ i row).text? := by
  unfold text? Value.text?
  cases at_ i row with
  | text bytes => cases h : Text.ofBytes? ⟨bytes.toArray⟩ <;> simp [h, Except.toOption]
  | _ => rfl

theorem optionalText?_toOption : (a.optionalText? i row).toOption = (at_ i row).optionalText? := by
  unfold optionalText? Value.optionalText?
  split
  · rfl
  · rw [← text?_toOption]
    cases a.text? i row <;> rfl

theorem number?_toOption : (a.number? i row).toOption = (at_ i row).number? := by
  unfold number? Value.number?
  cases at_ i row <;> rfl

theorem text?_eq_ok_iff {t : Text} : a.text? i row = .ok t ↔ at_ i row = .ofText t := by
  rw [← toOption_eq_some_iff, text?_toOption, Value.text?_eq_some_iff]

end Answer
end Database

/-! ## Results -/

section Results

variable {ε α β : Type}

theorem toOption_bind (x : Except ε α) (f : α → Except ε β) :
    (x >>= f).toOption = x.toOption >>= fun a => (f a).toOption := by
  cases x <;> rfl

theorem mapM_eq_ok_iff {f : α → Except ε β} {l : List α} {bs : List β} :
    l.mapM f = .ok bs ↔ List.Forall₂ (fun a b => f a = .ok b) l bs := by
  induction l generalizing bs with
  | nil =>
    rw [List.forall₂_nil_left_iff, List.mapM_nil]
    exact ⟨fun h => (Except.ok.inj h).symm, fun h => congrArg Except.ok h.symm⟩
  | cons a l ih =>
    rw [List.mapM_cons, List.forall₂_cons_left_iff]
    cases ha : f a with
    | error e => simp [bind, Except.bind]
    | ok b =>
      cases hl : l.mapM f with
      | error e => simp [bind, Except.bind, ← ih, hl]
      | ok bs' => simp [bind, Except.bind, pure, Except.pure, ← ih, hl, eq_comm]

theorem exists_forall₂_iff {R : α → β → Prop} {l : List α} :
    (∃ bs, List.Forall₂ R l bs) ↔ ∀ a ∈ l, ∃ b, R a b := by
  induction l with
  | nil => simp
  | cons a l ih =>
    rw [List.forall_mem_cons, ← ih]
    simp only [List.forall₂_cons_left_iff]
    constructor
    · rintro ⟨_, b, bs, hb, hbs, -⟩
      exact ⟨⟨b, hb⟩, bs, hbs⟩
    · rintro ⟨⟨b, hb⟩, bs, hbs⟩
      exact ⟨b :: bs, b, bs, hb, hbs, rfl⟩

theorem exists_map_of_perm_map {f : α → β} {l : List β} {xs : List α} (h : l.Perm (xs.map f)) :
    ∃ ys : List α, ys.Perm xs ∧ l = ys.map f := by
  have hxs : List.Forall₂ (fun b a => b = f a) (xs.map f) xs :=
    List.forall₂_map_left_iff.mpr (List.forall₂_same.mpr fun _ _ => rfl)
  obtain ⟨ys, hl, hys⟩ := List.perm_comp_forall₂ h hxs
  refine ⟨ys, hys, ?_⟩
  rw [← List.forall₂_eq_eq_eq, List.forall₂_map_right_iff]
  exact hl

end Results

namespace Category

/-! ## Records as templates -/

namespace Record

def isMain (r : Record) : Bool := r.value .parentId == .null

/-- The template that a record holds, if it has the texts and numbers that a template needs. -/
def template? (r : Record) : Option Template := do
  let word ← (r.value .kind).text?
  let id ← (r.value .id).text?
  let name ← (r.value .name).text?
  let englishName ← (r.value .englishName).optionalText?
  let pinyin ← (r.value .pinyin).optionalText?
  let shortPinyin ← (r.value .shortPinyin).optionalText?
  let icon ← (r.value .icon).optionalText?
  let parentId ← (r.value .parentId).optionalText?
  let isActive ← (r.value .isActive).number?
  let color ← (r.value .color).optionalText?
  return { id, name, englishName := englishName.getD [], pinyin, shortPinyin, icon := icon.getD []
           kind := (Kind.ofWord? word).getD .expense, parentId, isActive := isActive != 0
           color := color.getD [] }

def ReadsAs (r : Record) (t : Template) : Prop := r.template? = some t

end Record

open Database in
theorem Catalogue.readTemplate_eq_ok_iff {a : Answer} {r : Record} {t : Template} :
    readTemplate a (Column.all.map r.value) = .ok t ↔ r.ReadsAs t := by
  have hread : (readTemplate a (Column.all.map r.value)).toOption = r.template? := by
    simp only [readTemplate, toOption_bind, Answer.text?_toOption, Answer.optionalText?_toOption,
      Answer.number?_toOption]
    rfl
  rw [← toOption_eq_some_iff, hread, Record.ReadsAs]

/-! ## The order of records -/

variable {rows : List Record} {a : Answer}

/-- What the query of the records orders them by: whether they have a parent, and their numbers. -/
def Record.place (r : Record) : Bool ×ₗ Int := toLex (!r.isMain, r.number)

/-- Records with the main categories before the others, and otherwise in their order. -/
def mainRecordsFirst (rows : List Record) : List Record := rows.filter (·.isMain) ++ rows.filter (!·.isMain)

theorem mayPrecede_integer {m n : Int} (h : MayPrecede (.integer m) (.integer n)) : m ≤ n := by
  rcases h with h | h
  · exact absurd h (Nat.lt_irrefl _)
  · exact h.2

theorem mayPrecede_ofText {t u : Text} (h : MayPrecede (.ofText t) (.ofText u)) : t ≤ u := by
  rcases h with h | h
  · exact absurd h (Nat.lt_irrefl _)
  · exact h.2 t u (Value.text?_ofText t) (Value.text?_ofText u)

theorem place_le_of_mayPrecedeBy {r r' : Record} (h : Query.MayPrecedeBy [] [r] [r'] rowQuery.order) :
    r.place ≤ r'.place := by
  have hvalue : ∀ r : Record, (Shown.value hasParent).ofLine [] [r] = .integer (if r.isMain then 0 else 1) := by
    intro r
    simp only [Shown.ofLine, hasParent, Formula.value, Formula.ofBool, List.head?_cons, Option.map_some,
      Option.getD_some, Record.isMain]
    by_cases hnull : r.value .parentId = .null <;> simp [hnull]
  obtain ⟨hparent, hnumber⟩ := h
  simp only [hvalue] at hparent hnumber
  have hle := mayPrecede_integer hparent
  have hnumber := fun heq => mayPrecede_integer (hnumber heq).1
  refine Prod.Lex.toLex_le_toLex.mpr ?_
  cases hr : r.isMain <;> cases hr' : r'.isMain <;> simp [hr, hr'] at hle hnumber ⊢ <;> exact hnumber

theorem pairwise_mainRecordsFirst (h : rows.Pairwise (·.number < ·.number)) :
    (mainRecordsFirst rows).Pairwise (·.place ≤ ·.place) := by
  have hpart : ∀ (p : Record → Bool) (b : Bool), (∀ r, p r = true → r.isMain = b) →
      (rows.filter p).Pairwise (·.place ≤ ·.place) := by
    intro p b hp
    refine (h.filter p).imp_of_mem fun hr hr' hlt => Prod.Lex.toLex_le_toLex.mpr (.inr ⟨?_, Int.le_of_lt hlt⟩)
    rw [hp _ (List.mem_filter.mp hr).2, hp _ (List.mem_filter.mp hr').2]
  refine List.pairwise_append.mpr ⟨hpart _ true (by simp), hpart _ false (by simp), fun r hr r' hr' => ?_⟩
  have hmain : r.isMain = true := (List.mem_filter.mp hr).2
  have hchild : r'.isMain = false := by simpa using (List.mem_filter.mp hr').2
  exact Prod.Lex.toLex_le_toLex.mpr (.inl (by rw [hmain, hchild]; exact Bool.false_lt_true))

theorem rows_of_rowQuery (hrows : rows.Pairwise (·.number < ·.number)) (ha : rowQuery.Answers [] rows a) :
    a.rows = (mainRecordsFirst rows).map fun r => Column.all.map r.value := by
  obtain ⟨lines, hperm, horder, ha⟩ := ha
  have hlines : rowQuery.lines [] rows = rows.map ([·]) := by simp [Query.lines, rowQuery]
  obtain ⟨records, hrecords, rfl⟩ := exists_map_of_perm_map (hlines ▸ hperm)
  have hperm : records.Perm (mainRecordsFirst rows) := hrecords.trans (List.filter_append_perm _ _).symm
  have hnodup : (rows.map (·.number)).Nodup := List.pairwise_map.mpr (hrows.imp fun h => Int.ne_of_lt h)
  have heq : records = mainRecordsFirst rows := by
    refine List.Perm.eq_of_pairwise (fun r r' hr hr' hle hle' => ?_)
      ((List.pairwise_map.mp horder).imp place_le_of_mayPrecedeBy) (pairwise_mainRecordsFirst hrows) hperm
    have hnumber : r.number = r'.number := congrArg (fun p => (ofLex p).2) (le_antisymm hle hle')
    exact List.inj_on_of_nodup_map hnodup (hrecords.subset hr)
      ((List.filter_append_perm _ _).subset hr') hnumber
  rw [ha, heq]
  exact List.map_map

/-! ## Counts -/

namespace Record

def isActive (r : Record) : Bool := r.value .isActive == .integer 1

def isActiveOf (word : Text) (r : Record) : Bool := r.isActive && r.value .kind == .ofText word

end Record

/-- The counts tell each type that has an active record once, and count its records. -/
structure Recounts (rows : List Record) (counts : List TypeCount) : Prop where
  once : (counts.map (·.word)).Nodup
  mem_iff : ∀ word, word ∈ counts.map (·.word) ↔ ∃ r ∈ rows, r.isActiveOf word = true
  count : ∀ c ∈ counts, c.total = rows.countP (·.isActiveOf c.word) ∧
    c.parents = rows.countP (fun r => r.isMain && r.isActiveOf c.word) ∧
    c.children = rows.countP (fun r => !r.isMain && r.isActiveOf c.word) ∧ c.total = c.parents + c.children

theorem sum_choice (c : Formula) {l : List Record} (hne : l ≠ []) :
    (Shown.sum (.choice c (.constant 1) (.constant 0))).ofLine [] l =
      .integer (l.countP fun r => Formula.holds (c.value [] r)) := by
  have hsum : ∀ l : List Record,
      l.foldr (fun r n => whole ((Formula.choice c (.constant 1) (.constant 0)).value [] r) + n) 0 =
        (l.countP fun r => Formula.holds (c.value [] r) : Int) := by
    intro l
    induction l with
    | nil => rfl
    | cons r l ih =>
      rw [List.foldr_cons, ih, List.countP_cons, Formula.value]
      cases Formula.holds (c.value [] r) <;> simp [Formula.value, whole, Int.add_comm]
  have hempty : l.isEmpty = false := by simpa using hne
  rw [Shown.ofLine, hempty, if_neg Bool.false_ne_true, hsum]

def activeOf (rows : List Record) (kind : Value) : List Record :=
  (rows.filter (·.isActive)).filter fun r => r.value .kind == kind

theorem countP_and_isActiveOf (rows : List Record) (p : Record → Bool) (word : Text) :
    rows.countP (fun r => p r && r.isActiveOf word) = (activeOf rows (.ofText word)).countP p := by
  rw [activeOf, List.countP_filter, List.countP_filter]
  exact List.countP_congr fun r _ => by
    simp only [Record.isActiveOf, Bool.and_comm, Bool.and_left_comm]

theorem countP_isActiveOf (rows : List Record) (word : Text) :
    rows.countP (·.isActiveOf word) = (activeOf rows (.ofText word)).length := by
  simpa using countP_and_isActiveOf rows (fun _ => true) word

/-- The count of the type that a value names. -/
def countOf (rows : List Record) (kind : Value) : TypeCount where
  word := kind.text?.getD []
  total := (activeOf rows kind).length
  parents := (activeOf rows kind).countP (·.isMain)
  children := (activeOf rows kind).countP (!·.isMain)

theorem word_countOf (rows : List Record) (word : Text) : (countOf rows (.ofText word)).word = word := by
  rw [countOf, Value.text?_ofText, Option.getD_some]

theorem rowOf_countQuery {kind : Value} (h : kind ∈ (rows.filter (·.isActive)).map (·.value .kind)) :
    countQuery.rowOf [] (activeOf rows kind) = [kind, .integer (countOf rows kind).total,
      .integer (countOf rows kind).parents, .integer (countOf rows kind).children] := by
  obtain ⟨r, hr, rfl⟩ := List.mem_map.mp h
  have hmem : r ∈ activeOf rows (r.value .kind) := List.mem_filter.mpr ⟨hr, beq_self_eq_true _⟩
  have hne : activeOf rows (r.value .kind) ≠ [] := List.ne_nil_of_mem hmem
  obtain ⟨head, tail, hline⟩ := List.exists_cons_of_ne_nil hne
  have hhead : head.value .kind = r.value .kind :=
    beq_iff_eq.mp (List.mem_filter.mp (hline ▸ List.mem_cons_self : head ∈ activeOf rows (r.value .kind))).2
  have hkind : (Shown.value (.column .kind)).ofLine [] (activeOf rows (r.value .kind)) = r.value .kind := by
    rw [hline]
    exact hhead
  have hmains : ∀ l : List Record, (l.countP fun r => Formula.holds (hasNoParent.value [] r)) = l.countP (·.isMain) :=
    fun l => List.countP_congr fun r _ => by simp [hasNoParent, Formula.value, Record.isMain]
  have hchildren : ∀ l : List Record, (l.countP fun r => Formula.holds (hasParent.value [] r)) =
      l.countP (!·.isMain) :=
    fun l => List.countP_congr fun r _ => by simp [hasParent, Formula.value, Record.isMain]
  simp only [Query.rowOf, countQuery, List.map_cons, List.map_nil, hkind, sum_choice _ hne, hmains, hchildren]
  rfl

theorem lines_countQuery (rows : List Record) : countQuery.lines [] rows =
    ((rows.filter (·.isActive)).map (·.value .kind)).eraseDups.map (activeOf rows) := by
  have hactive : ∀ r : Record, (countQuery.condition.all fun a => Formula.holds (a.value [] r)) = r.isActive := by
    intro r
    simp only [countQuery, Option.all_some, Formula.value, Record.isActive]
    by_cases hnull : r.value .isActive = .null <;> simp [hnull]
  simp only [Query.lines, hactive]
  rfl

theorem recounts_map_countOf (hchecked : ∀ r ∈ rows, ∃ k : Kind, r.value .kind = .ofText k.word) {kinds : List Value}
    (hkinds : kinds.Perm ((rows.filter (·.isActive)).map (·.value .kind)).eraseDups) :
    Recounts rows (kinds.map (countOf rows)) := by
  have hmem : ∀ kind, kind ∈ kinds ↔ ∃ r ∈ rows, r.isActive = true ∧ r.value .kind = kind := by
    intro kind
    rw [hkinds.mem_iff, List.mem_eraseDups, List.mem_map]
    simp only [List.mem_filter, and_assoc]
  have hword : ∀ kind ∈ kinds, ∃ word, kind = .ofText word ∧ (countOf rows kind).word = word := by
    intro kind hkind
    obtain ⟨r, hr, -, rfl⟩ := (hmem kind).mp hkind
    obtain ⟨k, hk⟩ := hchecked r hr
    exact ⟨k.word, hk, by rw [hk, word_countOf]⟩
  refine ⟨?_, fun word => ?_, fun c hc => ?_⟩
  · rw [List.map_map]
    refine List.Nodup.map_on (fun kind hkind kind' hkind' heq => ?_) (hkinds.nodup_iff.mpr (Text.nodup_eraseDups _))
    obtain ⟨word, rfl, hw⟩ := hword kind hkind
    obtain ⟨word', rfl, hw'⟩ := hword kind' hkind'
    rw [← hw, ← hw']
    exact congrArg Value.ofText heq
  · rw [List.map_map, List.mem_map]
    constructor
    · rintro ⟨kind, hkind, rfl⟩
      obtain ⟨word, rfl, hw⟩ := hword kind hkind
      obtain ⟨r, hr, hisActive, hkind'⟩ := (hmem _).mp hkind
      exact ⟨r, hr, by simp [Record.isActiveOf, hisActive, hkind', hw]⟩
    · rintro ⟨r, hr, hisActive⟩
      obtain ⟨hisActive, hkind⟩ := Bool.and_eq_true_iff.mp hisActive
      have hkind' := (hmem (.ofText word)).mpr ⟨r, hr, hisActive, beq_iff_eq.mp hkind⟩
      obtain ⟨word', hword', hw⟩ := hword _ hkind'
      exact ⟨_, hkind', hw.trans (Value.ofText_injective hword').symm⟩
  · obtain ⟨kind, hkind, rfl⟩ := List.mem_map.mp hc
    obtain ⟨word, rfl, hw⟩ := hword kind hkind
    rw [hw, countP_isActiveOf, countP_and_isActiveOf, countP_and_isActiveOf]
    exact ⟨rfl, rfl, rfl, by simpa [countOf] using List.length_eq_countP_add_countP Record.isMain⟩

/-! ## Names without an icon -/

def Record.lacksIcon (r : Record) : Bool := r.value .icon == .null || r.value .icon == .ofText []

theorem rows_of_iconlessQuery (ha : iconlessQuery.Answers [] rows a) :
    ∃ names : List Value, a.rows = names.map ([·]) ∧ names.Nodup ∧ names.Pairwise MayPrecede ∧
      ∀ name, name ∈ names ↔ ∃ r ∈ rows, r.lacksIcon = true ∧ r.value .name = name := by
  obtain ⟨lines, hperm, horder, ha⟩ := ha
  have hlacks : ∀ r : Record,
      (iconlessQuery.condition.all fun a => Formula.holds (a.value [] r)) = r.lacksIcon := by
    intro r
    simp only [iconlessQuery, Option.all_some, Formula.value, Record.lacksIcon]
    by_cases hnull : r.value .icon = .null
    · simp [hnull]
    · by_cases hempty : r.value .icon = .ofText [] <;> simp [hnull, hempty, Value.ofText_ne_null]
  have hlines : iconlessQuery.lines [] rows =
      ((rows.filter (·.lacksIcon)).map ([·])).eraseDupsBy fun l m =>
        iconlessQuery.rowOf [] l == iconlessQuery.rowOf [] m := by
    simp only [Query.lines, hlacks]
    rfl
  let nameOf := fun line => (Shown.value (.column .name)).ofLine [] line
  have hrows : a.rows = (lines.map nameOf).map ([·]) := by
    rw [ha, List.map_map]
    rfl
  have hnames : a.rows.Perm ((rows.filter (·.lacksIcon)).map fun r => [r.value .name]).eraseDups := by
    rw [ha]
    refine ((hlines ▸ hperm).map (iconlessQuery.rowOf [])).trans (.of_eq ?_)
    rw [Text.map_eraseDupsBy, List.map_map]
    rfl
  have hnodup : a.rows.Nodup := hnames.nodup_iff.mpr (Text.nodup_eraseDups _)
  refine ⟨lines.map nameOf, hrows, List.Nodup.of_map _ (hrows ▸ hnodup),
    List.pairwise_map.mpr (horder.imp fun h => h.1), fun name => ?_⟩
  have hmem : name ∈ lines.map nameOf ↔ [name] ∈ a.rows := by
    rw [hrows, List.mem_map_of_injective List.singleton_injective]
  rw [hmem, hnames.mem_iff, List.mem_eraseDups, List.mem_map]
  simp [and_assoc]

/-! ## Looking up -/

section Engine

variable {σ : Type} {e : Engine σ} {v : View σ}

theorem listed_eq {α : Type} {q : Query} {ps : List Value} {s : σ} (h : e.ask q.text ps s = .ok a)
    (read : Answer → List Value → Except Database.Trouble α) :
    Catalogue.listed e q ps read s = (a.rows.mapM (read a)).mapError (Failure.statement none) := by
  rw [Catalogue.listed, h]
  rfl

theorem templates_eq_ok_iff (h : e.Tells v) {s : σ} {ts : List Template} :
    Catalogue.templates e s = .ok ts ↔ List.Forall₂ Record.ReadsAs (mainRecordsFirst (v.rows s)) ts := by
  obtain ⟨a, hask, ha⟩ := h.ask .rows s
  have hmap : ∀ x : Except Database.Trouble (List Template), x.mapError (Failure.statement none) = .ok ts ↔ x = .ok ts := by
    intro x
    cases x <;> simp [Except.mapError]
  rw [Catalogue.templates, listed_eq hask, hmap, rows_of_rowQuery (h.ascending s) ha, List.mapM_map, mapM_eq_ok_iff]
  simp only [Function.comp_apply, Catalogue.readTemplate_eq_ok_iff]

/-- The counts can be told of any table, and they are right. -/
theorem gives_counts (h : e.Documented v) (s : σ) :
    ∃ counts, Catalogue.counts e s = .ok counts ∧ Recounts (v.rows s) counts := by
  obtain ⟨a, hask, lines, hperm, -, ha⟩ := h.ask .counts s
  rw [lines_countQuery] at hperm
  obtain ⟨kinds, hkinds, rfl⟩ := exists_map_of_perm_map hperm
  refine ⟨kinds.map (countOf (v.rows s)), ?_, recounts_map_countOf (h.checked s) hkinds⟩
  have hrows : a.rows = kinds.map fun kind => [kind, .integer (countOf (v.rows s) kind).total,
      .integer (countOf (v.rows s) kind).parents, .integer (countOf (v.rows s) kind).children] := by
    rw [ha]
    refine List.map_map.trans (List.map_congr_left fun kind hkind => rowOf_countQuery ?_)
    exact List.mem_eraseDups.mp (hkinds.subset hkind)
  have hread : ∀ kind ∈ kinds, Catalogue.readCount a [kind, .integer (countOf (v.rows s) kind).total,
      .integer (countOf (v.rows s) kind).parents, .integer (countOf (v.rows s) kind).children] =
        .ok (countOf (v.rows s) kind) := by
    intro kind hkind
    obtain ⟨r, hr, rfl⟩ := List.mem_map.mp (List.mem_eraseDups.mp (hkinds.subset hkind))
    obtain ⟨k, hk⟩ := h.checked s r (List.mem_filter.mp hr).1
    have hword : ∀ values : List Value, a.text? 0 (r.value .kind :: values) = .ok k.word :=
      fun _ => Answer.text?_eq_ok_iff.mpr hk
    have htold : (countOf (v.rows s) (r.value .kind)).word = k.word := by rw [hk, word_countOf]
    rw [Catalogue.readCount, hword, ← htold]
    rfl
  rw [Catalogue.counts, listed_eq hask, hrows, List.mapM_map]
  exact congrArg _ (mapM_eq_ok_iff.mpr (List.forall₂_map_right_iff.mpr (List.forall₂_same.mpr hread)))

/-- The names of the records without an icon are told in order and each once. They cannot be told if one of them is no
text. -/
theorem gives_names (h : e.Tells v) (s : σ) :
    match Catalogue.namesWithoutIcon e s with
    | .ok names => names.Pairwise (· < ·) ∧
        ∀ name, name ∈ names ↔ ∃ r ∈ v.rows s, r.lacksIcon = true ∧ r.value .name = .ofText name
    | .error _ => ∃ r ∈ v.rows s, r.lacksIcon = true ∧ ∀ name, r.value .name ≠ .ofText name := by
  obtain ⟨a, hask, ha⟩ := h.ask .iconless s
  obtain ⟨names, hrows, hnodup, horder, hmem⟩ := rows_of_iconlessQuery ha
  have hread : ∀ name t, a.text? 0 [name] = .ok t ↔ name = .ofText t := fun name t => Answer.text?_eq_ok_iff
  rw [Catalogue.namesWithoutIcon, listed_eq hask, hrows, List.mapM_map]
  cases htexts : names.mapM (a.text? 0 ∘ ([·])) with
  | ok texts =>
    have hnames : names = texts.map .ofText := by
      rw [← List.forall₂_eq_eq_eq, List.forall₂_map_right_iff]
      exact (mapM_eq_ok_iff.mp htexts).imp fun name t => (hread name t).mp
    rw [hnames] at hnodup horder
    refine ⟨?_, fun text => ?_⟩
    · refine ((List.pairwise_map.mp horder).and (List.Nodup.of_map _ hnodup)).imp fun hboth => ?_
      exact lt_of_le_of_ne (mayPrecede_ofText hboth.1) hboth.2
    · rw [← hmem, hnames, List.mem_map_of_injective fun _ _ => Value.ofText_injective]
  | error t =>
    change ∃ r ∈ v.rows s, r.lacksIcon = true ∧ ∀ name, r.value .name ≠ .ofText name
    by_contra hall
    push Not at hall
    have htext : ∀ name ∈ names, ∃ text, a.text? 0 [name] = .ok text := by
      intro name hname
      obtain ⟨r, hr, hlacks, rfl⟩ := (hmem name).mp hname
      obtain ⟨text, htext⟩ := hall r hr hlacks
      exact ⟨text, (hread _ _).mpr htext⟩
    obtain ⟨texts, hread⟩ := exists_forall₂_iff.mpr htext
    cases htexts.symm.trans (mapM_eq_ok_iff.mpr hread)

end Engine

end Category
end Upkeep
