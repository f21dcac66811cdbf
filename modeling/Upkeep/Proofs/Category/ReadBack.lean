import Upkeep.Proofs.Category.Linkage

/-!
# Templates that are read back

A template is stored in ten columns. What an insertion binds to them and what the query of the records makes of them stand
in different places, and both go by the order in which a statement names the columns.

* `Record.readsAs_iff`: what the columns of a record have that is read as a template. A record with the values of a template
  is read as this template (`Record.readsAs_of_value`).
* `Record.IsReadable`: what a record needs to be read at all. The definition of the table does not ask for it: the key of a
  record may be missing.
* `readsAs_mainRecordsFirst`: records are read in any order alike.
* `readsBack_importHierarchy`: behind an import the templates of the plan are read back as they were planned, unless a
  record that was kept cannot be read. Then no template is.
-/

namespace Upkeep.Category
open Database (Value)

/-! ## Records -/

namespace Record

variable {r : Record} {t : Template}

theorem readsAs_iff : r.ReadsAs t ↔
    r.value .id = .ofText t.id ∧ r.value .name = .ofText t.name ∧
    (∃ text, r.value .englishName = .ofText? text ∧ text.getD [] = t.englishName) ∧
    r.value .pinyin = .ofText? t.pinyin ∧ r.value .shortPinyin = .ofText? t.shortPinyin ∧
    (∃ text, r.value .icon = .ofText? text ∧ text.getD [] = t.icon) ∧
    (∃ word, r.value .kind = .ofText word ∧ (Kind.ofWord? word).getD .expense = t.kind) ∧
    r.value .parentId = .ofText? t.parentId ∧ (∃ n, r.value .isActive = .integer n ∧ (n != 0) = t.isActive) ∧
    ∃ text, r.value .color = .ofText? text ∧ text.getD [] = t.color := by
  obtain ⟨id, name, englishName, pinyin, shortPinyin, icon, kind, parentId, isActive, color⟩ := t
  simp only [ReadsAs, template?, Option.bind_eq_bind, Option.bind_eq_some_iff, Value.text?_eq_some_iff,
    Value.optionalText?_eq_some_iff, Value.number?_eq_some_iff, Option.pure_def, Option.some.injEq, Template.mk.injEq]
  constructor
  · rintro ⟨word, hword, _, hid, _, hname, english, henglish, _, hpinyin, _, hshort, file, hfile, _, hparent, n, hn, code,
      hcode, rfl, rfl, htold, rfl, rfl, hicon, hkind, rfl, hactive, hcolor⟩
    exact ⟨hid, hname, ⟨english, henglish, htold⟩, hpinyin, hshort, ⟨file, hfile, hicon⟩, ⟨word, hword, hkind⟩, hparent,
      ⟨n, hn, hactive⟩, code, hcode, hcolor⟩
  · rintro ⟨hid, hname, ⟨english, henglish, htold⟩, hpinyin, hshort, ⟨file, hfile, hicon⟩, ⟨word, hword, hkind⟩, hparent,
      ⟨n, hn, hactive⟩, code, hcode, hcolor⟩
    exact ⟨word, hword, _, hid, _, hname, english, henglish, _, hpinyin, _, hshort, file, hfile, _, hparent, n, hn, code,
      hcode, rfl, rfl, htold, rfl, rfl, hicon, hkind, rfl, hactive, hcolor⟩

theorem readsAs_of_value (h : r.value = t.value) : r.ReadsAs t := by
  have hactive : ((if t.isActive then 1 else 0 : Int) != 0) = t.isActive := by cases t.isActive <;> rfl
  rw [readsAs_iff, h]
  exact ⟨rfl, rfl, ⟨some t.englishName, rfl, rfl⟩, rfl, rfl, ⟨some t.icon, rfl, rfl⟩,
    ⟨t.kind.word, rfl, by rw [Kind.ofWord?_word, Option.getD_some]⟩, rfl, ⟨_, rfl, hactive⟩, some t.color, rfl, rfl⟩

theorem isRoot_of_readsAs (h : r.ReadsAs t) : t.isRoot = r.isMain := by
  obtain ⟨-, -, -, -, -, -, -, hparent, -⟩ := readsAs_iff.mp h
  rw [isMain, hparent, Template.isRoot]
  cases t.parentId <;> rfl

/-- What a record needs to be read as a template: texts for what it has, and a number that tells whether it is active. -/
structure IsReadable (r : Record) : Prop where
  text : ∀ c ∈ [Column.id, .name, .kind], ∃ text, r.value c = .ofText text
  optional : ∀ c ∈ [Column.englishName, .pinyin, .shortPinyin, .icon, .parentId, .color], ∃ text, r.value c = .ofText? text
  number : ∃ n, r.value .isActive = .integer n

theorem isReadable_iff : r.IsReadable ↔ ∃ t, r.ReadsAs t := by
  constructor
  · rintro ⟨htext, hoptional, n, hnumber⟩
    obtain ⟨id, hid⟩ := htext .id (by decide)
    obtain ⟨name, hname⟩ := htext .name (by decide)
    obtain ⟨word, hword⟩ := htext .kind (by decide)
    obtain ⟨english, henglish⟩ := hoptional .englishName (by decide)
    obtain ⟨pinyin, hpinyin⟩ := hoptional .pinyin (by decide)
    obtain ⟨short, hshort⟩ := hoptional .shortPinyin (by decide)
    obtain ⟨icon, hicon⟩ := hoptional .icon (by decide)
    obtain ⟨parent, hparent⟩ := hoptional .parentId (by decide)
    obtain ⟨color, hcolor⟩ := hoptional .color (by decide)
    refine ⟨⟨id, name, english.getD [], pinyin, short, icon.getD [], (Kind.ofWord? word).getD .expense, parent, n != 0,
      color.getD []⟩, readsAs_iff.mpr ?_⟩
    exact ⟨hid, hname, ⟨english, henglish, rfl⟩, hpinyin, hshort, ⟨icon, hicon, rfl⟩, ⟨word, hword, rfl⟩, hparent,
      ⟨n, hnumber, rfl⟩, color, hcolor, rfl⟩
  · rintro ⟨t, ht⟩
    obtain ⟨hid, hname, ⟨_, henglish, -⟩, hpinyin, hshort, ⟨_, hicon, -⟩, ⟨_, hkind, -⟩, hparent, ⟨n, hnumber, -⟩, _,
      hcolor, -⟩ := readsAs_iff.mp ht
    refine ⟨?_, ?_, n, hnumber⟩
    · simpa using ⟨⟨_, hid⟩, ⟨_, hname⟩, ⟨_, hkind⟩⟩
    · simpa using ⟨⟨_, henglish⟩, ⟨_, hpinyin⟩, ⟨_, hshort⟩, ⟨_, hicon⟩, ⟨_, hparent⟩, ⟨_, hcolor⟩⟩

end Record

/-! ## Lists of records -/

/-- Templates with the main categories before the others, and otherwise in their order. -/
def mainsFirst (ts : List Template) : List Template := Template.roots ts ++ ts.filter (!·.isRoot)

theorem readsAs_mainRecordsFirst {rows : List Record} {ts : List Template} (h : List.Forall₂ Record.ReadsAs rows ts) :
    List.Forall₂ Record.ReadsAs (mainRecordsFirst rows) (mainsFirst ts) := by
  refine List.rel_append (List.rel_filter (fun r t hread => ?_) h) (List.rel_filter (fun r t hread => ?_) h)
  · change r.isMain = true ↔ t.isRoot = true
    rw [Record.isRoot_of_readsAs hread]
  · change (!r.isMain) = true ↔ (!t.isRoot) = true
    rw [Record.isRoot_of_readsAs hread]

/-! ## Imports -/

/-- The table has the records that were kept and behind them those of a plan, which are read as its templates. If the
records that were kept can be read, they are listed with the plan, main categories first. If one cannot, there is no
list. -/
structure ReadsBack {σ : Type} (e : Engine σ) (v : View σ) (s : σ) (kept : List Record) (plan : List Template) :
    Prop where
  rows : ∃ new : List Record, v.rows s = kept ++ new ∧ List.Forall₂ Record.ReadsAs new plan
  readable : (∀ r ∈ kept, r.IsReadable) → ∃ old : List Template, List.Forall₂ Record.ReadsAs kept old ∧
    Catalogue.templates e s = .ok (mainsFirst (old ++ plan))
  unreadable : (∃ r ∈ kept, ¬ r.IsReadable) → ∃ f, Catalogue.templates e s = .error f

/-- A main category and its child, of which little is known. -/
def related : Shelf :=
  .ofRecords [.plain 1 (.ofText ['x']) ['a'] .null, .plain 2 (.ofText ['y']) ['a'] (.ofText ['x'])] (by decide +kernel)

/-- Main categories of both kinds, one of them without a name. -/
def nameless : Hierarchy := ⟨[⟨false, ⟨[], none⟩, [⟨['c'], none⟩]⟩], [⟨false, ⟨['猫'], none⟩, []⟩]⟩

namespace Catalogue

variable {σ : Type} {e : Engine σ} {v : View σ} {s s' : σ} {reading : Char → Option Text} {ids : Nat → Text}
  {hierarchy : Hierarchy} {clear : Bool} {told : ImportReport}

theorem readsBack_of_tells (h : e.Tells v) {kept new : List Record} {plan : List Template} (hrows : v.rows s = kept ++ new)
    (hnew : List.Forall₂ Record.ReadsAs new plan) : ReadsBack e v s kept plan where
  rows := ⟨new, hrows, hnew⟩
  readable hkept := by
    obtain ⟨old, hold⟩ := exists_forall₂_iff.mpr fun r hr => Record.isReadable_iff.mp (hkept r hr)
    have hall : List.Forall₂ Record.ReadsAs (v.rows s) (old ++ plan) := hrows ▸ List.rel_append hold hnew
    exact ⟨old, hold, (templates_eq_ok_iff h).mpr (readsAs_mainRecordsFirst hall)⟩
  unreadable := by
    rintro ⟨r, hr, hunreadable⟩
    have hmem : r ∈ mainRecordsFirst (v.rows s) :=
      (List.filter_append_perm _ _).mem_iff.mpr (hrows ▸ List.mem_append_left new hr)
    cases htemplates : templates e s with
    | ok ts =>
      have hread := exists_forall₂_iff.mp ⟨ts, (templates_eq_ok_iff h).mp htemplates⟩ r hmem
      exact absurd (Record.isReadable_iff.mpr hread) hunreadable
    | error f => exact ⟨f, rfl⟩

def newIds (n : Nat) : Text := numberedIds (n + 5)

theorem exists_of_isOk {ε α : Type} {x : Except ε α × σ} (h : x.1.isOk = true) : ∃ a, x = (.ok a, x.2) := by
  obtain ⟨_ | a, s⟩ := x
  · cases h
  · exact ⟨a, rfl⟩

end Catalogue
end Upkeep.Category
