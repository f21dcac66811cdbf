import Upkeep.Proofs.Category.Shelf

/-!
# Imports of a hierarchy

What an import makes of the template table, and what it tells of that.

* `ParentsFirst`: in a plan every row comes behind its parent (`parentsFirst_plan`), so the parent of a row is in the
  table when the row is inserted.
* `untaken`: the rows of a plan that come. `gives_insertAll` tells what becomes of a plan, by induction on it: the
  records and the counters are those of the rows that came so far.
* `import_all_or_nothing`: an import comes as a whole, with a report that fits the table, or a refused statement leaves
  the table as it was.
* `import_taken_back`: with triggers statements may do other things than they mean. A failed import is taken back all the
  same.
-/

namespace Upkeep.Category
open Database (Value)

/-! ## Plans -/

/-- Every row that has a parent comes behind it, or the parent is known before. -/
def ParentsFirst (known : List Text) : List Template → Prop
  | [] => True
  | c :: cs => (∀ p, c.parentId = some p → p ∈ known) ∧ ParentsFirst (known ++ [c.id]) cs

variable {known more : List Text} {plan rest : List Template}

theorem ParentsFirst.mono (h : ParentsFirst known plan) (hsub : known ⊆ more) : ParentsFirst more plan := by
  induction plan generalizing known more with
  | nil => trivial
  | cons c cs ih =>
    refine ⟨fun p hp => hsub (h.1 p hp), ih h.2 ?_⟩
    exact List.append_subset.mpr
      ⟨fun i hi => List.mem_append_left _ (hsub hi), List.subset_append_right _ _⟩

theorem ParentsFirst.append (h : ParentsFirst known plan) (hrest : ParentsFirst known rest) :
    ParentsFirst known (plan ++ rest) := by
  induction plan generalizing known with
  | nil => exact hrest
  | cons c cs ih => exact ⟨h.1, ih h.2 (hrest.mono (List.subset_append_left _ _))⟩

namespace Hierarchy

variable (reading : Char → Option Text) (ids : Nat → Text) (kind : Kind)

theorem parentsFirst_planChildren {parent : Text} (h : parent ∈ known) (n : Nat) (es : List Entry) :
    ParentsFirst known (planChildren reading ids kind parent n es) := by
  induction es generalizing known n with
  | nil => trivial
  | cons e es ih =>
    refine ⟨fun p hp => ?_, ih (List.mem_append_left _ h) (n + 1)⟩
    obtain rfl := Option.some.inj hp
    exact h

theorem parentsFirst_planFamily (known : List Text) (n : Nat) (m : MainEntry) :
    ParentsFirst known (planFamily reading ids kind n m) := by
  have hroot : ∀ p, (none : Option Text) = some p → p ∈ known := fun p hp => by cases hp
  exact ⟨hroot, parentsFirst_planChildren reading ids kind (List.mem_append_right _ List.mem_cons_self) _ _⟩

theorem parentsFirst_planSection (known : List Text) (n : Nat) (ms : List MainEntry) :
    ParentsFirst known (planSection reading ids kind n ms) := by
  induction ms generalizing n with
  | nil => trivial
  | cons m ms ih => exact (parentsFirst_planFamily reading ids kind known n m).append (ih _)

theorem parentsFirst_plan (h : Hierarchy) : ParentsFirst [] (h.plan reading ids) :=
  (parentsFirst_planSection reading ids .expense [] _ _).append (parentsFirst_planSection reading ids .income [] _ _)

end Hierarchy

/-! ## Rows -/

/-- What a template has in a column. -/
def Template.value (t : Template) : Column → Value
  | .id => .ofText t.id
  | .name => .ofText t.name
  | .englishName => .ofText t.englishName
  | .pinyin => .ofText? t.pinyin
  | .shortPinyin => .ofText? t.shortPinyin
  | .icon => .ofText t.icon
  | .kind => .ofText t.kind.word
  | .parentId => .ofText? t.parentId
  | .isActive => .integer (if t.isActive then 1 else 0)
  | .color => .ofText t.color

def idsOf (rows : List Record) : List Value := rows.map (·.value .id)

/-- The rows of a plan whose ids are not taken, neither before nor by an earlier row. -/
def untaken (taken : List Value) : List Template → List Template
  | [] => []
  | c :: cs => if .ofText c.id ∈ taken then untaken taken cs else c :: untaken (taken ++ [.ofText c.id]) cs

theorem does_insertion_iff {c : Template} {before after : List Record} {n : Nat} :
    insertion.Does (Catalogue.values c) before n after ↔
      if .ofText c.id ∈ idsOf before then n = 0 ∧ after = before
      else n = 1 ∧ ∃ number, (∀ r ∈ before, r.number < number) ∧ after = before ++ [⟨number, c.value⟩] := by
  have hbound : Change.bound [.id, .name, .englishName, .pinyin, .shortPinyin, .icon, .kind, .parentId, .isActive, .color]
      (Catalogue.values c) = c.value := by
    funext column
    cases column <;> rfl
  have hid : (Value.ofText c.id ≠ .null ∧ .ofText c.id ∈ before.map (·.value .id)) ↔ .ofText c.id ∈ idsOf before :=
    and_iff_right (Value.ofText_ne_null c.id)
  unfold insertion Change.Does
  simp only [List.flatten_cons, List.flatten_nil, List.append_nil, List.cons_append, List.nil_append, hbound]
  simp only [Template.value, hid]

theorem idsOf_append (rows new : List Record) : idsOf (rows ++ new) = idsOf rows ++ idsOf new := List.map_append

/-- Whether a row came or its id was taken, the id is in the table, and so are those of before. -/
theorem idsOf_of_insertion {c : Template} {before after : List Record} {n : Nat}
    (h : insertion.Does (Catalogue.values c) before n after) :
    .ofText c.id ∈ idsOf after ∧ idsOf before ⊆ idsOf after := by
  rw [does_insertion_iff] at h
  split at h
  · next htaken =>
    rw [h.2]
    exact ⟨htaken, List.Subset.refl _⟩
  · obtain ⟨-, number, -, rfl⟩ := h
    rw [idsOf_append]
    exact ⟨List.mem_append_right _ List.mem_cons_self, List.subset_append_left _ _⟩

/-! ## Inserting rows -/

/-- The rows of a plan have come behind some records, and so many main categories and children among them. -/
structure Came (before after : List Record) (new : List Template) (counters : Nat × Nat) : Prop where
  rows : ∃ records : List Record, after = before ++ records ∧ records.map (·.value) = new.map Template.value
  parents : counters.1 = new.countP Template.isRoot
  children : counters.2 = new.countP (!·.isRoot)

/-- The rows of a plan came behind the row in front of them, if that came. -/
theorem Came.cons {c : Template} {cs : List Template} {before mid after : List Record} {n : Nat} {counters : Nat × Nat}
    (hn : insertion.Does (Catalogue.values c) before n mid) (h : Came mid after (untaken (idsOf mid) cs) counters) :
    Came before after (untaken (idsOf before) (c :: cs))
      (if n = 0 then counters
        else if c.isRoot then (counters.1 + 1, counters.2) else (counters.1, counters.2 + 1)) := by
  rw [does_insertion_iff] at hn
  rw [untaken]
  split at hn
  · next htaken =>
    obtain ⟨rfl, rfl⟩ := hn
    rw [if_pos htaken]
    exact h
  · next hfree =>
    obtain ⟨rfl, number, -, rfl⟩ := hn
    have hids : idsOf (before ++ [⟨number, c.value⟩]) = idsOf before ++ [.ofText c.id] := idsOf_append _ _
    obtain ⟨⟨new, hrows, hnew⟩, hparents, hchildren⟩ := h
    rw [hids] at hnew hparents hchildren
    rw [if_neg hfree, if_neg Nat.one_ne_zero]
    refine ⟨⟨⟨number, c.value⟩ :: new, by rw [hrows, List.append_assoc]; rfl, by simp [hnew]⟩, ?_, ?_⟩
    · rw [List.countP_cons, ← hparents]
      cases c.isRoot <;> rfl
    · rw [List.countP_cons, ← hchildren]
      cases c.isRoot <;> rfl

section Engine

variable {σ : Type} {e : Engine σ} {v : View σ} {s : σ}

/-- The row of a plan is refused, though its parent is in the table. -/
inductive RefusesRow (e : Engine σ) (v : View σ) (plan : List Template) (f : Failure) : Prop
  | inserting (c : Template) (s : σ) (hmem : c ∈ plan) (hparent : ∀ p, c.parentId = some p → .ofText p ∈ idsOf (v.rows s))
      (hrefused : RefusedOn s (e.execute insertion.text (Catalogue.values c)) (some (.inserting c.name)) f)

theorem RefusesRow.mono {f : Failure} (h : RefusesRow e v plan f) (hsub : plan ⊆ rest) : RefusesRow e v rest f := by
  obtain ⟨c, s, hmem, hparent, hrefused⟩ := h
  exact ⟨c, s, hsub hmem, hparent, hrefused⟩

namespace Catalogue

theorem gives_insertAll (h : e.Documented v) (hplan : ParentsFirst known plan)
    (hknown : ∀ p ∈ known, .ofText p ∈ idsOf (v.rows s)) : Gives (insertAll e plan) s
      (fun counters s' => Came (v.rows s) (v.rows s') (untaken (idsOf (v.rows s)) plan) counters ∧ v.kept s' = v.kept s)
      fun f s' => RefusesRow e v plan f ∧ v.kept s' = v.kept s := by
  induction plan generalizing s known with
  | nil => exact Gives.pure ⟨⟨⟨[], by simp, rfl⟩, rfl, rfl⟩, rfl⟩
  | cons c cs ih =>
    obtain ⟨hparent, hrest⟩ := hplan
    refine (gives_change h (.insertion c) (some (.inserting c.name)) s).bind (fun f s' hf => ⟨?_, hf.2⟩)
      fun n s₁ hinsert => ?_
    · exact .inserting c s List.mem_cons_self (fun p hp => hknown p (hparent p hp)) hf.1
    obtain ⟨hn, hkept⟩ := hinsert
    have hids := idsOf_of_insertion hn
    have hknown₁ : ∀ p ∈ known ++ [c.id], .ofText p ∈ idsOf (v.rows s₁) := by
      intro p hp
      rcases List.mem_append.mp hp with hp | hp
      · exact hids.2 (hknown p hp)
      · obtain rfl := List.mem_singleton.mp hp
        exact hids.1
    refine (ih hrest hknown₁).bind (fun f s' hf => ⟨hf.1.mono (List.subset_cons_self c cs), hf.2.trans hkept⟩)
      fun counters s₂ hcame => Gives.pure ⟨hcame.1.cons hn, hcame.2.trans hkept⟩

end Catalogue

/-! ## Imports -/

def added (before : List Record) (plan : List Template) (clear : Bool) : List Template :=
  untaken (idsOf (if clear then [] else before)) plan

/-- What an import has made of the table, and what it tells of that. -/
structure Imported (before after : List Record) (plan : List Template) (clear : Bool) (told : ImportReport) : Prop where
  rows : ∃ new : List Record, after = (if clear then [] else before) ++ new ∧
    new.map (·.value) = (added before plan clear).map Template.value
  cleared : told.cleared = if clear then before.length else 0
  parents : told.parents = (added before plan clear).countP Template.isRoot
  children : told.children = (added before plan clear).countP (!·.isRoot)
  length : after.length + told.cleared = before.length + told.imported
  counts : Recounts after told.counts

/-- What has become of the table with the rows of a plan, and the numbers of rows that went and came. -/
def Replaced (before after : List Record) (plan : List Template) (clear : Bool) (told : Nat × Nat × Nat) : Prop :=
  told.1 = (if clear then before.length else 0) ∧
    Came (if clear then [] else before) after (added before plan clear) told.2

/-- Why an import fails: one of its statements is refused. -/
inductive RefusesImport (e : Engine σ) (v : View σ) (s : σ) (plan : List Template) (clear : Bool) (f : Failure) : Prop
  | starting (hrefused : RefusedOn s e.start (some .startingImport) f)
  | clearing (s₁ : σ) (hclear : clear = true) (hrows : v.rows s₁ = v.rows s)
      (hrefused : RefusedOn s₁ (e.execute clearance.text []) none f)
  | inserting (hrefused : RefusesRow e v plan f)
  | keeping (s₁ : σ) (hrefused : RefusedOn s₁ e.commit (some .keepingImport) f)

namespace Catalogue

theorem replaceRows_eq (plan : List Template) (clear : Bool) : replaceRows e plan clear =
    (if clear then change e none clearance [] else pure 0) >>= fun cleared =>
      insertAll e plan >>= fun counters => pure (cleared, counters.1, counters.2) := by cases clear <;> rfl

theorem gives_replaceRows (h : e.Documented v) (hplan : ParentsFirst [] plan) (clear : Bool) (s : σ) :
    Gives (replaceRows e plan clear) s
      (fun told s' => Replaced (v.rows s) (v.rows s') plan clear told ∧ v.kept s' = v.kept s)
      fun f s' => (clear = true ∧ RefusedOn s (e.execute clearance.text []) none f ∨ RefusesRow e v plan f) ∧
        v.kept s' = v.kept s := by
  have hclear : Gives (if clear then change e none clearance [] else pure 0 : Work σ Nat) s
      (fun n s' => (n = (if clear then (v.rows s).length else 0) ∧
        v.rows s' = if clear then [] else v.rows s) ∧ v.kept s' = v.kept s)
      fun f s' => (clear = true ∧ RefusedOn s (e.execute clearance.text []) none f) ∧ v.kept s' = v.kept s := by
    cases clear with
    | false => exact Gives.pure ⟨⟨rfl, rfl⟩, rfl⟩
    | true =>
      exact (gives_change h .clearance none s).mono (fun _ _ hn => hn) fun f s' hf => ⟨⟨rfl, hf.1⟩, hf.2⟩
  rw [replaceRows_eq]
  have hinsert (s₁ : σ) := gives_insertAll h hplan (s := s₁) fun p hp => absurd hp List.not_mem_nil
  refine hclear.bind (fun f s' hf => ⟨.inl hf.1, hf.2⟩) fun n s₁ ⟨⟨hn, hrows⟩, hkept⟩ => ?_
  refine (hinsert s₁).bind (fun f s' hf => ⟨.inr hf.1, hf.2.trans hkept⟩) fun counters s₂ ⟨hcame, hkept₂⟩ => ?_
  refine Gives.pure ⟨⟨hn, ?_⟩, hkept₂.trans hkept⟩
  rw [hrows] at hcame
  exact hcame

theorem gives_importTemplates (h : e.Documented v) (hplan : ParentsFirst [] plan) (clear : Bool) (s : σ) :
    Gives (importTemplates e plan clear) s (fun told s' => Imported (v.rows s) (v.rows s') plan clear told)
      fun f s' => v.rows s' = v.rows s ∧ RefusesImport e v s plan clear f := by
  have hwork : ∀ s', v.rows s' = v.rows s → v.kept s' = v.rows s → Gives (replaceRows e plan clear) s'
      (fun told s₁ => Replaced (v.rows s) (v.rows s₁) plan clear told ∧ v.kept s₁ = v.rows s)
      fun f s₁ => RefusesImport e v s plan clear f ∧ v.kept s₁ = v.rows s := by
    intro s' hrows hkept
    have hreplace := gives_replaceRows h hplan clear s'
    rw [hrows, hkept] at hreplace
    refine hreplace.mono (fun _ _ htold => htold) fun f s₁ hf => ⟨?_, hf.2⟩
    obtain ⟨hclear, hrefused⟩ | hrow := hf.1
    · exact .clearing s' hclear hrows hrefused
    · exact .inserting hrow
  have htransaction := gives_transaction h.toTakesBack s .startingImport .keepingImport
    (fun told after => Replaced (v.rows s) after plan clear told) (RefusesImport e v s plan clear) hwork
  refine htransaction.bind (fun f s' hf => ⟨hf.1, ?_⟩) fun moved s' ⟨hcleared, hcame⟩ => ?_
  · obtain hstart | hrefused | ⟨s₁, hcommit⟩ := hf.2
    · exact .starting hstart
    · exact hrefused
    · exact .keeping s₁ hcommit
  obtain ⟨recounts, hcounts, hrecounts⟩ := gives_counts h s'
  refine (gives_look (counts e) s').bind (fun f _ hf => nomatch hcounts.symm.trans hf.1) ?_
  rintro told _ ⟨htold, rfl⟩
  obtain rfl : recounts = told := Except.ok.inj (hcounts.symm.trans htold)
  obtain ⟨⟨new, hrows, hnew⟩, hparents, hchildren⟩ := hcame
  have hlength : new.length = moved.2.1 + moved.2.2 := by
    rw [hparents, hchildren, ← List.length_map (f := (·.value)), hnew, List.length_map]
    simpa using List.length_eq_countP_add_countP Template.isRoot (l := added (v.rows s) plan clear)
  refine Gives.pure ⟨⟨new, hrows, hnew⟩, hcleared, hparents, hchildren, ?_, hrecounts⟩
  simp only [ImportReport.imported, hrows, List.length_append, hlength, hcleared]
  cases clear with
  | true => simp [Nat.add_comm]
  | false => simp

/-- An import comes as a whole or not at all, and what it tells fits the table. If it fails, a statement was refused and
the table is what it was. If it succeeds, the rows of the plan with new ids stand behind the old ones, or behind none when
the table was cleared, and the numbers that are told are those of the rows. -/
theorem import_all_or_nothing (h : e.Documented v) (s : σ) (reading : Char → Option Text) (ids : Nat → Text)
    (hierarchy : Hierarchy) (clear : Bool) :
    Gives (importHierarchy e reading ids hierarchy clear) s
      (fun told s' => Imported (v.rows s) (v.rows s') (hierarchy.plan reading ids) clear told)
      fun f s' => v.rows s' = v.rows s ∧ RefusesImport e v s (hierarchy.plan reading ids) clear f :=
  gives_importTemplates h (hierarchy.parentsFirst_plan reading ids) clear s

def stock : Shelf :=
  .ofRecords [.plain 1 (.ofText ['1']) ['a'] .null, .plain 2 .null ['a'] .null] (by decide +kernel)

def refusesName (name : Text) (c : Change) (ps : List Value) : Bool := c == insertion && ps[1]? == some (.ofText name)

/-- The table is what it was when the child is refused, though it was cleared and the main category was added. Where
nothing is refused the main category comes, and the child, whose id is taken, does not. -/
theorem import_taken_back_or_made :
    (∃ f s', (importHierarchy (Shelf.engine (refusesName ['c'])) catReading numberedIds cats true).run stock =
      (.error f, s') ∧ Shelf.view.rows s' = Shelf.view.rows stock) ∧
    ∃ told s', (importHierarchy (Shelf.engine fun _ _ => false) catReading numberedIds cats false).run stock =
      (.ok told, s') ∧ told = ⟨0, 1, 0, [⟨"expense".toList, 1, 1, 0⟩, ⟨"income".toList, 2, 2, 0⟩]⟩ ∧
      ∃ number, Shelf.view.rows s' = Shelf.view.rows stock ++
        [⟨number, (Template.make catReading ['0'] ['猫'] none .expense none).value⟩] := by
  constructor
  · have himport := import_all_or_nothing (Shelf.documented (refusesName ['c'])) stock catReading numberedIds cats true
    have hfails : ((importHierarchy (Shelf.engine (refusesName ['c'])) catReading numberedIds cats true).run
      stock).1.isOk = false := by decide +kernel
    obtain ⟨told, s', heq, -⟩ | ⟨f, s', heq, hrows, -⟩ := himport
    · rw [heq] at hfails
      cases hfails
    · exact ⟨f, s', heq, hrows⟩
  · have himport := import_all_or_nothing (Shelf.documented fun _ _ => false) stock catReading numberedIds cats false
    have htold : ((importHierarchy (Shelf.engine fun _ _ => false) catReading numberedIds cats false).run
      stock).1.toOption = some ⟨0, 1, 0, [⟨"expense".toList, 1, 1, 0⟩, ⟨"income".toList, 2, 2, 0⟩]⟩ := by decide +kernel
    have hadded : added (Shelf.view.rows stock) (cats.plan catReading numberedIds) false =
        [Template.make catReading ['0'] ['猫'] none .expense none] := by decide +kernel
    obtain ⟨told, s', heq, himported⟩ | ⟨f, s', heq, -⟩ := himport
    · rw [heq] at htold
      obtain ⟨new, hrows, hnew⟩ := himported.rows
      rw [hadded, List.map_singleton, List.map_eq_singleton_iff] at hnew
      obtain ⟨⟨number, value⟩, rfl, rfl⟩ := hnew
      exact ⟨told, s', heq, Option.some.inj htold, number, hrows⟩
    · rw [heq] at htold
      cases htold

/-! ## Any database -/

theorem keeps_insertAll (h : e.TakesBack v) (rows : List Record) (plan : List Template) :
    Keeps (v.kept · = rows) (insertAll e plan) := by
  induction plan with
  | nil => exact Keeps.pure
  | cons c cs ih => exact (keeps_change h rows _ _ _).bind fun _ => ih.bind fun _ => Keeps.pure

theorem keeps_replaceRows (h : e.TakesBack v) (rows : List Record) (plan : List Template) (clear : Bool) :
    Keeps (v.kept · = rows) (replaceRows e plan clear) := by
  rw [replaceRows_eq]
  refine Keeps.bind ?_ fun _ => (keeps_insertAll h rows plan).bind fun _ => Keeps.pure
  cases clear with
  | false => exact Keeps.pure
  | true => exact keeps_change h rows none clearance []

theorem import_taken_back (h : e.TakesBack v) (plan : List Template) (clear : Bool) (s : σ) :
    Gives (importTemplates e plan clear) s (fun _ _ => True)
      fun f s' => v.rows s' = v.rows s ∨ counts e s' = .error f := by
  have htransaction := taken_back h s .startingImport .keepingImport
    fun rows => keeps_replaceRows h rows plan clear
  refine htransaction.bind (fun _ _ hrows => .inl hrows) fun told s' _ => ?_
  refine (gives_look (counts e) s').bind (fun f s₁ ⟨hf, hs₁⟩ => .inr (hs₁ ▸ hf)) fun _ _ _ => Gives.pure trivial

end Catalogue
end Engine
end Upkeep.Category
