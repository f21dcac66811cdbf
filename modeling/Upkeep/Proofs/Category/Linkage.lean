import Mathlib.Data.List.Nodup
import Upkeep.Proofs.Category.Icons
import Upkeep.Proofs.Category.Import

/-!
# Children and their parents

The template table keeps its families together, whatever is done to it.

* `Attached`: every row that has a parent comes behind it, and the parent is a main category of the same type and
  colour. So are the rows of a plan (`attached_plan`), and rows stay so when others of that sort come behind
  them (`Attached.append`) or when their icons change (`Attached.map`).
* `Linked`: besides, no two records have the same id.
* `Call.Makes`: all that a call can do to the records (`makes_call`). It keeps them linked (`linked_of_makes`), and only
  an update of icons leaves a record without one (`empties_of_makes`).
* `links_kept`: any number of calls, each of which may be refused at any row.
-/

namespace Upkeep.Category
open Database (Value)

/-- Every row that has a parent comes behind it. The parent has none itself, and is of the same type and colour. -/
def Attached (rows : List (Column → Value)) : Prop :=
  ∀ front r back, rows = front ++ r :: back → r .parentId ≠ .null →
    ∃ q ∈ front, q .id = r .parentId ∧ q .parentId = .null ∧ q .kind = r .kind ∧ q .color = r .color

/-- The records have different ids, and every child comes behind its parent. -/
structure Linked (rows : List Record) : Prop where
  nodup : (idsOf rows).Nodup
  attached : Attached (rows.map (·.value))

/-! ## Rows -/

section Rows

variable {rows new : List (Column → Value)}

theorem attached_nil : Attached [] := by
  intro front r back h
  simp at h

theorem Attached.append (h : Attached rows) (hnew : Attached new) : Attached (rows ++ new) := by
  intro front r back heq hr
  rcases List.append_eq_append_iff.mp heq with ⟨rest, rfl, hrest⟩ | ⟨rest, hrest, hback⟩
  · obtain ⟨q, hq, hparent⟩ := hnew rest r back hrest hr
    exact ⟨q, List.mem_append_right rows hq, hparent⟩
  · cases rest with
    | nil =>
      -- the row is the first of the new ones, and these have their parents among themselves
      obtain ⟨q, hq, -⟩ := hnew [] r back hback.symm hr
      cases hq
    | cons r' rest =>
      obtain ⟨rfl, -⟩ := List.cons.inj hback
      exact h front r rest hrest hr

theorem Attached.map {f : Record → Record} {records : List Record} (h : Attached (records.map (·.value)))
    (hf : ∀ r column, column ≠ .icon → (f r).value column = r.value column) :
    Attached ((records.map f).map (·.value)) := by
  intro front r back heq hr
  rw [List.map_map] at heq
  obtain ⟨front, rest, rfl, rfl, hrest⟩ := List.map_eq_append_iff.mp heq
  obtain ⟨r, back, rfl, rfl, rfl⟩ := List.map_eq_cons_iff.mp hrest
  rw [Function.comp_apply] at hr ⊢
  rw [hf r .parentId nofun] at hr ⊢
  obtain ⟨q, hq, hid, hmain, hkind, hcolor⟩ := h (front.map (·.value)) r.value (back.map (·.value))
    (by rw [List.map_append, List.map_cons]) hr
  obtain ⟨parent, hmem, rfl⟩ := List.mem_map.mp hq
  refine ⟨(f parent).value, List.mem_map_of_mem hmem, ?_⟩
  rw [hf parent .id nofun, hf parent .parentId nofun, hf parent .kind nofun, hf parent .color nofun, hf r .kind nofun,
    hf r .color nofun]
  exact ⟨hid, hmain, hkind, hcolor⟩

theorem Linked.append {rows new : List Record} (h : Linked rows) (hnew : Linked new)
    (hids : ∀ id ∈ idsOf new, id ∉ idsOf rows) : Linked (rows ++ new) where
  nodup := by
    rw [idsOf_append]
    exact h.nodup.append hnew.nodup fun id hid hid' => hids id hid' hid
  attached := by
    rw [List.map_append]
    exact h.attached.append hnew.attached

end Rows

/-! ## Plans -/

namespace Hierarchy

variable (reading : Char → Option Text) (ids : Nat → Text) (kind : Kind)

theorem mem_planChildren {parent : Text} {n : Nat} {es : List Entry} {c : Template}
    (h : c ∈ planChildren reading ids kind parent n es) :
    c.parentId = some parent ∧ c.kind = kind ∧ c.color = kind.color ∧ c.icon ≠ [] := by
  induction es generalizing n with
  | nil => cases h
  | cons e es ih =>
    rcases List.mem_cons.mp h with rfl | h
    · exact ⟨rfl, rfl, rfl, Template.iconFor_ne_nil _⟩
    · exact ih h

theorem attached_planFamily (n : Nat) (m : MainEntry) :
    Attached ((planFamily reading ids kind n m).map Template.value) := by
  intro front r back heq hr
  rw [planFamily, List.map_cons] at heq
  cases front with
  | nil =>
    obtain ⟨rfl, -⟩ := List.cons.inj heq
    exact absurd rfl hr
  | cons root front =>
    obtain ⟨rfl, hrest⟩ := List.cons.inj heq
    have hr : r ∈ (planChildren reading ids kind (ids n) (n + 1) m.children).map Template.value := by
      rw [hrest]
      exact List.mem_append_right front List.mem_cons_self
    obtain ⟨c, hc, rfl⟩ := List.mem_map.mp hr
    obtain ⟨hparent, hkind, hcolor, -⟩ := mem_planChildren reading ids kind hc
    refine ⟨_, List.mem_cons_self, ?_, rfl, ?_, ?_⟩
    · exact congrArg Value.ofText? hparent.symm
    · exact congrArg (Value.ofText ·.word) hkind.symm
    · exact congrArg Value.ofText hcolor.symm

theorem attached_planSection (n : Nat) (ms : List MainEntry) :
    Attached ((planSection reading ids kind n ms).map Template.value) := by
  induction ms generalizing n with
  | nil => exact attached_nil
  | cons m ms ih =>
    rw [planSection, List.map_append]
    exact (attached_planFamily reading ids kind n m).append (ih _)

theorem attached_plan (h : Hierarchy) : Attached ((h.plan reading ids).map Template.value) := by
  rw [plan, List.map_append]
  exact (attached_planSection reading ids .expense _ _).append (attached_planSection reading ids .income _ _)

theorem icon_ne_nil_of_mem_planSection {n : Nat} {ms : List MainEntry} {c : Template}
    (h : c ∈ planSection reading ids kind n ms) : c.icon ≠ [] := by
  induction ms generalizing n with
  | nil => cases h
  | cons m ms ih =>
    rcases List.mem_append.mp h with h | h
    · rcases List.mem_cons.mp h with rfl | h
      · exact Template.iconFor_ne_nil _
      · exact (mem_planChildren reading ids kind h).2.2.2
    · exact ih h

theorem icon_ne_nil_of_mem_plan {h : Hierarchy} {c : Template} (hc : c ∈ h.plan reading ids) : c.icon ≠ [] := by
  rcases List.mem_append.mp hc with hc | hc
  · exact icon_ne_nil_of_mem_planSection reading ids .expense hc
  · exact icon_ne_nil_of_mem_planSection reading ids .income hc

end Hierarchy

theorem mem_untaken {plan : List Template} {taken : List Value} {new : Template} (h : new ∈ untaken taken plan) :
    new ∈ plan := by
  induction plan generalizing taken with
  | nil => cases h
  | cons d ds ih =>
    rw [untaken] at h
    split at h
    · exact List.mem_cons_of_mem d (ih h)
    · rcases List.mem_cons.mp h with rfl | h
      · exact List.mem_cons_self
      · exact List.mem_cons_of_mem d (ih h)

theorem untaken_eq_self {plan : List Template} {taken : List Value} (hnodup : (plan.map (·.id)).Nodup)
    (hnew : ∀ c ∈ plan, .ofText c.id ∉ taken) : untaken taken plan = plan := by
  induction plan generalizing taken with
  | nil => rfl
  | cons c cs ih =>
    rw [List.map_cons, List.nodup_cons] at hnodup
    rw [untaken, if_neg (hnew c List.mem_cons_self), ih hnodup.2]
    intro d hd
    rw [List.mem_append, List.mem_singleton, not_or]
    refine ⟨hnew d (List.mem_cons_of_mem c hd), fun hid => hnodup.1 ?_⟩
    exact Value.ofText_injective hid ▸ List.mem_map_of_mem hd

/-! ## Icons -/

theorem Change.put_put (target : Column) (v w : Value) (r : Record) : put target v (put target w r) = put target v r := by
  simp only [put, Record.mk.injEq, true_and]
  funext c
  split <;> rfl

/-- An update of icons changes the icons of records whose names are in the map, to files that are there. -/
structure ChangesIcons (present : Text → Bool) (icons : IconMap) (f : Record → Record) : Prop where
  eq_or : ∀ r, f r = r ∨ ∃ name file, r.value .name = .ofText name ∧ (name, file) ∈ icons ∧ present file = true ∧
    f r = Change.put .icon (.ofText file) r

namespace ChangesIcons

variable {present : Text → Bool} {icons : IconMap} {f : Record → Record}

theorem keeps (h : ChangesIcons present icons f) (r : Record) (column : Column) (hcolumn : column ≠ .icon) :
    (f r).value column = r.value column := by
  rcases h.eq_or r with hr | ⟨name, file, -, -, -, hr⟩
  · rw [hr]
  · rw [hr, Change.put]
    exact if_neg hcolumn

theorem linked_map {rows : List Record} (h : ChangesIcons present icons f) (hrows : Linked rows) :
    Linked (rows.map f) where
  nodup := by
    have hids : idsOf (rows.map f) = idsOf rows := by
      rw [idsOf, List.map_map]
      exact List.map_congr_left fun r _ => h.keeps r .id nofun
    rw [hids]
    exact hrows.nodup
  attached := hrows.attached.map h.keeps

theorem mono {more : IconMap} (h : ChangesIcons present icons f) (hsub : icons ⊆ more) :
    ChangesIcons present more f where
  eq_or r := by
    rcases h.eq_or r with hr | ⟨name, file, hname, hfile, hpresent, hr⟩
    · exact .inl hr
    · exact .inr ⟨name, file, hname, hsub hfile, hpresent, hr⟩

end ChangesIcons

/-! ## Calls -/

/-- A call for a change of the catalogue. -/
inductive Call where
  | importing (reading : Char → Option Text) (ids : Nat → Text) (h : Hierarchy) (clear : Bool)
  | icons (present : Text → Bool) (map : IconMap)

namespace Call

/-- The database behind a call, which may have failed. -/
def behind {σ : Type} (e : Engine σ) (s : σ) : Call → σ
  | importing reading ids h clear => ((Catalogue.importHierarchy e reading ids h clear).run s).2
  | icons present map => ((Catalogue.updateIcons e present map).run s).2

/-- The ids that a call generates differ from each other and from those of the records. -/
def IsFresh (rows : List Record) : Call → Prop
  | importing reading ids h _ =>
    ((h.plan reading ids).map (·.id)).Nodup ∧ ∀ new ∈ h.plan reading ids, .ofText new.id ∉ idsOf rows
  | icons _ _ => True

/-- A call sets an empty icon: its map has one for the name of the record. -/
def Empties (c : Call) (rows : List Record) (r : Record) : Prop :=
  ∃ present map old name, c = icons present map ∧ old.value .name = .ofText name ∧ (name, []) ∈ map ∧
    present [] = true ∧ old ∈ rows ∧ r = Change.put .icon (.ofText []) old

/-- All that a call can do to the records: nothing, as when it is refused, or the change that it asks for. -/
def Makes (before after : List Record) : Call → Prop
  | importing reading ids h clear => after = before ∨ ∃ new : List Record, after = (if clear then [] else before) ++ new ∧
      new.map (·.value) = (added before (h.plan reading ids) clear).map Template.value
  | icons present map => after = before ∨ ∃ f, ChangesIcons present map f ∧ after = before.map f

end Call

def calls {σ : Type} (e : Engine σ) (s : σ) (cs : List Call) : σ := cs.foldl (Call.behind e) s

/-- The calls of a run generate new ids, each in the table that it finds. -/
def FreshCalls {σ : Type} (e : Engine σ) (v : View σ) (s : σ) : List Call → Prop
  | [] => True
  | c :: cs => c.IsFresh (v.rows s) ∧ FreshCalls e v (c.behind e s) cs

section Engine

variable {σ : Type} {e : Engine σ} {v : View σ} {s : σ} {c : Call} {cs : List Call} {r : Record}
  {before after : List Record}

theorem Catalogue.changesIcons_setIcons (h : e.Documented v) (present : Text → Bool) (icons : IconMap) (s : σ) :
    Gives (setIcons e present icons) s
      (fun _ s' => (∃ f, ChangesIcons present icons f ∧ v.rows s' = (v.rows s).map f) ∧ v.kept s' = v.kept s)
      fun _ s' => v.kept s' = v.kept s := by
  induction icons generalizing s with
  | nil => exact Gives.pure ⟨⟨id, ⟨fun r => .inl rfl⟩, by rw [List.map_id]⟩, rfl⟩
  | cons entry icons ih =>
    obtain ⟨name, file⟩ := entry
    rw [setIcons]
    split
    · next hpresent =>
      refine (gives_change h (.iconChange file name) none s).bind (fun f s' hf => hf.2) fun n s₁ hset => ?_
      obtain ⟨hn, hkept⟩ := hset
      refine (ih s₁).bind (fun f s' hf => hf.trans hkept) fun told s₂ hmade => ?_
      obtain ⟨⟨f, hf, hrows₂⟩, hkept₂⟩ := hmade
      refine Gives.pure ⟨⟨fun r => f (r.setIcon name file), ⟨fun r => ?_⟩, ?_⟩, hkept₂.trans hkept⟩
      · by_cases hname : r.value .name = .ofText name
        · -- a later entry of the map may set the icon again
          have hset : r.setIcon name file = Change.put .icon (.ofText file) r := if_pos hname
          simp only [hset]
          rcases hf.eq_or (Change.put .icon (.ofText file) r) with hr | ⟨name', file', hname', hfile, hthere, hr⟩
          · exact .inr ⟨name, file, hname, List.mem_cons_self, hpresent, hr⟩
          · exact .inr ⟨name', file', hname', List.mem_cons_of_mem _ hfile, hthere, hr.trans (Change.put_put _ _ _ r)⟩
        · have hset : r.setIcon name file = r := if_neg hname
          simp only [hset]
          exact (hf.mono (List.subset_cons_self _ _)).eq_or r
      · rw [hrows₂, (does_iconChange_iff.mp hn).2, List.map_map]
        rfl
    · refine (ih s).bind (fun f s' hf => hf) fun told s' hmade => ?_
      obtain ⟨⟨f, hf, hrows⟩, hkept⟩ := hmade
      exact Gives.pure ⟨⟨f, hf.mono (List.subset_cons_self _ _), hrows⟩, hkept⟩

/-- A call leaves the records as they are or makes its change of them. -/
theorem makes_call (h : e.Documented v) (c : Call) (s : σ) : c.Makes (v.rows s) (v.rows (c.behind e s)) := by
  cases c with
  | importing reading ids hierarchy clear =>
    have himport := Catalogue.gives_importTemplates h (hierarchy.parentsFirst_plan reading ids) clear s
    refine (himport.mono (fun told s' himported => ?_) fun f s' hf => ?_).state
      fun s' => (Call.importing reading ids hierarchy clear).Makes (v.rows s) (v.rows s')
    · exact .inr himported.rows
    · exact .inl hf.1
  | icons present map =>
    have hupdate := Catalogue.gives_updateIcons_of h.toTakesBack s
      (fun _ rows => ∃ f, ChangesIcons present map f ∧ rows = (v.rows s).map f) (fun _ => True)
      fun s' hrows hkept => by
        have hset := Catalogue.changesIcons_setIcons h present map s'
        rw [hrows, hkept] at hset
        exact hset.mono (fun _ _ hmade => hmade) fun _ _ hkept => ⟨trivial, hkept⟩
    refine (hupdate.mono (fun told s' hmade => ?_) fun f s' hf => ?_).state
      fun s' => (Call.icons present map).Makes (v.rows s) (v.rows s')
    · exact .inr hmade.1
    · exact hf.imp And.left fun hmade => hmade.1.elim fun _ hmade => hmade

/-! ## What a call keeps -/

theorem linked_of_makes (h : c.Makes before after) (hfresh : c.IsFresh before) (hbefore : Linked before) :
    Linked after := by
  cases c with
  | icons present map =>
    obtain rfl | ⟨f, hf, rfl⟩ := h
    · exact hbefore
    · exact hf.linked_map hbefore
  | importing reading ids hierarchy clear =>
    obtain rfl | ⟨new, rfl, hnew⟩ := h
    · exact hbefore
    obtain ⟨hnodup, hids⟩ := hfresh
    have hkept : Linked (if clear then [] else before) ∧
        ∀ c ∈ hierarchy.plan reading ids, .ofText c.id ∉ idsOf (if clear then [] else before) := by
      cases clear with
      | true => exact ⟨⟨.nil, attached_nil⟩, fun _ _ => List.not_mem_nil⟩
      | false => exact ⟨hbefore, hids⟩
    rw [added, untaken_eq_self hnodup hkept.2] at hnew
    have hnewIds : idsOf new = (hierarchy.plan reading ids).map fun c => .ofText c.id := by
      have hvalues := congrArg (List.map fun value : Column → Value => value .id) hnew
      rwa [List.map_map, List.map_map] at hvalues
    have hplan : Linked new := by
      refine ⟨?_, hnew ▸ hierarchy.attached_plan reading ids⟩
      have hvalues := hnodup.map (f := Value.ofText) fun _ _ => Value.ofText_injective
      rw [List.map_map] at hvalues
      rwa [hnewIds]
    refine hkept.1.append hplan fun id hid => ?_
    rw [hnewIds] at hid
    obtain ⟨c, hc, rfl⟩ := List.mem_map.mp hid
    exact hkept.2 c hc

/-- Only an update of icons leaves a record without an icon that was not there before. -/
theorem empties_of_makes (h : c.Makes before after) (hr : r ∈ after) (hlacks : r.lacksIcon = true) :
    r ∈ before ∨ c.Empties before r := by
  cases c with
  | importing reading ids hierarchy clear =>
    obtain rfl | ⟨new, rfl, hnew⟩ := h
    · exact .inl hr
    rcases List.mem_append.mp hr with hr | hr
    · cases clear with
      | true => cases hr
      | false => exact .inl hr
    · obtain ⟨t, ht, hvalue⟩ := List.mem_map.mp (hnew ▸ List.mem_map_of_mem hr)
      have hicon := hierarchy.icon_ne_nil_of_mem_plan reading ids (mem_untaken ht)
      have hr : r.value .icon = .ofText t.icon := (congrFun hvalue .icon).symm
      rw [Record.lacksIcon, hr, Bool.or_eq_true, beq_iff_eq, beq_iff_eq] at hlacks
      exact absurd (hlacks.resolve_left (Value.ofText_ne_null t.icon)) (hicon ∘ Value.ofText_injective)
  | icons present map =>
    obtain rfl | ⟨f, hf, rfl⟩ := h
    · exact .inl hr
    obtain ⟨old, hold, rfl⟩ := List.mem_map.mp hr
    rcases hf.eq_or old with hsame | ⟨name, file, hname, hfile, hpresent, hset⟩
    · exact .inl (by rw [hsame]; exact hold)
    · rw [hset] at hlacks ⊢
      have hicon : (Change.put .icon (.ofText file) old).value .icon = .ofText file := rfl
      rw [Record.lacksIcon, hicon, Bool.or_eq_true, beq_iff_eq, beq_iff_eq] at hlacks
      obtain rfl : file = [] := Value.ofText_injective (hlacks.resolve_left (Value.ofText_ne_null file))
      exact .inr ⟨present, map, old, name, rfl, hname, hfile, hpresent, hold, rfl⟩

/-! ## Runs -/

/-- The families of the table stay together, whatever is called for and whatever is refused: the ids differ, and every
child comes behind its parent, a main category of the same type and colour. A record is without an icon only if it was at
the start or if an update of icons has set an empty one. -/
theorem links_kept (h : e.Documented v) (hlinked : Linked (v.rows s)) (hfresh : FreshCalls e v s cs) :
    Linked (v.rows (calls e s cs)) ∧ ∀ r ∈ v.rows (calls e s cs), r.lacksIcon = true → r ∈ v.rows s ∨
      ∃ front c back, cs = front ++ c :: back ∧ c.Empties (v.rows (calls e s front)) r := by
  induction cs generalizing s with
  | nil => exact ⟨hlinked, fun r hr _ => .inl hr⟩
  | cons c cs ih =>
    obtain ⟨hc, hcs⟩ := hfresh
    have hmakes := makes_call h c s
    obtain ⟨hlinked', hicons⟩ := ih (linked_of_makes hmakes hc hlinked) hcs
    refine ⟨hlinked', fun r hr hlacks => ?_⟩
    rcases hicons r hr hlacks with hr₁ | ⟨front, d, back, rfl, hd⟩
    · rcases empties_of_makes hmakes hr₁ hlacks with hr₀ | hempties
      · exact .inl hr₀
      · exact .inr ⟨[], c, cs, rfl, hempties⟩
    · exact .inr ⟨c :: front, d, back, rfl, hd⟩

end Engine

def refusesId (id : Text) (c : Change) (ps : List Value) : Bool := c == insertion && ps[0]? == some (.ofText id)

/-- An import, a clearing import, and an update that empties an icon. -/
def threeCalls : List Call :=
  [.importing catReading numberedIds cats false, .importing catReading (fun n => numberedIds (n + 5)) cats true,
    .icons (fun _ => true) [(['c'], [])]]

/-- Where the child of the second import is refused, the main category and the child of the first one are still there and
linked. The child has no icon, since the update has emptied it. -/
theorem links_kept_behind_failure :
    FreshCalls (Shelf.engine (refusesId ['6'])) Shelf.view Shelf.empty threeCalls ∧
    Linked (Shelf.view.rows (calls (Shelf.engine (refusesId ['6'])) Shelf.empty threeCalls)) ∧
    ∃ r ∈ Shelf.view.rows (calls (Shelf.engine (refusesId ['6'])) Shelf.empty threeCalls),
      r.lacksIcon = true ∧ r.value .parentId = .ofText ['0'] ∧ ∃ front c back, threeCalls = front ++ c :: back ∧
        c.Empties (Shelf.view.rows (calls (Shelf.engine (refusesId ['6'])) Shelf.empty front)) r := by
  have hfresh : FreshCalls (Shelf.engine (refusesId ['6'])) Shelf.view Shelf.empty threeCalls := by
    refine ⟨⟨?_, ?_⟩, ⟨?_, ?_⟩, trivial, trivial⟩ <;> decide +kernel
  have hempty : Linked (Shelf.view.rows Shelf.empty) := ⟨List.nodup_nil, attached_nil⟩
  obtain ⟨hlinked, hicons⟩ := links_kept (Shelf.documented (refusesId ['6'])) hempty hfresh
  have hchild : ∃ r ∈ Shelf.view.rows (calls (Shelf.engine (refusesId ['6'])) Shelf.empty threeCalls),
      r.lacksIcon = true ∧ r.value .parentId = .ofText ['0'] := by decide +kernel
  obtain ⟨r, hr, hlacks, hparent⟩ := hchild
  refine ⟨hfresh, hlinked, r, hr, hlacks, hparent, ?_⟩
  rcases hicons r hr hlacks with hold | hempties
  · cases hold
  · exact hempties

end Upkeep.Category
