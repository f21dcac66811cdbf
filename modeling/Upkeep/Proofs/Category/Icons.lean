import Mathlib.Data.Finset.Card
import Mathlib.Data.List.Nodup
import Upkeep.Proofs.Category.Shelf
import Upkeep.Proofs.Text.Order

/-!
# Updates of icons

What an update of icons makes of the template table, and what it tells of that.

* `IconMap.fileFor?`: the icon file that some mappings name for a category. The map of the mappings has just these
  files (`lookup_ofMappings`), each category once and in ascending order (`ascending_ofMappings`).
* `gives_setIcons`: as no name comes twice in the map, no entry changes a record that another has changed, and the
  updates are one change of every record by its own name.
* `GivesIcons`: what has become of the records, and what is told of them.
* `icons_given_or_kept`: what is told of an update fits the table, and a refused statement leaves the table as it was.
-/

namespace Upkeep.Category
open Database (Value)

/-! ## The map of some mappings -/

namespace IconMap

/-- The icon file for a category: the first that a mapping of just its name gives and that is not empty. -/
def fileFor? (ms : List IconMapping) (name : Text) : Option Text :=
  ms.findSome? fun m => if m.category = name then m.iconFile.filter (· ≠ []) else none

variable {ms : List IconMapping} {es : List (Text × Text)} {name other file : Text}

theorem lookup_filter_ne (h : name ≠ other) :
    (es.filter fun e => (e.1 == other) = false).lookup name = es.lookup name := by
  induction es with
  | nil => rfl
  | cons e es ih =>
    rw [List.filter_cons, List.lookup_cons]
    cases hname : name == e.1 with
    | true =>
      obtain rfl := beq_iff_eq.mp hname
      rw [if_pos (by simpa using h), List.lookup_cons, hname]
    | false =>
      split
      · rw [List.lookup_cons, hname, ih]
      · exact ih

theorem lookup_eraseDupsBy (es : List (Text × Text)) (name : Text) :
    (es.eraseDupsBy fun a b => a.1 == b.1).lookup name = es.lookup name := by
  induction es using Text.eraseDupsBy_induction (fun a b : Text × Text => a.1 == b.1) with
  | nil => rfl
  | cons e es ih =>
    rw [List.eraseDupsBy_cons, List.lookup_cons, List.lookup_cons, ih]
    cases hname : name == e.1 with
    | true => rfl
    | false => exact lookup_filter_ne (by simpa using hname)

theorem lookup_filterMap_usable? (ms : List IconMapping) (name : Text) :
    (ms.filterMap usable?).lookup name = fileFor? ms name := by
  induction ms with
  | nil => rfl
  | cons m ms ih =>
    rw [List.filterMap_cons, fileFor?, List.findSome?_cons, ← fileFor?, ← ih, usable?]
    cases m.iconFile.filter (· ≠ []) with
    | none => simp
    | some file =>
      by_cases hname : m.category = name
      · simp [hname]
      · have hne : (name == m.category) = false := beq_eq_false_iff_ne.mpr (Ne.symm hname)
        simp [hname, List.lookup_cons, hne]

theorem lookup_eq_some_iff_mem (hnodup : (es.map (·.1)).Nodup) :
    es.lookup name = some file ↔ (name, file) ∈ es := by
  induction es with
  | nil => simp
  | cons e es ih =>
    rw [List.map_cons, List.nodup_cons] at hnodup
    rw [List.lookup_cons, List.mem_cons]
    cases hname : name == e.1 with
    | true =>
      obtain rfl := beq_iff_eq.mp hname
      have hnot : (e.1, file) ∉ es := fun hmem => hnodup.1 (List.mem_map.mpr ⟨_, hmem, rfl⟩)
      simp [hnot, Prod.ext_iff, eq_comm]
    | false =>
      have hne : (name, file) ≠ e := fun he => by simp [← he] at hname
      simp [hne, ih hnodup.2]

theorem ascending_ofMappings (ms : List IconMapping) : (ofMappings ms).Pairwise fun a b => a.1 < b.1 :=
  Text.pairwise_lt_mergeSort Prod.fst (fun _ _ => Text.notAfter_iff) (Text.nodup_eraseDupsBy _ _)

theorem nodup_ofMappings (ms : List IconMapping) : ((ofMappings ms).map (·.1)).Nodup :=
  List.pairwise_map.mpr ((ascending_ofMappings ms).imp fun h => h.ne)

theorem mem_ofMappings_iff : (name, file) ∈ ofMappings ms ↔ fileFor? ms name = some file := by
  rw [ofMappings, List.mem_mergeSort, ← lookup_eq_some_iff_mem (Text.nodup_eraseDupsBy _ _), lookup_eraseDupsBy,
    lookup_filterMap_usable?]

theorem lookup_ofMappings (ms : List IconMapping) (name : Text) : (ofMappings ms).lookup name = fileFor? ms name :=
  Option.ext fun _ => (lookup_eq_some_iff_mem (nodup_ofMappings ms)).trans mem_ofMappings_iff

def names (ms : List IconMapping) : Finset Text :=
  ((ms.filter fun m => m.iconFile.any (· ≠ [])).map (·.category)).toFinset

theorem mem_names_iff : name ∈ names ms ↔ ∃ file, fileFor? ms name = some file := by
  rw [← Option.isSome_iff_exists, fileFor?, List.isSome_findSome?]
  simp only [names, List.mem_toFinset, List.mem_map, List.mem_filter, List.any_eq_true]
  refine exists_congr fun m => ?_
  by_cases hname : m.category = name
  · cases m.iconFile <;> simp [hname, Option.filter]
  · simp [hname]

theorem length_ofMappings (ms : List IconMapping) : (ofMappings ms).length = (names ms).card := by
  have hnames : ((ofMappings ms).map (·.1)).toFinset = names ms := by
    ext name
    rw [mem_names_iff, List.mem_toFinset, List.mem_map]
    constructor
    · rintro ⟨⟨name, file⟩, hmem, rfl⟩
      exact ⟨file, mem_ofMappings_iff.mp hmem⟩
    · rintro ⟨file, hfile⟩
      exact ⟨(name, file), mem_ofMappings_iff.mpr hfile, rfl⟩
  rw [← hnames, List.toFinset_card_of_nodup (nodup_ofMappings ms), List.length_map]

/-! ## Files that are there -/

/-- The icon file of a map for a category, if the file is there. -/
def given? (present : Text → Bool) (icons : IconMap) (name : Text) : Option Text :=
  (icons.lookup name).filter (present ·)

/-- The icon file that some mappings name for a category, if the file is there. -/
def givenBy? (present : Text → Bool) (ms : List IconMapping) (name : Text) : Option Text :=
  (fileFor? ms name).filter (present ·)

variable {present : Text → Bool} {icons : IconMap}

theorem given?_ofMappings (present : Text → Bool) (ms : List IconMapping) :
    given? present (ofMappings ms) = givenBy? present ms := by
  funext name
  rw [given?, lookup_ofMappings, givenBy?]

theorem given?_of_notMem (h : name ∉ icons.map (·.1)) : given? present icons name = none := by
  have hnone : icons.lookup name = none := by
    rw [List.lookup_eq_none_iff]
    intro e he
    rw [bne_iff_ne]
    rintro rfl
    exact h (List.mem_map_of_mem he)
  rw [given?, hnone, Option.filter_none]

theorem given?_cons (h : name ∉ icons.map (·.1)) : given? present ((name, file) :: icons) other =
    if other = name ∧ present file = true then some file else given? present icons other := by
  rw [given?, List.lookup_cons]
  by_cases hname : other = name
  · subst hname
    rw [given?_of_notMem h]
    simp [Option.filter]
  · rw [beq_eq_false_iff_ne.mpr hname, if_neg fun h => hname h.1]
    rfl

end IconMap

/-! ## Records -/

namespace Record

open IconMap (given?)

def given? (given : Text → Option Text) (r : Record) : Option Text := (r.value .name).text?.bind given

def giveIcon (given : Text → Option Text) (r : Record) : Record :=
  (r.given? given).elim r fun file => Change.put .icon (.ofText file) r

def setIcon (name file : Text) (r : Record) : Record :=
  if r.value .name = .ofText name then Change.put .icon (.ofText file) r else r

@[simp] theorem setIcon_name (name file : Text) (r : Record) : (r.setIcon name file).value .name = r.value .name := by
  unfold setIcon
  split <;> rfl

theorem given?_eq_none {given : Text → Option Text} {name : Text} {r : Record} (h : given name = none)
    (hname : r.value .name = .ofText name) : r.given? given = none := by
  rw [Record.given?, Value.text?_eq_some_iff.mpr hname, Option.bind_some, h]

/-! One entry of a map with a file that is there, before those of the other names. -/

section Entry

variable {given rest : Text → Option Text} {name file : Text} {rows : List Record}
  (hgiven : ∀ other, given other = if other = name then some file else rest other) (hrest : rest name = none)

include hgiven

theorem given?_of_name {r : Record} (hname : r.value .name = .ofText name) : r.given? given = some file := by
  rw [Record.given?, Value.text?_eq_some_iff.mpr hname, Option.bind_some, hgiven, if_pos rfl]

theorem given?_of_other {r : Record} (hname : r.value .name ≠ .ofText name) : r.given? given = r.given? rest := by
  unfold Record.given?
  cases htext : (r.value .name).text? with
  | none => rfl
  | some other =>
    have hne : other ≠ name := fun heq => hname (Value.text?_eq_some_iff.mp (heq ▸ htext))
    rw [Option.bind_some, Option.bind_some, hgiven, if_neg hne]

include hrest

theorem map_giveIcon_setIcon : (rows.map (setIcon name file)).map (giveIcon rest) = rows.map (giveIcon given) := by
  rw [List.map_map]
  refine List.map_congr_left fun r _ => ?_
  rw [Function.comp_apply, giveIcon, giveIcon]
  by_cases hname : r.value .name = .ofText name
  · have hsame : (r.setIcon name file).given? rest = none :=
      given?_eq_none hrest ((setIcon_name _ _ r).trans hname)
    rw [hsame, given?_of_name hgiven hname, setIcon, if_pos hname]
    rfl
  · rw [setIcon, if_neg hname, given?_of_other hgiven hname]

theorem countP_setIcon : rows.countP (fun r => r.value .name == .ofText name) +
    (rows.map (setIcon name file)).countP (fun r => (r.given? rest).isSome) =
      rows.countP fun r => (r.given? given).isSome := by
  induction rows with
  | nil => rfl
  | cons r rows ih =>
    simp only [List.map_cons, List.countP_cons] at ih ⊢
    rw [← ih]
    by_cases hname : r.value .name = .ofText name
    · have hsame : (r.setIcon name file).given? rest = none :=
        given?_eq_none hrest ((setIcon_name _ _ r).trans hname)
      simp [hname, hsame, given?_of_name hgiven hname]
      omega
    · have hsame : r.setIcon name file = r := by rw [setIcon, if_neg hname]
      simp [hname, hsame, given?_of_other hgiven hname]
      omega

end Entry
end Record

theorem does_iconChange_iff {name file : Text} {before after : List Record} {n : Nat} :
    iconChange.Does [.ofText file, .ofText name] before n after ↔
      n = before.countP (fun r => r.value .name == .ofText name) ∧ after = before.map (Record.setIcon name file) := by
  have hmeets : ∀ r : Record,
      Formula.holds ((Formula.equal (.column .name) (.parameter 2)).value [.ofText file, .ofText name] r) =
        (r.value .name == .ofText name) := by
    intro r
    have hparameter : (Formula.parameter 2).value [.ofText file, .ofText name] r = .ofText name := rfl
    have hcolumn : (Formula.column .name).value [.ofText file, .ofText name] r = r.value .name := rfl
    have htext : (Value.ofText name == .null) = false := rfl
    rw [Formula.value, hparameter, hcolumn, htext, Bool.or_false]
    by_cases hnull : r.value .name = .null
    · rw [hnull]
      rfl
    · rw [beq_eq_false_iff_ne.mpr hnull, if_neg Bool.false_ne_true, Formula.holds_ofBool]
  have hset : ∀ r : Record, (if r.value .name == .ofText name then Change.put .icon (.ofText file) r else r) =
      r.setIcon name file := by
    intro r
    simp only [beq_iff_eq, Record.setIcon]
  unfold iconChange Change.Does
  simp only [hmeets]
  exact Iff.of_eq (congrArg (n = _ ∧ after = ·) (List.map_congr_left fun r _ => hset r))

/-! ## Updates -/

/-- What an update of icons tells of the mappings: how many names they have, and which of these have no file. -/
structure TellsMissing (present : Text → Bool) (ms : List IconMapping) (told : IconReport) : Prop where
  mapped : told.mapped = (IconMap.names ms).card
  missing : ∀ name file, (name, file) ∈ told.missing ↔ IconMap.fileFor? ms name = some file ∧ present file = false
  ascending : told.missing.Pairwise fun a b => a.1 < b.1

/-- What an update of icons by some mappings has made of the table, and what it tells of that. -/
structure GivesIcons (present : Text → Bool) (ms : List IconMapping) (before after : List Record)
    (told : IconReport) : Prop extends TellsMissing present ms told where
  rows : after = before.map (·.giveIcon (IconMap.givenBy? present ms))
  updated : told.updated = before.countP fun r => (r.given? (IconMap.givenBy? present ms)).isSome
  withoutIcon : ∀ name, name ∈ told.withoutIcon ↔ ∃ r ∈ after, r.lacksIcon = true ∧ r.value .name = .ofText name
  withoutIcon_ascending : told.withoutIcon.Pairwise (· < ·)

section Engine

variable {σ : Type} {e : Engine σ} {v : View σ} {s : σ} {present : Text → Bool} {icons : IconMap} {ms : List IconMapping}

/-- The update for an entry of a map is refused. -/
inductive RefusesEntry (e : Engine σ) (present : Text → Bool) (icons : IconMap) (f : Failure) : Prop
  | setting (name file : Text) (s : σ) (hmem : (name, file) ∈ icons) (hpresent : present file = true)
      (hrefused : RefusedOn s (e.execute iconChange.text [.ofText file, .ofText name]) none f)

theorem RefusesEntry.mono {more : IconMap} {f : Failure} (h : RefusesEntry e present icons f) (hsub : icons ⊆ more) :
    RefusesEntry e present more f := by
  obtain ⟨name, file, s, hmem, hpresent, hrefused⟩ := h
  exact ⟨name, file, s, hsub hmem, hpresent, hrefused⟩

/-- Why an update of icons leaves the table as it was: one of its statements is refused. -/
inductive RefusesIcons (e : Engine σ) (s : σ) (present : Text → Bool) (ms : List IconMapping) (f : Failure) : Prop
  | starting (hrefused : RefusedOn s e.start (some .startingIcons) f)
  | setting (name file : Text) (s₁ : σ) (hfile : IconMap.fileFor? ms name = some file) (hpresent : present file = true)
      (hrefused : RefusedOn s₁ (e.execute iconChange.text [.ofText file, .ofText name]) none f)
  | keeping (s₁ : σ) (hrefused : RefusedOn s₁ e.commit (some .keepingIcons) f)

namespace Catalogue

open IconMap (given? givenBy?)

/-- With every name once in the map, an update changes each record by its own name. -/
theorem gives_setIcons (h : e.Documented v) (present : Text → Bool) (hnodup : (icons.map (·.1)).Nodup) (s : σ) :
    Gives (setIcons e present icons) s
      (fun told s' => (v.rows s' = (v.rows s).map (·.giveIcon (given? present icons)) ∧
        told.1 = (v.rows s).countP (fun r => (r.given? (given? present icons)).isSome)) ∧ v.kept s' = v.kept s)
      fun f s' => RefusesEntry e present icons f ∧ v.kept s' = v.kept s := by
  induction icons generalizing s with
  | nil =>
    have hnone : ∀ r : Record, r.given? (given? present []) = none := by
      intro r
      unfold Record.given?
      cases (r.value .name).text? <;> rfl
    refine Gives.pure ⟨⟨?_, ?_⟩, rfl⟩
    · simp [Record.giveIcon, hnone]
    · simp [hnone]
  | cons entry icons ih =>
    obtain ⟨name, file⟩ := entry
    obtain ⟨hname, hrest⟩ := List.nodup_cons.mp hnodup
    have hnone : given? present icons name = none := IconMap.given?_of_notMem hname
    have hmore : icons ⊆ (name, file) :: icons := List.subset_cons_self _ _
    rw [setIcons]
    cases hpresent : present file with
    | false =>
      have hgiven : given? present ((name, file) :: icons) = given? present icons := by
        funext other
        rw [IconMap.given?_cons hname, if_neg fun h => by simp [hpresent] at h]
      rw [hgiven, if_neg Bool.false_ne_true]
      exact (ih hrest s).bind (fun f s' hf => ⟨hf.1.mono hmore, hf.2⟩) fun told s' htold => Gives.pure htold
    | true =>
      have hgiven : ∀ other, given? present ((name, file) :: icons) other =
          if other = name then some file else given? present icons other := fun other => by
        rw [IconMap.given?_cons hname]
        simp [hpresent]
      rw [if_pos rfl]
      refine (gives_change h (.iconChange file name) none s).bind (fun f s' hf => ⟨?_, hf.2⟩) fun n s₁ ⟨hn, hkept⟩ => ?_
      · exact .setting name file s List.mem_cons_self hpresent hf.1
      obtain ⟨rfl, hrows⟩ := does_iconChange_iff.mp hn
      refine (ih hrest s₁).bind (fun f s' hf => ⟨hf.1.mono hmore, hf.2.trans hkept⟩) fun told s₂ htold => ?_
      obtain ⟨⟨hrows₂, hupdated⟩, hkept₂⟩ := htold
      refine Gives.pure ⟨⟨?_, ?_⟩, hkept₂.trans hkept⟩
      · rw [hrows₂, hrows]
        exact Record.map_giveIcon_setIcon hgiven hnone
      · simp only [hupdated, hrows]
        exact Record.countP_setIcon hgiven hnone

theorem keeps_setIcons (h : e.TakesBack v) (rows : List Record) (present : Text → Bool) (icons : IconMap) :
    Keeps (v.kept · = rows) (setIcons e present icons) := by
  induction icons with
  | nil => exact Keeps.pure
  | cons entry icons ih =>
    rw [setIcons]
    split
    · exact (keeps_change h rows none _ _).bind fun _ => ih.bind fun _ => Keeps.pure
    · exact ih.bind fun _ => Keeps.pure

theorem gives_missing (e : Engine σ) (present : Text → Bool) (icons : IconMap) (s : σ) :
    Gives (setIcons e present icons) s (fun told _ => told.2 = icons.filter fun entry => !present entry.2)
      fun _ _ => True := by
  have hanything : ∀ {α : Type} (x : Work σ α) (s : σ), Gives x s (fun _ _ => True) fun _ _ => True :=
    fun x s => Keeps.gives (fun _ _ => trivial) trivial
  induction icons generalizing s with
  | nil => exact Gives.pure rfl
  | cons entry icons ih =>
    rw [setIcons, List.filter_cons]
    cases hpresent : present entry.2 with
    | true =>
      rw [if_pos rfl]
      refine (hanything _ s).bind (fun _ _ hf => hf) fun n s₁ _ => ?_
      exact (ih s₁).bind (fun _ _ hf => hf) fun told s₂ htold => Gives.pure htold
    | false =>
      rw [if_neg Bool.false_ne_true]
      exact (ih s).bind (fun _ _ hf => hf) fun told s₂ htold => Gives.pure (by rw [htold]; rfl)

/-- What an update of icons gives, when it is known what its work on the records gives in a transaction. -/
theorem gives_updateIcons_of (h : e.TakesBack v) (s : σ) (good : Nat × List (Text × Text) → List Record → Prop)
    (bad : Failure → Prop)
    (hwork : ∀ s', v.rows s' = v.rows s → v.kept s' = v.rows s → Gives (setIcons e present icons) s'
      (fun told s₁ => good told (v.rows s₁) ∧ v.kept s₁ = v.rows s) fun f s₁ => bad f ∧ v.kept s₁ = v.rows s) :
    Gives (updateIcons e present icons) s
      (fun told s' => good (told.updated, told.missing) (v.rows s') ∧ told.mapped = icons.length ∧
        namesWithoutIcon e s' = .ok told.withoutIcon)
      fun f s' => v.rows s' = v.rows s ∧ (RefusedOn s e.start (some .startingIcons) f ∨ bad f ∨
          ∃ s₁, RefusedOn s₁ e.commit (some .keepingIcons) f) ∨
        (∃ told, good told (v.rows s')) ∧ namesWithoutIcon e s' = .error f := by
  have htransaction := gives_transaction h s .startingIcons .keepingIcons good bad hwork
  refine htransaction.bind (fun _ _ hf => .inl hf) fun told s' htold => ?_
  refine (gives_look (namesWithoutIcon e) s').bind (fun f s₁ hf => .inr ?_) fun names s₁ hnames => Gives.pure ?_
  · obtain ⟨hf, rfl⟩ := hf
    exact ⟨⟨told, htold⟩, hf⟩
  · obtain ⟨hnames, rfl⟩ := hnames
    exact ⟨htold, rfl, hnames⟩

theorem tellsMissing_of_filter {told : IconReport} (hmapped : told.mapped = (IconMap.ofMappings ms).length)
    (hmissing : told.missing = (IconMap.ofMappings ms).filter fun entry => !present entry.2) :
    TellsMissing present ms told where
  mapped := hmapped.trans (IconMap.length_ofMappings ms)
  missing name file := by rw [hmissing, List.mem_filter, IconMap.mem_ofMappings_iff, Bool.not_eq_true']
  ascending := hmissing ▸ (IconMap.ascending_ofMappings ms).filter _

theorem icons_taken_back (h : e.TakesBack v) (s : σ) (present : Text → Bool) (ms : List IconMapping) :
    Gives (updateIcons e present (IconMap.ofMappings ms)) s (fun told _ => TellsMissing present ms told)
      fun f s' => v.rows s' = v.rows s ∨ namesWithoutIcon e s' = .error f := by
  have hupdate := gives_updateIcons_of h s
    (fun (told : Nat × List (Text × Text)) _ => told.2 = (IconMap.ofMappings ms).filter fun entry => !present entry.2)
    (fun _ => True)
    fun s' _ hkept => (gives_missing e present _ s').and ((keeps_setIcons h _ present _).gives hkept)
  refine hupdate.mono (fun told s' htold => ?_) fun f s' hf => hf.imp And.left And.right
  exact tellsMissing_of_filter htold.2.1 htold.1

theorem gives_updateIcons (h : e.Documented v) (s : σ) (present : Text → Bool) (ms : List IconMapping) :
    Gives (updateIcons e present (IconMap.ofMappings ms)) s
      (fun told s' => GivesIcons present ms (v.rows s) (v.rows s') told)
      fun f s' => v.rows s' = v.rows s ∧ RefusesIcons e s present ms f ∨
        v.rows s' = (v.rows s).map (·.giveIcon (givenBy? present ms)) ∧
          ∃ r ∈ v.rows s', r.lacksIcon = true ∧ ∀ name, r.value .name ≠ .ofText name := by
  have hset := gives_setIcons h present (IconMap.nodup_ofMappings ms)
  simp only [IconMap.given?_ofMappings] at hset
  have hupdate := gives_updateIcons_of h.toTakesBack s
    (fun (told : Nat × List (Text × Text)) after =>
      told.2 = (IconMap.ofMappings ms).filter (fun entry => !present entry.2) ∧
      after = (v.rows s).map (·.giveIcon (givenBy? present ms)) ∧
      told.1 = (v.rows s).countP fun r => (r.given? (givenBy? present ms)).isSome)
    (RefusesEntry e present (IconMap.ofMappings ms))
    fun s' hrows hkept => by
      have hboth := (gives_missing e present (IconMap.ofMappings ms) s').and (hset s')
      rw [hrows, hkept] at hboth
      exact hboth.mono (fun _ _ hgood => ⟨⟨hgood.1, hgood.2.1⟩, hgood.2.2⟩) fun _ _ hbad => hbad.2
  refine hupdate.mono (fun told s' htold => ?_) fun f s' hf => ?_
  · obtain ⟨⟨hmissing, hrows, hupdated⟩, hmapped, htexts⟩ := htold
    have hnames := gives_names h.toTells s'
    rw [htexts] at hnames
    exact
      { toTellsMissing := tellsMissing_of_filter hmapped hmissing
        rows := hrows
        updated := hupdated
        withoutIcon := hnames.2
        withoutIcon_ascending := hnames.1 }
  · obtain ⟨hrows, hrefused⟩ | ⟨⟨told, -, hrows, -⟩, hf⟩ := hf
    · refine .inl ⟨hrows, ?_⟩
      obtain hstart | ⟨name, file, s₁, hmem, hpresent, hrefused⟩ | ⟨s₁, hcommit⟩ := hrefused
      · exact .starting hstart
      · exact .setting name file s₁ (IconMap.mem_ofMappings_iff.mp hmem) hpresent hrefused
      · exact .keeping s₁ hcommit
    · have hnames := gives_names h.toTells s'
      rw [hf] at hnames
      exact .inr ⟨hrows, hnames⟩

/-- What an update of icons does is what the mappings say, and what it tells fits the table. If a statement is refused the
table is what it was. An update that was kept fails only when a row without an icon has no text for its name, so that it
cannot be told. On databases where statements do other things than they mean, an update that fails is taken back all the
same, and what is told of the mappings is right. -/
theorem icons_given_or_kept (h : e.TakesBack v) (s : σ) (present : Text → Bool) (ms : List IconMapping) :
    (e.Documented v → Gives (updateIcons e present (IconMap.ofMappings ms)) s
      (fun told s' => GivesIcons present ms (v.rows s) (v.rows s') told)
      fun f s' => v.rows s' = v.rows s ∧ RefusesIcons e s present ms f ∨
        v.rows s' = (v.rows s).map (·.giveIcon (givenBy? present ms)) ∧
          ∃ r ∈ v.rows s', r.lacksIcon = true ∧ ∀ name, r.value .name ≠ .ofText name) ∧
    Gives (updateIcons e present (IconMap.ofMappings ms)) s (fun told _ => TellsMissing present ms told)
      fun f s' => v.rows s' = v.rows s ∨ namesWithoutIcon e s' = .error f :=
  ⟨fun hd => gives_updateIcons hd s present ms, icons_taken_back h s present ms⟩

/-- A name that comes twice, and rows without an icon. -/
def iconless : Shelf :=
  let row := fun (number : Int) (name : Text) (icon : Value) =>
    Change.put .icon icon (.plain number (.integer number) name .null)
  .ofRecords [row 1 ['a'] .null, row 2 ['b'] (.ofText ['o']), row 3 ['a'] (.ofText []), row 4 ['c'] .null]
    (by decide +kernel)

/-- Mappings of the first name to nothing and to two files, of the second to one that is not there, and of a name that
no row has. -/
def repeatedMappings : List IconMapping :=
  [⟨['a'], none⟩, ⟨['b'], some ['z']⟩, ⟨['a'], some []⟩, ⟨['a'], some ['x']⟩, ⟨['a'], some ['y']⟩, ⟨['d'], some ['x']⟩]

def refusesIconOf (name : Text) (c : Change) (ps : List Value) : Bool :=
  c == iconChange && ps[1]? == some (.ofText name)

theorem ofMappings_repeatedMappings : IconMap.ofMappings repeatedMappings =
    [(['a'], ['x']), (['b'], ['z']), (['d'], ['x'])] := by
  have hperm : (IconMap.ofMappings repeatedMappings).Perm [(['a'], ['x']), (['b'], ['z']), (['d'], ['x'])] :=
    (List.mergeSort_perm _ _).trans (by decide +kernel)
  exact hperm.eq_of_pairwise (fun _ _ _ _ hlt hgt => absurd hgt hlt.asymm) (IconMap.ascending_ofMappings _)
    (by decide +kernel)

/-- Both rows of the first name get its first file, and the other rows stay as they are. Where the update of the last name
is refused the table is what it was, though the rows of the first name had their icon already. -/
theorem icons_given_and_taken_back :
    (∃ told s', (updateIcons (Shelf.engine fun _ _ => false) (· == ['x']) (IconMap.ofMappings repeatedMappings)).run
      iconless = (.ok told, s') ∧ told.mapped = 3 ∧ told.updated = 2 ∧ told.missing = [(['b'], ['z'])] ∧
        told.withoutIcon = [['c']] ∧ (Shelf.view.rows s').map (·.value .icon) =
          [.ofText ['x'], .ofText ['o'], .ofText ['x'], .null]) ∧
    ∃ f s', (updateIcons (Shelf.engine (refusesIconOf ['d'])) (· == ['x']) (IconMap.ofMappings repeatedMappings)).run
      iconless = (.error f, s') ∧ Shelf.view.rows s' = Shelf.view.rows iconless := by
  constructor
  · have hdocumented := Shelf.documented fun _ _ => false
    have hupdate := (icons_given_or_kept hdocumented.toTakesBack iconless (· == ['x']) repeatedMappings).1 hdocumented
    have htold : ((updateIcons (Shelf.engine fun _ _ => false) (· == ['x'])
      (IconMap.ofMappings repeatedMappings)).run iconless).1.toOption =
        some ⟨3, 2, [(['b'], ['z'])], [['c']]⟩ := by
      rw [ofMappings_repeatedMappings]
      decide +kernel
    obtain ⟨told, s', heq, hgives⟩ | ⟨f, s', heq, -⟩ := hupdate
    · rw [heq] at htold
      obtain rfl := Option.some.inj htold
      refine ⟨_, s', heq, rfl, rfl, rfl, rfl, ?_⟩
      rw [hgives.rows, ← IconMap.given?_ofMappings, ofMappings_repeatedMappings]
      decide +kernel
    · rw [heq] at htold
      cases htold
  · have hdocumented := Shelf.documented (refusesIconOf ['d'])
    have hupdate := (icons_given_or_kept hdocumented.toTakesBack iconless (· == ['x']) repeatedMappings).1 hdocumented
    have hfails : ((updateIcons (Shelf.engine (refusesIconOf ['d'])) (· == ['x'])
      (IconMap.ofMappings repeatedMappings)).run iconless).1.isOk = false := by
      rw [ofMappings_repeatedMappings]
      decide +kernel
    have hnames : ∀ r ∈ (Shelf.view.rows iconless).map (·.giveIcon (givenBy? (· == ['x']) repeatedMappings)),
        (r.value .name).text?.isSome = true := by
      rw [← IconMap.given?_ofMappings, ofMappings_repeatedMappings]
      decide +kernel
    obtain ⟨told, s', heq, -⟩ | ⟨f, s', heq, hrows | ⟨hrows, r, hr, -, hname⟩⟩ := hupdate
    · rw [heq] at hfails
      cases hfails
    · exact ⟨f, s', heq, hrows.1⟩
    · obtain ⟨name, htext⟩ := Option.isSome_iff_exists.mp (hnames r (hrows ▸ hr))
      exact absurd (Value.text?_eq_some_iff.mp htext) (hname name)

end Catalogue
end Engine
end Upkeep.Category
