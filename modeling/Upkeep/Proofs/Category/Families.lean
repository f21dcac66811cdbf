import Mathlib.Algebra.GroupWithZero.Nat
import Upkeep.Proofs.Category.Linkage

/-!
# Families in a plan

The plan of a hierarchy is one list for both kinds, and its rows refer to each other by ids alone. Still it is the
hierarchy: it falls into families, one for each main category of the file, and what looks rows up in the whole list does
not confuse these.

* `Family`: a main category with its children. `Family.StandsFor` compares it with one of the file.
* `Family.FoundIn`: the lookups in a list of rows find the family.
* `children_rowsOf`, `getLast?_roots_of_rowsOf`: rows that fall into families with different ids. The children of each
  main category are those of its family, and the last main category before a child is that of its family.
* `families`: the families of a plan, as the plan numbers them.
* `laidOut_plan`: a plan with different ids has all that the file tells.
-/

namespace Upkeep.Category

open Template

/-- A main category with its children. -/
structure Family where
  root : Template
  children : List Template

namespace Family

def rows (f : Family) : List Template := f.root :: f.children

def rowsOf (fs : List Family) : List Template := fs.flatMap rows

/-- A family is a main category of the file: the first row is of the category itself and has no parent, and the other
rows are of its children in their order and have the first one as their parent. -/
structure StandsFor (reading : Char → Option Text) (f : Family) (kind : Kind) (m : MainEntry) : Prop where
  root : f.root = Template.make reading f.root.id m.entry.name m.entry.iconFile kind none
  children : List.Forall₂ (fun e c => c = Template.make reading c.id e.name e.iconFile kind (some f.root.id))
    m.children f.children

/-- The lookups in a list of rows find a family. -/
structure FoundIn (f : Family) (all : List Template) : Prop where
  find? : find? all f.root.id = some f.root
  children : Template.children all f.root.id = f.children
  pathText_root : pathText all f.root = f.root.name
  pathText_child : ∀ c ∈ f.children, pathText all c = f.root.name ++ arrow ++ c.name

/-- The first row has no parent. It is that of the others, which are of its type and colour. -/
structure Rooted (f : Family) : Prop where
  root : f.root.parentId = none
  child : ∀ c ∈ f.children, c.parentId = some f.root.id ∧ c.kind = f.root.kind ∧ c.color = f.root.color

variable {f : Family} {fs : List Family} {c : Template}

/-! ## Rows of families -/

theorem rowsOf_cons (f : Family) (fs : List Family) : rowsOf (f :: fs) = f.rows ++ rowsOf fs := rfl

theorem rowsOf_append (fs gs : List Family) : rowsOf (fs ++ gs) = rowsOf fs ++ rowsOf gs := List.flatMap_append

theorem root_mem_rowsOf (hf : f ∈ fs) : f.root ∈ rowsOf fs :=
  List.mem_flatMap.mpr ⟨f, hf, List.mem_cons_self⟩

theorem find?_of_mem {all : List Template} (hnodup : (all.map (·.id)).Nodup) (h : c ∈ all) :
    Template.find? all c.id = some c := by
  induction all with
  | nil => cases h
  | cons d all ih =>
    rw [List.map_cons, List.nodup_cons] at hnodup
    rcases List.mem_cons.mp h with rfl | h
    · simp [Template.find?]
    · have hne : (d.id == c.id) = false :=
        beq_eq_false_iff_ne.mpr fun hid => hnodup.1 (hid ▸ List.mem_map_of_mem h)
      rw [Template.find?, List.find?_cons, hne]
      exact ih hnodup.2 h

theorem Rooted.children_rows (hf : f.Rooted) (id : Text) :
    Template.children f.rows id = if id = f.root.id then f.children else [] := by
  have hroot : (f.root.parentId == some id) = false := by rw [hf.root]; rfl
  rw [Template.children, rows, List.filter_cons_of_neg (by rw [hroot]; exact Bool.false_ne_true)]
  split
  · next hid => exact List.filter_eq_self.mpr fun c hc => by rw [(hf.child c hc).1, hid, beq_self_eq_true]
  · next hid =>
    refine List.filter_eq_nil_iff.mpr fun c hc heq => hid ?_
    rw [(hf.child c hc).1] at heq
    exact (Option.some.inj (eq_of_beq heq)).symm

theorem children_rowsOf_cons (hf : f.Rooted) (fs : List Family) (id : Text) : Template.children (rowsOf (f :: fs)) id =
    (if id = f.root.id then f.children else []) ++ Template.children (rowsOf fs) id := by
  rw [← hf.children_rows, rowsOf_cons]
  exact List.filter_append _ _

theorem children_rowsOf_eq_nil (hfs : ∀ f ∈ fs, f.Rooted) {id : Text} (hid : ∀ f ∈ fs, id ≠ f.root.id) :
    Template.children (rowsOf fs) id = [] := by
  induction fs with
  | nil => rfl
  | cons f fs ih =>
    obtain ⟨hf, hfs⟩ := List.forall_mem_cons.mp hfs
    obtain ⟨hne, hid⟩ := List.forall_mem_cons.mp hid
    rw [children_rowsOf_cons hf, if_neg hne, List.nil_append, ih hfs hid]

theorem children_rowsOf (hfs : ∀ f ∈ fs, f.Rooted) (hnodup : ((rowsOf fs).map (·.id)).Nodup) (hf : f ∈ fs) :
    Template.children (rowsOf fs) f.root.id = f.children := by
  induction fs with
  | nil => cases hf
  | cons g fs ih =>
    obtain ⟨hg, hlater⟩ := List.forall_mem_cons.mp hfs
    rw [rowsOf_cons, List.map_append, List.nodup_append'] at hnodup
    obtain ⟨-, hnodup, hdisjoint⟩ := hnodup
    have hne : ∀ f ∈ fs, g.root.id ≠ f.root.id := fun f hf hid =>
      hdisjoint (List.mem_map_of_mem List.mem_cons_self) (hid ▸ List.mem_map_of_mem (root_mem_rowsOf hf))
    rw [children_rowsOf_cons hg]
    rcases List.mem_cons.mp hf with rfl | hf
    · rw [if_pos rfl, children_rowsOf_eq_nil hlater hne, List.append_nil]
    · rw [if_neg (hne f hf).symm, List.nil_append, ih hlater hnodup hf]

theorem Rooted.roots_of_rows (hf : f.Rooted) {front back : List Template} (hsplit : f.rows = front ++ c :: back)
    (hchild : c.parentId ≠ none) : c ∈ f.children ∧ roots front = [f.root] := by
  cases front with
  | nil =>
    obtain ⟨rfl, -⟩ := List.cons.inj hsplit
    exact absurd hf.root hchild
  | cons root front =>
    obtain ⟨rfl, hrest⟩ := List.cons.inj hsplit
    have hnone : front.filter isRoot = [] := by
      refine List.filter_eq_nil_iff.mpr fun d hd => ?_
      have hparent := (hf.child d (hrest ▸ List.mem_append_left _ hd)).1
      simp [isRoot, hparent]
    have hroot : f.root.isRoot = true := by rw [isRoot, hf.root]; rfl
    exact ⟨hrest ▸ List.mem_append_right _ List.mem_cons_self, by rw [roots, List.filter_cons_of_pos hroot, hnone]⟩

theorem getLast?_roots_of_rowsOf (hfs : ∀ f ∈ fs, f.Rooted) {front back : List Template}
    (hsplit : rowsOf fs = front ++ c :: back) (hchild : c.parentId ≠ none) :
    ∃ f ∈ fs, c ∈ f.children ∧ (roots front).getLast? = some f.root := by
  induction fs generalizing front with
  | nil => cases front <;> cases hsplit
  | cons f fs ih =>
    obtain ⟨hf, hfs⟩ := List.forall_mem_cons.mp hfs
    rw [rowsOf_cons] at hsplit
    rcases List.append_eq_append_iff.mp hsplit with ⟨front, rfl, hrest⟩ | ⟨rest, hrows, hback⟩
    · -- the row is in a later family, so its main category is behind the whole of this one
      obtain ⟨g, hg, hc, hlast⟩ := ih hfs hrest
      refine ⟨g, List.mem_cons_of_mem f hg, hc, ?_⟩
      rw [roots] at hlast ⊢
      rw [List.filter_append, List.getLast?_append, hlast]
      rfl
    · cases rest with
      | nil =>
        -- no main category of the later families is before the row, which then is none of their children
        obtain ⟨g, -, -, hlast⟩ := ih hfs (show rowsOf fs = [] ++ c :: back from hback.symm)
        cases hlast
      | cons c' rest =>
        obtain ⟨rfl, -⟩ := List.cons.inj hback
        obtain ⟨hc, hroots⟩ := hf.roots_of_rows hrows hchild
        exact ⟨f, List.mem_cons_self, hc, by rw [hroots]; rfl⟩

theorem foundIn_rowsOf (hfs : ∀ f ∈ fs, f.Rooted) (hnodup : ((rowsOf fs).map (·.id)).Nodup) (hf : f ∈ fs) :
    f.FoundIn (rowsOf fs) := by
  have hfind := find?_of_mem hnodup (root_mem_rowsOf hf)
  refine ⟨hfind, children_rowsOf hfs hnodup hf, ?_, fun c hc => ?_⟩
  · simp [pathText, (hfs f hf).root]
  · simp [pathText, ((hfs f hf).child c hc).1, hfind]

end Family

namespace Hierarchy

variable (reading : Char → Option Text) (ids : Nat → Text) (kind : Kind)

/-! ## Families of a plan -/

/-- The families of the main categories of a kind, with the ids from `n` on. -/
def families (n : Nat) : List MainEntry → List Family
  | [] => []
  | m :: ms =>
    ⟨Template.make reading (ids n) m.entry.name m.entry.iconFile kind none, planChildren reading ids kind (ids n) (n + 1) m.children⟩ ::
      families (n + 1 + m.children.length) ms

theorem rowsOf_families (n : Nat) (ms : List MainEntry) :
    Family.rowsOf (families reading ids kind n ms) = planSection reading ids kind n ms := by
  induction ms generalizing n with
  | nil => rfl
  | cons m ms ih => rw [families, Family.rowsOf_cons, ih]; rfl

theorem forall₂_planChildren (parent : Text) (n : Nat) (es : List Entry) :
    List.Forall₂ (fun e c => c = Template.make reading c.id e.name e.iconFile kind (some parent)) es
      (planChildren reading ids kind parent n es) := by
  induction es generalizing n with
  | nil => exact .nil
  | cons e es ih => exact .cons rfl (ih (n + 1))

theorem standsFor_families (n : Nat) (ms : List MainEntry) :
    List.Forall₂ (fun m f => f.StandsFor reading kind m) ms (families reading ids kind n ms) := by
  induction ms generalizing n with
  | nil => exact .nil
  | cons m ms ih => exact .cons ⟨rfl, forall₂_planChildren reading ids kind _ _ _⟩ (ih _)

theorem rooted_families {n : Nat} {ms : List MainEntry} {f : Family} (hf : f ∈ families reading ids kind n ms) :
    f.Rooted ∧ f.root.kind = kind := by
  induction ms generalizing n with
  | nil => cases hf
  | cons m ms ih =>
    rcases List.mem_cons.mp hf with rfl | hf
    · refine ⟨⟨rfl, fun c hc => ?_⟩, rfl⟩
      obtain ⟨hparent, hkind, hcolor, -⟩ := mem_planChildren reading ids kind hc
      exact ⟨hparent, hkind, hcolor⟩
    · exact ih hf

/-- The families of the main categories of a kind in a plan. -/
def familiesOf (h : Hierarchy) : Kind → List Family
  | .expense => families reading ids .expense 0 h.expense
  | .income => families reading ids .income (size h.expense) h.income

variable (h : Hierarchy)

theorem standsFor_familiesOf (kind : Kind) :
    List.Forall₂ (fun m f => f.StandsFor reading kind m) (h.ofKind kind) (h.familiesOf reading ids kind) := by
  cases kind <;> exact standsFor_families reading ids _ _ _

theorem rooted_familiesOf {kind : Kind} {f : Family} (hf : f ∈ h.familiesOf reading ids kind) :
    f.Rooted ∧ f.root.kind = kind := by
  cases kind <;> exact rooted_families reading ids _ hf

theorem plan_eq_rowsOf : h.plan reading ids = Family.rowsOf (h.familiesOf reading ids .expense ++ h.familiesOf reading ids .income) := by
  rw [Family.rowsOf_append, familiesOf, familiesOf, rowsOf_families, rowsOf_families]
  rfl

theorem ofKind_rowsOf_familiesOf (kind kind' : Kind) :
    Template.ofKind (Family.rowsOf (h.familiesOf reading ids kind')) kind =
      if kind' = kind then Family.rowsOf (h.familiesOf reading ids kind') else [] := by
  have hkind : ∀ c ∈ Family.rowsOf (h.familiesOf reading ids kind'), c.kind = kind' := by
    intro c hc
    obtain ⟨f, hf, hc⟩ := List.mem_flatMap.mp hc
    obtain ⟨hrooted, hroot⟩ := h.rooted_familiesOf reading ids hf
    rcases List.mem_cons.mp hc with rfl | hc
    · exact hroot
    · exact (hrooted.child c hc).2.1.trans hroot
  split
  · next heq => exact List.filter_eq_self.mpr fun c hc => beq_iff_eq.mpr ((hkind c hc).trans heq)
  · next hne => exact List.filter_eq_nil_iff.mpr fun c hc heq => hne ((hkind c hc).symm.trans (eq_of_beq heq))

theorem ofKind_plan (kind : Kind) : Template.ofKind (h.plan reading ids) kind = Family.rowsOf (h.familiesOf reading ids kind) := by
  have happend : ∀ rows rows', Template.ofKind (rows ++ rows') kind =
      Template.ofKind rows kind ++ Template.ofKind rows' kind := List.filter_append
  rw [plan_eq_rowsOf, Family.rowsOf_append, happend, ofKind_rowsOf_familiesOf, ofKind_rowsOf_familiesOf]
  cases kind with
  | expense => exact List.append_nil _
  | income => rfl

/-! ## Ids and numbers -/

theorem map_id_planChildren (parent : Text) (n : Nat) (es : List Entry) :
    (planChildren reading ids kind parent n es).map (·.id) = (List.range' n es.length).map ids := by
  induction es generalizing n with
  | nil => rfl
  | cons e es ih => rw [planChildren, List.map_cons, ih]; rfl

theorem map_id_planSection (n : Nat) (ms : List MainEntry) :
    (planSection reading ids kind n ms).map (·.id) = (List.range' n (size ms)).map ids := by
  induction ms generalizing n with
  | nil => rfl
  | cons m ms ih =>
    have hfamily : (planFamily reading ids kind n m).map (·.id) = (List.range' n (1 + m.children.length)).map ids := by
      rw [planFamily, List.map_cons, map_id_planChildren, Nat.add_comm 1]
      rfl
    rw [planSection, List.map_append, hfamily, ih, ← List.map_append, Nat.add_assoc, List.range'_append_1]
    rfl

theorem map_id_plan : (h.plan reading ids).map (·.id) = (List.range (size h.expense + size h.income)).map ids := by
  rw [plan, List.map_append, map_id_planSection, map_id_planSection, ← List.map_append, List.range_eq_range',
    ← List.range'_append_1, Nat.zero_add]

theorem size_eq_sum (ms : List MainEntry) : size ms = (ms.map fun m => 1 + m.children.length).sum := by
  induction ms with
  | nil => rfl
  | cons m ms ih => rw [List.map_cons, List.sum_cons, ← ih]; rfl

/-! ## The plan -/

/-- The rows are the hierarchy. The expenses come before the incomes, the rows of each type are the families of its main
categories in the order of the file, and the lookups find them. The last main category before a child is its parent. -/
structure LaidOut (all : List Template) : Prop where
  kinds : all = Template.ofKind all .expense ++ Template.ofKind all .income
  families : ∀ kind, ∃ fs : List Family, Template.ofKind all kind = Family.rowsOf fs ∧
    List.Forall₂ (fun m f => f.StandsFor reading kind m) (h.ofKind kind) fs ∧ ∀ f ∈ fs, f.FoundIn all
  length : all.length = ((h.expense ++ h.income).map fun m => 1 + m.children.length).sum
  parent : ∀ front c back p, all = front ++ c :: back → c.parentId = some p →
    ∃ root, (roots front).getLast? = some root ∧ root.id = p ∧ root.kind = c.kind ∧ root.color = c.color

/-- A plan is the hierarchy if the ids that it takes differ, whatever the names are. -/
theorem laidOut_plan (hids : ((List.range (size h.expense + size h.income)).map ids).Nodup) :
    h.LaidOut reading (h.plan reading ids) := by
  have hrooted : ∀ f ∈ h.familiesOf reading ids .expense ++ h.familiesOf reading ids .income, f.Rooted :=
    fun f hf => (List.mem_append.mp hf).elim (fun hf => (h.rooted_familiesOf reading ids hf).1)
      fun hf => (h.rooted_familiesOf reading ids hf).1
  have hrows := h.plan_eq_rowsOf reading ids
  rw [← map_id_plan, hrows] at hids
  refine ⟨?_, fun kind => ⟨h.familiesOf reading ids kind, h.ofKind_plan reading ids kind,
    h.standsFor_familiesOf reading ids kind, ?_⟩, ?_, ?_⟩
  · rw [ofKind_plan, ofKind_plan, ← Family.rowsOf_append, hrows]
  · intro f hf
    have hmem : f ∈ h.familiesOf reading ids .expense ++ h.familiesOf reading ids .income := by
      cases kind with
      | expense => exact List.mem_append_left _ hf
      | income => exact List.mem_append_right _ hf
    exact hrows ▸ Family.foundIn_rowsOf hrooted hids hmem
  · rw [length_plan, List.map_append, List.sum_append, size_eq_sum, size_eq_sum]
  · intro front c back p hsplit hp
    obtain ⟨f, hf, hc, hlast⟩ := Family.getLast?_roots_of_rowsOf hrooted (hrows ▸ hsplit)
      (hp ▸ Option.some_ne_none p)
    obtain ⟨hparent, hkind, hcolor⟩ := (hrooted f hf).child c hc
    exact ⟨f.root, hlast, Option.some.inj (hparent.symm.trans hp), hkind.symm, hcolor.symm⟩

/-- Names that repeat within a type and across the types, and main categories without children. -/
def repeated : Hierarchy where
  expense := [⟨false, ⟨['a'], none⟩, [⟨['a'], none⟩, ⟨['猫'], some []⟩]⟩, ⟨true, ⟨['a'], none⟩, []⟩]
  income := [⟨false, ⟨[], none⟩, []⟩, ⟨false, ⟨['a'], none⟩, [⟨['a'], none⟩]⟩]

theorem laidOut_plan_repeated : ((List.range (size repeated.expense + size repeated.income)).map numberedIds).Nodup ∧
    repeated.LaidOut catReading (repeated.plan catReading numberedIds) ∧
    (repeated.plan catReading numberedIds).map (pathText (repeated.plan catReading numberedIds)) =
      [['a'], "a → a".toList, "a → 猫".toList, ['a'], [], ['a'], "a → a".toList] :=
  have hids : ((List.range (size repeated.expense + size repeated.income)).map numberedIds).Nodup := by decide
  ⟨hids, laidOut_plan catReading numberedIds repeated hids, by decide⟩

end Hierarchy
end Upkeep.Category
