import Upkeep.Proofs.Finding.Spelling
import Upkeep.Proofs.Workspace.Discovery

/-!
# Paths below a path

What is below a directory has the path of the directory and then its own names.

* `Dir.AllNames`: the names of a tree are of one sort, as are those that lead to a place in it (`AllNames.of_lookup?`).
* `Path.components_foldl_join`: the components of a path below another are those of that one and then the names. The
  last of these tells the extension (`Path.extension?_foldl_join`).
* `Workspace.locate_below`, `Workspace.isDir_below`: what is below a path is found under its own path, unless that is
  too long to be followed (`Workspace.IsShort`).
-/

namespace Upkeep

open Text

/-- Whether a file system can hold a name. -/
def IsStorable (n : Text) : Prop := '\x00' ∉ n ∧ Workspace.isTooLong n = false

instance : DecidablePred IsStorable := fun _ => inferInstanceAs (Decidable (_ ∧ _))

namespace Dir

variable {d : Dir} {place : Place}

def AllNames (P : Text → Prop) : Dir → Prop
  | empty => True
  | file n _ rest => P n ∧ rest.AllNames P
  | sub n entries rest => P n ∧ entries.AllNames P ∧ rest.AllNames P

instance decidableAllNames (P : Text → Prop) [DecidablePred P] : DecidablePred (AllNames P)
  | empty => .isTrue trivial
  | file _ _ rest =>
    have := decidableAllNames P rest
    inferInstanceAs (Decidable (_ ∧ _))
  | sub _ entries rest =>
    have := decidableAllNames P entries
    have := decidableAllNames P rest
    inferInstanceAs (Decidable (_ ∧ _ ∧ _))

theorem Proper.allNames (hd : d.Proper) : d.AllNames IsName := by
  induction d with
  | empty => trivial
  | file n content rest ih => exact ⟨hd.1, ih hd.2.2⟩
  | sub n entries rest ihe ih => exact ⟨hd.1, ihe hd.2.2.1, ih hd.2.2.2⟩

section AllNames

variable {P : Text → Prop} {node : Node} {n : Text}

theorem AllNames.of_child? (hd : d.AllNames P) (h : d.child? n = some node) :
    P n ∧ ∀ entries, node = .dir entries → entries.AllNames P := by
  induction d with
  | empty => cases h
  | file m content rest ih =>
    rw [child?] at h
    split at h
    · next hm =>
      cases h
      exact ⟨hm ▸ hd.1, fun _ he => by cases he⟩
    · exact ih hd.2 h
  | sub m others rest _ ih =>
    rw [child?] at h
    split at h
    · next hm =>
      cases h
      refine ⟨hm ▸ hd.1, fun _ he => ?_⟩
      cases he
      exact hd.2.1
    · exact ih hd.2.2 h

theorem AllNames.of_lookup? (hd : d.AllNames P) (h : d.lookup? place = some node) : ∀ n ∈ place, P n := by
  induction place generalizing d with
  | nil => exact fun _ hn => (List.not_mem_nil hn).elim
  | cons n place ih =>
    rw [lookup?_cons] at h
    obtain ⟨first, hchild, hrest⟩ := Option.bind_eq_some_iff.mp h
    obtain ⟨hn, hbelow⟩ := hd.of_child? hchild
    refine List.forall_mem_cons.mpr ⟨hn, ?_⟩
    cases first with
    | dir entries => exact ih (hbelow entries rfl) hrest
    | file bytes =>
      obtain rfl : place = [] := by
        by_contra hne
        simp [hne] at hrest
      exact fun _ hn => (List.not_mem_nil hn).elim

end AllNames

end Dir

/-! ## The components of a path -/

namespace Path

variable {base p q : Path} {n : Text} {place : Place}

theorem components_append_slash (hp : p ≠ []) (hq : '/' ∉ q) :
    components (p ++ '/' :: q) = components p ++ (Component.ofPiece? q).toList := by
  have hpieces := intercalate_splitOn ['/'] p
  have hsplit := splitOn_append_singleton '/' p q
  rw [splitOn_of_not_contains (contains_of_not_mem List.mem_cons_self hq)] at hsplit
  cases hs : splitOn ['/'] p with
  | nil => exact absurd hs (splitOn_ne_nil _ _)
  | cons first rest =>
    rw [hs] at hpieces hsplit
    have hhead : first = [] → rest ≠ [] := by
      rintro rfl rfl
      exact hp hpieces.symm
    have hinner : (rest ++ [q]).filterMap Component.ofPiece? =
        rest.filterMap Component.ofPiece? ++ (Component.ofPiece? q).toList := by
      rw [List.filterMap_append]
      cases h : Component.ofPiece? q <;> simp [h]
    simp only [components, pieces, hs, hsplit, List.cons_append, List.filterMap_cons, List.filterMap_map,
      Function.comp_def, hinner]
    -- an empty first piece is the root, as the path is not empty
    by_cases hfirst : first = []
    · simp [hfirst, hhead hfirst]
    · simp only [hfirst, if_false]
      split <;> rfl

theorem splitOn_of_isName (hn : IsName n) : splitOn ['/'] n = [n] :=
  splitOn_of_not_contains (contains_of_not_mem List.mem_cons_self hn.2.1)

theorem components_of_isName (hn : IsName n) : components n = [.name n] := by
  simp [components, pieces, splitOn_of_isName hn, Component.ofPiece?, hn.1, hn.2.2.1, hn.2.2.2]

theorem components_join (base : Path) (hn : IsName n) : components (join base n) = components base ++ [.name n] := by
  have hpiece : (Component.ofPiece? n).toList = [.name n] := by
    simp [Component.ofPiece?, hn.1, hn.2.2.1, hn.2.2.2]
  have habs := Workspace.isAbsolute_of_isName hn
  unfold join
  by_cases hb : base = []
  · subst hb
    have hnil : components [] = [] := by simp [components, pieces, splitOn_nil]
    rw [if_pos (.inr rfl), components_of_isName hn, hnil, List.nil_append]
  · rw [if_neg (by simp [habs, hb])]
    split
    · next hend =>
      obtain ⟨front, rfl⟩ := endsWith_iff.mp hend
      rw [List.append_assoc, List.singleton_append]
      by_cases hf : front = []
      · subst hf
        rw [List.nil_append, List.nil_append, components_slash, components_slash, splitOn_nil, splitOn_of_isName hn]
        simp [Component.ofPiece?, hn.1, hn.2.2.1, hn.2.2.2]
      · rw [components_append_slash hf hn.2.1, components_append_slash hf List.not_mem_nil, hpiece]
        simp [Component.ofPiece?]
    · rw [components_append_slash hb hn.2.1, hpiece]

theorem components_foldl_join (h : ∀ n ∈ place, IsName n) (root : Path) :
    components (place.foldl join root) = components root ++ place.map .name := by
  induction place generalizing root with
  | nil => simp
  | cons n place ih =>
    obtain ⟨hn, hplace⟩ := List.forall_mem_cons.mp h
    rw [List.foldl_cons, ih hplace, components_join root hn, List.map_cons, List.append_assoc, List.singleton_append]

theorem extension?_foldl_join (h : ∀ n ∈ place, IsName n) (root : Path) (hlast : place.getLast? = some n) :
    extension? (place.foldl join root) = nameExtension? n := by
  rw [extension?, fileName?, components_foldl_join h, List.getLast?_append, List.getLast?_map, hlast]
  rfl

theorem mem_join {c : Char} (h : c ∈ join p q) : c = '/' ∨ c ∈ p ∨ c ∈ q := by
  unfold join at h
  split_ifs at h
  · exact .inr (.inr h)
  · exact .inr (List.mem_append.mp h)
  · rcases List.mem_append.mp h with h | h
    · exact .inr (.inl h)
    · exact (List.mem_cons.mp h).imp_right .inr

theorem join_ne_nil (hp : p ≠ []) (hq : q ≠ []) : join p q ≠ [] := by
  unfold join
  split_ifs <;> simp [hp, hq]

end Path

namespace Workspace

/-! ## Paths below a path -/

section Below

variable {w : Workspace} {root : Path} {d : Dir} {above place : Place} {node : Node}

def IsShort (p : Path) : Prop := (toBytes p).size < 4096

instance : DecidablePred IsShort := fun _ => inferInstanceAs (Decidable (_ < _))

theorem flaw?_eq_none_iff {p : Path} : flaw? p = none ↔ '\x00' ∉ p ∧ p ≠ [] ∧ IsShort p := by
  unfold flaw? IsShort
  split_ifs with hzero hnil hlong
  · simp_all
  · simp_all
  · simp [hlong]
  · simp_all

theorem flaw?_foldl_join (hroot : flaw? root = none) (hnames : ∀ n ∈ place, IsName n)
    (hstorable : ∀ n ∈ place, IsStorable n) : flaw? (place.foldl Path.join root) = none ↔
      IsShort (place.foldl Path.join root) := by
  obtain ⟨hzero, hne, -⟩ := flaw?_eq_none_iff.mp hroot
  have hjoined : '\x00' ∉ place.foldl Path.join root ∧ place.foldl Path.join root ≠ [] := by
    clear hroot
    induction place generalizing root with
    | nil => exact ⟨hzero, hne⟩
    | cons n place ih =>
      obtain ⟨hn, hplace⟩ := List.forall_mem_cons.mp hnames
      obtain ⟨hs, hplace'⟩ := List.forall_mem_cons.mp hstorable
      refine ih hplace hplace' (fun h => ?_) (Path.join_ne_nil hne hn.1)
      rcases Path.mem_join h with h | h | h
      · cases h
      · exact hzero h
      · exact hs.1 h
  rw [flaw?_eq_none_iff, and_iff_right hjoined.1, and_iff_right hjoined.2]

theorem follow_below (hnames : ∀ n ∈ place, IsName n) (hstorable : ∀ n ∈ place, IsStorable n)
    (hnode : d.lookup? (above ++ place) = some node) : follow d above place = .ok (above ++ place) := by
  induction place generalizing above with
  | nil => rw [follow, List.append_nil]
  | cons n place ih =>
    obtain ⟨⟨-, -, hdot, hdots⟩, hplace⟩ := List.forall_mem_cons.mp hnames
    obtain ⟨hs, hplace'⟩ := List.forall_mem_cons.mp hstorable
    obtain ⟨entries, habove, hentry⟩ := Dir.exists_dir_of_lookup?_append hnode
    rw [Dir.lookup?_cons] at hentry
    obtain ⟨first, hchild, -⟩ := Option.bind_eq_some_iff.mp hentry
    rw [follow, habove]
    simp only [hdot, hdots, hs.2, hchild, if_false, Bool.false_eq_true, Option.isSome_some, if_true]
    rw [List.append_cons above n place] at hnode ⊢
    exact ih hplace hplace' hnode

theorem names_below (hproper : w.root.Proper) (hstorable : w.root.AllNames IsStorable)
    (hnode : w.root.lookup? (above ++ place) = some node) :
    (∀ n ∈ place, IsName n) ∧ ∀ n ∈ place, IsStorable n :=
  ⟨fun n hn => hproper.allNames.of_lookup? hnode n (List.mem_append_right _ hn),
    fun n hn => hstorable.of_lookup? hnode n (List.mem_append_right _ hn)⟩

theorem locate_below (hproper : w.root.Proper) (hstorable : w.root.AllNames IsStorable)
    (hroot : w.locate root = .ok above) (hnode : w.root.lookup? (above ++ place) = some node)
    (hshort : IsShort (place.foldl Path.join root)) : w.locate (place.foldl Path.join root) = .ok (above ++ place) := by
  obtain ⟨hnames, hstor⟩ := names_below hproper hstorable hnode
  rcases List.eq_nil_or_concat' place with rfl | ⟨front, n, rfl⟩
  · rw [List.append_nil]
    exact hroot
  · have hflaw := (flaw?_foldl_join (flaw?_of_locate hroot) hnames hstor).mpr hshort
    have hn : IsName n := hnames n (by simp)
    -- a slash at the end would ask for a directory, and a name has none
    have hend : Text.endsWith ['/'] ((front ++ [n]).foldl Path.join root) = false := by
      rw [List.foldl_append, List.foldl_cons, List.foldl_nil, endsWith_join hn.1 (isAbsolute_of_isName hn)]
      exact endsWith_of_not_mem List.mem_cons_self hn.2.1
    rw [locate, hflaw]
    simp only [hend, Bool.false_eq_true, if_false, List.append_nil]
    rw [start_foldl_join w hnames, steps_foldl_join hnames, follow_append, follow_of_locate hroot]
    exact follow_below hnames hstor hnode

theorem isShort_of_locate {p : Path} (h : w.locate p = .ok place) : IsShort p :=
  (flaw?_eq_none_iff.mp (flaw?_of_locate h)).2.2

theorem isDir_eq_true_iff {p : Path} :
    w.isDir p = true ↔ ∃ place entries, w.locate p = .ok place ∧ w.root.lookup? place = some (.dir entries) := by
  constructor
  · intro h
    unfold isDir at h
    cases hn : w.node p with
    | error reason => simp [hn] at h
    | ok node =>
      obtain ⟨place, hl, hlookup⟩ := locate_of_node hn
      cases node with
      | file bytes => simp [hn] at h
      | dir entries => exact ⟨place, entries, hl, hlookup⟩
  · rintro ⟨place, entries, hl, hlookup⟩
    rw [isDir, node_eq hl, hlookup]

theorem isDir_below {entries : Dir} (hproper : w.root.Proper) (hstorable : w.root.AllNames IsStorable)
    (hroot : w.locate root = .ok above) (hdir : w.root.lookup? (above ++ place) = some (.dir entries)) :
    w.isDir (place.foldl Path.join root) = true ↔ IsShort (place.foldl Path.join root) := by
  rw [isDir_eq_true_iff]
  constructor
  · rintro ⟨reached, _, hl, -⟩
    exact isShort_of_locate hl
  · exact fun hshort => ⟨above ++ place, entries, locate_below hproper hstorable hroot hdir hshort, hdir⟩

end Below
end Workspace
end Upkeep
