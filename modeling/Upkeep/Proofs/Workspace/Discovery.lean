import Upkeep.Proofs.Workspace.Steps
import Upkeep.Workspace.Discovery

/-!
# Files that a search finds

In a tree whose directories hold each name once, a search finds each file once.

* `Dir.Proper`: the names of a tree are names, and each stands once in its directory.
* `Dir.nodup_placesWithExtension`: the places that a search finds differ from each other.
* `locate_foldl_join`: the path that is told for a place leads there.
* `filesWithExtension_eq`: what is in the files does not matter.
* `apart_filesWithExtension`: no two of the paths found lead to one file.
-/

namespace Upkeep

open Text

def IsName (n : Text) : Prop := n ≠ [] ∧ '/' ∉ n ∧ n ≠ ['.'] ∧ n ≠ ['.', '.']

instance : DecidablePred IsName := fun _ => inferInstanceAs (Decidable (_ ∧ _))

namespace Dir

/-- All names of a tree are names, and each stands once in its directory. -/
def Proper : Dir → Prop
  | empty => True
  | file n _ rest => IsName n ∧ rest.child? n = none ∧ rest.Proper
  | sub n entries rest => IsName n ∧ rest.child? n = none ∧ entries.Proper ∧ rest.Proper

instance decidableProper : DecidablePred Proper
  | empty => .isTrue trivial
  | file _ _ rest =>
    have := decidableProper rest
    inferInstanceAs (Decidable (_ ∧ _ ∧ _))
  | sub _ entries rest =>
    have := decidableProper entries
    have := decidableProper rest
    inferInstanceAs (Decidable (_ ∧ _ ∧ _ ∧ _))

variable {d : Dir} {place : Place}

theorem Proper.of_child? {n : Text} {entries : Dir} (hd : d.Proper) (h : d.child? n = some (.dir entries)) :
    entries.Proper := by
  induction d with
  | empty => cases h
  | file m content rest ih =>
    rw [child?] at h
    split at h
    · cases h
    · exact ih hd.2.2 h
  | sub m others rest _ ih =>
    rw [child?] at h
    split at h
    · cases h
      exact hd.2.2.1
    · exact ih hd.2.2.2 h

theorem Proper.of_lookup? {entries : Dir} (hd : d.Proper) (h : d.lookup? place = some (.dir entries)) :
    entries.Proper := by
  induction place generalizing d with
  | nil =>
    cases h
    exact hd
  | cons n place ih =>
    rw [lookup?_cons] at h
    cases hc : d.child? n with
    | none => simp [hc] at h
    | some node =>
      cases node with
      | file bytes => cases place <;> simp [hc] at h
      | dir below =>
        simp only [hc] at h
        exact ih (hd.of_child? hc) h

theorem exists_child_of_mem_sourcePlaces (h : place ∈ d.sourcePlaces) :
    ∃ n rest, place = n :: rest ∧ d.child? n ≠ none := by
  induction d with
  | empty => cases h
  | file m content rest ih =>
    rcases List.mem_cons.mp h with rfl | h
    · exact ⟨m, [], rfl, by simp [child?]⟩
    · obtain ⟨n, others, rfl, hn⟩ := ih h
      refine ⟨n, others, rfl, ?_⟩
      rw [child?]
      split
      · simp
      · exact hn
  | sub m entries rest _ ih =>
    rcases List.mem_append.mp h with h | h
    · split at h
      · cases h
      · obtain ⟨others, -, rfl⟩ := List.mem_map.mp h
        exact ⟨m, others, rfl, by simp [child?]⟩
    · obtain ⟨n, others, rfl, hn⟩ := ih h
      refine ⟨n, others, rfl, ?_⟩
      rw [child?]
      split
      · simp
      · exact hn

theorem isName_of_mem_sourcePlaces (hd : d.Proper) (h : place ∈ d.sourcePlaces) : ∀ n ∈ place, IsName n := by
  induction d generalizing place with
  | empty => cases h
  | file m content rest ih =>
    obtain ⟨hm, -, hrest⟩ := hd
    rcases List.mem_cons.mp h with rfl | h
    · exact fun n hn => List.mem_singleton.mp hn ▸ hm
    · exact ih hrest h
  | sub m entries rest ihe ih =>
    obtain ⟨hm, -, hentries, hrest⟩ := hd
    rcases List.mem_append.mp h with h | h
    · split at h
      · cases h
      · obtain ⟨others, hothers, rfl⟩ := List.mem_map.mp h
        exact List.forall_mem_cons.mpr ⟨hm, ihe hentries hothers⟩
    · exact ih hrest h

theorem cons_notMem_sourcePlaces {m : Text} (h : d.child? m = none) (others : Place) : m :: others ∉ d.sourcePlaces := by
  intro hmem
  obtain ⟨n, _, he, hn⟩ := exists_child_of_mem_sourcePlaces hmem
  obtain ⟨rfl, -⟩ := List.cons.inj he
  exact hn h

theorem nodup_sourcePlaces (hd : d.Proper) : d.sourcePlaces.Nodup := by
  induction d with
  | empty => exact List.nodup_nil
  | file m content rest ih =>
    obtain ⟨-, hnone, hrest⟩ := hd
    exact List.nodup_cons.mpr ⟨cons_notMem_sourcePlaces hnone [], ih hrest⟩
  | sub m entries rest ihe ih =>
    obtain ⟨-, hnone, hentries, hrest⟩ := hd
    refine List.nodup_append.mpr ⟨?_, ih hrest, ?_⟩
    · split
      · exact List.nodup_nil
      · exact List.pairwise_map.mpr ((ihe hentries).imp fun hne he => hne (List.cons.inj he).2)
    · intro p hp q hq he
      split at hp
      · cases hp
      · obtain ⟨others, -, rfl⟩ := List.mem_map.mp hp
        exact cons_notMem_sourcePlaces hnone others (he ▸ hq)

theorem nodup_placesWithExtension (hd : d.Proper) (extension : Text) :
    (d.placesWithExtension extension).Nodup :=
  (List.mergeSort_perm _ _).nodup_iff.mpr ((nodup_sourcePlaces hd).filter _)

theorem mem_sourcePlaces_of_mem_placesWithExtension {extension : Text}
    (h : place ∈ d.placesWithExtension extension) : place ∈ d.sourcePlaces :=
  List.mem_of_mem_filter (List.mem_mergeSort.mp h)

theorem sourcePlaces_outline (d : Dir) : d.outline.sourcePlaces = d.sourcePlaces := by
  induction d with
  | empty => rfl
  | file n content rest ih => simp [outline, sourcePlaces, ih]
  | sub n entries rest ihe ih => simp [outline, sourcePlaces, ihe, ih]

end Dir

namespace Workspace

variable {w v : Workspace} {root : Path} {place : Place}

/-! ## The path for a place -/

theorem isAbsolute_of_isName {n : Text} (h : IsName n) : Path.isAbsolute n = false := by
  cases habs : Path.isAbsolute n with
  | false => rfl
  | true =>
    obtain ⟨rest, rfl⟩ := startsWith_iff.mp habs
    exact absurd List.mem_cons_self h.2.1

theorem steps_of_isName {n : Text} (h : IsName n) : steps n = [n] := by
  have hn : n ≠ [] := h.1
  rw [steps, splitOn_of_not_contains (contains_of_not_mem List.mem_cons_self h.2.1)]
  simp [hn]

theorem steps_foldl_join (h : ∀ n ∈ place, IsName n) (root : Path) :
    steps (place.foldl Path.join root) = steps root ++ place := by
  induction place generalizing root with
  | nil => simp
  | cons n place ih =>
    obtain ⟨hn, hplace⟩ := List.forall_mem_cons.mp h
    rw [List.foldl_cons, ih hplace, steps_join root (isAbsolute_of_isName hn), steps_of_isName hn,
      List.append_assoc, List.singleton_append]

theorem start_foldl_join (w : Workspace) (h : ∀ n ∈ place, IsName n) (root : Path) :
    w.start (place.foldl Path.join root) = w.start root := by
  induction place generalizing root with
  | nil => rfl
  | cons n place ih =>
    obtain ⟨hn, hplace⟩ := List.forall_mem_cons.mp h
    rw [List.foldl_cons, ih hplace, start_join w root (isAbsolute_of_isName hn)]

theorem follow_names {d : Dir} {above reached : Place} (h : ∀ n ∈ place, IsName n)
    (hf : follow d above place = .ok reached) : reached = above ++ place := by
  induction place generalizing above with
  | nil => simpa [follow] using hf.symm
  | cons n place ih =>
    obtain ⟨⟨-, -, hdot, hdots⟩, hplace⟩ := List.forall_mem_cons.mp h
    rw [follow] at hf
    split at hf
    · cases hf
    · cases hf
    · rw [if_neg hdot, if_neg hdots] at hf
      split_ifs at hf
      have := ih hplace hf
      rwa [List.append_assoc, List.singleton_append] at this

theorem locate_foldl_join {above reached : Place} (habove : w.locate root = .ok above)
    (h : ∀ n ∈ place, IsName n) (hl : w.locate (place.foldl Path.join root) = .ok reached) :
    reached = above ++ place := by
  have hf := follow_of_locate hl
  rw [start_foldl_join w h, steps_foldl_join h, follow_append,
    follow_of_locate habove] at hf
  exact follow_names h hf

/-! ## The paths found -/

/-- What is in the files does not matter to a search. -/
theorem filesWithExtension_eq (h : v.outline = w.outline) (root : Path) (extension : Text) :
    v.filesWithExtension root extension = w.filesWithExtension root extension := by
  have hnode := map_outline_node h root
  have hreads : v.readsDirOf root = w.readsDirOf root := funext fun place => (SameShape.of_outline h).isDir_eq _
  unfold filesWithExtension
  rw [hreads]
  cases hv : v.node root with
  | error reason =>
    cases hw : w.node root with
    | error reason' => rfl
    | ok old => simp [hv, hw, Except.map] at hnode
  | ok new =>
    cases hw : w.node root with
    | error reason' => simp [hv, hw, Except.map] at hnode
    | ok old =>
      have ho : new.outline = old.outline := by simpa [hv, hw, Except.map] using hnode
      cases new with
      | file bytes =>
        cases old with
        | file bytes' => rfl
        | dir entries => cases ho
      | dir others =>
        cases old with
        | file bytes' => cases ho
        | dir entries =>
          have houtline : others.outline = entries.outline := Node.dir.inj ho
          simp only [Dir.placesWithExtension, ← Dir.sourcePlaces_outline others, houtline, Dir.sourcePlaces_outline]

/-- No two of the paths that a search finds lead to one file. -/
theorem apart_filesWithExtension (hproper : w.root.Proper) (root : Path) (extension : Text) :
    w.Apart (w.filesWithExtension root extension) := by
  unfold filesWithExtension
  cases hn : w.node root with
  | error reason => exact .nil
  | ok node =>
    cases node with
    | file bytes =>
      dsimp only
      split
      · exact List.pairwise_singleton _ _
      · exact .nil
    | dir d =>
      obtain ⟨above, habove, hlookup⟩ := locate_of_node hn
      have hd := hproper.of_lookup? hlookup
      have hnames : ∀ p ∈ (d.placesWithExtension extension).filter (w.readsDirOf root), ∀ n ∈ p, IsName n :=
        fun p hp => Dir.isName_of_mem_sourcePlaces hd
          (Dir.mem_sourcePlaces_of_mem_placesWithExtension (List.mem_of_mem_filter hp))
      refine List.pairwise_map.mpr (((Dir.nodup_placesWithExtension hd extension).filter _).imp_of_mem
        fun {p q} hp hq hne => ?_)
      cases hfile : w.file? (p.foldl Path.join root) with
      | none => exact .inl hfile
      | some reached =>
        -- both paths would lead to the place of the root with their own place behind it
        refine .inr fun he => hne ?_
        have hreached := locate_foldl_join habove (hnames p hp) (file?_eq_some_iff.mp hfile).1
        have hreached' := locate_foldl_join habove (hnames q hq) (file?_eq_some_iff.mp (he ▸ hfile)).1
        exact List.append_cancel_left (hreached.symm.trans hreached')

end Workspace
end Upkeep
