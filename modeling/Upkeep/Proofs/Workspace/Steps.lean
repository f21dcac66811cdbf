import Upkeep.Proofs.Text.Splitting
import Upkeep.Proofs.Text.Utf8
import Upkeep.Proofs.Workspace.Access

/-!
# Steps of joined paths

A path that is joined to a base takes the steps of the base and then its own (`steps_join`), from where the
base starts (`start_join`). Paths that start alike, take the same steps and end alike lead to the same place
(`locate_congr`).
-/

namespace Upkeep

namespace Workspace

open Text

variable {w : Workspace} {base p q : Path}

theorem steps_append_slash (p q : Path) : steps (p ++ '/' :: q) = steps p ++ steps q := by
  rw [steps, splitOn_append_singleton, List.filter_append]
  rfl

theorem steps_nil : steps [] = [] := by
  have hnone : contains ['/'] [] = false := contains_of_not_mem List.mem_cons_self List.not_mem_nil
  rw [steps, splitOn_of_not_contains hnone]
  rfl

theorem steps_concat_slash (p : Path) : steps (p ++ ['/']) = steps p := by
  rw [steps_append_slash, steps_nil, List.append_nil]

theorem steps_join (base : Path) (h : Path.isAbsolute p = false) :
    steps (Path.join base p) = steps base ++ steps p := by
  unfold Path.join
  by_cases hb : base = []
  · subst hb
    simp [steps_nil]
  · simp only [h, hb, Bool.false_eq_true, or_self, if_false]
    split
    · next hend =>
      obtain ⟨front, rfl⟩ := endsWith_iff.mp hend
      rw [steps_concat_slash, List.append_assoc]
      exact steps_append_slash front p
    · exact steps_append_slash base p

theorem exists_join_eq (base : Path) :
    ∃ middle, ∀ p, Path.isAbsolute p = false → Path.join base p = base ++ (middle ++ p) := by
  by_cases hb : base = []
  · exact ⟨[], fun p _ => by simp [Path.join, hb]⟩
  · cases hend : Text.endsWith ['/'] base with
    | true => exact ⟨[], fun p h => by simp [Path.join, h, hb, hend]⟩
    | false => exact ⟨['/'], fun p h => by simp [Path.join, h, hb, hend]⟩

theorem isAbsolute_append (hp : p ≠ []) (q : Path) : Path.isAbsolute (p ++ q) = Path.isAbsolute p := by
  obtain ⟨c, front, rfl⟩ := List.exists_cons_of_ne_nil hp
  simp only [Path.isAbsolute, startsWith, List.cons_append, after?]
  split <;> rfl

theorem start_join (w : Workspace) (base : Path) (h : Path.isAbsolute p = false) :
    w.start (Path.join base p) = w.start base := by
  by_cases hb : base = []
  · have hnil : Path.isAbsolute [] = false := rfl
    simp [start, Path.join, hb, h, hnil]
  · obtain ⟨middle, hm⟩ := exists_join_eq base
    rw [start, start, hm p h, isAbsolute_append hb]

theorem endsWith_append (front : Text) (hp : p ≠ []) :
    Text.endsWith ['/'] (front ++ p) = Text.endsWith ['/'] p := by
  obtain ⟨init, c, rfl⟩ := (List.eq_nil_or_concat' p).resolve_left hp
  simp only [Text.endsWith, startsWith, List.reverse_append, List.reverse_cons, List.reverse_nil,
    List.nil_append, List.cons_append, after?]
  split <;> rfl

theorem endsWith_join (hp : p ≠ []) (h : Path.isAbsolute p = false) (base : Path) :
    Text.endsWith ['/'] (Path.join base p) = Text.endsWith ['/'] p := by
  obtain ⟨middle, hm⟩ := exists_join_eq base
  rw [hm p h, ← List.append_assoc, endsWith_append _ hp]

theorem follow_of_locate {place : Place} (h : w.locate p = .ok place) :
    follow w.root (w.start p) (steps p) = .ok place := by
  unfold locate at h
  split at h
  · cases h
  · rw [follow_append] at h
    cases hf : follow w.root (w.start p) (steps p) with
    | error reason => simp [hf, Except.bind] at h
    | ok above =>
      simp only [hf, Except.bind] at h
      split at h
      · -- a dot stays
        rw [follow] at h
        split at h
        · cases h
        · cases h
        · simpa [follow] using h
      · exact h

theorem flaw?_of_locate {place : Place} (h : w.locate p = .ok place) : flaw? p = none := by
  unfold locate at h
  split at h
  · cases h
  · assumption

theorem locate_congr (hp : flaw? p = none) (hq : flaw? q = none) (hstart : w.start p = w.start q)
    (hsteps : steps p = steps q) (hend : Text.endsWith ['/'] p = Text.endsWith ['/'] q) :
    w.locate p = w.locate q := by
  rw [locate, locate, hp, hq, hstart, hsteps, hend]

/-! ## Slashes in between -/

theorem flaw?_of_sublist (h : p.Sublist q) (hp : p ≠ []) (hq : flaw? q = none) : flaw? p = none := by
  unfold flaw? at hq ⊢
  split_ifs at hq with hzero hnil hlong
  have hle := size_toBytes_le h
  have hzero' : ¬ p.any (· == '\x00') = true := by
    simp only [List.any_eq_true, not_exists, not_and] at hzero ⊢
    exact fun c hc => hzero c (h.subset hc)
  rw [if_neg hzero', if_neg hp, if_neg (by omega)]

theorem steps_slashes_append {slashes : Text} (h : ∀ c ∈ slashes, c = '/') (p : Path) :
    steps (slashes ++ p) = steps p := by
  induction slashes with
  | nil => rfl
  | cons c slashes ih =>
    obtain ⟨rfl, hrest⟩ := List.forall_mem_cons.mp h
    have hslash := steps_append_slash [] (slashes ++ p)
    rw [steps_nil, ih hrest] at hslash
    exact hslash

theorem locate_join_join {name slashes : Text} (hname : name ≠ []) (hrel : Path.isAbsolute name = false)
    (hend : Text.endsWith ['/'] name = false) (hslashes : ∀ c ∈ slashes, c = '/') (hp : p ≠ [])
    (hprel : Path.isAbsolute p = false) (hflaw : flaw? (Path.join base (name ++ '/' :: (slashes ++ p))) = none) :
    w.locate (Path.join (Path.join base name) p) = w.locate (Path.join base (name ++ '/' :: (slashes ++ p))) := by
  have hrel' : Path.isAbsolute (name ++ '/' :: (slashes ++ p)) = false :=
    (isAbsolute_append hname _).trans hrel
  obtain ⟨middle, hm⟩ := exists_join_eq base
  have hjoin : Path.join (Path.join base name) p = base ++ (middle ++ (name ++ '/' :: p)) := by
    have hend' := (endsWith_join hname hrel base).trans hend
    rw [Path.join, hprel, hend', hm name hrel]
    simp [hname]
  have hsub : (Path.join (Path.join base name) p).Sublist (Path.join base (name ++ '/' :: (slashes ++ p))) := by
    rw [hjoin, hm _ hrel']
    simp
  refine locate_congr (flaw?_of_sublist hsub ?_ hflaw) hflaw ?_ ?_ ?_
  · simp [hjoin, hname]
  · rw [start_join w _ hprel, start_join w _ hrel, start_join w _ hrel']
  · rw [steps_join _ hprel, steps_join _ hrel, steps_join _ hrel', steps_append_slash,
      steps_slashes_append hslashes, List.append_assoc]
  · rw [endsWith_join hp hprel, endsWith_join (by simp [hname]) hrel', ← List.cons_append, ← List.append_assoc,
      endsWith_append _ hp]

end Workspace
end Upkeep
