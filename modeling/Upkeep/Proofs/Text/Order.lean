import Mathlib.Data.Char
import Mathlib.Data.List.Lex
import Mathlib.Order.Lattice
import Upkeep.Text.Order

/-!
# Sorted lists without repetitions

`notAfter` is the lexicographic order of texts (`notAfter_iff`). Lists that are told in order are made in two steps:
first the later elements of each key are dropped (`nodup_eraseDupsBy`), then what is left is sorted, and as no key
comes twice any more it ascends strictly (`pairwise_lt_mergeSort`).
-/

namespace Upkeep.Text

/-! ## The order -/

theorem notAfter_iff {s t : Text} : notAfter s t = true ↔ s ≤ t := by
  rw [← not_lt]
  induction s generalizing t with
  | nil => simp [notAfter]
  | cons c s ih =>
    cases t with
    | nil => simp [notAfter]
    | cons d t =>
      rw [notAfter, List.cons_lt_cons_iff]
      split
      · next h =>
        subst h
        simp [ih]
      · next h =>
        have hne : d ≠ c := Ne.symm h
        have hcode : c.toNat ≠ d.toNat := fun e => h (Char.toNat_inj.mp e)
        simpa [hne, Char.lt_def, UInt32.lt_iff_toNat_lt] using hcode.le_iff_lt.symm

/-! ## Dropping repetitions -/

section Repetitions

variable {α β : Type}

theorem eraseDupsBy_induction (r : α → α → Bool) {motive : List α → Prop} (nil : motive [])
    (cons : ∀ a l, motive (l.filter fun b => r b a = false) → motive (a :: l)) (l : List α) : motive l := by
  induction hn : l.length using Nat.strongRecOn generalizing l with
  | ind n ih =>
    cases l with
    | nil => exact nil
    | cons a l =>
      refine cons a l (ih _ ?_ _ rfl)
      have := l.length_filter_le fun b => decide (r b a = false)
      rw [List.length_cons] at hn
      omega

theorem eraseDupsBy_subset (r : α → α → Bool) (l : List α) : l.eraseDupsBy r ⊆ l := by
  induction l using eraseDupsBy_induction r with
  | nil => exact List.Subset.refl []
  | cons a l ih =>
    rw [List.eraseDupsBy_cons]
    exact List.cons_subset_cons a (List.Subset.trans ih (List.filter_subset_self _))

theorem nodup_eraseDupsBy [BEq β] [LawfulBEq β] (key : α → β) (l : List α) :
    ((l.eraseDupsBy fun a b => key a == key b).map key).Nodup := by
  induction l using eraseDupsBy_induction (fun a b => key a == key b) with
  | nil => exact List.nodup_nil
  | cons a l ih =>
    rw [List.eraseDupsBy_cons, List.map_cons, List.nodup_cons]
    refine ⟨fun hmem => ?_, ih⟩
    obtain ⟨b, hb, hkey⟩ := List.mem_map.mp hmem
    have hne := List.of_mem_filter (eraseDupsBy_subset _ _ hb)
    simp [hkey] at hne

theorem nodup_eraseDups [BEq β] [LawfulBEq β] (l : List β) : l.eraseDups.Nodup := by
  have h := nodup_eraseDupsBy id l
  rwa [List.map_id] at h

theorem map_eraseDupsBy [BEq β] [LawfulBEq β] (key : α → β) (l : List α) :
    (l.eraseDupsBy fun a b => key a == key b).map key = (l.map key).eraseDups := by
  induction l using eraseDupsBy_induction (fun a b => key a == key b) with
  | nil => rfl
  | cons a l ih =>
    rw [List.eraseDupsBy_cons, List.map_cons, ih, List.map_cons, List.eraseDups_cons, List.filter_map]
    refine congrArg (fun l => key a :: (l.map key).eraseDups) (List.filter_congr fun b _ => ?_)
    simp

end Repetitions

/-! ## Sorting -/

theorem pairwise_lt_mergeSort {α β : Type} [LinearOrder β] {le : α → α → Bool} {l : List α} (key : α → β)
    (hle : ∀ a b, le a b = true ↔ key a ≤ key b) (hnodup : (l.map key).Nodup) :
    (l.mergeSort le).Pairwise fun a b => key a < key b := by
  have hsorted : (l.mergeSort le).Pairwise fun a b => le a b = true := by
    refine List.pairwise_mergeSort (fun a b c hab hbc => ?_) (fun a b => ?_) l
    · exact (hle a c).mpr (((hle a b).mp hab).trans ((hle b c).mp hbc))
    · rw [Bool.or_eq_true, hle, hle]
      exact le_total _ _
  have hdistinct : (l.mergeSort le).Pairwise fun a b => key a ≠ key b :=
    List.pairwise_map.mp (((l.mergeSort_perm le).map key).nodup_iff.mpr hnodup)
  exact hsorted.imp₂ (fun a b hab hne => ((hle a b).mp hab).lt_of_ne hne) hdistinct

end Upkeep.Text
