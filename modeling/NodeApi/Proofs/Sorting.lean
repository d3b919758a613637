import Mathlib.Data.List.Nodup
import NodeApi.Proofs.Text.ByteOrder

/-!
# Sorting by name

A list that is sorted by the names of its elements holds the same elements, ascending in their
names.  Elements with distinct names can be sorted in one way only; elements with one name stay in
the order in which they were given.

Main results:

- Theorem `eq_of_sorted`: there is only one way to sort what has distinct names.
- Theorem `stablySorted_mergeSort`: merging sorts and keeps the order of elements with one name.
- Theorem `StablySorted.filterMap`: what is left of a sorted list is sorted.
-/

namespace NodeApi

variable {α β : Type}

/-! ## Comparing by name -/

theorem decide_name_le_trans (name : α → String) (a b c : α)
    (hab : decide (name a ≤ name b) = true) (hbc : decide (name b ≤ name c) = true) :
    decide (name a ≤ name c) = true := by
  rw [decide_eq_true_iff] at hab hbc ⊢
  exact Std.le_trans hab hbc

theorem decide_name_le_total (name : α → String) (a b : α) :
    (decide (name a ≤ name b) || decide (name b ≤ name a)) = true := by
  rw [Bool.or_eq_true, decide_eq_true_iff, decide_eq_true_iff]
  exact Std.le_total

theorem pairwise_mergeSort_name (name : α → String) (xs : List α) :
    (xs.mergeSort fun a b => name a ≤ name b).Pairwise fun a b => name a ≤ name b :=
  (List.pairwise_mergeSort (decide_name_le_trans name) (decide_name_le_total name) xs).imp
    fun h => of_decide_eq_true h

/-! ## Distinct names -/

/-- There is only one way to sort what has distinct names. -/
theorem eq_of_sorted {name : α → String} {xs ys : List α}
    (hxs : xs.Pairwise fun a b => name a ≤ name b)
    (hys : ys.Pairwise fun a b => name a ≤ name b) (hperm : xs.Perm ys)
    (hnames : (xs.map name).Nodup) : xs = ys := by
  apply List.Perm.eq_of_pairwise _ hxs hys hperm
  intro a b ha hb hab hba
  have heq : name a = name b := Std.le_antisymm hab hba
  exact List.inj_on_of_nodup_map hnames ha (hperm.mem_iff.2 hb) heq

/-! ## Repeated names -/

/-- A list holds the elements of a given one in ascending order of the bytes of their names, and
elements with one name in the order in which they were given. -/
structure StablySorted (name : α → String) (given sorted : List α) : Prop where
  perm : sorted.Perm given
  ascending : sorted.Pairwise fun a b => Text.bytes (name a) ≤ Text.bytes (name b)
  stable : ∀ key, sorted.filter (fun a => name a = key) = given.filter fun a => name a = key

/-- Merging keeps the elements with one name in the order in which they were given. -/
theorem filter_mergeSort_name (name : α → String) (key : String) (xs : List α) :
    (xs.mergeSort fun a b => name a ≤ name b).filter (fun a => name a = key) =
      xs.filter fun a => name a = key := by
  have hequal : (xs.filter fun a => name a = key).Pairwise fun a b =>
      decide (name a ≤ name b) = true := by
    refine List.pairwise_of_forall_mem_list fun a ha b hb => ?_
    have hname : name a = name b :=
      (of_decide_eq_true (List.mem_filter.1 ha).2).trans
        (of_decide_eq_true (List.mem_filter.1 hb).2).symm
    exact decide_eq_true (Std.le_of_eq hname)
  have hsublist := (List.sublist_mergeSort (decide_name_le_trans name) (decide_name_le_total name)
    hequal List.filter_sublist).filter fun a => name a = key
  have hlength := ((List.mergeSort_perm xs fun a b => name a ≤ name b).filter
    fun a => name a = key).length_eq
  rw [List.filter_filter] at hsublist
  simp only [Bool.and_self] at hsublist
  exact (hsublist.eq_of_length hlength.symm).symm

theorem stablySorted_mergeSort (name : α → String) (xs : List α) :
    StablySorted name xs (xs.mergeSort fun a b => name a ≤ name b) where
  perm := List.mergeSort_perm _ _
  ascending := (pairwise_mergeSort_name name xs).imp Text.le_iff_bytes_le.1
  stable key := filter_mergeSort_name name key xs

/-- What is left of a sorted list is sorted, as long as the names stay. -/
theorem StablySorted.filterMap {name : α → String} {name' : β → String} {given sorted : List α}
    (h : StablySorted name given sorted) {f : α → Option β}
    (hname : ∀ a b, f a = some b → name' b = name a) :
    StablySorted name' (given.filterMap f) (sorted.filterMap f) where
  perm := h.perm.filterMap f
  ascending := by
    refine List.Pairwise.filterMap f (fun a a' hle b hb b' hb' => ?_) h.ascending
    rw [hname a b hb, hname a' b' hb']
    exact hle
  stable key := by
    have hfilter : ∀ xs : List α, (xs.filterMap f).filter (fun b => name' b = key) =
        (xs.filter fun a => name a = key).filterMap f := by
      intro xs
      rw [List.filter_filterMap, List.filterMap_filter]
      refine List.filterMap_congr fun a _ => ?_
      cases hf : f a with
      | none => simp
      | some b => simp [Option.filter, hname a b hf]
    rw [hfilter, hfilter, h.stable]

end NodeApi
