import Mathlib.Data.List.Basic
import Mathlib.Order.Lattice

/-!
# Walkthrough.Proofs.Ordering

Lists in the order of a key.

* `IsOrderedBy`: the items of another list by their keys, those of one key as they are listed there.
* `isOrderedBy_mergeSort`: sorting gives such a list.
* `IsOrderedBy.unique`: there is no other.
* `IsOrderedBy.filter`: what is left of it when items are left out is the order of what is left.
-/

namespace Walkthrough

section Ordering

variable {α κ : Type} [LinearOrder κ] {key : α → κ} {xs ys zs : List α}

/-- `ys` has the items of `xs` by their keys, and those of one key in the order of `xs`. -/
structure IsOrderedBy (key : α → κ) (xs ys : List α) : Prop where
  ordered : ys.Pairwise fun a b => key a ≤ key b
  ties : ∀ k, ys.filter (key · = k) = xs.filter (key · = k)

theorem isOrderedBy_mergeSort (key : α → κ) (xs : List α) :
    IsOrderedBy key xs (xs.mergeSort fun a b => key a ≤ key b) := by
  have htrans : ∀ a b c : α, decide (key a ≤ key b) = true → decide (key b ≤ key c) = true →
      decide (key a ≤ key c) = true := by
    intro a b c hab hbc
    exact decide_eq_true (le_trans (of_decide_eq_true hab) (of_decide_eq_true hbc))
  have htotal : ∀ a b : α, (decide (key a ≤ key b) || decide (key b ≤ key a)) = true := by
    intro a b
    rw [Bool.or_eq_true, decide_eq_true_eq, decide_eq_true_eq]
    exact le_total (key a) (key b)
  constructor
  · exact (List.pairwise_mergeSort htrans htotal xs).imp fun h => of_decide_eq_true h
  · intro k
    -- The items of one key are in order already, so sorting keeps them as a sublist.
    have hsame : (xs.filter (key · = k)).Pairwise fun a b => decide (key a ≤ key b) := by
      refine List.pairwise_of_forall_mem_list ?_
      intro a ha b hb
      simp only [List.mem_filter, decide_eq_true_eq] at ha hb
      exact decide_eq_true (le_of_eq (ha.2.trans hb.2.symm))
    have hkept := (List.sublist_mergeSort htrans htotal hsame List.filter_sublist).filter (key · = k)
    simp only [List.filter_filter, Bool.and_self] at hkept
    refine (hkept.eq_of_length ?_).symm
    exact ((List.mergeSort_perm xs _).filter _).length_eq.symm

theorem mem_of_filter_eq (h : ∀ k, ys.filter (key · = k) = zs.filter (key · = k)) {a : α}
    (ha : a ∈ ys) : a ∈ zs := by
  have hfilter : a ∈ ys.filter (key · = key a) := List.mem_filter.2 ⟨ha, decide_eq_true rfl⟩
  rw [h] at hfilter
  exact List.mem_of_mem_filter hfilter

/-- Two lists in order are the same if they have the same items of every key. -/
theorem eq_of_filter_eq (hy : ys.Pairwise fun a b => key a ≤ key b)
    (hz : zs.Pairwise fun a b => key a ≤ key b)
    (h : ∀ k, ys.filter (key · = k) = zs.filter (key · = k)) : ys = zs := by
  induction ys generalizing zs with
  | nil =>
    cases zs with
    | nil => rfl
    | cons z zs =>
      exact absurd (mem_of_filter_eq (fun k => (h k).symm) List.mem_cons_self) List.not_mem_nil
  | cons y ys ih =>
    cases zs with
    | nil => exact absurd (mem_of_filter_eq h List.mem_cons_self) List.not_mem_nil
    | cons z zs =>
      obtain ⟨hyfirst, hys⟩ := List.pairwise_cons.1 hy
      obtain ⟨hzfirst, hzs⟩ := List.pairwise_cons.1 hz
      -- Each of the first items is somewhere in the other list, so neither key is the larger one.
      have hle {a b : α} {as : List α} (hfirst : ∀ c ∈ as, key a ≤ key c) (hb : b ∈ a :: as) :
          key a ≤ key b := by
        rcases List.mem_cons.1 hb with rfl | hb
        · exact le_rfl
        · exact hfirst b hb
      have hkey : key y = key z := le_antisymm
        (hle hyfirst (mem_of_filter_eq (fun k => (h k).symm) List.mem_cons_self))
        (hle hzfirst (mem_of_filter_eq h List.mem_cons_self))
      have hfirst := h (key y)
      simp only [List.filter_cons, hkey, decide_true, if_true, List.cons.injEq] at hfirst
      obtain ⟨rfl, hrest⟩ := hfirst
      refine congrArg (y :: ·) (ih hys hzs fun k => ?_)
      by_cases hk : key y = k
      · rw [← hk]
        exact hrest
      · simpa only [List.filter_cons, decide_eq_true_eq, if_neg hk] using h k

theorem IsOrderedBy.unique (hy : IsOrderedBy key xs ys) (hz : IsOrderedBy key xs zs) : ys = zs :=
  eq_of_filter_eq hy.ordered hz.ordered fun k => (hy.ties k).trans (hz.ties k).symm

/-- Leaving items out and ordering may change places. -/
theorem IsOrderedBy.filter (h : IsOrderedBy key xs ys) (p : α → Bool) :
    IsOrderedBy key (xs.filter p) (ys.filter p) where
  ordered := h.ordered.filter p
  ties k := by rw [List.filter_comm, h.ties, List.filter_comm]

end Ordering

end Walkthrough
