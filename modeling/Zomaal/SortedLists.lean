/-
**Lists that are sorted have no other order.**

A list that is sorted by a total order comes out the same however its elements were arranged, when
no two of them are equal in that order.

Main results:

* `mergeSort_eq_of_perm` — **the arrangement does not matter**.
-/

import Mathlib.Data.List.Sort

set_option autoImplicit false

namespace Zomaal

variable {α κ : Type*}

/-- **The arrangement of a list does not matter** for how it is sorted, when the order tells its
elements apart. -/
theorem mergeSort_eq_of_perm {le : α → α → Bool}
    (htrans : ∀ a b c, le a b = true → le b c = true → le a c = true)
    (htotal : ∀ a b, (le a b || le b a) = true) {l l' : List α} (hperm : l.Perm l')
    (hantisymm : ∀ a ∈ l, ∀ b ∈ l, le a b = true → le b a = true → a = b) :
    l.mergeSort le = l'.mergeSort le := by
  have hsorted : ∀ l : List α, (l.mergeSort le).Pairwise fun a b => le a b = true :=
    List.pairwise_mergeSort htrans htotal
  refine List.Perm.eq_of_pairwise (fun a b ha hb hab hba => ?_) (hsorted l) (hsorted l')
    ((List.mergeSort_perm _ _).trans (hperm.trans (List.mergeSort_perm _ _).symm))
  exact hantisymm a (List.mem_mergeSort.1 ha) b (hperm.mem_iff.2 (List.mem_mergeSort.1 hb)) hab hba

def keyLE (cmp : κ → κ → Ordering) (key : α → κ) (a b : α) : Bool := cmp (key a) (key b) ≠ .gt

end Zomaal
