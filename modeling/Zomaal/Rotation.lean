/-
**Taking turns.**

A page is the first rows of a table in the order of a key, whatever order the table gives to rows
with the same key.

Main result:

* `Rotation.Front.left` — **after a page, the waiting rows that are left are fewer by its length**.
-/

import Mathlib.Order.Lattice
import Mathlib.Tactic.Common

set_option autoImplicit false

namespace Rotation

variable {ρ κ : Type*} [LinearOrder κ] (key : ρ → κ)

def Ordered (rows order : List ρ) : Prop :=
  order.Perm rows ∧ order.Pairwise fun r r' => key r ≤ key r'

/-- The first `limit` rows by their key. -/
def IsPage (limit : ℕ) (rows page : List ρ) : Prop :=
  ∃ order, Ordered key rows order ∧ page = order.take limit

def Front (waits : ρ → Prop) (rows : List ρ) : Prop :=
  ∀ r ∈ rows, ∀ r' ∈ rows, waits r → ¬ waits r' → key r < key r'

variable {key} {waits : ρ → Prop} [DecidablePred waits]

theorem Front.order_eq {order : List ρ} (hfront : Front key waits order)
    (hsorted : order.Pairwise fun r r' => key r ≤ key r') :
    order = order.filter (waits ·) ++ order.filter (¬ waits ·) := by
  induction order with
  | nil => rfl
  | cons r order ih =>
    rw [List.pairwise_cons] at hsorted
    by_cases hwaits : waits r
    · have hrest := ih (fun a ha b hb => hfront a (.tail r ha) b (.tail r hb)) hsorted.2
      rw [List.filter_cons_of_pos (by simpa using hwaits),
        List.filter_cons_of_neg (by simpa using hwaits), List.cons_append, ← hrest]
    · -- no row after one that does not wait waits itself
      have hnone : ∀ r' ∈ order, ¬ waits r' := by
        intro r' hr' hwaits'
        have hbefore := hfront r' (.tail r hr') r (.head order) hwaits' hwaits
        exact absurd (hsorted.1 r' hr') (not_le.2 hbefore)
      have hnil : order.filter (waits ·) = [] := by
        simpa [List.filter_eq_nil_iff] using hnone
      have hall : order.filter (¬ waits ·) = order := by
        simpa [List.filter_eq_self] using hnone
      rw [List.filter_cons_of_neg (by simpa using hwaits),
        List.filter_cons_of_pos (by simpa using hwaits), hnil, hall, List.nil_append]

/-- **After a page, the waiting rows that are left are fewer by its length.** -/
theorem Front.left {rows order : List ρ} (hfront : Front key waits rows)
    (horder : Ordered key rows order) (limit : ℕ) :
    ((order.drop limit).filter (waits ·)).length = (rows.filter (waits ·)).length - limit := by
  have hfront' : Front key waits order :=
    fun r hr r' hr' => hfront r (horder.1.mem_iff.1 hr) r' (horder.1.mem_iff.1 hr')
  have hcount : (rows.filter (waits ·)).length = (order.filter (waits ·)).length :=
    (horder.1.filter _).length_eq.symm
  have hothers : ((order.filter (¬ waits ·)).drop (limit - (order.filter (waits ·)).length)).filter
      (waits ·) = [] := by
    rw [List.filter_eq_nil_iff]
    intro r hr
    have := List.mem_filter.1 (List.mem_of_mem_drop hr)
    simpa using this.2
  have hwaiting : ((order.filter (waits ·)).drop limit).filter (waits ·) =
      (order.filter (waits ·)).drop limit := by
    rw [List.filter_eq_self]
    intro r hr
    exact (List.mem_filter.1 (List.mem_of_mem_drop hr)).2
  calc ((order.drop limit).filter (waits ·)).length
      = (((order.filter (waits ·) ++ order.filter (¬ waits ·)).drop limit).filter
          (waits ·)).length := by rw [← hfront'.order_eq horder.2]
    _ = ((order.filter (waits ·)).drop limit).length := by
        rw [List.drop_append, List.filter_append, hwaiting, hothers, List.append_nil]
    _ = (rows.filter (waits ·)).length - limit := by rw [List.length_drop, hcount]

end Rotation
