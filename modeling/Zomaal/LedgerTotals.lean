/-
**Totals over an append-only ledger.**

A ledger is a list of rows, oldest first, and every question asked of it is a sum: the amounts of
the rows a filter selects.

Main results:

* `Ledger.total_concat` — the effect of one appended row on a total;
* `Ledger.total_eq_sum_owners` — **a total splits by owner**, for any duplicate-free list of owners
  that covers the selected rows;
* `Ledger.RunningTotals.concat` — appending a row that records the right total keeps the running
  totals.
-/

import Mathlib.Algebra.BigOperators.Group.List.Lemmas
import Mathlib.Algebra.Order.BigOperators.Group.List

set_option autoImplicit false

namespace Ledger

variable {ρ κ M : Type*}

variable {rows : List ρ}

theorem mem_concat {r row : ρ} : row ∈ rows ++ [r] ↔ row ∈ rows ∨ row = r := by
  rw [List.mem_append, List.mem_singleton]

section Sums

variable [AddCommMonoid M] (amount : ρ → M) (sel : ρ → Bool)

/-- The sum of the amounts of the rows that `sel` selects. -/
def total (rows : List ρ) : M := ((rows.filter sel).map amount).sum

@[simp] theorem total_nil : total amount sel [] = 0 := rfl

theorem total_cons (r : ρ) (rows : List ρ) :
    total amount sel (r :: rows) = (if sel r then amount r else 0) + total amount sel rows := by
  cases h : sel r <;> simp [total, h]

theorem total_append (rows rows' : List ρ) :
    total amount sel (rows ++ rows') = total amount sel rows + total amount sel rows' := by
  simp [total]

/-- **One appended row** adds its amount to exactly the totals that select it. -/
theorem total_concat (rows : List ρ) (r : ρ) :
    total amount sel (rows ++ [r]) = total amount sel rows + if sel r then amount r else 0 := by
  rw [total_append, total_cons, total_nil, add_zero]

variable {amount sel}

theorem total_eq_zero (h : ∀ r ∈ rows, sel r = false) : total amount sel rows = 0 := by
  have hnil : rows.filter sel = [] := List.filter_eq_nil_iff.2 fun r hr => by simp [h r hr]
  rw [total, hnil]
  rfl

theorem total_congr {sel' : ρ → Bool} (h : ∀ r ∈ rows, sel r = sel' r) :
    total amount sel rows = total amount sel' rows := by
  rw [total, total, List.filter_congr h]

theorem total_map {ρ' : Type*} (f : ρ' → ρ) (rows : List ρ') :
    total amount sel (rows.map f) = total (fun r => amount (f r)) (fun r => sel (f r)) rows := by
  rw [total, total, List.filter_map, List.map_map]
  rfl

theorem total_congr_amount {amount' : ρ → M} (h : ∀ r ∈ rows, sel r = true → amount r = amount' r) :
    total amount sel rows = total amount' sel rows := by
  rw [total, total, List.map_congr_left fun r hr =>
    h r (List.mem_of_mem_filter hr) (List.of_mem_filter hr)]

@[simp] theorem total_zero (rows : List ρ) : total (fun _ => (0 : M)) sel rows = 0 := by
  simp [total]

theorem total_add (amount' : ρ → M) (rows : List ρ) :
    total (fun r => amount r + amount' r) sel rows =
      total amount sel rows + total amount' sel rows := by
  rw [total, total, total, List.sum_map_add]

theorem total_neg {G : Type*} [AddCommGroup G] (amount : ρ → G) (sel : ρ → Bool) (rows : List ρ) :
    total (fun r => -amount r) sel rows = -total amount sel rows := by
  rw [eq_neg_iff_add_eq_zero, ← total_add]
  simp

theorem sum_map_single [DecidableEq κ] {owners : List κ} (hnodup : owners.Nodup) {k : κ}
    (hk : k ∈ owners) (a : M) : (owners.map fun j => if k = j then a else 0).sum = a := by
  induction owners with
  | nil => simp at hk
  | cons j owners ih =>
    obtain ⟨hj, hnodup'⟩ := List.nodup_cons.1 hnodup
    rw [List.map_cons, List.sum_cons]
    rcases List.mem_cons.1 hk with rfl | hk
    · have hzero : (owners.map fun j => if k = j then a else 0).sum = 0 := by
        refine List.sum_eq_zero fun x hx => ?_
        obtain ⟨i, hi, rfl⟩ := List.mem_map.1 hx
        exact if_neg fun hki : k = i => hj (hki ▸ hi)
      rw [if_pos rfl, hzero, add_zero]
    · rw [if_neg fun hkj : k = j => hj (hkj ▸ hk), zero_add, ih hnodup' hk]

/-- **A total splits by owner**: when every selected row belongs to one of the duplicate-free
`owners`, the total is the sum of the owners' totals. -/
theorem total_eq_sum_owners [DecidableEq κ] (owner : ρ → κ) {owners : List κ}
    (hnodup : owners.Nodup) (h : ∀ r ∈ rows, sel r = true → owner r ∈ owners) :
    total amount sel rows =
      (owners.map fun k => total amount (fun r => sel r && (owner r == k)) rows).sum := by
  induction rows with
  | nil => simp
  | cons r rows ih =>
    have htail := ih fun x hx => h x (List.mem_cons_of_mem _ hx)
    simp only [total_cons, List.sum_map_add]
    rw [← htail]
    congr 1
    cases hs : sel r with
    | false => simp
    | true =>
      simpa using (sum_map_single hnodup (h r (List.mem_cons_self ..) hs) (amount r)).symm

end Sums

section Order

variable [AddCommMonoid M] [PartialOrder M] [IsOrderedAddMonoid M] {amount : ρ → M}
  {sel : ρ → Bool}

theorem total_nonneg (h : ∀ r ∈ rows, sel r = true → 0 ≤ amount r) : 0 ≤ total amount sel rows := by
  refine List.sum_nonneg fun x hx => ?_
  obtain ⟨r, hr, rfl⟩ := List.mem_map.1 hx
  exact h r (List.mem_of_mem_filter hr) (List.of_mem_filter hr)

theorem total_le_of_append {rows' : List ρ} (h : ∀ r ∈ rows', sel r = true → 0 ≤ amount r) :
    total amount sel rows ≤ total amount sel (rows ++ rows') := by
  rw [total_append]
  exact le_add_of_nonneg_right (total_nonneg h)

theorem total_le_total {amount' : ρ → M} (h : ∀ r ∈ rows, sel r = true → amount r ≤ amount' r) :
    total amount sel rows ≤ total amount' sel rows := by
  induction rows with
  | nil => exact le_rfl
  | cons r rows ih =>
    have htail := ih fun x hx => h x (List.mem_cons_of_mem _ hx)
    rw [total_cons, total_cons]
    refine add_le_add ?_ htail
    cases hs : sel r with
    | false => simp
    | true => simpa using h r (List.mem_cons_self ..) hs

end Order

theorem total_eq_total_iff [AddCommMonoid M] [PartialOrder M] [IsOrderedCancelAddMonoid M]
    {amount amount' : ρ → M} {sel : ρ → Bool}
    (h : ∀ r ∈ rows, sel r = true → amount r ≤ amount' r) :
    total amount sel rows = total amount' sel rows ↔
      ∀ r ∈ rows, sel r = true → amount r = amount' r := by
  constructor
  · induction rows with
    | nil => simp
    | cons r rows ih =>
      have hhead := h r (List.mem_cons_self ..)
      have htail : ∀ x ∈ rows, sel x = true → amount x ≤ amount' x :=
        fun x hx => h x (List.mem_cons_of_mem _ hx)
      rw [total_cons, total_cons]
      cases hs : sel r with
      | false =>
        intro heq x hx hsx
        rcases List.mem_cons.1 hx with rfl | hx
        · rw [hs] at hsx
          exact absurd hsx (by simp)
        · exact ih htail (by simpa using heq) x hx hsx
      | true =>
        intro heq x hx hsx
        rw [if_pos rfl, if_pos rfl] at heq
        obtain ⟨hr, hrows⟩ :=
          (add_eq_add_iff_eq_and_eq (hhead hs) (total_le_total htail)).1 heq
        rcases List.mem_cons.1 hx with rfl | hx
        · exact hr
        · exact ih htail hrows x hx hsx
  · exact total_congr_amount

/-! ### Rows that record their running total -/

section Running

variable [AddCommMonoid M] [DecidableEq κ]

/-- Every row records, in `result`, the total of its own account over the rows up to and including
itself. -/
def RunningTotals (amount result : ρ → M) (account : ρ → κ) (rows : List ρ) : Prop :=
  ∀ pre r post, rows = pre ++ r :: post →
    result r = total amount (fun x => account x == account r) (pre ++ [r])

variable {amount result : ρ → M} {account : ρ → κ}

theorem RunningTotals.nil : RunningTotals amount result account [] := by
  intro pre r post h
  simp at h

/-- **Appending a row that records the right total** keeps the running totals. -/
theorem RunningTotals.concat (h : RunningTotals amount result account rows) {r : ρ}
    (hr : result r = total amount (fun x => account x == account r) rows + amount r) :
    RunningTotals amount result account (rows ++ [r]) := by
  intro pre x post hsplit
  rcases List.eq_nil_or_concat post with rfl | ⟨post', last, rfl⟩
  · obtain ⟨rfl, hx⟩ := List.append_inj' hsplit rfl
    obtain rfl : r = x := by simpa using hx
    rw [hr, total_concat]
    simp
  · have hsplit' : rows ++ [r] = (pre ++ x :: post') ++ [last] := by simpa using hsplit
    obtain ⟨hrows, -⟩ := List.append_inj' hsplit' rfl
    exact h pre x post' hrows

end Running

end Ledger
