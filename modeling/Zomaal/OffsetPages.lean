/-
**Paging by offset over an order with ties.**

A page of a query is cut out of an answer of the database by position, and every query has its own
answer: the rows in some arrangement that the `ORDER BY` allows.

Main definitions:

* `OffsetPages.Arranged` — the answers a query can have;
* `OffsetPages.TiesOnOnePage` — rows that compare equal have their places on one page.

Main results:

* `OffsetPages.shown_perm_iff` — **the pages show every row once, whatever the arrangements, exactly
  when ties stay on one page**.
-/

import Mathlib.Algebra.Order.Group.Nat
import Mathlib.Data.List.Perm.Basic

set_option autoImplicit false

namespace OffsetPages

variable {α : Type}

structure OrderBy (α : Type) where
  le : α → α → Bool
  total (a b : α) : (le a b || le b a) = true
  trans (a b c : α) : le a b = true → le b c = true → le a c = true

namespace OrderBy

variable {κ : Type} [LinearOrder κ]

def asc (key : α → κ) : OrderBy α where
  le a b := decide (key a ≤ key b)
  total a b := by simpa using le_total (key a) (key b)
  trans a b c := by simpa using le_trans

def desc (key : α → κ) : OrderBy α where
  le a b := decide (key b ≤ key a)
  total a b := by simpa using le_total (key b) (key a)
  trans a b c := by simpa using fun hab hbc => le_trans hbc hab

/-- The first order, and the second one among rows the first takes for equal. -/
def thenBy (first second : OrderBy α) : OrderBy α where
  le a b := first.le a b && (!first.le b a || second.le a b)
  total a b := by
    have h := first.total a b
    have h' := second.total a b
    grind
  trans a b c := by
    have h := first.trans a b c
    have h' := first.trans c a b
    have h'' := first.trans b c a
    have hsecond := second.trans a b c
    grind

variable (order : OrderBy α)

theorem refl (a : α) : order.le a a = true := by simpa using order.total a a

end OrderBy

/-! ### Answers and their pages -/

variable (order : OrderBy α) (limit : ℕ)

/-- An answer of a query for `rows`. -/
structure Arranged (rows answer : List α) : Prop where
  perm : answer.Perm rows
  sorted : answer.Pairwise fun a b => order.le a b = true

/-- What a query that skips `skip` rows and takes `limit` returns of an answer. -/
def window (skip : ℕ) (answer : List α) : List α := (answer.drop skip).take limit

def totalPages (total : ℕ) : ℕ := (total + limit - 1) / limit

/-- The rows of all pages, when `answers page` is what the query for that page finds. -/
def shown (total : ℕ) (answers : ℕ → List α) : List α :=
  (List.range (totalPages limit total)).flatMap fun page =>
    window limit (page * limit) (answers page)

/-- How many rows come before `a` in every answer. -/
def before (rows : List α) (a : α) : ℕ := rows.countP fun b => !order.le a b

/-- How many rows come before `a` in some answer, `a` included. -/
def through (rows : List α) (a : α) : ℕ := rows.countP fun b => order.le b a

/-- The first and the last place a row can have are on one page. -/
def TiesOnOnePage (rows : List α) : Prop :=
  ∀ a ∈ rows, before order rows a / limit = (through order rows a - 1) / limit

instance (rows : List α) : Decidable (TiesOnOnePage order limit rows) :=
  inferInstanceAs (Decidable (∀ a ∈ rows, _))

theorem arranged_mergeSort (rows : List α) : Arranged order rows (rows.mergeSort order.le) :=
  ⟨List.mergeSort_perm rows _, List.pairwise_mergeSort order.trans order.total rows⟩

variable {order limit} {rows answer : List α} {a : α} {i : ℕ}

/-! ### The place of a row -/

theorem lt_countP_iff_of_pairwise {p : α → Bool}
    (hp : ∀ a b, order.le a b = true → p b = true → p a = true)
    (hsorted : answer.Pairwise fun a b => order.le a b = true) (hi : i < answer.length) :
    i < answer.countP p ↔ p answer[i] = true := by
  induction answer generalizing i with
  | nil => simp at hi
  | cons x xs ih =>
    obtain ⟨hx, hxs⟩ := List.pairwise_cons.1 hsorted
    by_cases hpx : p x = true
    · cases i with
      | zero => simp [hpx]
      | succ i => simpa [hpx] using ih hxs (Nat.lt_of_succ_lt_succ hi)
    · -- no row has the property, for `x` would inherit it
      have hnone : ∀ b ∈ x :: xs, ¬ p b = true := by
        intro b hb hpb
        rcases List.mem_cons.1 hb with rfl | hb
        · exact hpx hpb
        · exact hpx (hp x b (hx b hb) hpb)
      rw [List.countP_eq_zero.2 hnone]
      simp [hnone _ (List.getElem_mem hi)]

theorem Arranged.lt_countP_iff (h : Arranged order rows answer) {p : α → Bool}
    (hp : ∀ a b, order.le a b = true → p b = true → p a = true) (hi : i < answer.length) :
    i < rows.countP p ↔ p answer[i] = true := by
  rw [← h.perm.countP_eq p]
  exact lt_countP_iff_of_pairwise hp h.sorted hi

theorem Arranged.lt_before_iff (h : Arranged order rows answer) (hi : i < answer.length) :
    i < before order rows a ↔ order.le a answer[i] = false := by
  have := h.lt_countP_iff (p := fun b => !order.le a b) (i := i) ?_ hi
  · simpa [before] using this
  · intro b c hbc hc
    have := order.trans a b c
    grind

theorem Arranged.lt_through_iff (h : Arranged order rows answer) (hi : i < answer.length) :
    i < through order rows a ↔ order.le answer[i] a = true :=
  h.lt_countP_iff (fun b c hbc hc => order.trans b c a hbc hc) hi

theorem Arranged.page_eq (h : Arranged order rows answer) (hties : TiesOnOnePage order limit rows)
    (hi : i < answer.length) : before order rows answer[i] / limit = i / limit := by
  have hfirst : before order rows answer[i] ≤ i := by
    by_contra hlt
    have := (h.lt_before_iff hi).1 (not_le.1 hlt)
    rw [order.refl] at this
    exact Bool.noConfusion this
  have hlast : i < through order rows answer[i] := (h.lt_through_iff hi).2 (order.refl _)
  have hpage := hties answer[i] (h.perm.subset (List.getElem_mem hi))
  refine le_antisymm (Nat.div_le_div_right hfirst) ?_
  rw [hpage]
  exact Nat.div_le_div_right (by omega)

/-! ### The pages of one answer -/

theorem shown_const (n : ℕ) (answer : List α) :
    ((List.range n).flatMap fun page => window limit (page * limit) answer) =
      answer.take (n * limit) := by
  induction n with
  | zero => simp
  | succ n ih =>
    rw [List.range_succ, List.flatMap_append, ih, Nat.succ_mul, List.take_add]
    simp [window]

theorem le_totalPages_mul (hlimit : 0 < limit) (total : ℕ) :
    total ≤ totalPages limit total * limit := by
  have := Nat.div_add_mod (total + limit - 1) limit
  have := Nat.mod_lt (total + limit - 1) hlimit
  rw [totalPages, Nat.mul_comm]
  omega

theorem mem_window_iff {skip : ℕ} : a ∈ window limit skip answer ↔
    ∃ i, ∃ hi : i < answer.length, skip ≤ i ∧ i < skip + limit ∧ answer[i] = a := by
  rw [window, List.mem_iff_getElem]
  constructor
  · rintro ⟨j, hj, rfl⟩
    simp only [List.length_take, List.length_drop] at hj
    exact ⟨skip + j, by omega, by omega, by omega, by simp⟩
  · rintro ⟨i, hi, hskip, hlt, rfl⟩
    refine ⟨i - skip, by simp; omega, ?_⟩
    simp [Nat.add_sub_cancel' hskip]

theorem Arranged.mem_window_iff (h : Arranged order rows answer) (hlimit : 0 < limit)
    (hties : TiesOnOnePage order limit rows) {page : ℕ} :
    a ∈ window limit (page * limit) answer ↔ a ∈ rows ∧ before order rows a / limit = page := by
  rw [OffsetPages.mem_window_iff, ← h.perm.mem_iff]
  constructor
  · rintro ⟨i, hi, hskip, hlt, rfl⟩
    refine ⟨List.getElem_mem hi, ?_⟩
    rw [h.page_eq hties hi]
    exact Nat.div_eq_of_lt_le hskip (by rw [Nat.succ_mul]; exact hlt)
  · rintro ⟨hmem, hpage⟩
    obtain ⟨i, hi, rfl⟩ := List.mem_iff_getElem.1 hmem
    rw [h.page_eq hties hi] at hpage
    have hmod := Nat.div_add_mod i limit
    have := Nat.mod_lt i hlimit
    rw [hpage, Nat.mul_comm] at hmod
    exact ⟨i, hi, by omega, by omega, rfl⟩

theorem window_nodup (h : Arranged order rows answer) (hnodup : rows.Nodup) (skip : ℕ) :
    (window limit skip answer).Nodup :=
  (h.perm.nodup_iff.2 hnodup).sublist ((List.take_sublist _ _).trans (List.drop_sublist _ _))

/-! ### The pages of changing answers -/

theorem window_perm {answer' : List α} (h : Arranged order rows answer)
    (h' : Arranged order rows answer') (hnodup : rows.Nodup) (hlimit : 0 < limit)
    (hties : TiesOnOnePage order limit rows) (page : ℕ) :
    (window limit (page * limit) answer).Perm (window limit (page * limit) answer') := by
  rw [List.perm_ext_iff_of_nodup (window_nodup h hnodup _) (window_nodup h' hnodup _)]
  intro a
  rw [h.mem_window_iff hlimit hties, h'.mem_window_iff hlimit hties]

theorem shown_perm (hnodup : rows.Nodup) (hlimit : 0 < limit)
    (hties : TiesOnOnePage order limit rows) {answers : ℕ → List α}
    (hanswers : ∀ page, Arranged order rows (answers page)) :
    (shown limit rows.length answers).Perm rows := by
  have hsame : (shown limit rows.length answers).Perm
      (shown limit rows.length fun _ => answers 0) :=
    List.Perm.flatMap_left _ fun page _ =>
      window_perm (hanswers page) (hanswers 0) hnodup hlimit hties page
  refine hsame.trans ?_
  rw [shown, shown_const, List.take_of_length_le]
  · exact (hanswers 0).perm
  · rw [(hanswers 0).perm.length_eq]
    exact le_totalPages_mul hlimit _

theorem shown_switch (first second : List α) {k n : ℕ} (hkn : k ≤ n) :
    ((List.range n).flatMap fun page =>
        window limit (page * limit) (if page < k then first else second)) =
      first.take (k * limit) ++ (second.drop (k * limit)).take ((n - k) * limit) := by
  induction n, hkn using Nat.le_induction with
  | base =>
    rw [Nat.sub_self, Nat.zero_mul, List.take_zero, List.append_nil, ← shown_const]
    refine List.flatMap_congr fun page hpage => ?_
    rw [if_pos (List.mem_range.1 hpage)]
  | succ n hkn ih =>
    rw [List.range_succ, List.flatMap_append, ih, Nat.succ_sub hkn, Nat.succ_mul, List.take_add,
      List.append_assoc]
    have hskip : k * limit + (n - k) * limit = n * limit := by
      rw [← Nat.add_mul, Nat.add_sub_cancel' hkn]
    simp [window, hkn.not_gt, hskip]

theorem Arranged.swap {u v : List α} {x y : α} (h : Arranged order rows (u ++ x :: y :: v))
    (hyx : order.le y x = true) : Arranged order rows (u ++ y :: x :: v) := by
  refine ⟨((List.Perm.swap x y v).append_left u).trans h.perm, ?_⟩
  have hsorted := h.sorted
  simp only [List.pairwise_append, List.pairwise_cons, List.mem_cons] at hsorted ⊢
  grind

theorem Arranged.exists_tie_over_end (h : Arranged order rows answer) (hlimit : 0 < limit)
    (hties : ¬ TiesOnOnePage order limit rows) :
    ∃ k u v x y, answer = u ++ x :: y :: v ∧ u.length + 1 = k * limit ∧ order.le y x = true := by
  rw [TiesOnOnePage] at hties
  push Not at hties
  obtain ⟨a, ha, hpages⟩ := hties
  -- the last page of the tie begins at `k * limit`, inside the tie
  obtain ⟨k, hk⟩ : ∃ k, (through order rows a - 1) / limit = k := ⟨_, rfl⟩
  obtain ⟨i, hi, hia⟩ := List.mem_iff_getElem.1 (h.perm.mem_iff.2 ha)
  have hfirst : ¬ i < before order rows a := by
    rw [h.lt_before_iff hi, hia, order.refl]
    simp
  have hlast : i < through order rows a := by
    rw [h.lt_through_iff hi, hia, order.refl]
  have hpage : before order rows a / limit < k :=
    hk ▸ lt_of_le_of_ne (Nat.div_le_div_right (by omega)) hpages
  have hbefore : before order rows a < k * limit := (Nat.div_lt_iff_lt_mul hlimit).1 hpage
  have hthrough : k * limit < through order rows a := by
    have := hk ▸ Nat.div_mul_le_self (through order rows a - 1) limit
    omega
  have hrows : through order rows a ≤ answer.length := h.perm.length_eq ▸ List.countP_le_length
  obtain ⟨m, hm⟩ : ∃ m, k * limit = m + 1 := ⟨k * limit - 1, by omega⟩
  -- the rows on both sides of that place are both equal to `a`
  have hm1 : m + 1 < answer.length := by omega
  have hm0 : m < answer.length := by omega
  have hx : order.le a answer[m] = true := by
    simpa using mt (h.lt_before_iff (a := a) hm0).2 (by omega : ¬ m < _)
  have hy : order.le answer[m + 1] a = true := (h.lt_through_iff hm1).1 (by omega)
  refine ⟨k, answer.take m, answer.drop (m + 2), answer[m], answer[m + 1], ?_, ?_,
    order.trans _ _ _ hy hx⟩
  · rw [← List.drop_eq_getElem_cons, ← List.drop_eq_getElem_cons, List.take_append_drop]
  · rw [List.length_take]
    omega

theorem exists_shown_not_perm (hnodup : rows.Nodup) (hlimit : 0 < limit)
    (hties : ¬ TiesOnOnePage order limit rows) :
    ∃ answers : ℕ → List α, (∀ page, Arranged order rows (answers page)) ∧
      ¬ (shown limit rows.length answers).Perm rows := by
  have hsort := arranged_mergeSort order rows
  obtain ⟨k, u, v, x, y, hsplit, hend, hyx⟩ := hsort.exists_tie_over_end hlimit hties
  rw [hsplit] at hsort
  have hlength := hsort.perm.length_eq
  have hpages := le_totalPages_mul hlimit rows.length
  simp only [List.length_append, List.length_cons] at hlength
  have hk : k ≤ totalPages limit rows.length :=
    Nat.le_of_mul_le_mul_right (by omega) hlimit
  refine ⟨fun page => if page < k then u ++ x :: y :: v else u ++ y :: x :: v, fun page => ?_,
    fun hperm => ?_⟩
  · by_cases hpage : page < k
    · simpa [hpage] using hsort
    · simpa [hpage] using hsort.swap hyx
  · -- `x` ends one page and begins the next one, and `y` is on none
    have hrest : (x :: v).length ≤ (totalPages limit rows.length - k) * limit := by
      rw [Nat.sub_mul, List.length_cons]
      omega
    rw [shown, shown_switch _ _ hk, ← hend] at hperm
    simp only [List.take_append, List.drop_append, Nat.add_sub_cancel_left, List.take_succ_cons,
      List.take_zero, List.drop_succ_cons, List.drop_zero, List.take_of_length_le (Nat.le_succ _),
      List.drop_of_length_le (Nat.le_succ _), List.nil_append, List.take_of_length_le hrest,
      List.append_assoc] at hperm
    have htwice : (x :: v).Perm (y :: v) :=
      List.Perm.cons_inv (a := x) ((List.perm_append_left_iff u).1 (hperm.trans hsort.perm.symm))
    have hone := hsort.perm.nodup_iff.2 hnodup
    have hnot : x ∉ y :: v := (List.nodup_cons.1 (List.nodup_append.1 hone).2.1).1
    exact hnot (htwice.subset List.mem_cons_self)

/-- **The pages show every row once, whatever the answers are, exactly when ties stay on one page**.
-/
theorem shown_perm_iff (hnodup : rows.Nodup) (hlimit : 0 < limit) :
    (∀ answers : ℕ → List α, (∀ page, Arranged order rows (answers page)) →
        (shown limit rows.length answers).Perm rows) ↔
      TiesOnOnePage order limit rows := by
  constructor
  · intro hshown
    by_contra hties
    obtain ⟨answers, hanswers, hnot⟩ := exists_shown_not_perm hnodup hlimit hties
    exact hnot (hshown answers hanswers)
  · intro hties answers hanswers
    exact shown_perm hnodup hlimit hties hanswers

end OffsetPages
