/-
**The latest of several things.**

Of the elements of a list, each with a time, a scan keeps the one it has seen last that is strictly
later than what it had: of simultaneous ones the first.

Main results:

* `Latest.scan_of_only` — **the one element that is later than all others is found**, wherever it
  stands;
* `Latest.find_sorted_isLatest` — the same of a search in the list sorted from the latest on.
-/

import Mathlib.Data.List.Basic
import Mathlib.Order.Lattice

set_option autoImplicit false

namespace Latest

variable {α τ : Type*} [LinearOrder τ] (time : α → τ)

variable (first : α)

/-- The latest of `first` and of the elements after it. -/
def scan (rest : List α) : α :=
  rest.foldl (fun latest a => if time latest < time a then a else latest) first

theorem scan_cons (first a : α) (rest : List α) :
    scan time first (a :: rest) = scan time (if time first < time a then a else first) rest := rfl

theorem scan_mem (rest : List α) : scan time first rest ∈ first :: rest := by
  induction rest generalizing first with
  | nil => exact List.mem_cons_self ..
  | cons a rest ih =>
    rw [scan_cons]
    split
    · exact List.mem_cons_of_mem _ (ih a)
    · rcases List.mem_cons.1 (ih first) with h | h
      · rw [h]
        exact List.mem_cons_self ..
      · exact List.mem_cons_of_mem _ (List.mem_cons_of_mem _ h)

theorem le_scan (rest : List α) : ∀ a ∈ first :: rest, time a ≤ time (scan time first rest) := by
  induction rest generalizing first with
  | nil =>
    intro a ha
    rw [List.mem_singleton.1 ha]
    exact le_refl _
  | cons b rest ih =>
    intro a ha
    rw [scan_cons]
    split
    · rename_i hlater
      rcases List.mem_cons.1 ha with rfl | ha
      · exact le_trans (le_of_lt hlater) (ih b b (List.mem_cons_self ..))
      · exact ih b a ha
    · rename_i hearlier
      have hkept := ih first first (List.mem_cons_self ..)
      rcases List.mem_cons.1 ha with rfl | ha
      · exact hkept
      · rcases List.mem_cons.1 ha with rfl | ha
        · exact le_trans (le_of_not_gt hearlier) hkept
        · exact ih first a (List.mem_cons_of_mem _ ha)

variable {a : α}

/-- **The one element that is later than all others is found.** -/
theorem scan_of_only {first : α} {rest : List α} (ha : a ∈ first :: rest)
    (honly : ∀ b ∈ first :: rest, b = a ∨ time b < time a) : scan time first rest = a := by
  rcases honly _ (scan_mem time first rest) with h | h
  · exact h
  · exact absurd (le_scan time first rest a ha) (not_le_of_gt h)

theorem scan_of_latest {first : α} {rest : List α} (h : ∀ a ∈ rest, time a ≤ time first) :
    scan time first rest = first := by
  induction rest with
  | nil => rfl
  | cons a rest ih =>
    rw [scan_cons, if_neg (not_lt_of_ge (h a (List.mem_cons_self ..)))]
    exact ih fun b hb => h b (List.mem_cons_of_mem _ hb)

/-! ### The latest of a collection -/

def IsLatest (a : α) (l : List α) : Prop := a ∈ l ∧ ∀ b ∈ l, time b ≤ time a

variable {l : List α}

theorem exists_isLatest (h : l ≠ []) : ∃ a, IsLatest time a l := by
  cases l with
  | nil => exact absurd rfl h
  | cons first rest =>
    exact ⟨scan time first rest, scan_mem time first rest, le_scan time first rest⟩

variable {time}

theorem IsLatest.perm {l' : List α} (h : IsLatest time a l) (hperm : l.Perm l') :
    IsLatest time a l' :=
  ⟨hperm.mem_iff.1 h.1, fun b hb => h.2 b (hperm.mem_iff.2 hb)⟩

theorem scan_isLatest (rest : List α) : IsLatest time (scan time first rest) (first :: rest) :=
  ⟨scan_mem time first rest, le_scan time first rest⟩

theorem IsLatest.of_append {b : α} (h : IsLatest time a (l ++ [b])) :
    time b ≤ time a ∧ (a = b ∨ IsLatest time a l) := by
  refine ⟨h.2 b (by simp), ?_⟩
  rcases List.mem_append.1 h.1 with hold | hnew
  · exact Or.inr ⟨hold, fun c hc => h.2 c (List.mem_append_left _ hc)⟩
  · exact Or.inl (List.mem_singleton.1 hnew)

/-! ### Searching from the latest to the earliest -/

section Sorted

variable (time)

/-- The list from the latest to the earliest; simultaneous elements stay in their order. -/
def sorted (l : List α) : List α := l.mergeSort fun a b => time b ≤ time a

theorem sorted_perm (l : List α) : (sorted time l).Perm l := List.mergeSort_perm _ _

theorem sorted_pairwise (l : List α) : (sorted time l).Pairwise fun a b => time b ≤ time a := by
  have h := @List.pairwise_mergeSort _ (fun a b => decide (time b ≤ time a))
    (fun a b c hab hbc => by
      rw [decide_eq_true_eq] at hab hbc ⊢
      exact le_trans hbc hab)
    (fun a b => by
      rcases le_total (time b) (time a) with h | h
      · simp [h]
      · simp [h])
    l
  exact h.imp fun hab => of_decide_eq_true hab

variable {time} {p : α → Bool}

/-- **What is found is among the latest** of what is looked for. -/
theorem find_sorted_isLatest (h : (sorted time l).find? p = some a) :
    IsLatest time a (l.filter p) := by
  obtain ⟨hp, before, after, hsplit, hbefore⟩ := List.find?_eq_some_iff_append.1 h
  have hmem : a ∈ sorted time l := by
    rw [hsplit]
    simp
  refine ⟨List.mem_filter.2 ⟨(sorted_perm time l).mem_iff.1 hmem, hp⟩, fun b hb => ?_⟩
  obtain ⟨hb, hpb⟩ := List.mem_filter.1 hb
  have hin := (sorted_perm time l).mem_iff.2 hb
  have hsorted := sorted_pairwise time l
  rw [hsplit] at hin hsorted
  rcases List.mem_append.1 hin with hb | hb
  · have hnot := hbefore b hb
    rw [hpb] at hnot
    cases hnot
  · rcases List.mem_cons.1 hb with rfl | hb
    · exact le_refl _
    · exact List.rel_of_pairwise_cons (List.pairwise_append.1 hsorted).2.1 hb

theorem find_sorted_cons [DecidableEq α] (h : IsLatest time a ((a :: l).filter p)) :
    (sorted time (a :: l)).find? p = some a := by
  have hpa : p a = true := (List.mem_filter.1 h.1).2
  cases hfind : (sorted time (a :: l)).find? p with
  | none =>
    have hnone := List.find?_eq_none.1 hfind a ((sorted_perm time _).mem_iff.2 (by simp))
    exact absurd hpa hnone
  | some b =>
    by_contra hne
    have hab : a ≠ b := fun hab => hne (by rw [hab])
    have hb := find_sorted_isLatest hfind
    have htime : time a = time b := le_antisymm (hb.2 a h.1) (h.2 b hb.1)
    -- the elements that are as late as `a` keep their order, so `a` stays the first of them
    let late : α → Bool := fun c => p c && decide (time c = time a)
    have hsub : List.Sublist ((a :: l).filter late) (sorted time (a :: l)) := by
      refine List.sublist_mergeSort ?_ ?_ ?_ List.filter_sublist
      · intro c d e hcd hde
        rw [decide_eq_true_eq] at hcd hde ⊢
        exact le_trans hde hcd
      · intro c d
        rcases le_total (time c) (time d) with h | h
        · simp [h]
        · simp [h]
      · refine List.pairwise_of_forall_mem_list fun c hc d hd => ?_
        have hc := (List.mem_filter.1 hc).2
        have hd := (List.mem_filter.1 hd).2
        simp only [late, Bool.and_eq_true, decide_eq_true_eq] at hc hd
        rw [decide_eq_true_eq, hc.2, hd.2]
    have hlate : (sorted time (a :: l)).filter late = (a :: l).filter late := by
      have hfiltered := hsub.filter late
      rw [List.filter_filter] at hfiltered
      simp only [Bool.and_self] at hfiltered
      refine (hfiltered.eq_of_length ?_).symm
      exact ((sorted_perm time (a :: l)).filter late).length_eq.symm
    obtain ⟨hpb, before, after, hsplit, hbefore⟩ := List.find?_eq_some_iff_append.1 hfind
    have hnone : before.filter late = [] := by
      rw [List.filter_eq_nil_iff]
      intro c hc hlatec
      have hnot := hbefore c hc
      simp only [late, Bool.and_eq_true] at hlatec
      rw [hlatec.1] at hnot
      cases hnot
    rw [hsplit, List.filter_append, hnone, List.nil_append,
      List.filter_cons_of_pos (by simp [late, hpb, htime]),
      List.filter_cons_of_pos (by simp [late, hpa])] at hlate
    exact hab (List.head_eq_of_cons_eq hlate).symm

end Sorted

end Latest
