/-
**Tables of rows with a unique key.**

A table is a list of rows, no two of which have the same key.  A row is looked up by its key and
changed in place.

Main results:

* `KeyedRows.lookup_change` — **lookup after change**;
* `KeyedRows.total_change` — a change of one row moves a sum by what it moves that row's amount.
-/

import Mathlib.Tactic.Abel
import Zomaal.LedgerTotals

set_option autoImplicit false

namespace KeyedRows

variable {ρ κ : Type*} [DecidableEq κ] (key : ρ → κ)

def lookup (k : κ) (rows : List ρ) : Option ρ := rows.find? fun r => key r = k

def change (k : κ) (f : ρ → ρ) (rows : List ρ) : List ρ :=
  rows.map fun r => if key r = k then f r else r

variable {rows : List ρ} {k : κ} {r : ρ}

theorem lookup_some (h : lookup key k rows = some r) : r ∈ rows ∧ key r = k :=
  ⟨List.mem_of_find?_eq_some h, by simpa using List.find?_some h⟩

theorem lookup_none : lookup key k rows = none ↔ ∀ r ∈ rows, key r ≠ k := by
  simp [lookup]

theorem lookup_of_mem (hnodup : (rows.map key).Nodup) (hr : r ∈ rows) :
    lookup key (key r) rows = some r := by
  cases h : lookup key (key r) rows with
  | none => exact absurd rfl ((lookup_none key).1 h r hr)
  | some r' =>
    obtain ⟨hr', hkey⟩ := lookup_some key h
    rw [List.inj_on_of_nodup_map hnodup hr' hr hkey]

variable {f : ρ → ρ}

theorem map_key_change (hf : ∀ r, key (f r) = key r) (rows : List ρ) :
    (change key k f rows).map key = rows.map key := by
  rw [change, List.map_map]
  refine List.map_congr_left fun r _ => ?_
  simp only [Function.comp_apply]
  split
  · exact hf r
  · rfl

theorem map_key_change_of_key (hf : ∀ r, key r = k → key (f r) = k) (rows : List ρ) :
    (change key k f rows).map key = rows.map key := by
  rw [change, List.map_map]
  refine List.map_congr_left fun r _ => ?_
  simp only [Function.comp_apply]
  split
  · rename_i hr
    rw [hf r hr, hr]
  · rfl

theorem mem_change :
    r ∈ change key k f rows ↔ (∃ r' ∈ rows, key r' = k ∧ f r' = r) ∨ (r ∈ rows ∧ key r ≠ k) := by
  rw [change, List.mem_map]
  constructor
  · rintro ⟨r', hr', heq⟩
    split at heq
    · rename_i hk
      exact Or.inl ⟨r', hr', hk, heq⟩
    · rename_i hk
      subst heq
      exact Or.inr ⟨hr', hk⟩
  · rintro (⟨r', hr', hk, rfl⟩ | ⟨hr, hk⟩)
    · exact ⟨r', hr', if_pos hk⟩
    · exact ⟨r, hr, if_neg hk⟩

theorem change_change {g : ρ → ρ} (hf : ∀ r, key (f r) = key r) (rows : List ρ) :
    change key k g (change key k f rows) = change key k (fun r => g (f r)) rows := by
  rw [change, change, change, List.map_map]
  refine List.map_congr_left fun r _ => ?_
  by_cases hr : key r = k
  · simp only [Function.comp_apply, if_pos hr, if_pos ((hf r).trans hr)]
  · simp only [Function.comp_apply, if_neg hr]

theorem foldl_change {α : Type*} (k : α → κ) (f : α → ρ → ρ) (xs : List α) (rows : List ρ) :
    xs.foldl (fun rows x => change key (k x) (f x) rows) rows =
      rows.map fun r => xs.foldl (fun r x => if key r = k x then f x r else r) r := by
  induction xs generalizing rows with
  | nil => exact (List.map_id rows).symm
  | cons x xs ih =>
    rw [List.foldl_cons, ih, change, List.map_map]
    rfl

omit [DecidableEq κ] in
theorem nodup_append (hnodup : (rows.map key).Nodup) (hr : key r ∉ rows.map key) :
    ((rows ++ [r]).map key).Nodup := by
  rw [List.map_append, List.map_singleton]
  exact hnodup.append (List.nodup_singleton _) (List.disjoint_singleton.2 hr)

omit [DecidableEq κ] in
theorem nodup_concat (hnodup : (rows.map key).Nodup) (hr : ∀ other ∈ rows, key other ≠ key r) :
    ((rows ++ [r]).map key).Nodup := by
  refine nodup_append key hnodup fun hmem => ?_
  obtain ⟨other, hother, hkey⟩ := List.mem_map.1 hmem
  exact hr other hother hkey

omit [DecidableEq κ] in
theorem filter_eq_singleton (hnodup : (rows.map key).Nodup) {sel : ρ → Bool} (hr : r ∈ rows)
    (hsel : sel r = true) (honly : ∀ r' ∈ rows, sel r' = true → r' = r) :
    rows.filter sel = [r] := by
  have hselected : (rows.filter sel).Nodup := (List.Nodup.of_map key hnodup).filter _
  refine List.perm_singleton.1 ((List.perm_ext_iff_of_nodup hselected (List.nodup_singleton r)).2 ?_)
  intro r'
  rw [List.mem_filter, List.mem_singleton]
  constructor
  · exact fun h => honly r' h.1 h.2
  · rintro rfl
    exact ⟨hr, hsel⟩

theorem lookup_change_of_key {k' : κ} (hf : ∀ r, key r = k → key (f r) = key r) (rows : List ρ) :
    lookup key k' (change key k f rows) =
      (lookup key k' rows).map fun r => if k' = k then f r else r := by
  induction rows with
  | nil => rfl
  | cons r rows ih =>
    have hkey : key (if key r = k then f r else r) = key r := by
      split
      · rename_i hk
        exact hf r hk
      · rfl
    rw [lookup, change, List.map_cons, List.find?_cons, hkey, lookup, List.find?_cons]
    by_cases hr : key r = k'
    · subst hr
      simp
    · rw [decide_eq_false hr]
      exact ih

/-- **Lookup after change.** -/
theorem lookup_change {k' : κ} (hf : ∀ r, key (f r) = key r) (rows : List ρ) :
    lookup key k' (change key k f rows) =
      (lookup key k' rows).map fun r => if k' = k then f r else r :=
  lookup_change_of_key key (fun r _ => hf r) rows

theorem lookup_append_fresh (hfree : lookup key (key r) rows = none) (k : κ) :
    lookup key k (rows ++ [r]) = if k = key r then some r else lookup key k rows := by
  rw [lookup, List.find?_append, ← lookup, List.find?_cons, List.find?_nil]
  by_cases hk : k = key r
  · rw [if_pos hk, decide_eq_true hk.symm, hk, hfree]
    rfl
  · rw [if_neg hk, decide_eq_false fun h => hk h.symm]
    exact Option.or_none

theorem lookup_change_apart {k' : κ} (hne : k ≠ k') (hf : ∀ r, key (f r) ≠ k') (rows : List ρ) :
    lookup key k' (change key k f rows) = lookup key k' rows := by
  induction rows with
  | nil => rfl
  | cons r rows ih =>
    rw [lookup, change, List.map_cons, List.find?_cons, lookup, List.find?_cons]
    by_cases hr : key r = k
    · rw [if_pos hr, decide_eq_false (hf r), decide_eq_false (hr ▸ hne)]
      exact ih
    · rw [if_neg hr]
      by_cases hr' : key r = k'
      · rw [decide_eq_true hr']
      · rw [decide_eq_false hr']
        exact ih

section Projection

variable {τ : Type*} {key} (key' : τ → κ) {project : ρ → τ}

theorem lookup_map (hkey : ∀ r, key' (project r) = key r) (k : κ) (rows : List ρ) :
    lookup key' k (rows.map project) = (lookup key k rows).map project := by
  rw [lookup, List.find?_map, lookup]
  simp only [Function.comp_def, hkey]

theorem map_change (hkey : ∀ r, key' (project r) = key r) (k : κ) {g : τ → τ}
    (hfg : ∀ r, project (f r) = g (project r)) (rows : List ρ) :
    (change key k f rows).map project = change key' k g (rows.map project) := by
  rw [change, change, List.map_map, List.map_map]
  refine List.map_congr_left fun r _ => ?_
  simp only [Function.comp_apply, hkey]
  split
  · exact hfg r
  · rfl

theorem map_change_hidden (k : κ) {key : ρ → κ} (hf : ∀ r, key r = k → project (f r) = project r)
    (rows : List ρ) : (change key k f rows).map project = rows.map project := by
  rw [change, List.map_map]
  refine List.map_congr_left fun r _ => ?_
  simp only [Function.comp_apply]
  split
  · exact hf r ‹_›
  · rfl

end Projection

variable {M : Type*}

variable (amount : ρ → M)

theorem total_change [AddCommMonoid M] (sel : ρ → Bool) (hnodup : (rows.map key).Nodup)
    (hr : lookup key k rows = some r) :
    Ledger.total amount sel (change key k f rows) + (if sel r then amount r else 0) =
      Ledger.total amount sel rows + if sel (f r) then amount (f r) else 0 := by
  obtain ⟨hmem, rfl⟩ := lookup_some key hr
  clear hr
  induction rows with
  | nil => cases hmem
  | cons first rows ih =>
    rw [List.map_cons, List.nodup_cons] at hnodup
    rw [change, List.map_cons, Ledger.total_cons, Ledger.total_cons]
    rcases List.mem_cons.1 hmem with rfl | hmem
    · have hrest : rows.map (fun other => if key other = key r then f other else other) = rows := by
        refine (List.map_congr_left fun other hother => ?_).trans (List.map_id rows)
        have hkey : key other ∈ rows.map key := List.mem_map_of_mem hother
        exact if_neg fun heq : key other = key r => hnodup.1 (heq ▸ hkey)
      rw [hrest, if_pos rfl]
      abel
    · have hkey : key r ∈ rows.map key := List.mem_map_of_mem hmem
      have hne : key first ≠ key r := fun heq => hnodup.1 (heq ▸ hkey)
      rw [if_neg hne, add_assoc, add_assoc]
      exact congrArg _ (ih hnodup.2 hmem)

theorem countP_change (sel : ρ → Bool) (hnodup : (rows.map key).Nodup)
    (hr : lookup key k rows = some r) :
    (change key k f rows).countP sel + (if sel r then 1 else 0) =
      rows.countP sel + if sel (f r) then 1 else 0 := by
  have hcount : ∀ rows : List ρ, Ledger.total (fun _ => 1) sel rows = rows.countP sel := by
    intro rows
    rw [Ledger.total, List.map_const', List.sum_replicate, List.countP_eq_length_filter]
    exact Nat.mul_one _
  rw [← hcount, ← hcount]
  exact total_change key (fun _ => 1) sel hnodup hr

theorem total_change_unselected [AddCommMonoid M] (sel : ρ → Bool) (rows : List ρ)
    (h : ∀ r ∈ rows, key r = k → sel r = false ∧ sel (f r) = false) :
    Ledger.total amount sel (change key k f rows) = Ledger.total amount sel rows := by
  rw [change, Ledger.total_map]
  induction rows with
  | nil => rfl
  | cons first rows ih =>
    rw [Ledger.total_cons, Ledger.total_cons, ih fun r hr => h r (List.mem_cons_of_mem _ hr)]
    by_cases hk : key first = k
    · obtain ⟨hbefore, hafter⟩ := h first (List.mem_cons_self ..) hk
      rw [if_pos hk, hbefore, hafter]
      rfl
    · rw [if_neg hk]

theorem total_split [AddCommMonoid M] (sel : ρ → Bool) (hnodup : (rows.map key).Nodup)
    (hr : lookup key k rows = some r) :
    Ledger.total amount sel rows =
      Ledger.total amount (fun x => sel x && key x ≠ k) rows + if sel r then amount r else 0 := by
  obtain ⟨hmem, rfl⟩ := lookup_some key hr
  clear hr
  induction rows with
  | nil => cases hmem
  | cons first rows ih =>
    rw [List.map_cons, List.nodup_cons] at hnodup
    rw [Ledger.total_cons, Ledger.total_cons]
    rcases List.mem_cons.1 hmem with rfl | hmem
    · have hrest : Ledger.total amount (fun x => sel x && key x ≠ key r) rows =
          Ledger.total amount sel rows := by
        refine Ledger.total_congr fun x hx => ?_
        have hkey : key x ∈ rows.map key := List.mem_map_of_mem hx
        have hne : key x ≠ key r := fun heq => hnodup.1 (heq ▸ hkey)
        simp [hne]
      rw [hrest]
      simp [add_comm]
    · have hkey : key r ∈ rows.map key := List.mem_map_of_mem hmem
      have hne : key first ≠ key r := fun heq => hnodup.1 (heq ▸ hkey)
      rw [ih hnodup.2 hmem, add_assoc]
      simp [hne]

end KeyedRows
