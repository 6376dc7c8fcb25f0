/-
**First labels.**

A log of keys, each with a label or none, one entry after the other.  A key belongs to the label it
was given first.

Main results:

* `FirstLabel.card_keys_append` — **an entry makes one key more, or none**.
-/

import Mathlib.Data.Finset.Card

set_option autoImplicit false

namespace FirstLabel

variable {κ ν : Type*} [DecidableEq κ]

variable (log : List (κ × Option ν))

def first (k : κ) : Option ν :=
  log.findSome? fun entry => if entry.1 = k then entry.2 else none

theorem first_append (entry : κ × Option ν) (k : κ) :
    first (log ++ [entry]) k = (first log k).or (if entry.1 = k then entry.2 else none) := by
  rw [first, List.findSome?_append, List.findSome?_singleton]
  rfl

theorem mem_of_first {log : List (κ × Option ν)} {k : κ} {label : ν}
    (h : first log k = some label) : k ∈ log.map Prod.fst := by
  obtain ⟨entry, hentry, hlabel⟩ := List.exists_of_findSome?_eq_some h
  split at hlabel
  · exact List.mem_map.2 ⟨entry, hentry, ‹_›⟩
  · cases hlabel

variable [DecidableEq ν]

def keys (label : ν) : Finset κ :=
  (log.map Prod.fst).toFinset.filter fun k => first log k = some label

theorem mem_keys {log : List (κ × Option ν)} {k : κ} {label : ν} :
    k ∈ keys log label ↔ first log k = some label := by
  rw [keys, Finset.mem_filter, List.mem_toFinset]
  exact ⟨fun h => h.2, fun h => ⟨mem_of_first h, h⟩⟩

/-- **An entry makes one key more, or none**: one of the label it gives to a key without a label. -/
theorem card_keys_append (k : κ) (given : Option ν) (label : ν) :
    (keys (log ++ [(k, given)]) label).card =
      (keys log label).card + if first log k = none ∧ given = some label then 1 else 0 := by
  by_cases hnew : first log k = none ∧ given = some label
  · obtain ⟨hnone, rfl⟩ := hnew
    have hfresh : k ∉ keys log label := fun hmem => by
      rw [mem_keys, hnone] at hmem
      cases hmem
    have hkeys : keys (log ++ [(k, some label)]) label = insert k (keys log label) := by
      ext k'
      rw [Finset.mem_insert, mem_keys, mem_keys, first_append]
      by_cases hk : k = k'
      · subst hk
        simp [hnone]
      · simp [hk, Ne.symm hk]
    rw [hkeys, Finset.card_insert_of_notMem hfresh, if_pos ⟨hnone, rfl⟩]
  · have hkeys : keys (log ++ [(k, given)]) label = keys log label := by
      ext k'
      rw [mem_keys, mem_keys, first_append]
      by_cases hk : k = k'
      · subst hk
        cases hfirst : first log k with
        | none => simpa [hfirst] using fun hgiven => hnew ⟨hfirst, hgiven⟩
        | some label' => simp
      · simp [hk]
    rw [hkeys, if_neg hnew, Nat.add_zero]

end FirstLabel
