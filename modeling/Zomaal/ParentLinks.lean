/-
**Nodes with a link to their parent.**

Every node has a parent or none; where the links form a forest, following them from any node ends at
a root.  Linking a node to a new parent keeps the forest exactly when the node is not found on the
way from that parent up, and a walk up that saw links which are still so decides that.

Main results:

* `ParentLinks.Forest.relink_iff` — **when a new link keeps the forest**;
* `ParentLinks.Follows.not_reaches` — what a walk that is still so does not see is not there.
-/

import Mathlib.Data.Option.Basic
import Mathlib.Logic.Relation

set_option autoImplicit false

namespace ParentLinks

variable {ι : Type*} (parent : ι → Option ι)

inductive Ends : ι → Prop
  | root {i : ι} (h : parent i = none) : Ends i
  | up {i j : ι} (h : parent i = some j) (hends : Ends j) : Ends i

def Forest : Prop := ∀ i, Ends parent i

def Reaches : ι → ι → Prop := Relation.ReflTransGen fun i j => parent i = some j

def Ancestor : ι → ι → Prop := Relation.TransGen fun i j => parent i = some j

def Follows : List ι → Prop
  | [] => True
  | [i] => parent i = none
  | i :: j :: rest => parent i = some j ∧ Follows (j :: rest)

variable {parent}

/-! ### Forests -/

variable {i : ι}

theorem Reaches.eq_of_root {j : ι} (h : Reaches parent i j) (hroot : parent i = none) : i = j := by
  rcases Relation.ReflTransGen.cases_head h with rfl | ⟨k, hk, -⟩
  · rfl
  · rw [hroot] at hk
    cases hk

theorem Ancestor.reaches {j k : ι} (h : Ancestor parent i k) (hij : parent i = some j) :
    Reaches parent j k := by
  obtain ⟨j', hj', hreach⟩ := Relation.TransGen.head'_iff.1 h
  rw [hij] at hj'
  obtain rfl := Option.some.inj hj'
  exact hreach

theorem Ends.not_ancestor_self (h : Ends parent i) : ¬ Ancestor parent i i := by
  induction h with
  | root hroot =>
    intro hloop
    obtain ⟨k, hk, -⟩ := Relation.TransGen.head'_iff.1 hloop
    rw [hroot] at hk
    cases hk
  | up hlink _ ih => exact fun hloop => ih (Relation.TransGen.tail' (hloop.reaches hlink) hlink)

theorem Forest.not_ancestor_self (h : Forest parent) (i : ι) : ¬ Ancestor parent i i :=
  (h i).not_ancestor_self

/-! ### New links -/

section Relink

variable [DecidableEq ι] {c : ι} {link : Option ι}

theorem Ends.update_of_not_reaches (h : Ends parent i) (hfar : ¬ Reaches parent i c) :
    Ends (Function.update parent c link) i := by
  induction h with
  | @root i hroot =>
    have hne : i ≠ c := fun heq => hfar (heq ▸ Relation.ReflTransGen.refl)
    exact .root ((Function.update_of_ne hne _ _).trans hroot)
  | @up i j hlink _ ih =>
    have hne : i ≠ c := fun heq => hfar (heq ▸ Relation.ReflTransGen.refl)
    exact .up ((Function.update_of_ne hne _ _).trans hlink)
      (ih fun hreach => hfar (hreach.head hlink))

theorem Ends.update (h : Ends parent i) (hc : Ends (Function.update parent c link) c) :
    Ends (Function.update parent c link) i := by
  induction h with
  | @root i hroot =>
    by_cases heq : i = c
    · exact heq ▸ hc
    · exact .root ((Function.update_of_ne heq _ _).trans hroot)
  | @up i j hlink _ ih =>
    by_cases heq : i = c
    · exact heq ▸ hc
    · exact .up ((Function.update_of_ne heq _ _).trans hlink) ih

theorem Forest.unlink (h : Forest parent) : Forest (Function.update parent c none) :=
  fun i => (h i).update (.root (Function.update_self ..))

theorem Reaches.update (h : Reaches parent i c) : Reaches (Function.update parent c link) i c := by
  induction h using Relation.ReflTransGen.head_induction_on with
  | refl => exact Relation.ReflTransGen.refl
  | @head i j hlink _ ih =>
    by_cases heq : i = c
    · exact heq ▸ Relation.ReflTransGen.refl
    · exact ih.head ((Function.update_of_ne heq _ _).trans hlink)

/-- **When a new link keeps the forest.** -/
theorem Forest.relink_iff {p : ι} (h : Forest parent) :
    Forest (Function.update parent c (some p)) ↔ ¬ Reaches parent p c := by
  have hlink : Function.update parent c (some p) c = some p := Function.update_self ..
  constructor
  · exact fun hforest hreach =>
      hforest.not_ancestor_self c (Relation.TransGen.head' hlink hreach.update)
  · exact fun hfar i => (h i).update (.up hlink ((h p).update_of_not_reaches hfar))

end Relink

/-! ### A walk up -/

theorem Follows.reaches {p c : ι} {nodes : List ι} (h : Follows parent (p :: nodes))
    (hreach : Reaches parent p c) : c ∈ p :: nodes := by
  induction nodes generalizing p with
  | nil => exact List.mem_singleton.2 (hreach.eq_of_root h).symm
  | cons j rest ih =>
    rcases Relation.ReflTransGen.cases_head hreach with rfl | ⟨j', hj', hrest⟩
    · exact List.mem_cons_self
    · rw [h.1] at hj'
      obtain rfl := Option.some.inj hj'
      exact List.mem_cons_of_mem _ (ih h.2 hrest)

/-- **What a walk that is still so does not see** is not on the way up. -/
theorem Follows.not_reaches {p c : ι} {nodes : List ι} (h : Follows parent (p :: nodes))
    (hc : c ∉ p :: nodes) : ¬ Reaches parent p c := fun hreach => hc (h.reaches hreach)

end ParentLinks
