/-
**Concurrent threads over shared rows.**

What is proved of all interleavings is proved in the manner of Owicki and Gries: an invariant of the
rows, an assertion about each thread, and a relation between any two threads, such that a turn of
one thread interferes with none of the others.  Mutual exclusion by locks is one such relation.

Main results:

* `ThreadPool.Inv.move`, `ThreadPool.Inv.spawn`, `ThreadPool.Inv.write` — **the three rules**.
-/

import Mathlib.Data.List.Basic

set_option autoImplicit false

structure ThreadPool (σ τ : Type*) where
  shared : σ
  threads : List τ := []

namespace ThreadPool

variable {σ τ κ : Type*}

def move (w : ThreadPool σ τ) (i : ℕ) (shared : σ) (t : τ) : ThreadPool σ τ :=
  { shared, threads := w.threads.set i t }

def spawn (w : ThreadPool σ τ) (t : τ) : ThreadPool σ τ := { w with threads := w.threads ++ [t] }

def write (w : ThreadPool σ τ) (shared : σ) : ThreadPool σ τ := { w with shared }

variable {i : ℕ} {t : τ}

variable {u : τ}

theorem mem_move {w : ThreadPool σ τ} {shared : σ} (h : u ∈ (w.move i shared t).threads) :
    u = t ∨ u ∈ w.threads :=
  (List.mem_or_eq_of_mem_set h).symm

variable {old : τ}

theorem mem_move_self {w : ThreadPool σ τ} (hold : w.threads[i]? = some old) (shared : σ) (t : τ) :
    t ∈ (w.move i shared t).threads :=
  List.mem_of_getElem? (List.getElem?_set_self (List.getElem?_eq_some_iff.1 hold).1)

theorem mem_move_of_ne {w : ThreadPool σ τ} (hold : w.threads[i]? = some old) (shared : σ) (t : τ)
    (hu : u ∈ w.threads) (hne : old ≠ u) : u ∈ (w.move i shared t).threads := by
  obtain ⟨j, hj⟩ := List.mem_iff_getElem?.1 hu
  have hij : i ≠ j := fun heq => hne (Option.some.inj (hold.symm.trans (heq ▸ hj)))
  refine List.mem_iff_getElem?.2 ⟨j, ?_⟩
  rw [move, List.getElem?_set_ne hij]
  exact hj

theorem countP_move {w : ThreadPool σ τ} (hold : w.threads[i]? = some old) (shared : σ) (t : τ)
    (p : τ → Bool) :
    (w.move i shared t).threads.countP p + (if p old then 1 else 0) =
      w.threads.countP p + if p t then 1 else 0 := by
  obtain ⟨hlt, rfl⟩ := List.getElem?_eq_some_iff.1 hold
  rw [move, List.countP_set hlt]
  split
  · rename_i hp
    have hpos : 0 < w.threads.countP p := List.countP_pos_iff.2 ⟨_, List.getElem_mem hlt, hp⟩
    omega
  · omega

/-! ### Locks -/

section Locks

variable (holds : τ → κ → Bool)

def free (w : ThreadPool σ τ) (k : κ) : Bool := w.threads.all fun t => !holds t k

/-- Some thread holds the lock, other than the one at a place. -/
def heldElsewhere (w : ThreadPool σ τ) (i : ℕ) (k : κ) : Bool :=
  (w.threads.eraseIdx i).any fun t => holds t k

def Excludes (t u : τ) : Prop := ∀ k, holds t k = true → holds u k = false

variable {holds}

theorem Excludes.symm (h : Excludes holds t u) : Excludes holds u t := by
  intro k hu
  cases ht : holds t k with
  | false => rfl
  | true => rw [h k ht] at hu; cases hu

variable {k : κ}

variable {w : ThreadPool σ τ}

theorem holds_of_free (h : w.free holds k = true) (ht : t ∈ w.threads) : holds t k = false := by
  have hfree := List.all_eq_true.1 h t ht
  rwa [Bool.not_eq_true'] at hfree

theorem holds_of_heldElsewhere (h : w.heldElsewhere holds i k = false) (ht : w.threads[i]? = some t)
    (hu : u ∈ w.threads) (hexcludes : Excludes holds t u) : holds u k = false := by
  cases hk : holds u k with
  | false => rfl
  | true =>
    obtain ⟨j, hj⟩ := List.mem_iff_getElem?.1 hu
    by_cases hij : j = i
    · -- the thread itself, which excludes itself
      subst hij
      obtain rfl := Option.some.inj (ht.symm.trans hj)
      rw [hexcludes k hk] at hk
      cases hk
    · have hmem := List.mem_eraseIdx_iff_getElem?.2 ⟨j, hij, hj⟩
      have hnot := List.any_eq_false.1 h u hmem
      exact absurd hk hnot

theorem exists_of_heldElsewhere (h : w.heldElsewhere holds i k = true) :
    ∃ (j : ℕ) (u : τ), j ≠ i ∧ w.threads[j]? = some u ∧ holds u k = true := by
  obtain ⟨u, hmem, hk⟩ := List.any_eq_true.1 h
  obtain ⟨j, hij, hj⟩ := List.mem_eraseIdx_iff_getElem?.1 hmem
  exact ⟨j, u, hij, hj, hk⟩

end Locks

/-! ### Invariants -/

/-- An invariant of the shared rows, an assertion about each thread, and a relation of any two. -/
structure Inv (I : σ → Prop) (A : σ → τ → Prop) (C : τ → τ → Prop) (w : ThreadPool σ τ) :
    Prop where
  shared : I w.shared
  thread : ∀ (i : ℕ) t, w.threads[i]? = some t → A w.shared t
  pair : ∀ (i j : ℕ) t u, i ≠ j → w.threads[i]? = some t → w.threads[j]? = some u → C t u

variable {I : σ → Prop} {A : σ → τ → Prop} {C : τ → τ → Prop} {w : ThreadPool σ τ}

theorem Inv.start {s : σ} (h : I s) : Inv I A C { shared := s } :=
  ⟨h, fun _ _ h => by simp at h, fun _ _ _ _ _ h => by simp at h⟩

/-- **A turn of one thread**: it keeps the invariant and its own assertion, and it interferes with
no other thread. -/
theorem Inv.move (h : Inv I A C w) (hsymm : ∀ t u, C t u → C u t) {t' : τ} {s' : σ}
    (ht : w.threads[i]? = some t) (hI : I s') (hA : A s' t')
    (hother : ∀ u ∈ w.threads, A w.shared u → C t u → A s' u ∧ C t' u) :
    Inv I A C (w.move i s' t') := by
  have hlt : i < w.threads.length := (List.getElem?_eq_some_iff.1 ht).1
  have hkept : ∀ (j : ℕ) u, j ≠ i → w.threads[j]? = some u → A s' u ∧ C t' u := fun j u hj hu =>
    hother u (List.mem_of_getElem? hu) (h.thread j u hu) (h.pair i j t u hj.symm ht hu)
  have hget : ∀ (j : ℕ) u, (w.threads.set i t')[j]? = some u →
      j = i ∧ u = t' ∨ j ≠ i ∧ w.threads[j]? = some u := by
    intro j u hu
    by_cases hj : j = i
    · subst hj
      rw [List.getElem?_set_self hlt] at hu
      exact Or.inl ⟨rfl, (Option.some.inj hu).symm⟩
    · rw [List.getElem?_set_ne (Ne.symm hj)] at hu
      exact Or.inr ⟨hj, hu⟩
  refine ⟨hI, fun j u hu => ?_, fun j k u v hjk hu hv => ?_⟩
  · rcases hget j u hu with ⟨_, rfl⟩ | ⟨hj, hold⟩
    · exact hA
    · exact (hkept j u hj hold).1
  · rcases hget j u hu with ⟨rfl, rfl⟩ | ⟨hj, holdu⟩
    · rcases hget k v hv with ⟨rfl, rfl⟩ | ⟨hk, holdv⟩
      · exact absurd rfl hjk
      · exact (hkept k v hk holdv).2
    · rcases hget k v hv with ⟨rfl, rfl⟩ | ⟨hk, holdv⟩
      · exact hsymm _ _ (hkept j u hj holdu).2
      · exact h.pair j k u v hjk holdu holdv

/-- **A new thread.** -/
theorem Inv.spawn (h : Inv I A C w) (hsymm : ∀ t u, C t u → C u t) (hA : A w.shared t)
    (hother : ∀ u ∈ w.threads, C t u) : Inv I A C (w.spawn t) := by
  have hget : ∀ (j : ℕ) u, (w.threads ++ [t])[j]? = some u →
      j = w.threads.length ∧ u = t ∨ w.threads[j]? = some u := by
    intro j u hu
    by_cases hj : j < w.threads.length
    · rw [List.getElem?_append_left hj] at hu
      exact Or.inr hu
    · rw [List.getElem?_append_right (Nat.le_of_not_lt hj)] at hu
      have hlt := (List.getElem?_eq_some_iff.1 hu).1
      rw [List.length_singleton] at hlt
      have hzero : j - w.threads.length = 0 := by omega
      rw [hzero] at hu
      exact Or.inl ⟨by omega, (Option.some.inj hu).symm⟩
  refine ⟨h.shared, fun j u hu => ?_, fun j k u v hjk hu hv => ?_⟩
  · rcases hget j u hu with ⟨_, rfl⟩ | hold
    · exact hA
    · exact h.thread j u hold
  · rcases hget j u hu with ⟨rfl, rfl⟩ | holdu
    · rcases hget k v hv with ⟨rfl, rfl⟩ | holdv
      · exact absurd rfl hjk
      · exact hother v (List.mem_of_getElem? holdv)
    · rcases hget k v hv with ⟨rfl, rfl⟩ | holdv
      · exact hsymm _ _ (hother u (List.mem_of_getElem? holdu))
      · exact h.pair j k u v hjk holdu holdv

/-- **Something else** changes the shared rows, and interferes with no thread. -/
theorem Inv.write (h : Inv I A C w) {s' : σ} (hI : I s')
    (hother : ∀ u ∈ w.threads, A w.shared u → A s' u) : Inv I A C (w.write s') :=
  ⟨hI, fun i t ht => hother t (List.mem_of_getElem? ht) (h.thread i t ht), h.pair⟩

end ThreadPool
