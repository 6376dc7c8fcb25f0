/-
**Runs of a machine.**

A machine is a function `step` that takes a state and an action to the next state; a run is the list
of its actions.  Whatever is said about "every reachable state" is said here, once, for an arbitrary
machine.

Main results:

* `Machine.run_keeps`, `Machine.run_keeps_along` — the two induction principles;
* `Machine.Along.of_keeps`, `Machine.Along.iff_of_keeps` — what an invariant says about each step of
  a run.
-/

import Mathlib.Tactic.Common

set_option autoImplicit false

namespace Machine

variable {σ α : Type*} (step : σ → α → σ)

def run (s : σ) (acts : List α) : σ := acts.foldl step s

@[simp] theorem run_nil (s : σ) : run step s [] = s := rfl

@[simp] theorem run_cons (s : σ) (a : α) (acts : List α) :
    run step s (a :: acts) = run step (step s a) acts := rfl

theorem run_append (s : σ) (acts acts' : List α) :
    run step s (acts ++ acts') = run step (run step s acts) acts' := by
  rw [run, run, run, List.foldl_append]

/-- Every step of the run, taken in the state it is taken in, meets `P`. -/
def Along (P : σ → α → Prop) : σ → List α → Prop
  | _, [] => True
  | s, a :: acts => P s a ∧ Along P (step s a) acts

variable {step}

variable {P : σ → α → Prop} {acts : List α} {s : σ}

theorem Along.append {acts' : List α} :
    Along step P s (acts ++ acts') ↔ Along step P s acts ∧ Along step P (run step s acts) acts' := by
  induction acts generalizing s with
  | nil => simp [Along]
  | cons a acts ih => simp [Along, ih, and_assoc]

variable {Q : σ → α → Prop}

theorem Along.and (hP : Along step P s acts) (hQ : Along step Q s acts) :
    Along step (fun s a => P s a ∧ Q s a) s acts := by
  induction acts generalizing s with
  | nil => exact trivial
  | cons a acts ih => exact ⟨⟨hP.1, hQ.1⟩, ih hP.2 hQ.2⟩

/-- Of a run, it can be decided step by step whether its steps meet a condition. -/
instance Along.decidable {P : σ → α → Prop} [∀ s a, Decidable (P s a)] (s : σ) (acts : List α) :
    Decidable (Along step P s acts) :=
  match acts with
  | [] => inferInstanceAs (Decidable True)
  | a :: acts =>
    have := Along.decidable (P := P) (step s a) acts
    inferInstanceAs (Decidable (P s a ∧ Along step P (step s a) acts))

variable {I : σ → Prop}

/-- **Runs keep what every step keeps when it meets the condition.** -/
theorem run_keeps_along (hstep : ∀ s a, I s → P s a → I (step s a)) (hs : I s)
    (h : Along step P s acts) : I (run step s acts) := by
  induction acts generalizing s with
  | nil => exact hs
  | cons a acts ih => exact ih (hstep s a hs h.1) h.2

/-- **What the invariant says about a step holds along the run.** -/
theorem Along.of_keeps (hstep : ∀ s a, I s → P s a → I (step s a))
    (hmeets : ∀ s a, I s → P s a → Q s a) (hs : I s) (h : Along step P s acts) :
    Along step Q s acts := by
  induction acts generalizing s with
  | nil => exact trivial
  | cons a acts ih => exact ⟨hmeets s a hs h.1, ih (hstep s a hs h.1) h.2⟩

theorem Along.of_invariant (hstep : ∀ s a, I s → I (step s a)) (hmeets : ∀ s a, I s → Q s a)
    (hs : I s) (acts : List α) : Along step Q s acts := by
  induction acts generalizing s with
  | nil => exact trivial
  | cons a acts ih => exact ⟨hmeets s a hs, ih (hstep s a hs)⟩

/-- **Two conditions on steps are met along the same runs** when they are the same wherever an
invariant holds that the first of them keeps. -/
theorem Along.iff_of_keeps (hstep : ∀ s a, I s → P s a → I (step s a))
    (hiff : ∀ s a, I s → (P s a ↔ Q s a)) (hs : I s) :
    Along step P s acts ↔ Along step Q s acts := by
  induction acts generalizing s with
  | nil => exact Iff.rfl
  | cons a acts ih =>
    constructor
    · exact fun h => ⟨(hiff s a hs).1 h.1, (ih (hstep s a hs h.1)).1 h.2⟩
    · intro h
      have hmeets := (hiff s a hs).2 h.1
      exact ⟨hmeets, (ih (hstep s a hs hmeets)).2 h.2⟩

theorem Along.iff_of_keeps_within {A : σ → α → Prop}
    (hstep : ∀ s a, I s → A s a → P s a → I (step s a))
    (hiff : ∀ s a, I s → A s a → (P s a ↔ Q s a)) (hs : I s) (h : Along step A s acts) :
    Along step P s acts ↔ Along step Q s acts := by
  induction acts generalizing s with
  | nil => exact Iff.rfl
  | cons a acts ih =>
    have hhead := hiff s a hs h.1
    constructor
    · intro hP
      exact ⟨hhead.1 hP.1, (ih (hstep s a hs h.1 hP.1) h.2).1 hP.2⟩
    · intro hQ
      have hmeets := hhead.2 hQ.1
      exact ⟨hmeets, (ih (hstep s a hs h.1 hmeets) h.2).2 hQ.2⟩

/-- **Runs keep what every step keeps.** -/
theorem run_keeps (hstep : ∀ s a, I s → I (step s a)) (hs : I s) (acts : List α) :
    I (run step s acts) := by
  induction acts generalizing s with
  | nil => exact hs
  | cons a acts ih => exact ih (hstep s a hs)

end Machine
