/-
**Fixed windows.**

The first hit opens a window of a fixed length; the hits that come before it is over are counted
with it, and the next one opens a window again.  Hits may be cleared.

Main results:

* `FixedWindow.window_spec` — **what is counted in a window**.
-/

import Mathlib.Data.List.Induction

set_option autoImplicit false

namespace FixedWindow

inductive Event
  | hit (time : ℕ)
  | clear

structure Window where
  start : ℕ
  hits : ℕ

def Window.Over (w : Window) (length now : ℕ) : Prop := w.start + length ≤ now

instance (w : Window) (length now : ℕ) : Decidable (w.Over length now) :=
  inferInstanceAs (Decidable (_ ≤ _))

def next (length : ℕ) : Option Window → Event → Option Window
  | _, .clear => none
  | none, .hit time => some ⟨time, 1⟩
  | some w, .hit time =>
    if w.Over length time then some ⟨time, 1⟩ else some ⟨w.start, w.hits + 1⟩

/-- The window that was opened last, if it was not cleared. -/
def window (length : ℕ) (events : List Event) : Option Window := events.foldl (next length) none

theorem window_append (length : ℕ) (events : List Event) (event : Event) :
    window length (events ++ [event]) = next length (window length events) event := by
  rw [window, window, List.foldl_append]
  rfl

variable {length : ℕ}

theorem next_hit_of_over {last : Option Window} {time : ℕ}
    (h : ∀ w, last = some w → w.Over length time) :
    next length last (.hit time) = some ⟨time, 1⟩ := by
  cases last with
  | none => rfl
  | some w => exact if_pos (h w rfl)

variable {w : Window}

theorem next_hit_of_open {time : ℕ} (h : ¬ w.Over length time) :
    next length (some w) (.hit time) = some ⟨w.start, w.hits + 1⟩ :=
  if_neg h

/-- **What is counted in a window**: the hit that opened it, when the one before was over or
cleared, and all hits since. -/
theorem window_spec {events : List Event} (h : window length events = some w) :
    ∃ before inside, events = before ++ .hit w.start :: inside ∧ w.hits = inside.length + 1 ∧
      (∀ event ∈ inside, ∃ time, event = .hit time ∧ time < w.start + length) ∧
        ∀ last, window length before = some last → last.Over length w.start := by
  induction events using List.reverseRecOn generalizing w with
  | nil => cases h
  | append_singleton events event ih =>
    rw [window_append] at h
    cases event with
    | clear => cases h
    | hit time =>
      by_cases hover : ∀ last, window length events = some last → last.Over length time
      · rw [next_hit_of_over hover] at h
        obtain rfl := Option.some.inj h
        exact ⟨events, [], rfl, rfl, (fun _ hmem => nomatch hmem), hover⟩
      · push Not at hover
        obtain ⟨last, hlast, hopen⟩ := hover
        rw [hlast, next_hit_of_open hopen] at h
        obtain rfl := Option.some.inj h
        obtain ⟨before, inside, hevents, hhits, hinside, hbefore⟩ := ih hlast
        refine ⟨before, inside ++ [.hit time], ?_, ?_, ?_, hbefore⟩
        · rw [hevents, List.append_assoc, List.cons_append]
        · rw [List.length_append, List.length_singleton]
          exact congrArg (· + 1) hhits
        · intro event hmem
          rcases List.mem_append.1 hmem with hold | hnew
          · exact hinside event hold
          · exact ⟨time, List.mem_singleton.1 hnew, Nat.lt_of_not_le hopen⟩

theorem hits_pos {events : List Event} (h : window length events = some w) : 0 < w.hits := by
  obtain ⟨_, inside, -, hhits, -⟩ := window_spec h
  omega

end FixedWindow
