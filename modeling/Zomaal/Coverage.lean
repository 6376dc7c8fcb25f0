/-
**Spans of time that leave nothing out.**

A span goes from its start up to, not including, its stop.  Spans are gapless when whatever lies
after the start of one and before the stop of another lies in one of them.

Main result:

* `Coverage.gapless_append_iff` — **one span more**, that stops later than all others, leaves a gap
  exactly if it starts after the last of them stops.
-/

import Mathlib.Order.Lattice
import Mathlib.Tactic.Common

set_option autoImplicit false

namespace Coverage

structure Span (τ : Type*) where
  start : τ
  stop : τ
  deriving DecidableEq

variable {τ : Type*} [LinearOrder τ]

def Span.Has (span : Span τ) (t : τ) : Prop := span.start ≤ t ∧ t < span.stop

instance (span : Span τ) (t : τ) : Decidable (span.Has t) :=
  inferInstanceAs (Decidable (_ ∧ _))

def Gapless (spans : List (Span τ)) : Prop :=
  ∀ t, (∃ span ∈ spans, span.start ≤ t) → (∃ span ∈ spans, t < span.stop) →
    ∃ span ∈ spans, span.Has t

theorem Gapless.nil : Gapless ([] : List (Span τ)) := by
  rintro t ⟨span, hspan, -⟩
  exact absurd hspan List.not_mem_nil

theorem Gapless.singleton (span : Span τ) : Gapless [span] := by
  rintro t ⟨first, hfirst, hstart⟩ ⟨last, hlast, hstop⟩
  rw [List.mem_singleton.1 hfirst] at hstart
  rw [List.mem_singleton.1 hlast] at hstop
  exact ⟨span, List.mem_singleton_self span, hstart, hstop⟩

/-- **One span more**, that stops last, leaves a gap exactly if it starts too late. -/
theorem gapless_append_iff {spans : List (Span τ)} (h : Gapless spans) {last span : Span τ}
    (hlast : last ∈ spans) (hlatest : ∀ other ∈ spans, other.stop ≤ last.stop)
    (hproper : last.start ≤ last.stop) (hspan : span.start ≤ span.stop)
    (hlater : last.stop ≤ span.stop) :
    Gapless (spans ++ [span]) ↔ span.start ≤ last.stop := by
  constructor
  · intro hgapless
    by_contra hlate
    rw [not_le] at hlate
    -- the moment when the last of the others stops is left out
    obtain ⟨other, hother, hstart, hstop⟩ := hgapless last.stop
      ⟨last, List.mem_append_left _ hlast, hproper⟩
      ⟨span, by simp, lt_of_lt_of_le hlate hspan⟩
    rcases List.mem_append.1 hother with hother | hother
    · exact absurd hstop (not_lt.2 (hlatest other hother))
    · rw [List.mem_singleton.1 hother] at hstart
      exact absurd hstart (not_le.2 hlate)
  · rintro hearly t ⟨first, hfirst, hstart⟩ ⟨final, hfinal, hstop⟩
    have hfinalStop : t < span.stop := by
      rcases List.mem_append.1 hfinal with hfinal | hfinal
      · exact lt_of_lt_of_le hstop (le_trans (hlatest final hfinal) hlater)
      · rwa [List.mem_singleton.1 hfinal] at hstop
    have hnew : span.start ≤ t → ∃ span' ∈ spans ++ [span], span'.Has t :=
      fun hspanStart => ⟨span, by simp, hspanStart, hfinalStop⟩
    rcases lt_or_ge t last.stop with hbefore | hafter
    · rcases List.mem_append.1 hfirst with hfirst | hfirst
      · obtain ⟨other, hother, hhas⟩ := h t ⟨first, hfirst, hstart⟩ ⟨last, hlast, hbefore⟩
        exact ⟨other, List.mem_append_left _ hother, hhas⟩
      · rw [List.mem_singleton.1 hfirst] at hstart
        exact hnew hstart
    · exact hnew (le_trans hearly hafter)

end Coverage
