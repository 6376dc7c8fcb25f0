/-
**Following cursors.**

A source answers what lies in a window page by page: with each page comes the cursor of the next, or
none.  The pages need not be fetched by one reader, nor the same ones be returned if a cursor is
asked for twice.

Main results:

* `Paging.Reached.follow`, `Paging.Reached.whole` — **one page more**, or the last one.
-/

import Mathlib.Tactic.Common

set_option autoImplicit false

namespace Paging

variable {ω κ ρ : Type*} (returns : ω → Option κ → ρ → Prop) (next : ρ → Option κ)

inductive Upto (window : ω) : List ρ → Option κ → Prop
  | start : Upto window [] none
  | follow {pages : List ρ} {cursor : Option κ} {page : ρ} {cursor' : κ} :
      Upto window pages cursor → returns window cursor page → next page = some cursor' →
        Upto window (pages ++ [page]) (some cursor')

/-- A cursor of a window was reached: the pages before it are kept. -/
def Reached (kept : List (ω × ρ)) (window : ω) (cursor : Option κ) : Prop :=
  ∃ pages, Upto returns next window pages cursor ∧ ∀ page ∈ pages, (window, page) ∈ kept

/-- All pages of a window; of the last one, `isLast` holds. -/
def Whole (isLast : ρ → Prop) (window : ω) (pages : List ρ) : Prop :=
  ∃ before cursor page, pages = before ++ [page] ∧ Upto returns next window before cursor ∧
    returns window cursor page ∧ isLast page

variable {returns next} {kept kept' : List (ω × ρ)} {window : ω} {cursor : Option κ} {page : ρ}

namespace Reached

theorem start : Reached returns next kept window none :=
  ⟨[], .start, fun _ hpage => nomatch hpage⟩

theorem mono (h : Reached returns next kept window cursor) (hkept : kept ⊆ kept') :
    Reached returns next kept' window cursor := by
  obtain ⟨pages, hupto, hpages⟩ := h
  exact ⟨pages, hupto, fun page hpage => hkept (hpages page hpage)⟩

/-- **One page more.** -/
theorem follow (h : Reached returns next kept window cursor) (hreturns : returns window cursor page)
    (hkept : (window, page) ∈ kept) {cursor' : κ} (hnext : next page = some cursor') :
    Reached returns next kept window (some cursor') := by
  obtain ⟨pages, hupto, hpages⟩ := h
  refine ⟨pages ++ [page], hupto.follow hreturns hnext, fun other hother => ?_⟩
  rcases List.mem_append.1 hother with hold | hnew
  · exact hpages other hold
  · exact List.mem_singleton.1 hnew ▸ hkept

/-- **The last page.** -/
theorem whole (h : Reached returns next kept window cursor) (hreturns : returns window cursor page)
    (hkept : (window, page) ∈ kept) (isLast : ρ → Prop)
    (hlast : isLast page) :
    ∃ pages, Whole returns next isLast window pages ∧ ∀ page ∈ pages, (window, page) ∈ kept := by
  obtain ⟨pages, hupto, hpages⟩ := h
  refine ⟨pages ++ [page], ⟨pages, cursor, page, rfl, hupto, hreturns, hlast⟩,
    fun other hother => ?_⟩
  rcases List.mem_append.1 hother with hold | hnew
  · exact hpages other hold
  · exact List.mem_singleton.1 hnew ▸ hkept

end Reached

end Paging
