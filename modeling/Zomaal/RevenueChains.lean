/-
**Revenue that is recognized, reversed and reinstated.**

The first delivery of an order recognizes its revenue, a failure after a delivery reverses it, a
delivery after a failure reinstates it, and a verdict that says what is so already books nothing.
Each correction has the identifier of the row that it corrects in its key, so the rows form a chain.

Main definitions:

* `Standing` — what verdicts book, without keys and identifiers;
* `Corrections` — the rows of an order, each named by the key of the next.

Main results:

* `Standing.count_recognized`, `Standing.alternates` — **what any verdicts book**;
* `Corrections.find_fresh` — the key of the next correction is new.
-/

import Zomaal.LedgerEvaluations

set_option autoImplicit false

namespace Zomaal

/-! ### What verdicts book -/

/-- How the revenue of an order stands: the types of its rows, and whether the revenue counts. -/
structure Standing where
  rows : List FinancialEventType := []
  stands : Bool := false

def Standing.next (standing : Standing) : FinancialEventType :=
  if standing.stands then .revenueReversed
  else if standing.rows.isEmpty then .revenueRecognized else .revenueReinstated

/-- A verdict, delivered or failed for good.  One that says what is so books nothing. -/
def Standing.verdict (standing : Standing) (delivered : Bool) : Standing :=
  if delivered = standing.stands then standing
  else { rows := standing.rows ++ [standing.next], stands := delivered }

/-- **The revenue is recognized once**, by the first delivery. -/
theorem Standing.count_recognized (verdicts : List Bool) :
    (verdicts.foldl Standing.verdict {}).rows.count .revenueRecognized =
      if true ∈ verdicts then 1 else 0 := by
  -- an order without rows was never delivered
  suffices h : ∀ standing : Standing, (standing.rows = [] → standing.stands = false) →
      standing.rows.count .revenueRecognized = (if standing.rows = [] then 0 else 1) →
      (verdicts.foldl Standing.verdict standing).rows.count .revenueRecognized =
        if standing.rows = [] ∧ true ∉ verdicts then 0 else 1 by
    rw [h {} (fun _ => rfl) rfl]
    by_cases hmem : true ∈ verdicts <;> simp [hmem]
  induction verdicts with
  | nil =>
    intro standing _ hcount
    simpa using hcount
  | cons delivered verdicts ih =>
    intro standing hempty hcount
    rw [List.foldl_cons, Standing.verdict]
    split
    · rename_i hsame
      rw [ih standing hempty hcount]
      by_cases hrows : standing.rows = []
      · simp [hrows, hsame, hempty hrows]
      · simp [hrows]
    · rename_i hother
      rw [ih _ (by simp) ?_]
      · by_cases hrows : standing.rows = []
        · rw [hempty hrows, Bool.not_eq_false] at hother
          simp [hother]
        · simp [hrows]
      · by_cases hrows : standing.rows = []
        · simp [hrows, Standing.next, hempty hrows]
        · rw [if_neg hrows] at hcount
          cases hstands : standing.stands <;> simp [Standing.next, hrows, hcount, hstands]

/-- **Rows alternate**: what stands is reversed next, and what was reversed is reinstated. -/
theorem Standing.alternates (verdicts : List Bool) :
    (verdicts.foldl Standing.verdict {}).rows.IsChain fun a b =>
      b = if a = .revenueReversed then .revenueReinstated else .revenueReversed := by
  suffices h : ∀ standing : Standing,
      (standing.rows.IsChain fun a b =>
        b = if a = .revenueReversed then .revenueReinstated else .revenueReversed) →
      (∀ last ∈ standing.rows.getLast?, last = .revenueReversed ↔ standing.stands = false) →
      ((verdicts.foldl Standing.verdict standing).rows.IsChain fun a b =>
        b = if a = .revenueReversed then .revenueReinstated else .revenueReversed) from
    h {} (by simp) (by simp)
  induction verdicts with
  | nil => exact fun standing hrows _ => hrows
  | cons delivered verdicts ih =>
    intro standing hrows hlast
    rw [List.foldl_cons, Standing.verdict]
    split
    · exact ih standing hrows hlast
    · rename_i hother
      refine ih _ ?_ ?_
      · refine List.IsChain.append hrows (List.isChain_singleton _) fun last hmem next hnext => ?_
        obtain rfl : standing.next = next := by simpa using hnext
        have hrow := hlast last hmem
        have hne : standing.rows ≠ [] := by
          rintro hnil
          simp [hnil] at hmem
        cases hstands : standing.stands <;> simp [Standing.next, hstands, hne, hrow]
      · intro last hmem
        obtain rfl : standing.next = last := by simpa using hmem
        cases hstands : standing.stands <;> cases delivered <;> simp_all [Standing.next]
        split <;> simp

/-! ### The chain of rows -/

theorem findRev?_concat {α : Type} (p : α → Bool) (xs : List α) (x : α) :
    (xs ++ [x]).findRev? p = if p x then some x else xs.findRev? p := by
  rw [List.findRev?_eq_find?_reverse, List.findRev?_eq_find?_reverse, List.reverse_concat,
    List.find?_cons]
  cases p x <;> rfl

def FinancialEvent.booksRevenue (event : FinancialEvent) : Bool :=
  event.type = .revenueRecognized || event.type = .revenueReversed ||
    event.type = .revenueReinstated

def Store.revenueRows (s : Store) (orderId : String) : List FinancialEvent :=
  (s.ledger orderId).filter FinancialEvent.booksRevenue

/-- The row of a first delivery. -/
def Recognizes (orderId : String) (event : FinancialEvent) : Prop :=
  ∃ order costs shippingCost, order.id = orderId ∧
    event.toFinancialEventData = (recognitionData order costs shippingCost).stored

/-- **The rows that correct it**, in the order of booking; the last row leaves the revenue standing
or not.  Each of them has the identifier of the row it corrects in its key, but the first one. -/
inductive Corrections (orderId : String) (recognized : FinancialEvent) :
    Bool → FinancialEvent → List FinancialEvent → Prop
  | uncorrected : Corrections orderId recognized true recognized []
  | reversed {last event : FinancialEvent} {rows : List FinancialEvent} {currency key : String}
      (hrows : Corrections orderId recognized true last rows)
      (hrow : event.toFinancialEventData = (reversalData orderId currency recognized key).stored)
      (hkey : key = if rows.isEmpty then revenueReversedKey else "revenue-reversed:" ++ last.id) :
      Corrections orderId recognized false event (rows ++ [event])
  | reinstated {last event : FinancialEvent} {rows : List FinancialEvent} {order : EcommerceOrder}
      (hrows : Corrections orderId recognized false last rows) (horder : order.id = orderId)
      (hrow : event.toFinancialEventData = (reinstatementData order recognized last).stored) :
      Corrections orderId recognized true event (rows ++ [event])

namespace Corrections

variable {orderId : String} {recognized last : FinancialEvent} {rows : List FinancialEvent}
  {stands : Bool}

theorem concat (h : Corrections orderId recognized stands last rows) :
    ∃ before, recognized :: rows = before ++ [last] := by
  cases h with
  | uncorrected => exact ⟨[], rfl⟩
  | reversed hrows hrow hkey => exact ⟨recognized :: _, rfl⟩
  | reinstated hrows horder hrow => exact ⟨recognized :: _, rfl⟩

theorem last_mem (h : Corrections orderId recognized stands last rows) :
    last ∈ recognized :: rows := by
  obtain ⟨before, hbefore⟩ := h.concat
  exact hbefore ▸ List.mem_append_right _ (List.mem_singleton_self _)

theorem ne_nil (h : Corrections orderId recognized false last rows) : rows ≠ [] := by
  cases h
  simp

theorem named (hrecognized : recognized.idempotencyKey = revenueRecognizedKey)
    (h : Corrections orderId recognized stands last rows) {event : FinancialEvent} {id : String}
    (hevent : event ∈ recognized :: rows)
    (hkey : event.idempotencyKey = "revenue-reversed:" ++ id ∨
      event.idempotencyKey = "revenue-reinstated:" ++ id) :
    id ∈ (recognized :: rows).dropLast.map FinancialEvent.id := by
  have hne : ∀ {key : String}, ¬ "revenue-reversed:".toList <+: key.toList →
      ¬ "revenue-reinstated:".toList <+: key.toList → event.idempotencyKey ≠ key := by
    rintro key hreversed hreinstated rfl
    rcases hkey with hkey | hkey
    · exact hreversed (by simp [hkey])
    · exact hreinstated (by simp [hkey])
  -- the rows before a new one are those that were there
  have hold : ∀ {before : List FinancialEvent} {row : FinancialEvent},
      id ∈ (recognized :: before).map FinancialEvent.id →
      id ∈ (recognized :: (before ++ [row])).dropLast.map FinancialEvent.id := by
    intro before row hmem
    rwa [← List.cons_append, List.dropLast_concat]
  have hdrop : ∀ {before : List FinancialEvent},
      id ∈ (recognized :: before).dropLast.map FinancialEvent.id →
      id ∈ (recognized :: before).map FinancialEvent.id :=
    fun hmem => List.map_subset _ (List.dropLast_subset _) hmem
  have hlast : ∀ {stands : Bool} {prior : FinancialEvent} {before : List FinancialEvent},
      Corrections orderId recognized stands prior before →
      prior.id ∈ (recognized :: before).map FinancialEvent.id := by
    intro stands prior before hrows
    exact List.mem_map_of_mem hrows.last_mem
  induction h with
  | uncorrected =>
    obtain rfl := List.mem_singleton.1 hevent
    exact absurd hrecognized (hne (by decide) (by decide))
  | @reversed prior row before currency key hrows hrow hthis ih =>
    rw [← List.cons_append] at hevent
    rcases List.mem_append.1 hevent with hbefore | hrowMem
    · exact hold (hdrop (ih hbefore))
    · obtain rfl := List.mem_singleton.1 hrowMem
      have hown : event.idempotencyKey = key := congrArg FinancialEventData.idempotencyKey hrow
      split at hthis
      · subst hthis
        exact absurd hown (hne (by decide) (by decide))
      · rw [hown, hthis] at hkey
        rcases hkey with hsame | hother
        · exact hold ((String.append_right_inj _).1 hsame ▸ hlast hrows)
        · exact absurd hother ((by decide : Key.Apart _ _).append_ne _ _)
  | @reinstated prior row before order hrows horder hrow ih =>
    rw [← List.cons_append] at hevent
    rcases List.mem_append.1 hevent with hbefore | hrowMem
    · exact hold (hdrop (ih hbefore))
    · obtain rfl := List.mem_singleton.1 hrowMem
      have hown : event.idempotencyKey = "revenue-reinstated:" ++ prior.id :=
        congrArg FinancialEventData.idempotencyKey hrow
      rw [hown] at hkey
      rcases hkey with hother | hsame
      · exact absurd hother ((by decide : Key.Apart _ _).append_ne _ _)
      · exact hold ((String.append_right_inj _).1 hsame ▸ hlast hrows)

theorem last_type (hrecognized : recognized.type = .revenueRecognized)
    (h : Corrections orderId recognized stands last rows) :
    last.type = if stands then (if rows.isEmpty then .revenueRecognized else .revenueReinstated)
      else .revenueReversed := by
  cases h with
  | uncorrected => exact hrecognized
  | reversed hrows hrow hkey => exact congrArg FinancialEventData.type hrow
  | reinstated hrows horder hrow =>
    rw [if_pos rfl, if_neg (by simp)]
    exact congrArg FinancialEventData.type hrow

theorem find_fresh (hrecognized : recognized.idempotencyKey = revenueRecognizedKey)
    (h : Corrections orderId recognized stands last rows)
    (hids : ((recognized :: rows).map FinancialEvent.id).Nodup) {key : String}
    (hkey : key = "revenue-reversed:" ++ last.id ∨ key = "revenue-reinstated:" ++ last.id) :
    (recognized :: rows).find? (fun event => event.idempotencyKey = key) = none := by
  rw [List.find?_eq_none]
  intro event hevent hthis
  rw [decide_eq_true_eq] at hthis
  have hnamed := h.named hrecognized hevent (hthis ▸ hkey)
  obtain ⟨before, hbefore⟩ := h.concat
  rw [hbefore, List.dropLast_concat] at hnamed
  rw [hbefore, List.map_append, List.nodup_append] at hids
  exact hids.2.2 _ hnamed _ (List.mem_singleton_self _) rfl

theorem find_reversed (hrecognized : recognized.idempotencyKey = revenueRecognizedKey)
    (h : Corrections orderId recognized stands last rows) :
    ((recognized :: rows).find? fun event => event.idempotencyKey = revenueReversedKey).isSome =
      !rows.isEmpty := by
  have hfirst : recognized.idempotencyKey ≠ revenueReversedKey := by
    rw [hrecognized]
    decide
  rw [List.find?_cons_of_neg (by simpa using hfirst)]
  induction h with
  | uncorrected => rfl
  | @reversed _ _ before _ _ hrows hrow hkey ih =>
    rw [List.find?_append, Option.isSome_or, ih]
    cases before with
    | nil =>
      have hown := (congrArg FinancialEventData.idempotencyKey hrow).trans hkey
      exact congrArg Option.isSome (List.find?_cons_of_pos (by simpa using hown))
    | cons => rfl
  | reinstated hrows horder hrow ih =>
    rw [List.find?_append, Option.isSome_or, ih]
    rw [List.isEmpty_eq_false_iff.2 hrows.ne_nil, List.isEmpty_eq_false_iff.2 (by simp)]
    rfl

/-- What the next delivery finds: the reversal it corrects, if there is one. -/
theorem latest_reversed (hrecognized : recognized.type = .revenueRecognized)
    (h : Corrections orderId recognized stands last rows) :
    if stands then
      (recognized :: rows).findRev? (fun event => event.type = .revenueReversed) = none ∨
        ∃ reversal,
          (recognized :: rows).findRev? (fun event => event.type = .revenueReversed) =
            some reversal ∧ last.idempotencyKey = "revenue-reinstated:" ++ reversal.id
    else (recognized :: rows).findRev? (fun event => event.type = .revenueReversed) =
      some last := by
  have hlast : ∀ {rows : List FinancialEvent} {last : FinancialEvent},
      Corrections orderId recognized false last rows →
      (recognized :: rows).findRev? (fun event => event.type = .revenueReversed) = some last := by
    intro rows last hrows
    obtain ⟨before, hbefore⟩ := hrows.concat
    have htype : last.type = .revenueReversed := hrows.last_type hrecognized
    rw [hbefore, findRev?_concat, if_pos (by simpa using htype)]
  cases h with
  | uncorrected => exact .inl (by simp [List.findRev?, hrecognized])
  | reversed hrows hrow hkey => exact hlast (.reversed hrows hrow hkey)
  | reinstated hrows horder hrow =>
    refine .inr ⟨_, ?_, congrArg FinancialEventData.idempotencyKey hrow⟩
    have htype : last.type = .revenueReinstated := congrArg FinancialEventData.type hrow
    rw [← List.cons_append, findRev?_concat, if_neg (by simp [htype])]
    exact hlast hrows

/-- What the next failure finds: the reinstatement it corrects, if there is one. -/
theorem latest_reinstated (hrecognized : recognized.type = .revenueRecognized)
    (h : Corrections orderId recognized stands last rows) :
    if stands then rows = [] ∨
      (recognized :: rows).findRev? (fun event => event.type = .revenueReinstated) = some last
    else (recognized :: rows).findRev? (fun event => event.type = .revenueReinstated) = none ∨
      ∃ reinstated,
        (recognized :: rows).findRev? (fun event => event.type = .revenueReinstated) =
          some reinstated ∧ last.idempotencyKey = "revenue-reversed:" ++ reinstated.id := by
  have hlast : ∀ {rows : List FinancialEvent} {last : FinancialEvent},
      Corrections orderId recognized true last rows → rows ≠ [] →
      (recognized :: rows).findRev? (fun event => event.type = .revenueReinstated) =
        some last := by
    intro rows last hrows hne
    obtain ⟨before, hbefore⟩ := hrows.concat
    have htype : last.type = .revenueReinstated := by
      rw [hrows.last_type hrecognized, if_pos rfl, if_neg (by simpa using hne)]
    rw [hbefore, findRev?_concat, if_pos (by simpa using htype)]
  cases h with
  | uncorrected => exact .inl rfl
  | reinstated hrows horder hrow =>
    exact .inr (hlast (.reinstated hrows horder hrow) (by simp))
  | @reversed prior _ before _ key hrows hrow hkey =>
    have htype : last.type = .revenueReversed := congrArg FinancialEventData.type hrow
    have hown : last.idempotencyKey = key := congrArg FinancialEventData.idempotencyKey hrow
    have hskip : (recognized :: (before ++ [last])).findRev?
        (fun event => event.type = .revenueReinstated) =
          (recognized :: before).findRev? fun event => event.type = .revenueReinstated := by
      rw [← List.cons_append, findRev?_concat, if_neg (by simp [htype])]
    rw [if_neg Bool.false_ne_true, hskip]
    cases before with
    | nil =>
      refine .inl ?_
      have hfirst : ¬ recognized.type = .revenueReinstated := by simp [hrecognized]
      simp [List.findRev?, hfirst]
    | cons head tail => exact .inr ⟨prior, hlast hrows (by simp), hown.trans hkey⟩

end Corrections

end Zomaal
