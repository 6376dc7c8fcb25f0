/-
**The cash-on-delivery status of an order.**

One statement reads the order with its parcel, another writes the new status where the old one still
stands; the dispatch of the order makes it pending before.  This module runs the refreshes of
`cod-status.util.ts`, the final write of `dispatchOrder` and the changes they depend on, statement
by statement, in any order.

Main results:

* `codConverges` — **collected is final, and the status is settled when nothing is under way, as
  long as no status is written that the inputs no longer give**.
-/

import Zomaal.SyncPages
import Zomaal.ThreadPool

set_option autoImplicit false

namespace Zomaal

/-! ### The statements -/

/-- The row of an order, with its parcel.  An order whose dispatch is done is not dispatched again.
-/
structure CodOrder where
  financialStatus : EcommercePaymentStatus
  shipment : Option CodShipment := none
  dispatched : Bool := false
  codAmount : Option Decimal := none
  codStatus : Option CodStatus := none

inductive CodRefresh
  | started
  /-- the status that was read, and the one to be written in its place -/
  | writing (current next : CodStatus)
  | finished
  deriving DecidableEq

variable (env : SyncEnvironment)

variable (order : CodOrder)

def CodOrder.next (current : CodStatus) : CodStatus :=
  env.nextCodStatus current order.financialStatus order.shipment

/-- The next statement of `refreshCodStatus`. -/
def CodRefresh.turn : CodRefresh → CodOrder × CodRefresh
  | .started =>
    (order,
      match order.codStatus with
      | none => .finished
      | some current =>
        if order.next env current = current then .finished
        else .writing current (order.next env current))
  | .writing current next =>
    (if order.codStatus = some current then { order with codStatus := some next } else order,
      .finished)
  | .finished => (order, .finished)

/-- The final write of `dispatchOrder`. -/
def CodOrder.dispatch (codAmount : Decimal) : CodOrder :=
  if order.dispatched then order
  else
    { order with
      dispatched := true
      codAmount := some codAmount
      codStatus := if 0 < codAmount then some .pending else none }

/-- What happens: a refresh begins or has its turn, the dispatch ends, or an input changes, which a
refresh follows. -/
inductive CodAction
  | refresh
  | turn (i : ℕ)
  | dispatch (codAmount : Decimal)
  | payment (financialStatus : EcommercePaymentStatus)
  | parcel (shipment : Option CodShipment)

abbrev CodPool := ThreadPool CodOrder CodRefresh

def CodPool.step (w : CodPool) : CodAction → CodPool
  | .refresh => w.spawn .started
  | .turn i =>
    match w.threads[i]? with
    | some refresh =>
      let turn := refresh.turn env w.shared
      w.move i turn.1 turn.2
    | none => w
  | .dispatch codAmount => w.write (w.shared.dispatch codAmount)
  | .payment financialStatus => (w.write { w.shared with financialStatus }).spawn .started
  | .parcel shipment => (w.write { w.shared with shipment }).spawn .started

/-! ### What holds -/

def CodPool.Quiet (w : CodPool) : Prop := ∀ refresh ∈ w.threads, refresh = .finished

instance CodPool.decidableQuiet (w : CodPool) : Decidable w.Quiet :=
  inferInstanceAs (Decidable (∀ refresh ∈ w.threads, refresh = .finished))

/-- The status of an order with an amount to collect is the one of the current inputs, or collected.
-/
def CodSettled : Prop :=
  order.codAmount.any (0 < ·) = true →
    ∃ current ∈ order.codStatus, current = .collected ∨ current = order.next env current

def CollectedKept (w : CodPool) (action : CodAction) : Prop :=
  w.shared.codStatus = some .collected → (w.step env action).shared.codStatus = some .collected

def CodPool.unread (w : CodPool) : Bool := .started ∈ w.threads

/-- If a refresh replaces the status it has read, the current inputs give what it writes, unless
that is final; if the dispatch makes the order pending, so do the current inputs. -/
def stillDue (w : CodPool) : CodAction → Bool
  | .turn i =>
    match w.threads[i]? with
    | some (.writing current next) =>
      w.shared.codStatus ≠ some current || next = .collected ||
        w.shared.next env current = next || w.unread
    | _ => true
  | .dispatch codAmount =>
    w.shared.dispatched || codAmount ≤ 0 || w.shared.next env .pending = .pending || w.unread
  | _ => true

abbrev StillDue (w : CodPool) (action : CodAction) : Prop := stillDue env w action = true

def CodRefresh.Due : CodRefresh → Prop
  | .started => True
  | .writing current next => order.codStatus = some current ∧ next = order.next env current
  | .finished => False

structure CodPool.Inv (w : CodPool) : Prop where
  undispatched : w.shared.dispatched = false → w.shared.codAmount = none ∧ w.shared.codStatus = none
  amount : w.shared.codAmount.any (0 < ·) = true ↔ w.shared.codStatus.isSome
  writing : ∀ current next, .writing current next ∈ w.threads → current ≠ .collected

def CodPool.Converging (w : CodPool) : Prop :=
  CodSettled env w.shared ∨ ∃ refresh ∈ w.threads, refresh.Due env w.shared

variable {env}

theorem next_of_ne {order : CodOrder} {current current' : CodStatus}
    (h : current ≠ .collected) (h' : current' ≠ .collected) :
    order.next env current = order.next env current' := by
  rw [CodOrder.next, CodOrder.next, SyncEnvironment.nextCodStatus, SyncEnvironment.nextCodStatus,
    if_neg h, if_neg h']

theorem next_collected : order.next env .collected = .collected := by
  rw [CodOrder.next, SyncEnvironment.nextCodStatus, if_pos rfl]

theorem next_next {current : CodStatus} (h : current ≠ .collected) :
    order.next env current = .collected ∨
      order.next env current = order.next env (order.next env current) := by
  by_cases hnext : order.next env current = .collected
  · exact Or.inl hnext
  · exact Or.inr (next_of_ne h hnext)

namespace CodPool

variable {w : CodPool}

theorem Inv.step (h : Inv w) (action : CodAction) : Inv (w.step env action) := by
  have hspawn : ∀ {current next}, CodRefresh.writing current next ∈ w.threads ++ [.started] →
      .writing current next ∈ w.threads := fun hmem =>
    (List.mem_append.1 hmem).resolve_right fun heq => nomatch List.mem_singleton.1 heq
  cases action with
  | refresh =>
    exact ⟨h.undispatched, h.amount, fun current next hmem => h.writing _ _ (hspawn hmem)⟩
  | payment financialStatus =>
    exact ⟨h.undispatched, h.amount, fun current next hmem => h.writing _ _ (hspawn hmem)⟩
  | parcel shipment =>
    exact ⟨h.undispatched, h.amount, fun current next hmem => h.writing _ _ (hspawn hmem)⟩
  | dispatch codAmount =>
    rw [CodPool.step, CodOrder.dispatch]
    split
    · exact h
    · refine ⟨fun hnot => (nomatch hnot), ?_, h.writing⟩
      by_cases hpos : 0 < codAmount
      · simp [ThreadPool.write, hpos]
      · simp [ThreadPool.write, hpos]
  | turn i =>
    rw [CodPool.step]
    split
    · rename_i refresh hrefresh
      have hmem := List.mem_of_getElem? hrefresh
      cases refresh with
      | started =>
        refine ⟨h.undispatched, h.amount, fun current next hwriting => ?_⟩
        rcases ThreadPool.mem_move hwriting with heq | hold
        · -- what is to be replaced is not the collected status, which stays
          rintro rfl
          simp only [CodRefresh.turn] at heq
          split at heq
          · cases heq
          · rename_i current _
            split at heq
            · cases heq
            · rename_i hne
              obtain ⟨rfl, -⟩ := CodRefresh.writing.inj heq
              exact hne (next_collected _)
        · exact h.writing _ _ hold
      | writing current next =>
        have hthreads : ∀ {order : CodOrder} {c n},
            CodRefresh.writing c n ∈ (w.move i order .finished).threads → c ≠ .collected :=
          fun hwriting => by
            rcases ThreadPool.mem_move hwriting with heq | hold
            · cases heq
            · exact h.writing _ _ hold
        dsimp only [CodRefresh.turn]
        split
        · rename_i hstill
          refine ⟨fun hnot => ?_, ?_, fun _ _ => hthreads⟩
          · have hnone := (h.undispatched hnot).2
            rw [hstill] at hnone
            cases hnone
          · have hsome := h.amount
            rw [hstill] at hsome
            exact hsome
        · exact ⟨h.undispatched, h.amount, fun _ _ => hthreads⟩
      | finished =>
        refine ⟨h.undispatched, h.amount, fun current next hwriting => ?_⟩
        rcases ThreadPool.mem_move hwriting with heq | hold
        · cases heq
        · exact h.writing _ _ hold
    · exact h

theorem Inv.collectedKept (h : Inv w) (action : CodAction) : CollectedKept env w action := by
  intro hcollected
  cases action with
  | refresh => exact hcollected
  | payment financialStatus => exact hcollected
  | parcel shipment => exact hcollected
  | dispatch codAmount =>
    cases hdispatched : w.shared.dispatched with
    | false =>
      have hnone := (h.undispatched hdispatched).2
      rw [hcollected] at hnone
      cases hnone
    | true =>
      simp only [CodPool.step, CodOrder.dispatch, hdispatched, if_true]
      exact hcollected
  | turn i =>
    rw [CodPool.step]
    split
    · rename_i refresh hrefresh
      cases refresh with
      | started => exact hcollected
      | writing current next =>
        have hne := h.writing current next (List.mem_of_getElem? hrefresh)
        simp only [CodRefresh.turn, hcollected, Option.some.injEq, hne.symm, if_false]
        exact hcollected
      | finished => exact hcollected
    · exact hcollected

theorem converging_of_started (h : .started ∈ w.threads) : Converging env w :=
  Or.inr ⟨.started, h, trivial⟩

theorem Inv.converging (h : Inv w) (hw : Converging env w) (action : CodAction)
    (hdue : StillDue env w action) : Converging env (w.step env action) := by
  cases action with
  | refresh => exact converging_of_started (List.mem_append_right _ (List.mem_singleton_self _))
  | payment financialStatus =>
    exact converging_of_started (List.mem_append_right _ (List.mem_singleton_self _))
  | parcel shipment =>
    exact converging_of_started (List.mem_append_right _ (List.mem_singleton_self _))
  | dispatch codAmount =>
    rw [StillDue, stillDue] at hdue
    rw [CodPool.step, CodOrder.dispatch]
    cases hdispatched : w.shared.dispatched with
    | true => exact hw
    | false =>
      simp only [hdispatched, Bool.false_or, Bool.or_eq_true, decide_eq_true_eq] at hdue
      rw [if_neg Bool.false_ne_true]
      rcases hdue with (hzero | hpending) | hunread
      · left
        intro hpos
        simp [ThreadPool.write] at hpos
        exact absurd hpos (not_lt.2 hzero)
      · left
        intro hpos
        have hpos : 0 < codAmount := by simpa [ThreadPool.write] using hpos
        exact ⟨.pending, by simp [ThreadPool.write, hpos], Or.inr hpending.symm⟩
      · have hmem : CodRefresh.started ∈ w.threads := by simpa [unread] using hunread
        exact converging_of_started hmem
  | turn i =>
    rw [StillDue, stillDue] at hdue
    rw [CodPool.step]
    cases hrefresh : w.threads[i]? with
    | none => exact hw
    | some refresh =>
      simp only [hrefresh] at hdue
      -- another refresh that is due stays so when the row does
      have hother : ∀ refresh', (∃ u ∈ w.threads, u ≠ refresh ∧ u.Due env w.shared) →
          Converging env (w.move i w.shared refresh') := fun refresh' ⟨u, hu, hne, hdue⟩ =>
        Or.inr ⟨u, ThreadPool.mem_move_of_ne hrefresh _ _ hu hne.symm, hdue⟩
      cases refresh with
      | started =>
        simp only [CodRefresh.turn]
        cases hstatus : w.shared.codStatus with
        | none =>
          left
          intro hpos
          have hsome := h.amount.1 hpos
          rw [hstatus] at hsome
          cases hsome
        | some current =>
          by_cases hsame : w.shared.next env current = current
          · left
            exact fun _ => ⟨current, hstatus, Or.inr hsame.symm⟩
          · right
            simp only [hsame, if_false]
            exact ⟨_, ThreadPool.mem_move_self hrefresh _ _, hstatus, rfl⟩
      | writing current next =>
        have hcurrent := h.writing current next (List.mem_of_getElem? hrefresh)
        simp only [CodRefresh.turn]
        by_cases hstill : w.shared.codStatus = some current
        · rw [if_pos hstill]
          simp only [hstill, ne_eq, not_true_eq_false, decide_false, Bool.false_or,
            Bool.or_eq_true, decide_eq_true_eq] at hdue
          rcases hdue with (hfinal | hnext) | hunread
          · exact Or.inl fun _ => ⟨next, rfl, Or.inl hfinal⟩
          · left
            refine fun _ => ⟨next, rfl, ?_⟩
            rw [← hnext]
            exact next_next w.shared hcurrent
          · right
            have hmem : CodRefresh.started ∈ w.threads := by simpa [unread] using hunread
            exact ⟨.started, ThreadPool.mem_move_of_ne hrefresh _ _ hmem (by simp), trivial⟩
        · rw [if_neg hstill]
          rcases hw with hsettled | ⟨u, hu, hudue⟩
          · exact Or.inl hsettled
          · refine hother _ ⟨u, hu, ?_, hudue⟩
            rintro rfl
            exact hstill hudue.1
      | finished =>
        rcases hw with hsettled | ⟨u, hu, hudue⟩
        · exact Or.inl hsettled
        · refine hother _ ⟨u, hu, ?_, hudue⟩
          rintro rfl
          exact hudue

theorem Converging.settled (h : Converging env w) (hquiet : w.Quiet) : CodSettled env w.shared := by
  refine h.resolve_right ?_
  rintro ⟨refresh, hmem, hdue⟩
  rw [hquiet refresh hmem] at hdue
  exact hdue

end CodPool

structure CodStart : Prop where
  dispatched : order.dispatched = false
  codAmount : order.codAmount = none
  codStatus : order.codStatus = none

theorem CodStart.inv {order : CodOrder} (h : CodStart order) : CodPool.Inv { shared := order } where
  undispatched _ := ⟨h.codAmount, h.codStatus⟩
  amount := by simp [h.codAmount, h.codStatus]
  writing _ _ hmem := nomatch hmem

variable (env) in
/-- **Collected is final**, whatever happens and in any order; **and where no refresh is under way
the status is settled**, as long as no refresh replaces a status by one that the inputs no longer
give, and the dispatch makes no order pending whose inputs say otherwise. -/
theorem codConverges {order : CodOrder} (hs : CodStart order) (actions : List CodAction) :
    Machine.Along (CodPool.step env) (CollectedKept env) { shared := order } actions ∧
    (Machine.Along (CodPool.step env) (StillDue env) { shared := order } actions →
      (Machine.run (CodPool.step env) { shared := order } actions).Quiet →
      CodSettled env (Machine.run (CodPool.step env) { shared := order } actions).shared) := by
  constructor
  · exact Machine.Along.of_invariant (I := CodPool.Inv) (fun _ action hw => hw.step action)
      (fun _ action hw => hw.collectedKept action) hs.inv actions
  · intro hdue hquiet
    have hkeeps : ∀ w action, (CodPool.Inv w ∧ CodPool.Converging env w) → StillDue env w action →
        CodPool.Inv (w.step env action) ∧ CodPool.Converging env (w.step env action) :=
      fun w action hw hdue => ⟨hw.1.step action, hw.1.converging hw.2 action hdue⟩
    have hstart : CodSettled env order := fun hpos => by
      rw [hs.codAmount] at hpos
      cases hpos
    exact (Machine.run_keeps_along hkeeps ⟨hs.inv, Or.inl hstart⟩ hdue).2.settled hquiet

def capitals : SyncEnvironment where
  storeId := "store"
  directory := { requireStore := fun _ => none, customerPhoneIdentity := fun _ _ => none }
  toLowerCase := id
  normalizeSituation := id
  newOrderId := id
  created := fun _ => { id := id, createdAt := 0 }
  catalogue := []

def unpaidOrder : CodOrder where
  financialStatus := .pending

theorem unpaidOrder_start : CodStart unpaidOrder := ⟨rfl, rfl, rfl⟩

def paidInTurn : List CodAction :=
  [.parcel (some { normalizedStatus := .pending }), .turn 0, .dispatch 100,
    .parcel (some { normalizedStatus := .delivered }), .turn 1, .payment .paid, .turn 2, .turn 2]

theorem codConverges_inTurn :
    (Machine.run (CodPool.step capitals) { shared := unpaidOrder } paidInTurn).shared.codStatus =
      some .collected ∧
    CodSettled capitals
      (Machine.run (CodPool.step capitals) { shared := unpaidOrder } paidInTurn).shared :=
  ⟨by decide, (codConverges capitals unpaidOrder_start paidInTurn).2 (by decide) (by decide)⟩

/-- The parcel is refused and then delivered after all; the refresh that has seen it refused writes
last. -/
def refusedOvertaken : List CodAction :=
  [.dispatch 100, .parcel (some { normalizedStatus := .refused }), .turn 0,
    .parcel (some { normalizedStatus := .delivered }), .turn 1, .turn 0]

/-- **A refresh may write what no longer is so**: the parcel is delivered, and the collection
failed.
-/
theorem codConverges_overtaken :
    CodStart unpaidOrder ∧
    (Machine.run (CodPool.step capitals) { shared := unpaidOrder } refusedOvertaken).Quiet ∧
    ¬ CodSettled capitals
      (Machine.run (CodPool.step capitals) { shared := unpaidOrder } refusedOvertaken).shared := by
  refine ⟨unpaidOrder_start, by decide, fun h => ?_⟩
  have hsettled := h (by decide +kernel)
  revert hsettled
  decide

end Zomaal
