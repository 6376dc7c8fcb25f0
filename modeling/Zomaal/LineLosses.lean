/-
**The losses of order lines.**

What the merchant loses on a line is booked as rows of the order's ledger that add up to the last
loss that was recorded.  The first row of a line has the line's key, and every later one that key
with a random identifier behind it; a line's identifier has no colon.

Main results:

* `setLineLoss_spec` — what one call books;
* `lineLosses_converge` — **the booked loss is the last one recorded**, after every run.
-/

import Zomaal.KeyFamilies
import Zomaal.MachineRun
import Zomaal.OrderLedger
import Zomaal.StoredAmounts

set_option autoImplicit false

namespace Zomaal

/-! ### The rows of a line -/

variable (s : Store)

def Store.bookedLoss (orderId lineId : String) : Decimal :=
  Ledger.total (fun event : FinancialEvent => event.damageCost)
    (FinancialEvent.booksLossOf orderId lineId) s.financialEvents

def correctionKey (lineId : String) (n : ℕ) : String := damageLossKey lineId ++ ":" ++ uuid n

structure LossBooks : Prop where
  typed : ∀ event ∈ s.financialEvents, Key.InFamily "damage-loss:" event.idempotencyKey →
    event.type = .damageLoss
  drawn : ∀ event ∈ s.financialEvents, ∀ lineId n, event.idempotencyKey = correctionKey lineId n →
    n < s.uuids
  rounded : ∀ event ∈ s.financialEvents, event.type = .damageLoss →
    toFixed4 event.damageCost = event.damageCost
  negated : ∀ event ∈ s.financialEvents, event.type = .damageLoss →
    event.netProfitImpact = -event.damageCost

theorem separator_notMem_uuid (n : ℕ) : ':' ∉ (uuid n).toList := by
  rw [uuid, String.toList_append, List.mem_append, not_or]
  exact ⟨by decide, Key.separator_notMem_toString n⟩

theorem correctionKey_inj {lineId lineId' : String} {n n' : ℕ}
    (h : correctionKey lineId n = correctionKey lineId' n') : n = n' := by
  have hlist : (damageLossKey lineId).toList ++ ':' :: (uuid n).toList =
      (damageLossKey lineId').toList ++ ':' :: (uuid n').toList := by
    simpa [correctionKey] using congrArg String.toList h
  have huuid := String.toList_inj.1 (Key.append_separator_inj hlist (separator_notMem_uuid n)
    (separator_notMem_uuid n')).2
  have hnumber : (toString n).toList = (toString n').toList := by
    simpa [uuid] using congrArg String.toList huuid
  exact Key.toString_nat_inj (String.toList_inj.1 hnumber)

theorem eq_of_separator_initial {a b rest : List Char} (ha : ':' ∉ a) (hb : ':' ∉ b)
    (h : a ++ [':'] <+: b ++ ':' :: rest) : a = b := by
  obtain ⟨tail, htail⟩ := h
  rw [List.append_assoc, List.singleton_append] at htail
  induction a generalizing b with
  | nil =>
    cases b with
    | nil => rfl
    | cons c b =>
      obtain ⟨rfl, _⟩ := List.cons_eq_cons.1 htail
      exact absurd (List.mem_cons_self ..) hb
  | cons c a ih =>
    cases b with
    | nil =>
      obtain ⟨rfl, _⟩ := List.cons_eq_cons.1 htail
      exact absurd (List.mem_cons_self ..) ha
    | cons d b =>
      obtain ⟨rfl, hrest⟩ := List.cons.inj htail
      rw [ih (fun h => ha (List.mem_cons_of_mem _ h)) (fun h => hb (List.mem_cons_of_mem _ h)) hrest]

theorem separator_not_initial {a b : List Char} (hb : ':' ∉ b) : ¬ a ++ [':'] <+: b := by
  intro h
  exact hb (h.subset (by simp))

/-- Whether the key is one of the line: its key, or one that goes on behind a colon. -/
def ownKey (lineId key : String) : Prop :=
  key = damageLossKey lineId ∨ (damageLossKey lineId ++ ":").toList <+: key.toList

theorem booksLossOf_iff {orderId lineId : String} {event : FinancialEvent} :
    event.booksLossOf orderId lineId = true ↔
      event.orderId = orderId ∧ event.type = .damageLoss ∧ ownKey lineId event.idempotencyKey := by
  simp [FinancialEvent.booksLossOf, ownKey]

theorem damageLossKey_toList (lineId : String) :
    (damageLossKey lineId).toList = "damage-loss:".toList ++ lineId.toList := by
  rw [damageLossKey, String.toList_append]

theorem ownKey_first {lineId other : String} (hline : ':' ∉ lineId.toList)
    (h : ownKey other (damageLossKey lineId)) : other = lineId := by
  rcases h with h | h
  · have hlist := congrArg String.toList h
    rw [damageLossKey_toList, damageLossKey_toList, List.append_right_inj] at hlist
    exact (String.toList_inj.1 hlist).symm
  · rw [String.toList_append, damageLossKey_toList, damageLossKey_toList, List.append_assoc,
      List.prefix_append_right_inj] at h
    exact absurd h (separator_not_initial hline)

theorem damageLossKey_ne {lineId other : String} {n : ℕ} (hline : ':' ∉ lineId.toList) :
    damageLossKey lineId ≠ correctionKey other n := by
  intro h
  have hlist := congrArg String.toList h
  rw [correctionKey, String.toList_append, String.toList_append, damageLossKey_toList,
    damageLossKey_toList, List.append_assoc, List.append_assoc, List.append_right_inj] at hlist
  exact hline (hlist ▸ by simp)

theorem ownKey_correction {lineId other : String} {n : ℕ} (hline : ':' ∉ lineId.toList)
    (hother : ':' ∉ other.toList) (h : ownKey other (correctionKey lineId n)) : other = lineId := by
  have hkey : (correctionKey lineId n).toList =
      "damage-loss:".toList ++ (lineId.toList ++ ':' :: (uuid n).toList) := by
    simp [correctionKey, damageLossKey]
  rcases h with h | h
  · have hlist := congrArg String.toList h
    rw [hkey, damageLossKey_toList, List.append_right_inj] at hlist
    exact absurd (hlist ▸ (by simp : ':' ∈ lineId.toList ++ ':' :: (uuid n).toList)) hother
  · rw [String.toList_append, damageLossKey_toList, hkey, List.append_assoc,
      List.prefix_append_right_inj] at h
    exact String.toList_inj.1 (eq_of_separator_initial hother hline h)

/-! ### One call -/

theorem upsertEvent_fresh {s : Store} {data : FinancialEventData}
    (h : s.findEvent data.orderId data.idempotencyKey = none) :
    upsertEvent data s = (.ok { data.stored with id := uuid s.uuids },
      { s with
        uuids := s.uuids + 1
        financialEvents := s.financialEvents ++ [{ data.stored with id := uuid s.uuids }] }) := by
  have hfresh : ({ s with uuids := s.uuids + 1 } : Store).findEvent data.orderId
      data.idempotencyKey = none := h
  simp only [upsertEvent, Command.ask_bind_apply, h, createEvent]
  rw [Command.bind_of_ok (show randomUUID s = (.ok (uuid s.uuids), _) from rfl)]
  simp only [Command.ask_bind_apply, hfresh, Command.modify_bind_apply, Command.pure_apply]

def lossData (orderId currency reason key : String) (delta : Decimal) : FinancialEventData where
  orderId := orderId
  type := .damageLoss
  revenue := 0
  productCost := 0
  shippingCost := 0
  damageCost := delta
  netProfitImpact := -delta
  currency := currency
  reason := reason
  idempotencyKey := key

theorem lossData_stored {delta : Decimal} (hdelta : toFixed4 delta = delta)
    (orderId currency reason key : String) :
    (lossData orderId currency reason key delta).stored =
      lossData orderId currency reason key delta := by
  simp [FinancialEventData.stored, lossData, toFixed4_zero, hdelta, toFixed4_neg hdelta]

theorem LossBooks.booked {s : Store} (h : LossBooks s) {orderId key : String} {delta : Decimal}
    {currency reason id : String} {uuids : ℕ} (hdelta : toFixed4 delta = delta)
    (huuids : s.uuids ≤ uuids) (hkey : ∀ other n, key = correctionKey other n → n < uuids) :
    LossBooks { s with
      uuids
      financialEvents := s.financialEvents ++
        [{ (lossData orderId currency reason key delta).stored with id }] } := by
  have hstored := lossData_stored hdelta orderId currency reason key
  refine ⟨fun event hevent => ?_, fun event hevent => ?_, fun event hevent => ?_,
    fun event hevent => ?_⟩ <;> rcases List.mem_append.1 hevent with hold | hnew
  · exact h.typed event hold
  · intro _
    rw [List.mem_singleton.1 hnew, hstored]
    rfl
  · exact fun other n heq => (h.drawn event hold other n heq).trans_le huuids
  · rw [List.mem_singleton.1 hnew, hstored]
    exact hkey
  · exact h.rounded event hold
  · intro _
    rw [List.mem_singleton.1 hnew, hstored]
    exact hdelta
  · exact h.negated event hold
  · intro _
    rw [List.mem_singleton.1 hnew, hstored]
    rfl

/-- A row of a line, for its loss to become `target`. -/
structure LossRow (orderId lineId : String) (target : Decimal) (event : FinancialEvent) :
    Prop where
  order : event.orderId = orderId
  type : event.type = .damageLoss
  key : event.idempotencyKey = damageLossKey lineId ∨
    ∃ n, event.idempotencyKey = correctionKey lineId n
  damageCost : event.damageCost = target - s.bookedLoss orderId lineId
  netProfitImpact : event.netProfitImpact = -event.damageCost

theorem setLineLoss_spec {s : Store} (h : LossBooks s) {orderId lineId currency reason : String}
    {target : Decimal} (hline : ':' ∉ lineId.toList) (htarget : toFixed4 target = target) :
    (s.bookedLoss orderId lineId = target ∧
      setLineLoss orderId lineId currency target reason s = (.ok none, s)) ∨
    s.bookedLoss orderId lineId ≠ target ∧ ∃ event uuids,
      setLineLoss orderId lineId currency target reason s =
        (.ok (some event), { s with uuids, financialEvents := s.financialEvents ++ [event] }) ∧
      LossRow s orderId lineId target event ∧
      LossBooks { s with uuids, financialEvents := s.financialEvents ++ [event] } := by
  have hbooked : ((s.financialEvents.filter (FinancialEvent.booksLossOf orderId lineId)).map
      fun event => event.damageCost).sum = s.bookedLoss orderId lineId := rfl
  have hrounded : toFixed4 (s.bookedLoss orderId lineId) = s.bookedLoss orderId lineId := by
    refine toFixed4_sum fun x hx => ?_
    obtain ⟨event, hevent, rfl⟩ := List.mem_map.1 hx
    obtain ⟨hmem, hbooks⟩ := List.mem_filter.1 hevent
    exact h.rounded event hmem (booksLossOf_iff.1 hbooks).2.1
  by_cases heq : s.bookedLoss orderId lineId = target
  · left
    refine ⟨heq, ?_⟩
    rw [setLineLoss, Command.ask_bind_apply]
    simp only [hbooked, heq, sub_self, if_true, Command.pure_apply]
  · right
    refine ⟨heq, ?_⟩
    have hdelta : toFixed4 (target - s.bookedLoss orderId lineId) =
        target - s.bookedLoss orderId lineId := by
      rw [sub_eq_add_neg]
      exact toFixed4_add htarget (toFixed4_neg hrounded)
    have hne : target - s.bookedLoss orderId lineId ≠ 0 := fun hzero => heq (sub_eq_zero.1 hzero).symm
    -- once the key is known to be unused, the row is appended
    have hwrite : ∀ (key : String) (t : Store), t.findEvent orderId key = none →
        (upsertEvent (lossData orderId currency reason key (target - s.bookedLoss orderId lineId)) >>=
          fun event => pure (some event)) t =
        (.ok (some { lossData orderId currency reason key (target - s.bookedLoss orderId lineId) with
            id := uuid t.uuids }), { t with
          uuids := t.uuids + 1
          financialEvents := t.financialEvents ++
            [{ lossData orderId currency reason key (target - s.bookedLoss orderId lineId) with
              id := uuid t.uuids }] }) := by
      intro key t hunused
      rw [Command.bind_of_ok (upsertEvent_fresh hunused), lossData_stored hdelta]
      rfl
    cases hempty : (s.financialEvents.filter (FinancialEvent.booksLossOf orderId lineId)).isEmpty with
    | true =>
      -- the first row: a row with its key would be one of the line
      have hunused : s.findEvent orderId (damageLossKey lineId) = none := by
        rw [Store.findEvent, List.find?_eq_none]
        intro event hevent hsel
        obtain ⟨horder, hkey⟩ : event.orderId = orderId ∧
            event.idempotencyKey = damageLossKey lineId := by simpa using hsel
        have htype := h.typed event hevent (hkey ▸ Key.InFamily.intro "damage-loss:" lineId)
        have hmem := List.mem_filter.2 ⟨hevent, booksLossOf_iff.2 ⟨horder, htype, .inl hkey⟩⟩
        rw [List.isEmpty_iff.1 hempty] at hmem
        exact absurd hmem List.not_mem_nil
      have hrun : setLineLoss orderId lineId currency target reason s =
          (upsertEvent (lossData orderId currency reason (damageLossKey lineId)
            (target - s.bookedLoss orderId lineId)) >>= fun event => pure (some event)) s := by
        rw [setLineLoss, Command.ask_bind_apply]
        simp only [hbooked, if_neg hne, hempty, if_true]
        rfl
      have hbooks := @LossBooks.booked s h orderId (damageLossKey lineId) _ currency reason
        (uuid s.uuids) (s.uuids + 1) hdelta (Nat.le_succ _) fun other n hkey =>
          absurd hkey (damageLossKey_ne hline)
      rw [lossData_stored hdelta] at hbooks
      exact ⟨_, _, hrun.trans (hwrite _ s hunused), ⟨rfl, rfl, .inl rfl, rfl, rfl⟩, hbooks⟩
    | false =>
      have hunused : ({ s with uuids := s.uuids + 1 } : Store).findEvent orderId
          (correctionKey lineId s.uuids) = none := by
        rw [Store.findEvent, List.find?_eq_none]
        intro event hevent hsel
        obtain ⟨_, hkey⟩ : event.orderId = orderId ∧
            event.idempotencyKey = correctionKey lineId s.uuids := by simpa using hsel
        exact lt_irrefl _ (h.drawn event hevent lineId s.uuids hkey)
      have hrun : setLineLoss orderId lineId currency target reason s =
          (upsertEvent (lossData orderId currency reason (correctionKey lineId s.uuids)
            (target - s.bookedLoss orderId lineId)) >>= fun event => pure (some event))
              { s with uuids := s.uuids + 1 } := by
        rw [setLineLoss, Command.ask_bind_apply]
        simp only [hbooked, if_neg hne, hempty]
        rfl
      have hbooks := @LossBooks.booked s h orderId (correctionKey lineId s.uuids) _ currency reason
        (uuid (s.uuids + 1)) (s.uuids + 2) hdelta (Nat.le_add_right _ 2) fun other n hkey => by
          rw [← correctionKey_inj hkey]
          omega
      rw [lossData_stored hdelta] at hbooks
      exact ⟨_, _, hrun.trans (hwrite _ _ hunused), ⟨rfl, rfl, .inr ⟨_, rfl⟩, rfl, rfl⟩, hbooks⟩

/-! ### Every run -/

structure LossCall where
  orderId : String
  lineId : String
  currency : String
  targetLoss : Decimal
  reason : String

namespace LossCall

variable (call : LossCall)

def book : Service (Option FinancialEvent) :=
  setLineLoss call.orderId call.lineId call.currency call.targetLoss call.reason

/-- Identifiers of lines have no colon, and losses have four decimals. -/
def Valid : Prop := ':' ∉ call.lineId.toList ∧ toFixed4 call.targetLoss = call.targetLoss

instance : Decidable call.Valid := inferInstanceAs (Decidable (_ ∧ _))

def step (call : LossCall) : Store := call.book.final s

end LossCall

def lastLoss : List LossCall → String → String → Option Decimal
  | [], _, _ => none
  | call :: calls, orderId, lineId =>
    (lastLoss calls orderId lineId).or
      (if call.orderId = orderId ∧ call.lineId = lineId then some call.targetLoss else none)

/-- **What a call does**: the books stay in order, rows are only appended, and the loss of the line
is the recorded one, that of every other line what it was. -/
theorem LossCall.step_spec {s : Store} (h : LossBooks s) {call : LossCall} (hcall : call.Valid) :
    (∃ result, call.book s = (.ok result, LossCall.step s call)) ∧
      LossBooks (LossCall.step s call) ∧ s.financialEvents <+: (LossCall.step s call).financialEvents ∧
      (LossCall.step s call).bookedLoss call.orderId call.lineId = call.targetLoss ∧
      ∀ orderId lineId, ':' ∉ lineId.toList → ¬ (call.orderId = orderId ∧ call.lineId = lineId) →
        (LossCall.step s call).bookedLoss orderId lineId = s.bookedLoss orderId lineId := by
  rcases @setLineLoss_spec s h call.orderId call.lineId call.currency call.reason call.targetLoss
    hcall.1 hcall.2 with ⟨heq, hrun⟩ | ⟨_, event, uuids, hrun, hrow, hbooks⟩
  · have hstep : LossCall.step s call = s := congrArg Prod.snd hrun
    rw [hstep]
    exact ⟨⟨none, hrun⟩, h, List.prefix_refl _, heq, fun _ _ _ _ => rfl⟩
  · have hstep : LossCall.step s call =
        { s with uuids, financialEvents := s.financialEvents ++ [event] } := congrArg Prod.snd hrun
    have hloss : ∀ orderId lineId, (LossCall.step s call).bookedLoss orderId lineId =
        s.bookedLoss orderId lineId +
          if event.booksLossOf orderId lineId then event.damageCost else 0 := by
      intro orderId lineId
      rw [hstep]
      exact Ledger.total_concat _ _ _ _
    refine ⟨⟨some event, hrun.trans (by rw [hstep])⟩, hstep ▸ hbooks, ?_, ?_, ?_⟩
    · rw [hstep]
      exact List.prefix_append ..
    · have hown : event.booksLossOf call.orderId call.lineId = true := by
        refine booksLossOf_iff.2 ⟨hrow.order, hrow.type, ?_⟩
        rcases hrow.key with hkey | ⟨n, hkey⟩
        · exact .inl hkey
        · refine .inr ?_
          rw [hkey, correctionKey, @String.toList_append (damageLossKey call.lineId ++ ":")]
          exact List.prefix_append ..
      rw [hloss, if_pos hown, hrow.damageCost]
      exact add_sub_cancel _ _
    · intro orderId lineId hline hne
      have hother : event.booksLossOf orderId lineId = false := by
        rw [Bool.eq_false_iff]
        intro hbooks
        obtain ⟨horder, _, hkey⟩ := booksLossOf_iff.1 hbooks
        refine hne ⟨hrow.order.symm.trans horder, ?_⟩
        rcases hrow.key with heq | ⟨n, heq⟩
        · exact (ownKey_first hcall.1 (heq ▸ hkey)).symm
        · exact (ownKey_correction hcall.1 hline (heq ▸ hkey)).symm
      rw [hloss, hother]
      exact add_zero _

theorem lossRun_spec {start : Store} (hstart : LossBooks start) {calls : List LossCall}
    (hcalls : ∀ call ∈ calls, call.Valid) :
    LossBooks (Machine.run LossCall.step start calls) ∧
      start.financialEvents <+: (Machine.run LossCall.step start calls).financialEvents ∧
      ∀ orderId lineId, ':' ∉ lineId.toList →
        (Machine.run LossCall.step start calls).bookedLoss orderId lineId =
          (lastLoss calls orderId lineId).getD (start.bookedLoss orderId lineId) := by
  induction calls generalizing start with
  | nil => exact ⟨hstart, List.prefix_refl _, fun _ _ _ => rfl⟩
  | cons call calls ih =>
    obtain ⟨_, hbooks, hprefix, hown, hother⟩ :=
      LossCall.step_spec hstart (hcalls call (List.mem_cons_self ..))
    obtain ⟨hbooks', hprefix', hlast⟩ := ih hbooks fun c hc => hcalls c (List.mem_cons_of_mem _ hc)
    refine ⟨hbooks', hprefix.trans hprefix', fun orderId lineId hline => ?_⟩
    rw [Machine.run_cons, hlast orderId lineId hline, lastLoss]
    by_cases heq : call.orderId = orderId ∧ call.lineId = lineId
    · obtain ⟨rfl, rfl⟩ := heq
      rw [hown, if_pos ⟨rfl, rfl⟩]
      cases lastLoss calls call.orderId call.lineId <;> rfl
    · rw [hother orderId lineId hline heq, if_neg heq, Option.or_none]

/-- **The booked loss is the last one recorded**, after every run: for each line of each order, what is
booked adds up to the last loss that was recorded for it, or to what was booked before the run if none
was.  A row's effect on the profit is its loss, negated.  Each call returns, appends its row at the end
if any, sets the loss of its line, leaves the loss of every other line alone, and when it is repeated
nothing more is written. -/
theorem lineLosses_converge {start : Store} (hstart : LossBooks start) {calls : List LossCall}
    (hcalls : ∀ call ∈ calls, call.Valid) :
    let s := Machine.run LossCall.step start calls
    (∀ orderId lineId, ':' ∉ lineId.toList → s.bookedLoss orderId lineId =
        (lastLoss calls orderId lineId).getD (start.bookedLoss orderId lineId)) ∧
      (∀ event ∈ s.financialEvents, event.type = .damageLoss →
        event.netProfitImpact = -event.damageCost) ∧
      start.financialEvents <+: s.financialEvents ∧
      ∀ call : LossCall, call.Valid →
        (∃ result, call.book s = (.ok result, LossCall.step s call)) ∧
        s.financialEvents <+: (LossCall.step s call).financialEvents ∧
        (LossCall.step s call).bookedLoss call.orderId call.lineId = call.targetLoss ∧
        (∀ orderId lineId, ':' ∉ lineId.toList → ¬ (call.orderId = orderId ∧ call.lineId = lineId) →
          (LossCall.step s call).bookedLoss orderId lineId = s.bookedLoss orderId lineId) ∧
        (LossCall.step (LossCall.step s call) call).financialEvents =
          (LossCall.step s call).financialEvents := by
  obtain ⟨hbooks, hrows, hlast⟩ := lossRun_spec hstart hcalls
  refine ⟨hlast, hbooks.negated, hrows, fun call hcall => ?_⟩
  obtain ⟨hreturns, hbooks', happended, hown, hother⟩ := LossCall.step_spec hbooks hcall
  refine ⟨hreturns, happended, hown, hother, ?_⟩
  -- the repeated call finds the loss booked
  rcases @setLineLoss_spec _ hbooks' call.orderId call.lineId call.currency call.reason
    call.targetLoss hcall.1 hcall.2 with ⟨_, hrun⟩ | ⟨hne, _⟩
  · rw [LossCall.step, Command.final, LossCall.book, hrun]
  · exact absurd hown hne

theorem LossBooks.of_none {s : Store} (htype : ∀ event ∈ s.financialEvents, event.type ≠ .damageLoss)
    (hkey : ∀ event ∈ s.financialEvents, ¬ Key.InFamily "damage-loss:" event.idempotencyKey) :
    LossBooks s := by
  refine ⟨fun event hevent h => absurd h (hkey event hevent), fun event hevent lineId n h => ?_,
    fun event hevent h => absurd h (htype event hevent),
    fun event hevent h => absurd h (htype event hevent)⟩
  refine absurd ?_ (hkey event hevent)
  rw [h, correctionKey, damageLossKey, String.append_assoc, String.append_assoc]
  exact Key.InFamily.intro _ _

/-- The loss of a line is recorded, another one's whose identifier begins with the same letters, and
then the first one is taken back. -/
theorem lineLosses_converge_prefix :
    let calls := [⟨"order", "a", "MAD", 5, "lost"⟩, ⟨"order", "ab", "MAD", 7, "lost"⟩,
      ⟨"order", "a", "MAD", 0, "found"⟩]
    (Machine.run LossCall.step {} calls).bookedLoss "order" "a" = 0 ∧
      (Machine.run LossCall.step {} calls).bookedLoss "order" "ab" = 7 := by
  have hstart : LossBooks {} := LossBooks.of_none (by simp) (by simp)
  have hcalls : ∀ call ∈ [(⟨"order", "a", "MAD", 5, "lost"⟩ : LossCall),
      ⟨"order", "ab", "MAD", 7, "lost"⟩, ⟨"order", "a", "MAD", 0, "found"⟩], call.Valid := by
    decide +kernel
  obtain ⟨hlast, _⟩ := lineLosses_converge hstart hcalls
  exact ⟨(hlast "order" "a" (by decide)).trans (by decide +kernel),
    (hlast "order" "ab" (by decide)).trans (by decide +kernel)⟩

end Zomaal
