/-
**The return screen and the ledger.**

The ledger charges an order for its shipping once, when it is first evaluated as delivered or as
sent back, and books for each line the loss of its saved allocation.

Main results:

* `returnLoss_shown` — **the screen shows what is booked, in every run whose steps keep the fee**;
* `returnLoss_differs` — a fee that changes when the parcel comes back.
-/

import Zomaal.LedgerEvaluations
import Zomaal.ReturnLosses

set_option autoImplicit false

namespace Zomaal

/-! ### The shipping that is booked -/

open Command

def FinancialEvent.shippingShare (event : FinancialEvent) : Decimal :=
  match event.type with
  | .revenueReversed => -event.shippingCost
  | .damageLoss => 0
  | .revenueRecognized | .revenueReinstated | .shippingLoss => event.shippingCost

theorem LedgerSums.add_shippingCost (sums : LedgerSums) (event : FinancialEvent) :
    (sums.add event).shippingCost = sums.shippingCost + event.shippingShare := by
  rw [LedgerSums.add, FinancialEvent.shippingShare]
  cases event.type <;> simp [sub_eq_add_neg]

section Appended

variable {s t : Store} {event : FinancialEvent} {orderId : String}

theorem ledger_append (h : t.financialEvents = s.financialEvents ++ [event]) :
    t.ledger orderId = s.ledger orderId ++ if event.orderId = orderId then [event] else [] := by
  rw [Store.ledger, h, List.filter_append, List.filter_singleton, Bool.cond_decide]
  rfl

theorem shippingTotal_append (h : t.financialEvents = s.financialEvents ++ [event]) :
    t.shippingTotal orderId = s.shippingTotal orderId +
      if event.orderId = orderId then event.shippingShare else 0 := by
  rw [Store.shippingTotal, getSummary, ledger_append h, List.foldl_append]
  split
  · exact LedgerSums.add_shippingCost _ event
  · exact (add_zero _).symm

theorem charged_append (h : t.financialEvents = s.financialEvents ++ [event]) :
    t.charged orderId =
      (s.charged orderId || (decide (event.orderId = orderId) && event.charges)) := by
  rw [Store.charged, ledger_append h, List.any_append]
  congr 1
  by_cases horder : event.orderId = orderId
  · simp [horder]
  · simp [horder]

theorem charged_append_own (h : t.financialEvents = s.financialEvents ++ [event])
    (horder : event.orderId = orderId) :
    t.charged orderId = (s.charged orderId || event.charges) := by
  rw [charged_append h]
  simp [horder]

end Appended

/-- **What holds of the shipping that is booked**: its rows are those with their keys, and add up to
what is shown, or to nothing before the first. -/
structure ShippingBooks (orderId : String) (shown : Decimal → Prop) (s : Store) : Prop where
  recognized : ∀ event ∈ s.financialEvents, event.orderId = orderId →
    (event.type = .revenueRecognized ↔ event.idempotencyKey = revenueRecognizedKey)
  shippingLoss : ∀ event ∈ s.financialEvents, event.orderId = orderId →
    (event.type = .shippingLoss ↔ event.idempotencyKey = shippingLossKey)
  charged : s.charged orderId → shown (s.shippingTotal orderId)
  uncharged : s.charged orderId = false → s.shippingTotal orderId = 0

namespace ShippingBooks

variable {orderId : String} {shown : Decimal → Prop} {s t : Store}

theorem of_events (h : ShippingBooks orderId shown s)
    (hevents : t.financialEvents = s.financialEvents) : ShippingBooks orderId shown t := by
  have hledger : t.ledger orderId = s.ledger orderId := by
    rw [Store.ledger, hevents]
    rfl
  refine ⟨hevents ▸ h.recognized, hevents ▸ h.shippingLoss, ?_, ?_⟩
  · rw [Store.charged, Store.shippingTotal, getSummary, hledger]
    exact h.charged
  · rw [Store.charged, Store.shippingTotal, getSummary, hledger]
    exact h.uncharged

theorem charged_iff (h : ShippingBooks orderId shown s) :
    s.charged orderId ↔ s.findEvent orderId revenueRecognizedKey ≠ none ∨
      s.findEvent orderId shippingLossKey ≠ none := by
  have hfind : ∀ (key : String) (type : FinancialEventType),
      (∀ event ∈ s.financialEvents, event.orderId = orderId →
        (event.type = type ↔ event.idempotencyKey = key)) →
      (s.findEvent orderId key ≠ none ↔ ∃ event ∈ s.ledger orderId, event.type = type) := by
    intro key type hkey
    rw [Store.findEvent, Option.ne_none_iff_isSome, List.find?_isSome]
    constructor
    · rintro ⟨event, hevent, hthis⟩
      obtain ⟨horder, hkeyed⟩ : event.orderId = orderId ∧ event.idempotencyKey = key := by
        simpa using hthis
      exact ⟨event, List.mem_filter.2 ⟨hevent, by simpa using horder⟩,
        (hkey event hevent horder).2 hkeyed⟩
    · rintro ⟨event, hevent, htype⟩
      obtain ⟨hmem, horder⟩ := List.mem_filter.1 hevent
      have horder : event.orderId = orderId := by simpa using horder
      exact ⟨event, hmem, by simpa using ⟨horder, (hkey event hmem horder).1 htype⟩⟩
  rw [hfind _ _ h.recognized, hfind _ _ h.shippingLoss, Store.charged, List.any_eq_true]
  constructor
  · rintro ⟨event, hevent, hcharges⟩
    rw [FinancialEvent.charges, Bool.or_eq_true, decide_eq_true_eq, decide_eq_true_eq] at hcharges
    exact hcharges.imp (fun htype => ⟨event, hevent, htype⟩) fun htype => ⟨event, hevent, htype⟩
  · rintro (⟨event, hevent, htype⟩ | ⟨event, hevent, htype⟩)
    · exact ⟨event, hevent, by simp [FinancialEvent.charges, htype]⟩
    · exact ⟨event, hevent, by simp [FinancialEvent.charges, htype]⟩

theorem append (h : ShippingBooks orderId shown s) {event : FinancialEvent}
    (hevents : t.financialEvents = s.financialEvents ++ [event]) (horder : event.orderId = orderId)
    (hrecognized : event.type = .revenueRecognized ↔ event.idempotencyKey = revenueRecognizedKey)
    (hshippingLoss : event.type = .shippingLoss ↔ event.idempotencyKey = shippingLossKey)
    (hshare : event.shippingShare = 0 ∧ (event.charges → s.charged orderId) ∨
      s.charged orderId = false ∧ event.charges ∧ shown event.shippingShare) :
    ShippingBooks orderId shown t := by
  refine ⟨?_, ?_, ?_, ?_⟩
  · intro other hother horder
    rw [hevents] at hother
    rcases Ledger.mem_concat.1 hother with hold | hnew
    · exact h.recognized other hold horder
    · rwa [hnew]
  · intro other hother horder
    rw [hevents] at hother
    rcases Ledger.mem_concat.1 hother with hold | hnew
    · exact h.shippingLoss other hold horder
    · rwa [hnew]
  · intro hcharged
    rw [charged_append_own hevents horder, Bool.or_eq_true] at hcharged
    rw [shippingTotal_append hevents, if_pos horder]
    rcases hshare with ⟨hnothing, hbefore⟩ | ⟨huncharged, -, hshown⟩
    · rw [hnothing, add_zero]
      exact h.charged (hcharged.elim id hbefore)
    · rwa [h.uncharged huncharged, zero_add]
  · intro huncharged
    rw [charged_append_own hevents horder, Bool.or_eq_false_iff] at huncharged
    rw [shippingTotal_append hevents, if_pos horder]
    rcases hshare with ⟨hnothing, -⟩ | ⟨-, hcharges, -⟩
    · rw [hnothing, add_zero]
      exact h.uncharged huncharged.1
    · rw [hcharges] at huncharged
      exact Bool.noConfusion huncharged.2

end ShippingBooks

/-! ### The rows of an evaluation -/

theorem family_ne {p key : String} (h : Key.Apart p key) (rest : String) : p ++ rest ≠ key := by
  have hne := h.append_ne rest ""
  rwa [String.append_empty] at hne

theorem recognizedKey_ne : revenueRecognizedKey ≠ shippingLossKey := by decide

variable {orderId : String} {shown : Decimal → Prop} {environment : Environment}
  {order : EcommerceOrder} {shipment : Option ShipmentFee} {charges : Prop}

variable {data : FinancialEventData}

variable {s : Store}

theorem ShippingBooks.appendRow {before : Prop} (hid : order.id = orderId)
    (hcost : ¬ before → charges → ∀ shippingCost,
      ChargedShipping environment order shipment shippingCost → shown (toFixed4 shippingCost))
    (hrow : EvaluationRow environment order shipment charges s data)
    (h : ShippingBooks orderId shown s ∧ (before → s.charged orderId)) :
    ShippingBooks orderId shown (s.appendRow data) ∧
      (before → (s.appendRow data).charged orderId) := by
  have hevents : (s.appendRow data).financialEvents =
      s.financialEvents ++ [{ data.stored with id := uuid s.uuids }] := rfl
  have hstays : before → (s.appendRow data).charged orderId := by
    intro hbefore
    rw [charged_append hevents, h.2 hbefore, Bool.true_or]
  refine ⟨?_, hstays⟩
  have huncharged : s.findEvent order.id revenueRecognizedKey = none →
      s.findEvent order.id shippingLossKey = none → s.charged orderId = false := by
    intro hnew hloss
    rw [← Bool.not_eq_true, h.1.charged_iff, ← hid]
    exact fun hor => hor.elim (fun hne => hne hnew) fun hne => hne hloss
  have hnotBefore : s.charged orderId = false → ¬ before := by
    intro hfree hbefore
    rw [h.2 hbefore] at hfree
    exact Bool.noConfusion hfree
  have hneither : ∀ {type : FinancialEventType} {key : String}, type ≠ .revenueRecognized →
      type ≠ .shippingLoss → key ≠ revenueRecognizedKey → key ≠ shippingLossKey →
      (type = .revenueRecognized ↔ key = revenueRecognizedKey) ∧
        (type = .shippingLoss ↔ key = shippingLossKey) :=
    fun htype htype' hkey hkey' => ⟨iff_of_false htype hkey, iff_of_false htype' hkey'⟩
  cases hrow with
  | recognized costs hcharges hnew hloss hcost' =>
    have hfree := huncharged hnew hloss
    exact h.1.append hevents hid (iff_of_true rfl rfl) (iff_of_false nofun recognizedKey_ne)
      (.inr ⟨hfree, rfl, hcost (hnotBefore hfree) hcharges _ hcost'⟩)
  | recognizedAfterLoss costs hloss =>
    refine h.1.append hevents hid (iff_of_true rfl rfl) (iff_of_false nofun recognizedKey_ne)
      (.inl ⟨toFixed4_zero, fun _ => ?_⟩)
    rw [h.1.charged_iff, ← hid]
    exact .inr hloss
  | reinstated recognized reversal =>
    have hkeys := @hneither .revenueReinstated _ nofun nofun
      (family_ne (by decide : Key.Apart "revenue-reinstated:" revenueRecognizedKey) reversal.id)
      (family_ne (by decide : Key.Apart "revenue-reinstated:" shippingLossKey) reversal.id)
    exact h.1.append hevents hid hkeys.1 hkeys.2 (.inl ⟨toFixed4_zero, nofun⟩)
  | reversed recognized key hkey =>
    have hne : ∀ other, Key.Apart "revenue-reversed" other → key ≠ other := by
      intro other hapart
      rcases hkey with rfl | ⟨id, rfl⟩
      · exact family_ne hapart ""
      · exact family_ne hapart (":" ++ id)
    have hkeys := @hneither .revenueReversed key nofun nofun
      (hne revenueRecognizedKey (by decide)) (hne shippingLossKey (by decide))
    refine h.1.append hevents hid hkeys.1 hkeys.2 (.inl ⟨?_, nofun⟩)
    change -toFixed4 0 = 0
    rw [toFixed4_zero, neg_zero]
  | shippingLoss hcharges hnew hloss hcost' =>
    have hfree := huncharged hnew hloss
    exact h.1.append hevents hid (iff_of_false nofun recognizedKey_ne.symm) (iff_of_true rfl rfl)
      (.inr ⟨hfree, rfl, hcost (hnotBefore hfree) hcharges _ hcost'⟩)

/-! ### The losses that are booked -/

/-- **What holds of the losses that are booked**: if the loss of a line is known, it is booked.  The
identifiers of lines have no colon. -/
def LossLines (environment : Environment) (orderId : String) (s : Store) : Prop :=
  ∀ order, s.findOrder orderId = some order → ∀ line ∈ order.lines, ':' ∉ line.id.toList ∧
    ∀ loss, itemLoss environment order line = .ok loss → s.bookedLoss orderId line.id = loss

def Store.price (s : Store) (orderId : String) : Option (Decimal × String) :=
  (s.findOrder orderId).map fun order => (order.shipping, order.currency)

/-- **The invariant of the store** since a start: an order that was charged stays so, and what its
customer paid for shipping stays. -/
structure ShownBooks (environment : Environment) (orderId : String) (shown : Decimal → Prop)
    (start s : Store) : Prop where
  books : LossBooks s
  lines : LossLines environment orderId s
  shipping : ShippingBooks orderId shown s
  stays : start.charged orderId → s.charged orderId
  price : s.price orderId = start.price orderId

variable {start : Store}

theorem price_updateLine (s : Store) (lineId : String) (change : OrderLine → OrderLine) :
    (s.updateLine lineId change).price orderId = s.price orderId := by
  rw [Store.price, Store.findOrder_updateLine, Option.map_map]
  rfl

theorem price_of_orders {t : Store} (horders : t.orders = s.orders) :
    t.price orderId = s.price orderId := by
  rw [Store.price, Store.findOrder, horders]
  rfl

theorem ShownBooks.of_events {t : Store} (h : ShownBooks environment orderId shown start s)
    (hevents : t.financialEvents = s.financialEvents) (huuids : s.uuids ≤ t.uuids)
    (hprice : t.price orderId = s.price orderId)
    (hlines : LossLines environment orderId s → LossLines environment orderId t) :
    ShownBooks environment orderId shown start t := by
  refine ⟨⟨?_, ?_, ?_, ?_⟩, hlines h.lines, h.shipping.of_events hevents, ?_,
    hprice.trans h.price⟩
  · exact hevents ▸ h.books.typed
  · intro event hevent lineId n hkey
    exact lt_of_lt_of_le (h.books.drawn event (hevents ▸ hevent) lineId n hkey) huuids
  · exact hevents ▸ h.books.rounded
  · exact hevents ▸ h.books.negated
  · intro hbefore
    rw [Store.charged, Store.ledger, hevents]
    exact h.stays hbefore

theorem bookedLoss_of_events {t : Store} (hevents : t.financialEvents = s.financialEvents)
    (lineId : String) : t.bookedLoss orderId lineId = s.bookedLoss orderId lineId := by
  rw [Store.bookedLoss, hevents]
  rfl

theorem LossLines.of_same {t : Store} (h : LossLines environment orderId s)
    (horders : t.orders = s.orders) (hevents : t.financialEvents = s.financialEvents) :
    LossLines environment orderId t := by
  intro order horder line hline
  rw [Store.findOrder, horders] at horder
  rw [bookedLoss_of_events hevents]
  exact h order horder line hline

theorem LossLines.updateLine (h : LossLines environment orderId s) (lineId : String)
    {change : OrderLine → OrderLine} (hid : ∀ line, (change line).id = line.id)
    (hloss : ∀ order line, itemLoss environment order (change line) =
      itemLoss environment order line) :
    LossLines environment orderId (s.updateLine lineId change) := by
  intro order horder line hline
  rw [Store.findOrder_updateLine] at horder
  obtain ⟨old, hold, rfl⟩ := Option.map_eq_some_iff.1 horder
  obtain ⟨row, hrow, rfl⟩ := List.mem_map.1 hline
  have hrowKept := h old hold row hrow
  split
  · rw [hid]
    refine ⟨hrowKept.1, fun loss hitem => ?_⟩
    exact hrowKept.2 loss ((hloss old row).symm.trans hitem)
  · exact hrowKept

theorem returnBooks_stable :
    StockStable (fun _ => True) (ShownBooks environment orderId shown start) where
  quiet hquiet h := by
    have hsame := hquiet.sameBut
    refine h.of_events (by rw [hsame]) (by rw [hsame]) (price_of_orders hsame.orders)
      fun hlines => ?_
    exact hlines.of_same hsame.orders (by rw [hsame])
  moved _ _ hmoved h := by
    have hsame := hmoved.sameBut
    refine h.of_events (by rw [hsame]) (by rw [hsame]) (price_of_orders hsame.orders)
      fun hlines => ?_
    exact hlines.of_same hsame.orders (by rw [hsame])
  status status _ h :=
    h.of_events rfl (le_refl _) (price_updateLine _ _ _) fun hlines =>
      hlines.updateLine _ (fun _ => rfl) fun _ _ => rfl

theorem EvaluationRow.no_loss (h : EvaluationRow environment order shipment charges s data) :
    data.orderId = order.id ∧ data.type ≠ .damageLoss ∧
      ¬ Key.InFamily "damage-loss:" data.idempotencyKey := by
  have hkey : ∀ p, Key.Apart p "damage-loss:" → ∀ rest,
      ¬ Key.InFamily "damage-loss:" (p ++ rest) :=
    fun p hapart rest hin => hapart.not_both (Key.InFamily.intro p rest) hin
  have hrecognized := hkey "revenue-recognized" (by decide) ""
  rw [String.append_empty] at hrecognized
  have hloss := hkey "shipping-loss" (by decide) ""
  rw [String.append_empty] at hloss
  have hreversed := hkey "revenue-reversed" (by decide)
  cases h with
  | recognized costs hcharges hnew hloss hcost => exact ⟨rfl, nofun, hrecognized⟩
  | recognizedAfterLoss costs hloss => exact ⟨rfl, nofun, hrecognized⟩
  | reinstated recognized reversal =>
    exact ⟨rfl, nofun, hkey "revenue-reinstated:" (by decide) reversal.id⟩
  | reversed recognized key hkeys =>
    refine ⟨rfl, nofun, ?_⟩
    rcases hkeys with rfl | ⟨id, rfl⟩
    · exact hreversed ""
    · exact hreversed (":" ++ id)
  | shippingLoss hcharges hnew hnone hcost => exact ⟨rfl, nofun, hloss⟩

theorem LossBooks.appendRow (h : LossBooks s) (htype : data.type ≠ .damageLoss)
    (hkey : ¬ Key.InFamily "damage-loss:" data.idempotencyKey) : LossBooks (s.appendRow data) := by
  refine ⟨fun event hevent => ?_, fun event hevent => ?_, fun event hevent => ?_,
    fun event hevent => ?_⟩ <;> rcases List.mem_append.1 hevent with hold | hnew
  · exact h.typed event hold
  · rw [List.mem_singleton.1 hnew]
    exact fun hin => absurd hin hkey
  · exact fun lineId n heq => Nat.lt_succ_of_lt (h.drawn event hold lineId n heq)
  · rw [List.mem_singleton.1 hnew]
    intro lineId n heq
    have hin : Key.InFamily "damage-loss:" (correctionKey lineId n) :=
      (((Key.InFamily.intro _ _).append _).append _)
    exact absurd (heq ▸ hin : Key.InFamily "damage-loss:" data.idempotencyKey) hkey
  · exact h.rounded event hold
  · rw [List.mem_singleton.1 hnew]
    exact fun hloss => absurd hloss htype
  · exact h.negated event hold
  · rw [List.mem_singleton.1 hnew]
    exact fun hloss => absurd hloss htype

theorem bookedLoss_appendRow (htype : data.type ≠ .damageLoss) (lineId : String) :
    (s.appendRow data).bookedLoss orderId lineId = s.bookedLoss orderId lineId := by
  rw [Store.bookedLoss, Store.appendRow, Ledger.total_concat, if_neg, add_zero]
  · rfl
  · intro hbooks
    exact htype (booksLossOf_iff.1 hbooks).2.1

theorem returnBooks_evaluation (hid : order.id = orderId)
    (hcost : start.charged orderId = false → charges → ∀ shippingCost,
      ChargedShipping environment order shipment shippingCost → shown (toFixed4 shippingCost)) :
    EvaluationStable environment order shipment charges
      (ShownBooks environment orderId shown start) where
  drawn h := h.of_events rfl (Nat.le_succ _) rfl fun hlines => hlines.of_same rfl rfl
  appended {s data} hrow _ h := by
    obtain ⟨-, htype, hkey⟩ := hrow.no_loss
    obtain ⟨hshipping, hstays⟩ := ShippingBooks.appendRow hid
      (fun hfree => hcost (Bool.eq_false_iff.2 hfree)) hrow ⟨h.shipping, h.stays⟩
    refine ⟨h.books.appendRow htype hkey, ?_, hshipping, hstays, h.price⟩
    intro order horder line hline
    rw [bookedLoss_appendRow htype]
    exact h.lines order horder line hline

/-! ### Evaluations -/

theorem chargedShipping_iff {w : SaleWorld} {cost : Decimal} :
    ChargedShipping environment order w.evaluatedFee cost ↔
      evaluatedShippingCost environment w order = .ok cost := by
  rw [ChargedShipping, evaluatedShippingCost]
  cases convertShipmentFee environment w.evaluatedFee order.currency with
  | error error =>
    refine iff_of_false ?_ (fun h => nomatch h)
    rintro ⟨fee, hfee, -⟩
    cases hfee
  | ok fee =>
    constructor
    · rintro ⟨fee', hfee, rfl⟩
      rw [← Except.ok.inj hfee]
      rfl
    · intro h
      exact ⟨fee, rfl, (Except.ok.inj h).symm⟩

theorem evaluation_books {w : SaleWorld}
    (hdispatch : ∀ dispatch ∈ w.dispatch, dispatch.orderId = orderId)
    (hcost : start.charged orderId = false → w.chargedOutcome →
      ∀ order, w.store.findOrder orderId = some order →
      ∀ cost, evaluatedShippingCost environment w order = .ok cost → shown (toFixed4 cost))
    (h : ShownBooks environment orderId shown start w.store) :
    ShownBooks environment orderId shown start
      ((w.evaluation environment orderId).final w.store) := by
  have hrows : ∀ order, w.store.findOrder orderId = some order →
      EvaluationStable environment order w.evaluatedFee w.chargedOutcome
        (ShownBooks environment orderId shown start) := by
    intro order horder
    refine returnBooks_evaluation (by simpa using List.find?_some horder) ?_
    intro hbefore hcharged cost hcharges
    exact hcost hbefore hcharged order horder cost (chargedShipping_iff.1 hcharges)
  rw [SaleWorld.evaluation]
  cases hw : w.dispatch with
  | none =>
    have hfee : w.evaluatedFee = latestAmeexFee w.events := by
      rw [SaleWorld.evaluatedFee, hw]
    dsimp only
    rw [syncFromTimelineEvents]
    by_cases hempty : w.events.isEmpty
    · rw [if_pos hempty]
      exact h
    · rw [if_neg hempty, final, ask_bind_apply]
      cases horder : w.store.findOrder orderId with
      | none => exact h
      | some order =>
        have hI := hrows order horder
        rw [hfee] at hI
        dsimp only
        cases houtcome : deriveTerminalOutcome w.events with
        | none => exact h
        | some outcome =>
          have hcharged : w.chargedOutcome =
              (decide (outcome = .delivered) || outcome.shippedFailure) := by
            rw [SaleWorld.chargedOutcome, hw, houtcome]
            rfl
          dsimp only
          refine hI.outcome returnBooks_stable (fun hdelivered => ?_) (fun htravelled => ?_) w.store
            h
          · rw [hcharged, hdelivered]
            rfl
          · rw [hcharged, htravelled, Bool.or_true]
  | some dispatch =>
    have hfee : w.evaluatedFee =
        (pickCourierShipment dispatch).map CourierShipment.shipmentFee := by
      rw [SaleWorld.evaluatedFee, SaleWorld.parcelFee, hw]
      rfl
    dsimp only
    rw [syncFromDispatchIdLocked, hdispatch dispatch hw]
    dsimp only
    rw [final, ask_bind_apply]
    cases horder : w.store.findOrder orderId with
    | none => exact h
    | some order =>
      have hI := hrows order horder
      rw [hfee] at hI
      dsimp only
      cases hpicked : pickCourierShipment dispatch with
      | none => exact h
      | some shipment =>
        rw [hpicked] at hI
        have hcharged : w.chargedOutcome =
            (decide (shipment.normalizedStatus = .delivered) ||
              shipment.normalizedStatus.shippedFailure) := by
          rw [SaleWorld.chargedOutcome, hw]
          dsimp only
          rw [hpicked]
          rfl
        dsimp only
        refine hI.outcome returnBooks_stable (fun hdelivered => ?_) (fun htravelled => ?_) w.store h
        · rw [hcharged, hdelivered]
          rfl
        · rw [hcharged, htravelled, Bool.or_true]

/-! ### Recorded conditions -/

variable {prepared : PreparedLine}

theorem prepareLine_loss {locale : Locale} {costRate : Decimal} {storeId : String}
    {line : OrderLine} {rows : List ConditionInput}
    (h : prepareLine locale costRate storeId line rows = .ok prepared)
    (hnew : prepared.unchanged = false) :
    toFixed4 prepared.snapshot.loss = prepared.snapshot.loss := by
  unfold prepareLine at h
  simp only at h
  split at h
  · cases h
  split at h
  · cases h
  split at h
  · cases h
  split at h
  · cases h
  obtain ⟨allocation, -, hrest⟩ := Except.bind_eq_ok h
  split at hrest
  · obtain rfl := Except.ok.inj hrest
    cases hnew
  · split at hrest
    · cases hrest
    · obtain ⟨-, -, hsnapshot⟩ := Except.bind_eq_ok hrest
      obtain rfl := Except.ok.inj hsnapshot
      exact toFixed4_toFixed4 _

theorem prepareRecord_losses {locale : Locale} {costRate : Decimal} {storeId : String}
    {inputs : List ConditionInput} {preparedLines : List PreparedLine}
    (h : prepareRecord locale costRate storeId order inputs = .ok preparedLines) :
    ∀ prepared ∈ preparedLines, prepared.unchanged = false →
      toFixed4 prepared.snapshot.loss = prepared.snapshot.loss := by
  obtain ⟨groups, -, hprepared⟩ := Except.bind_eq_ok h
  intro prepared hmem hnew
  obtain ⟨group, -, hgroup⟩ := Except.exists_of_mapM hprepared hmem
  split at hgroup
  · cases hgroup
  · exact prepareLine_loss hgroup hnew

theorem itemLoss_recorded (now : ℤ) (prepared : PreparedLine) (line : OrderLine) :
    itemLoss environment order (recordedLine now prepared line) = .ok prepared.snapshot.loss := by
  have hsaved : (recordedLine now prepared line).conditionAllocations = some prepared.snapshot := by
    unfold recordedLine withNotes
    split <;> rfl
  rw [itemLoss, conditionLoss, hsaved]
  exact if_pos (.inl rfl)

theorem recordedLine_id (now : ℤ) (prepared : PreparedLine) (line : OrderLine) :
    (recordedLine now prepared line).id = line.id := withNotes_id _ _

variable {now : ℤ}

theorem setLineLoss_books {u v : Store} {currency reason : String} {booked : Option FinancialEvent}
    (h : ShownBooks environment orderId shown start u) (hcolon : ':' ∉ prepared.line.id.toList)
    (hrounded : toFixed4 prepared.snapshot.loss = prepared.snapshot.loss)
    (hrun : setLineLoss orderId prepared.line.id currency prepared.snapshot.loss reason
      (u.updateLine prepared.line.id (recordedLine now prepared)) = (.ok booked, v)) :
    ShownBooks environment orderId shown start v := by
  have hsaved : LossBooks (u.updateLine prepared.line.id (recordedLine now prepared)) :=
    ⟨h.books.typed, h.books.drawn, h.books.rounded, h.books.negated⟩
  let call : LossCall :=
    { orderId
      lineId := prepared.line.id
      currency
      targetLoss := prepared.snapshot.loss
      reason }
  have hvalid : call.Valid := ⟨hcolon, hrounded⟩
  obtain ⟨-, hbooks, -, htarget, hothers⟩ := LossCall.step_spec hsaved hvalid
  have hstep : LossCall.step (u.updateLine prepared.line.id (recordedLine now prepared)) call = v :=
    congrArg Prod.snd hrun
  rw [hstep] at hbooks htarget hothers
  -- the rows that were there, and at most one of the loss
  have hevents : v.orders = (u.updateLine prepared.line.id (recordedLine now prepared)).orders ∧
      ShippingBooks orderId shown v ∧ (start.charged orderId → v.charged orderId) := by
    rcases @setLineLoss_spec _ hsaved orderId _ currency reason _ hcolon hrounded with
      ⟨-, hsame⟩ | ⟨-, event, uuids, hwritten, hrow, -⟩
    · obtain rfl : _ = v := congrArg Prod.snd (hsame.symm.trans hrun)
      exact ⟨rfl, h.shipping.of_events rfl, h.stays⟩
    · obtain rfl : _ = v := congrArg Prod.snd (hwritten.symm.trans hrun)
      have hsaved' : ShippingBooks orderId shown
          (u.updateLine prepared.line.id (recordedLine now prepared)) := h.shipping.of_events rfl
      have hfamily : Key.InFamily "damage-loss:" event.idempotencyKey := by
        rcases hrow.key with hkey | ⟨n, hkey⟩
        · exact hkey ▸ Key.InFamily.intro "damage-loss:" prepared.line.id
        · exact hkey ▸ (((Key.InFamily.intro _ _).append _).append _)
      have hne : ∀ key, Key.Apart "damage-loss:" key → event.idempotencyKey ≠ key := by
        intro key hapart hkey
        obtain ⟨rest, hrest⟩ := hfamily
        exact family_ne hapart rest (hrest.symm.trans hkey)
      refine ⟨rfl, hsaved'.append rfl hrow.order ?_ ?_ (.inl ⟨?_, ?_⟩), fun hbefore => ?_⟩
      · exact iff_of_false (by simp [hrow.type]) (hne revenueRecognizedKey (by decide))
      · exact iff_of_false (by simp [hrow.type]) (hne shippingLossKey (by decide))
      · rw [FinancialEvent.shippingShare, hrow.type]
      · simp [FinancialEvent.charges, hrow.type]
      · rw [charged_append rfl, Bool.or_eq_true]
        exact .inl (h.stays hbefore)
  refine ⟨hbooks, ?_, hevents.2.1, hevents.2.2,
    (price_of_orders hevents.1).trans ((price_updateLine u _ _).trans h.price)⟩
  intro order horder line hline
  rw [Store.findOrder, hevents.1] at horder
  have horder' : (u.updateLine prepared.line.id (recordedLine now prepared)).findOrder orderId =
    some order := horder
  rw [Store.findOrder_updateLine] at horder'
  obtain ⟨old, hold, rfl⟩ := Option.map_eq_some_iff.1 horder'
  obtain ⟨row, hrow, rfl⟩ := List.mem_map.1 hline
  have hrowKept := h.lines old hold row hrow
  by_cases hthis : row.id = prepared.line.id
  · rw [if_pos hthis, recordedLine_id]
    refine ⟨hrowKept.1, fun loss hloss => ?_⟩
    have hitem : itemLoss environment old (recordedLine now prepared row) =
      .ok prepared.snapshot.loss := itemLoss_recorded now prepared row
    rw [hthis, ← Except.ok.inj (hitem.symm.trans hloss)]
    exact htarget
  · rw [if_neg hthis]
    refine ⟨hrowKept.1, fun loss hloss => ?_⟩
    rw [hothers orderId row.id hrowKept.1 fun hsame => hthis hsame.2.symm]
    exact hrowKept.2 loss hloss

theorem itemLoss_withNotes (notes : Option String) (line : OrderLine) :
    itemLoss environment order (withNotes notes line) = itemLoss environment order line := by
  unfold withNotes
  split <;> rfl

theorem recordLine_books {t : Store} {updated : String × Bool} (hid : order.id = orderId)
    (hcolon : ':' ∉ prepared.line.id.toList) (hrounded : prepared.unchanged = false →
      toFixed4 prepared.snapshot.loss = prepared.snapshot.loss)
    (h : ShownBooks environment orderId shown start s)
    (hrun : recordLine now order prepared s = (.ok updated, t)) :
    ShownBooks environment orderId shown start t := by
  rw [recordLine] at hrun
  cases hunchanged : prepared.unchanged with
  | true =>
    rw [hunchanged, if_pos rfl, modify_bind_apply] at hrun
    obtain rfl : _ = t := congrArg Prod.snd hrun
    exact h.of_events rfl (le_refl _) (price_updateLine _ _ _) fun hlines =>
      hlines.updateLine _ (withNotes_id _) fun _ => itemLoss_withNotes _
  | false =>
    rw [hunchanged, if_neg Bool.false_ne_true] at hrun
    obtain ⟨moved, u, hreconcile, hrun⟩ := bind_eq_ok hrun
    rw [modify_bind_apply] at hrun
    obtain ⟨event, v, hloss, hpure⟩ := bind_eq_ok hrun
    obtain rfl : v = t := congrArg Prod.snd hpure
    have hkept : Keeps (ShownBooks environment orderId shown start)
        (reconcileReturnTargets (prepared.reconcileInput order.id)) :=
      returnBooks_stable.moves.reconcileReturnTargets trivial
    have hu := hkept s h
    rw [final, hreconcile] at hu
    rw [hid] at hloss
    exact setLineLoss_books hu hcolon (hrounded hunchanged) hloss

theorem mapEach_books {preparedLines : List PreparedLine} {t : Store}
    {updates : List (String × Bool)} (hid : order.id = orderId)
    (hprepared : ∀ prepared ∈ preparedLines, ':' ∉ prepared.line.id.toList ∧
      (prepared.unchanged = false → toFixed4 prepared.snapshot.loss = prepared.snapshot.loss))
    (h : ShownBooks environment orderId shown start s)
    (hrun : mapEach preparedLines (recordLine now order) s = (.ok updates, t)) :
    ShownBooks environment orderId shown start t := by
  induction preparedLines generalizing s updates with
  | nil =>
    obtain rfl : s = t := congrArg Prod.snd hrun
    exact h
  | cons head preparedLines ih =>
    rw [mapEach] at hrun
    obtain ⟨_, u, hhead, hrun⟩ := bind_eq_ok hrun
    obtain ⟨_, v, hrest, hpure⟩ := bind_eq_ok hrun
    obtain rfl : v = t := congrArg Prod.snd hpure
    have hfirst := hprepared head (List.mem_cons_self ..)
    exact ih (fun prepared hmem => hprepared prepared (List.mem_cons_of_mem _ hmem))
      (recordLine_books hid hfirst.1 hfirst.2 h hhead) hrest

theorem record_books (now : ℤ) (storeId : String) (inputs : List ConditionInput)
    (context : Option ReturnContext) :
    Keeps (ShownBooks environment orderId shown start)
      (record environment now storeId orderId inputs context) := by
  intro s h
  rw [final, record, ask_bind_apply]
  cases hpricing : s.orderOf storeId orderId with
  | none => exact h
  | some pricing =>
    dsimp only
    rw [lift_bind_apply]
    cases hrate : conditionCostRate environment pricing with
    | error error => exact h
    | ok costRate =>
      dsimp only
      rw [withOrderTransaction]
      rcases hwork : recordLocked environment now costRate storeId orderId inputs context s with
        ⟨error | updates, t⟩
      · rw [transaction_of_error hwork]
        exact h.of_events rfl (le_refl _) rfl fun hlines => hlines.of_same rfl rfl
      · rw [transaction_of_ok hwork]
        rw [recordLocked, ask_bind_apply, hpricing] at hwork
        obtain ⟨prepared, u, hlift, hwork⟩ := bind_eq_ok hwork
        obtain ⟨hprepare, rfl⟩ := lift_eq_ok hlift
        rw [ask_bind_apply] at hwork
        obtain ⟨request, u, hlift', hwork⟩ := bind_eq_ok hwork
        obtain ⟨-, rfl⟩ := lift_eq_ok hlift'
        obtain ⟨written, u, hwrite, hwork⟩ := bind_eq_ok hwork
        rw [modify_bind_apply] at hwork
        have hfind : s.findOrder orderId = some pricing :=
          (Option.filter_eq_some_iff.1 hpricing).1
        have hu : ShownBooks environment orderId shown start u := by
          refine mapEach_books (by simpa using List.find?_some hfind) ?_ h hwrite
          intro row hrow
          have hline := ((prepareRecord_ok hprepare).2 row hrow).1
          exact ⟨(h.lines pricing hfind row.line hline).1,
            prepareRecord_losses hprepare row hrow⟩
        obtain rfl : _ = t := congrArg Prod.snd hwork
        dsimp only
        split
        · exact hu.of_events rfl (le_refl _) rfl fun hlines => hlines.of_same rfl rfl
        · exact hu

/-! ### Every run -/

def SaleWorld.Shows (environment : Environment) (orderId : String) (w : SaleWorld)
    (total : Decimal) : Prop :=
  ∀ order, w.store.findOrder orderId = some order → ∀ cost,
    resolveEffectiveShippingCost environment w order = .ok cost → total = toFixed4 cost

structure LossInv (environment : Environment) (orderId : String) (w : SaleWorld) : Prop where
  dispatch : ∀ dispatch ∈ w.dispatch, dispatch.orderId = orderId
  store : ShownBooks environment orderId (w.Shows environment orderId) w.store w.store

variable {w w' : SaleWorld}

theorem ShownBooks.restart {shown' : Decimal → Prop}
    (h : ShownBooks environment orderId shown start s)
    (hshown : s.charged orderId → shown (s.shippingTotal orderId) →
      shown' (s.shippingTotal orderId)) :
    ShownBooks environment orderId shown' s s where
  books := h.books
  lines := h.lines
  shipping :=
    ⟨h.shipping.recognized, h.shipping.shippingLoss,
      fun hcharged => hshown hcharged (h.shipping.charged hcharged), h.shipping.uncharged⟩
  stays hcharged := hcharged
  price := rfl

theorem shows_of_price (hparcel : w'.parcelFee = w.parcelFee) (hevents : w'.events = w.events)
    (hprice : w'.store.price orderId = w.store.price orderId) {total : Decimal}
    (h : w.Shows environment orderId total) : w'.Shows environment orderId total := by
  intro order horder cost hcost
  have hpriced : w.store.price orderId = some (order.shipping, order.currency) := by
    rw [← hprice, Store.price, horder]
    rfl
  obtain ⟨old, hold, hsame⟩ := Option.map_eq_some_iff.1 hpriced
  obtain ⟨hshipping, hcurrency⟩ := Prod.mk.inj hsame
  refine h old hold cost ?_
  rw [resolveEffectiveShippingCost, hparcel, hevents, ← hshipping, ← hcurrency] at hcost
  exact hcost

theorem LossInv.stored (h : LossInv environment orderId w) {t : Store}
    (ht : ShownBooks environment orderId (w.Shows environment orderId) w.store t) :
    LossInv environment orderId { w with store := t } :=
  ⟨h.dispatch, ht.restart fun _ hshown =>
    @shows_of_price orderId environment w { w with store := t } rfl rfl ht.price _ hshown⟩

theorem LossInv.reported (h : LossInv environment orderId w) (hstore : w'.store = w.store)
    (hdispatch : ∀ dispatch ∈ w'.dispatch, dispatch.orderId = orderId)
    (hfee : w.store.charged orderId → ∀ order, w.store.findOrder orderId = some order →
      (resolveEffectiveShippingCost environment w' order).map toFixed4 =
        (resolveEffectiveShippingCost environment w order).map toFixed4) :
    LossInv environment orderId w' := by
  refine ⟨hdispatch, ?_⟩
  rw [hstore]
  refine h.store.restart fun hcharged hshown order horder cost hcost => ?_
  rw [hstore] at horder
  have hsame := hfee hcharged order horder
  rw [hcost] at hsame
  cases hbefore : resolveEffectiveShippingCost environment w order with
  | error error =>
    rw [hbefore] at hsame
    cases hsame
  | ok old =>
    rw [hbefore] at hsame
    rw [hshown order horder old hbefore]
    exact (Except.ok.inj hsame).symm

theorem LossInv.step (h : LossInv environment orderId w) {act : LossAct}
    (hact : KeepsFee environment orderId w act) :
    LossInv environment orderId (act.step environment orderId w) := by
  cases act with
  | snapshot dispatch =>
    refine h.reported rfl ?_ hact
    intro other hother
    rw [← Option.some.inj hother]
  | timeline event => exact h.reported rfl h.dispatch hact
  | evaluate =>
    refine h.stored ?_
    rw [withOrderTransaction]
    refine final_transaction (fun result t hrun => ?_) fun t => ?_
    · have hkept := evaluation_books h.dispatch (fun hfree houtcome order horder cost hcost => ?_)
        h.store
      · rwa [final, hrun] at hkept
      · -- what is charged is what is shown
        intro order' horder' cost' hcost'
        obtain rfl := Option.some.inj (horder.symm.trans horder')
        have hsame := hact hfree houtcome order horder
        rw [hcost, hcost'] at hsame
        exact Except.ok.inj hsame
    · exact h.store.of_events rfl (le_refl _) rfl fun hlines => hlines.of_same rfl rfl
  | record now storeId inputs context =>
    exact h.stored (record_books now storeId inputs context w.store h.store)

theorem Placed.inv (h : Placed orderId w) : LossInv environment orderId w := by
  have hnone : ∀ event ∈ w.store.financialEvents, event.orderId ≠ orderId := by
    intro event hevent horder
    have hmem : event ∈ w.store.ledger orderId := List.mem_filter.2 ⟨hevent, by simpa using horder⟩
    rw [h.unbooked] at hmem
    exact absurd hmem List.not_mem_nil
  have hfree : w.store.charged orderId = false := by
    rw [Store.charged, h.unbooked]
    rfl
  refine ⟨h.dispatch, h.books, ?_, ⟨?_, ?_, ?_, ?_⟩, fun hcharged => hcharged, rfl⟩
  · intro order horder line hline
    obtain ⟨hcolon, hcondition, hallocations⟩ := h.lines order horder line hline
    refine ⟨hcolon, fun loss hloss => ?_⟩
    have hnothing : conditionLoss line = 0 := by
      rw [conditionLoss, hallocations, hcondition]
      rfl
    rw [itemLoss, hallocations, hcondition, hnothing, if_neg (by simp)] at hloss
    obtain ⟨rate, -, hconverted⟩ := requiredCurrencyConverter_ok hloss
    rw [hconverted, zero_mul]
    refine Ledger.total_eq_zero fun event hevent => ?_
    rw [← Bool.not_eq_true, booksLossOf_iff]
    exact fun hbooks => hnone event hevent hbooks.1
  · exact fun event hevent horder => absurd horder (hnone event hevent)
  · exact fun event hevent horder => absurd horder (hnone event hevent)
  · intro hcharged
    rw [hfree] at hcharged
    cases hcharged
  · intro _
    rw [Store.shippingTotal, getSummary, h.unbooked]
    rfl

theorem mapM_itemLoss (hlines : LossLines environment orderId s)
    (horder : s.findOrder orderId = some order) {lines : List OrderLine}
    (hsubset : lines ⊆ order.lines) {losses : List Decimal}
    (h : lines.mapM (itemLoss environment order) = .ok losses) :
    losses = lines.map fun line => s.bookedLoss orderId line.id := by
  have hall := Except.mapM_eq_ok h
  clear h
  induction hall with
  | nil => rfl
  | @cons line loss lines losses hhead _ ih =>
    have hloss := (hlines order horder line (hsubset (.head _))).2 loss hhead
    rw [List.map_cons, hloss, ih fun other hother => hsubset (.tail _ hother)]

theorem LossInv.shows (h : LossInv environment orderId w) : ShowsBooks environment orderId w := by
  intro order horder hcharged lines hsubset cost summary hcost hsummary
  obtain ⟨losses, hlosses, hsummary⟩ := Except.bind_eq_ok hsummary
  obtain rfl := Except.ok.inj hsummary
  have htotal := h.store.shipping.charged hcharged order horder cost hcost
  rw [htotal, ← mapM_itemLoss h.store.lines horder hsubset hlosses]
  refine ⟨?_, rounded_add cost losses.sum⟩
  have hdelivery := rounded_add cost 0
  rwa [add_zero, add_zero] at hdelivery

/-- **The return screen shows what the ledger has booked**, in every state of every run from an
order that was placed, as long as every snapshot, event and evaluation keeps the fee. -/
theorem returnLoss_shown (environment : Environment) (orderId : String) (w : SaleWorld)
    (hplaced : Placed orderId w) (acts : List LossAct)
    (hkeeps : Machine.Along (LossAct.step environment orderId) (KeepsFee environment orderId) w
      acts) :
    ShowsBooks environment orderId
      (Machine.run (LossAct.step environment orderId) w acts) := by
  have hinv := Machine.run_keeps_along (I := LossInv environment orderId)
    (fun _ _ h hact => h.step hact) hplaced.inv hkeeps
  exact hinv.shows

/-! ### A parcel that comes back -/

def capeSent : SaleWorld where
  store :=
    { orders :=
        [{ id := "order-1"
           storeId := "store-1"
           totalCollected := 200
           shipping := 25
           lines := [{ id := "line-1", quantity := 1, quantity_pos := Int.one_pos }] }] }

def ozoneSnapshot (normalizedStatus : ShippingShipmentStatus) (fee : Decimal) : LossAct :=
  .snapshot
    { orderId := "order-1"
      ozoneExpressShipment := some { normalizedStatus, fee := some fee, currency := "MAD" } }

theorem capeSent_placed : Placed "order-1" capeSent := by
  refine ⟨by decide +kernel, ?_, (fun _ hnone => nomatch hnone), ?_⟩
  · intro order horder line hline
    obtain rfl := Option.some.inj horder
    obtain rfl := List.mem_singleton.1 hline
    exact ⟨by decide, rfl, rfl⟩
  · exact ⟨(fun _ hnone => nomatch hnone), (fun _ hnone => nomatch hnone),
      (fun _ hnone => nomatch hnone), (fun _ hnone => nomatch hnone)⟩

def capeKept : List LossAct :=
  [ozoneSnapshot .delivered 30, .evaluate,
    .record 100 "store-1" [{ orderLineId := "line-1", condition := "GOOD" }] none]

/-- A delivered parcel whose fee stays. -/
theorem returnLoss_shown_kept :
    (Machine.run (LossAct.step capeEnvironment "order-1") capeSent capeKept).store.charged
        "order-1" = true ∧
    ShowsBooks capeEnvironment "order-1"
      (Machine.run (LossAct.step capeEnvironment "order-1") capeSent capeKept) := by
  refine ⟨by decide +kernel,
    returnLoss_shown capeEnvironment "order-1" capeSent capeSent_placed capeKept
      ⟨fun hcharged => ?_, fun _ _ order horder => ?_, trivial, trivial⟩⟩
  · exact absurd hcharged (by decide +kernel)
  · obtain rfl := Option.some.inj horder
    decide +kernel

/-- The delivery is evaluated; then the parcel comes back, for which OzoneExpress charges less. -/
def capeReturned : List LossAct :=
  [ozoneSnapshot .delivered 30, .evaluate, ozoneSnapshot .returnedToSeller 10, .evaluate]

/-- **The screen shows the fee of the return, the ledger has booked that of the delivery.** -/
theorem returnLoss_differs :
    Placed "order-1" capeSent ∧
    (Machine.run (LossAct.step capeEnvironment "order-1") capeSent capeReturned).store.charged
        "order-1" = true ∧
    ¬ ShowsBooks capeEnvironment "order-1"
      (Machine.run (LossAct.step capeEnvironment "order-1") capeSent capeReturned) := by
  have hcharged : (Machine.run (LossAct.step capeEnvironment "order-1") capeSent
      capeReturned).store.charged "order-1" = true := by decide +kernel
  have htotal : (Machine.run (LossAct.step capeEnvironment "order-1") capeSent
      capeReturned).store.shippingTotal "order-1" = 30 := by decide +kernel
  have hparcel : (Machine.run (LossAct.step capeEnvironment "order-1") capeSent
      capeReturned).parcelFee = some ⟨some 10, some "MAD"⟩ := by decide +kernel
  have hfound : ((Machine.run (LossAct.step capeEnvironment "order-1") capeSent
      capeReturned).store.findOrder "order-1").map EcommerceOrder.currency = some "MAD" := by
    decide +kernel
  obtain ⟨order, horder, hcurrency⟩ := Option.map_eq_some_iff.1 hfound
  have hfee : convertShipmentFee capeEnvironment (some ⟨some 10, some "MAD"⟩) "MAD" =
      .ok (some 10) := by
    decide +kernel
  have hcost : resolveEffectiveShippingCost capeEnvironment
      (Machine.run (LossAct.step capeEnvironment "order-1") capeSent capeReturned) order =
      .ok 10 := by
    rw [resolveEffectiveShippingCost, hparcel, hcurrency, hfee]
    rfl
  refine ⟨capeSent_placed, hcharged, fun hshows => ?_⟩
  have hrounded := (hshows order horder hcharged [] (List.nil_subset _) 10 _ hcost rfl).1
  rw [htotal] at hrounded
  have hshown : toFixed2 10 = 10 := by decide +kernel
  change |toFixed2 10 - 30| ≤ 1 / 200 + 1 / 20000 at hrounded
  rw [hshown] at hrounded
  norm_num at hrounded

end Zomaal
