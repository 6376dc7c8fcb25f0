/-
**What an evaluation writes into the ledger.**

An evaluation of an order's outcome appends rows of four kinds: the revenue that is recognized, its
reversal, its reinstatement, and the shipping of a parcel that came back.

Main results:

* `applyRevenueRecognition_cases`, `applyRevenueReversal_cases`, `applyShippingLoss_cases` — at most
  one row is appended;
* `EvaluationStable.outcome` — **an evaluation keeps what no such row breaks, nor the stock**.
-/

import Zomaal.LineLosses
import Zomaal.OrderLedgerRules
import Zomaal.OrderStockRules

set_option autoImplicit false

namespace Zomaal

open Command

/-! ### Rows -/

def Store.appendRow (s : Store) (data : FinancialEventData) : Store :=
  { s with
    uuids := s.uuids + 1
    financialEvents := s.financialEvents ++ [{ data.stored with id := uuid s.uuids }] }

theorem createEvent_final (data : FinancialEventData) (s : Store) :
    (createEvent data).final s = { s with uuids := s.uuids + 1 } ∨
      s.findEvent data.orderId data.idempotencyKey = none ∧
        (createEvent data).final s = s.appendRow data := by
  have hdraw : randomUUID s = (.ok (uuid s.uuids), { s with uuids := s.uuids + 1 }) := rfl
  have hsame : ({ s with uuids := s.uuids + 1 } : Store).findEvent data.orderId
      data.idempotencyKey = s.findEvent data.orderId data.idempotencyKey := rfl
  rw [final, createEvent, bind_of_ok hdraw, ask_bind_apply, hsame]
  cases s.findEvent data.orderId data.idempotencyKey with
  | some event => exact .inl rfl
  | none => exact .inr ⟨rfl, rfl⟩

theorem upsertEvent_final (data : FinancialEventData) (s : Store) :
    (upsertEvent data).final s = s ∨
      s.findEvent data.orderId data.idempotencyKey = none ∧
        (upsertEvent data).final s = s.appendRow data := by
  rw [final, upsertEvent, ask_bind_apply]
  cases hfind : s.findEvent data.orderId data.idempotencyKey with
  | some event => exact .inl rfl
  | none =>
    have hwritten := congrArg Prod.snd (upsertEvent_fresh hfind)
    rw [upsertEvent, ask_bind_apply, hfind] at hwritten
    exact .inr ⟨rfl, hwritten⟩

/-! ### The rows of an evaluation -/

section Rows

variable (environment : Environment) (order : EcommerceOrder) (shipment : Option ShipmentFee)

def ChargedShipping (shippingCost : Decimal) : Prop :=
  ∃ fee, convertShipmentFee environment shipment order.currency = .ok fee ∧
    shippingCost = fee.getD order.shipping

/-- **The rows an evaluation may append.**  It charges for shipping only when neither a recognition
nor a shipping loss is there. -/
inductive EvaluationRow (charges : Prop) (s : Store) : FinancialEventData → Prop
  | recognized (costs : OrderLineCosts) {shippingCost : Decimal} (hcharges : charges)
      (hnew : s.findEvent order.id revenueRecognizedKey = none)
      (hloss : s.findEvent order.id shippingLossKey = none)
      (hcost : ChargedShipping environment order shipment shippingCost) :
      EvaluationRow charges s (recognitionData order costs shippingCost)
  | recognizedAfterLoss (costs : OrderLineCosts)
      (hloss : s.findEvent order.id shippingLossKey ≠ none) :
      EvaluationRow charges s (recognitionData order costs 0)
  | reinstated (recognized reversal : FinancialEvent) :
      EvaluationRow charges s (reinstatementData order recognized reversal)
  | reversed (recognized : FinancialEvent) (key : String)
      (hkey : key = revenueReversedKey ∨ ∃ id, key = "revenue-reversed:" ++ id) :
      EvaluationRow charges s (reversalData order.id order.currency recognized key)
  | shippingLoss {shippingCost : Decimal} (hcharges : charges)
      (hnew : s.findEvent order.id revenueRecognizedKey = none)
      (hloss : s.findEvent order.id shippingLossKey = none)
      (hcost : ChargedShipping environment order shipment shippingCost) :
      EvaluationRow charges s (shippingLossData order.id order.currency shippingCost)

def AppendsRow {α : Type} (charges : Prop) (c : Service α) (s : Store) : Prop :=
  c.final s = s ∨ c.final s = { s with uuids := s.uuids + 1 } ∨
    ∃ data, EvaluationRow environment order shipment charges s data ∧
      s.findEvent data.orderId data.idempotencyKey = none ∧ c.final s = s.appendRow data

variable {environment order shipment} {charges : Prop} {s : Store}

theorem AppendsRow.create {data : FinancialEventData}
    (h : EvaluationRow environment order shipment charges s data) :
    AppendsRow environment order shipment charges (createEvent data) s := by
  rcases createEvent_final data s with hdrawn | ⟨hfresh, happended⟩
  · exact .inr (.inl hdrawn)
  · exact .inr (.inr ⟨data, h, hfresh, happended⟩)

theorem AppendsRow.upsert {data : FinancialEventData}
    (h : EvaluationRow environment order shipment charges s data) :
    AppendsRow environment order shipment charges (upsertEvent data) s := by
  rcases upsertEvent_final data s with hsame | ⟨hfresh, happended⟩
  · exact .inl hsame
  · exact .inr (.inr ⟨data, h, hfresh, happended⟩)

theorem AppendsRow.of_final {α β : Type} {c : Service α} {d : Service β}
    (h : AppendsRow environment order shipment charges d s) (hfinal : c.final s = d.final s) :
    AppendsRow environment order shipment charges c s := by
  rw [AppendsRow, hfinal]
  exact h

theorem AppendsRow.none {α : Type} {c : Service α} (hfinal : c.final s = s) :
    AppendsRow environment order shipment charges c s := .inl hfinal

theorem final_bind_pure {α β : Type} (c : Service α) (f : α → β) (s : Store) :
    (c >>= fun a => pure (f a)).final s = c.final s := by
  rw [final, final]
  rcases hc : c s with ⟨error | a, t⟩
  · rw [bind_of_error hc]
  · rw [bind_of_ok hc]
    rfl

/-- **Recognizing revenue.** -/
theorem applyRevenueRecognition_cases (hcharges : charges) :
    AppendsRow environment order shipment charges
      (applyRevenueRecognition environment order shipment) s := by
  cases hfound : s.findEvent order.id revenueRecognizedKey with
  | some existing =>
    cases hlatest : s.latestEvent order.id .revenueReversed with
    | none =>
      refine .none ?_
      rw [final, applyRevenueRecognition, ask_bind_apply, hfound]
      dsimp only
      rw [ask_bind_apply, hlatest]
      rfl
    | some reversal =>
      refine (AppendsRow.upsert (.reinstated existing reversal)).of_final ?_
      rw [final, applyRevenueRecognition, ask_bind_apply, hfound]
      dsimp only
      rw [ask_bind_apply, hlatest]
      rfl
  | none =>
    have hstart : applyRevenueRecognition environment order shipment s =
        (lift (convertedCosts environment order) >>= fun costs => do
          let shippingLoss ← Command.ask fun s => s.findEvent order.id shippingLossKey
          let shippingCost ←
            if shippingLoss.isSome then pure 0
            else do
              let fee ← lift (convertShipmentFee environment shipment order.currency)
              pure (fee.getD order.shipping)
          createEvent (recognitionData order costs shippingCost)) s := by
      rw [applyRevenueRecognition, ask_bind_apply, hfound]
    rw [lift_bind_apply] at hstart
    cases hcosts : convertedCosts environment order with
    | error error =>
      rw [hcosts] at hstart
      exact .none (congrArg Prod.snd hstart)
    | ok costs =>
      rw [hcosts] at hstart
      dsimp only at hstart
      rw [ask_bind_apply] at hstart
      cases hloss : s.findEvent order.id shippingLossKey with
      | some loss =>
        rw [hloss] at hstart
        refine (AppendsRow.create (.recognizedAfterLoss costs ?_)).of_final
          (congrArg Prod.snd hstart)
        rw [hloss]
        exact Option.some_ne_none loss
      | none =>
        rw [hloss] at hstart
        dsimp only [Option.isSome] at hstart
        rw [if_neg Bool.false_ne_true, lift_bind_apply] at hstart
        cases hfee : convertShipmentFee environment shipment order.currency with
        | error error =>
          rw [hfee] at hstart
          exact .none (congrArg Prod.snd hstart)
        | ok fee =>
          rw [hfee] at hstart
          exact (AppendsRow.create
            (.recognized costs hcharges hfound hloss ⟨fee, hfee, rfl⟩)).of_final
            (congrArg Prod.snd hstart)

/-- **Reversing revenue.** -/
theorem applyRevenueReversal_cases :
    AppendsRow environment order shipment charges
      (applyRevenueReversal order.id order.currency) s := by
  have hwrite : ∀ key, (key = revenueReversedKey ∨ ∃ id, key = "revenue-reversed:" ++ id) →
      reversalKey order.id s = (.ok (.inr key), s) →
      AppendsRow environment order shipment charges
        (applyRevenueReversal order.id order.currency) s := by
    intro key hkey hrun
    cases hfound : s.findEvent order.id revenueRecognizedKey with
    | none =>
      refine .none ?_
      rw [final, applyRevenueReversal, bind_of_ok hrun]
      dsimp only
      rw [ask_bind_apply, hfound]
      rfl
    | some recognized =>
      refine (AppendsRow.create (.reversed recognized key hkey)).of_final ?_
      rw [final, applyRevenueReversal, bind_of_ok hrun]
      dsimp only
      rw [ask_bind_apply, hfound]
      exact final_bind_pure (createEvent _) some s
  have hthere : ∀ existing, reversalKey order.id s = (.ok (.inl existing), s) →
      AppendsRow environment order shipment charges
        (applyRevenueReversal order.id order.currency) s := by
    intro existing hrun
    refine .none ?_
    rw [final, applyRevenueReversal, bind_of_ok hrun]
    rfl
  have hstart : reversalKey order.id s = _ := ask_bind_apply _ _ s
  cases hreversed : s.findEvent order.id revenueReversedKey with
  | none =>
    rw [hreversed] at hstart
    exact hwrite _ (.inl rfl) hstart
  | some existing =>
    rw [hreversed] at hstart
    dsimp only at hstart
    rw [ask_bind_apply] at hstart
    cases hreinstated : s.latestEvent order.id .revenueReinstated with
    | none =>
      rw [hreinstated] at hstart
      exact hthere _ hstart
    | some reinstated =>
      rw [hreinstated] at hstart
      dsimp only at hstart
      rw [ask_bind_apply] at hstart
      cases hcorrection : s.findEvent order.id ("revenue-reversed:" ++ reinstated.id) with
      | some correction =>
        rw [hcorrection] at hstart
        exact hthere _ hstart
      | none =>
        rw [hcorrection] at hstart
        exact hwrite _ (.inr ⟨_, rfl⟩) hstart

/-- **Booking a shipping loss.** -/
theorem applyShippingLoss_cases (hcharges : charges) :
    AppendsRow environment order shipment charges
      (applyShippingLoss environment order.id order.currency order.shipping shipment) s := by
  have hstart : applyShippingLoss environment order.id order.currency order.shipping shipment s =
    _ := ask_bind_apply _ _ s
  cases hfound : s.findEvent order.id revenueRecognizedKey with
  | some existing =>
    rw [hfound] at hstart
    exact .none (congrArg Prod.snd hstart)
  | none =>
    rw [hfound] at hstart
    dsimp only at hstart
    rw [ask_bind_apply] at hstart
    cases hloss : s.findEvent order.id shippingLossKey with
    | some existing =>
      rw [hloss] at hstart
      exact .none (congrArg Prod.snd hstart)
    | none =>
      rw [hloss] at hstart
      dsimp only at hstart
      rw [lift_bind_apply] at hstart
      cases hfee : convertShipmentFee environment shipment order.currency with
      | error error =>
        rw [hfee] at hstart
        exact .none (congrArg Prod.snd hstart)
      | ok fee =>
        rw [hfee] at hstart
        dsimp only at hstart
        by_cases hnothing : fee.getD order.shipping ≤ 0
        · rw [if_pos hnothing] at hstart
          exact .none (congrArg Prod.snd hstart)
        · rw [if_neg hnothing] at hstart
          refine (AppendsRow.upsert
            (.shippingLoss hcharges hfound hloss ⟨fee, hfee, rfl⟩)).of_final ?_
          rw [final, hstart]
          exact final_bind_pure (upsertEvent _) some s

end Rows

/-! ### What survives an evaluation -/

/-- A property of the store that no row of an evaluation breaks, nor an identifier drawn. -/
structure EvaluationStable (environment : Environment) (order : EcommerceOrder)
    (shipment : Option ShipmentFee) (charges : Prop) (I : Store → Prop) : Prop where
  drawn : ∀ {s : Store}, I s → I { s with uuids := s.uuids + 1 }
  appended : ∀ {s : Store} {data : FinancialEventData},
    EvaluationRow environment order shipment charges s data →
    s.findEvent data.orderId data.idempotencyKey = none → I s → I (s.appendRow data)

namespace EvaluationStable

variable {environment : Environment} {order : EcommerceOrder} {shipment : Option ShipmentFee}
  {charges : Prop} {I : Store → Prop}

theorem keeps (hI : EvaluationStable environment order shipment charges I) {α : Type}
    {c : Service α} (h : ∀ s, AppendsRow environment order shipment charges c s) : Keeps I c := by
  intro s hs
  rcases h s with hsame | hdrawn | ⟨data, hrow, hfresh, happended⟩
  · rwa [hsame]
  · rw [hdrawn]
    exact hI.drawn hs
  · rw [happended]
    exact hI.appended hrow hfresh hs

theorem syncDelivered (hI : EvaluationStable environment order shipment charges I)
    (hstock : StockStable (fun _ => True) I) (hcharges : charges) (deliveredAt : Option ℤ) :
    Keeps I (Zomaal.syncDelivered environment order shipment deliveredAt) :=
  (hI.keeps fun _ => applyRevenueRecognition_cases hcharges).bind fun _ =>
    hstock.moves.deliverOrder order.id deliveredAt

theorem syncFailed (hI : EvaluationStable environment order shipment charges I)
    (hstock : StockStable (fun _ => True) I) {travelled : Bool} (hcharges : travelled → charges) :
    Keeps I (Zomaal.syncFailed environment order travelled shipment) := by
  refine (hI.keeps fun _ => applyRevenueReversal_cases).bind fun event => ?_
  refine Keeps.bind ?_ fun _ =>
    (hstock.moves.releaseOrder order.id).bind fun _ => Keeps.pure _
  cases travelled with
  | true =>
    exact (hI.keeps fun _ => applyShippingLoss_cases (hcharges rfl)).bind fun _ => Keeps.pure ()
  | false => exact Keeps.pure ()

/-- **Evaluating an outcome**, delivered or failed or neither. -/
theorem outcome (hI : EvaluationStable environment order shipment charges I)
    (hstock : StockStable (fun _ => True) I) {delivered failed : Prop} [Decidable delivered]
    [Decidable failed] {travelled : Bool} (hdelivered : delivered → charges)
    (htravelled : travelled → charges) {deliveredAt : Option ℤ} {recognized other : SyncResult}
    {reversed : Bool → SyncResult} :
    Keeps I (if delivered then do
        Zomaal.syncDelivered environment order shipment deliveredAt
        pure recognized
      else if failed then do
        let applied ← Zomaal.syncFailed environment order travelled shipment
        pure (reversed applied)
      else pure other) := by
  split
  · rename_i h
    exact (hI.syncDelivered hstock (hdelivered h) _).bind fun _ => Keeps.pure _
  · exact Keeps.ite ((hI.syncFailed hstock htravelled).bind fun _ => Keeps.pure _) (Keeps.pure _)

end EvaluationStable

end Zomaal
