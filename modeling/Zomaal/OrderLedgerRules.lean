/-
**What a booking leaves alone.**

The bookings of `OrderLedger` append rows to the ledger and draw identifiers; they touch nothing
else.

Main results:

* `LedgerStable.applyRevenueRecognition` — **recognizing revenue keeps such a property**.
-/

import Zomaal.OrderLedger

set_option autoImplicit false

namespace Zomaal

open Command

/-- A property of the store that no row appended to the ledger breaks, nor an identifier drawn. -/
structure LedgerStable (I : Store → Prop) : Prop where
  drawn : ∀ {s : Store} (uuids : ℕ), I s → I { s with uuids }
  appended : ∀ {s : Store} (event : FinancialEvent), I s →
    I { s with financialEvents := s.financialEvents ++ [event] }

namespace LedgerStable

variable {I : Store → Prop}

theorem createEvent (hI : LedgerStable I) (data : FinancialEventData) :
    Keeps I (Zomaal.createEvent data) := by
  refine Keeps.bind (fun s hs => hI.drawn (s.uuids + 1) hs) fun id => ?_
  refine (Keeps.ask _).bind fun found => ?_
  cases found with
  | some event => exact Keeps.fail _
  | none => exact (Keeps.modify fun s hs => hI.appended _ hs).bind fun _ => Keeps.pure _

theorem upsertEvent (hI : LedgerStable I) (data : FinancialEventData) :
    Keeps I (Zomaal.upsertEvent data) := by
  refine (Keeps.ask _).bind fun found => ?_
  cases found with
  | some event => exact Keeps.pure event
  | none => exact hI.createEvent data

/-- **Recognizing revenue** only appends to the ledger. -/
theorem applyRevenueRecognition (hI : LedgerStable I) (environment : Environment)
    (order : EcommerceOrder) (shipment : Option ShipmentFee) :
    Keeps I (Zomaal.applyRevenueRecognition environment order shipment) := by
  refine (Keeps.ask _).bind fun found => ?_
  cases found with
  | some existing =>
    refine (Keeps.ask _).bind fun reversal => ?_
    cases reversal with
    | none => exact Keeps.pure existing
    | some reversal => exact hI.upsertEvent _
  | none =>
    refine (Keeps.lift _).bind fun costs => (Keeps.ask _).bind fun shippingLoss => ?_
    refine Keeps.ite ((Keeps.pure _).bind fun _ => hI.createEvent _) ?_
    exact (Keeps.lift _).bind fun fee => (Keeps.pure _).bind fun _ => hI.createEvent _

end LedgerStable

end Zomaal
