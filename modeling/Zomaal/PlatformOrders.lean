/-
**Orders as the platforms tell them, and the timeline of an order.**

YouCan and Lightfunnels have no history of events: what happened to an order is read off the
difference between two answers.  This module embeds the normalized order, and of
`EcommerceOrderTimelineService` the differences (`detectAndStoreChanges`), the synthetic events
(`backfillSyntheticEvents`) and the writer (`upsertEvents`), which keeps an event that is there.
How the letters of a status become lower case is a parameter.

Main results:

* `mem_upsertEvents` — **what is stored afterwards**: what was, and the events whose key was not.
-/

import Zomaal.DuplicateOrders
import Zomaal.KeyFamilies
import Zomaal.OrderLedger
import Zomaal.OrderLinking

set_option autoImplicit false

namespace Zomaal

open JsText

/-! ### Orders -/

inductive EcommercePaymentStatus
  | pending
  | authorized
  | partiallyPaid
  | paid
  | partiallyRefunded
  | refunded
  | voided
  | expired
  | unknown
  deriving DecidableEq

def EcommercePaymentStatus.text : EcommercePaymentStatus → String
  | .pending => "PENDING"
  | .authorized => "AUTHORIZED"
  | .partiallyPaid => "PARTIALLY_PAID"
  | .paid => "PAID"
  | .partiallyRefunded => "PARTIALLY_REFUNDED"
  | .refunded => "REFUNDED"
  | .voided => "VOIDED"
  | .expired => "EXPIRED"
  | .unknown => "UNKNOWN"

structure OrderData where
  externalOrderId : String
  orderName : String := ""
  status : EcommerceOrderStatus := .open
  financialStatus : EcommercePaymentStatus := .pending
  fulfillmentStatus : Option String := none
  currency : String := "MAD"
  itemCount : ℕ := 0
  grossSales : Decimal := 0
  discounts : Decimal := 0
  refunds : Decimal := 0
  netSales : Decimal := 0
  shipping : Decimal := 0
  tax : Decimal := 0
  totalCollected : Decimal := 0
  shippingCity : Option String := none
  providerCreatedAt : ℤ := 0
  processedAt : ℤ := 0
  cancelledAt : Option ℤ := none
  providerUpdatedAt : ℤ
  deriving DecidableEq

structure NormalizedEcommerceOrder extends OrderData where
  customerName : Option String := none
  customerPhone : Option String := none
  lines : List NormalizedOrderLine := []
  deriving DecidableEq

/-! ### Events -/

inductive OrderEventSource
  | shopify
  | youcan
  | lightfunnels
  | system
  deriving DecidableEq

/-- A platform whose timeline is read off the differences between its answers. -/
inductive DiffedPlatform
  | youcan
  | lightfunnels

/-- `source.toLowerCase()`. -/
def DiffedPlatform.text : DiffedPlatform → String
  | .youcan => "youcan"
  | .lightfunnels => "lightfunnels"

def DiffedPlatform.source : DiffedPlatform → OrderEventSource
  | .youcan => .youcan
  | .lightfunnels => .lightfunnels

/-- An event of a timeline, with the key that is unique in its order. -/
structure OrderEventRow extends TimelineEvent where
  providerEventId : String
  source : OrderEventSource
  synthetic : Bool := false
  deriving DecidableEq

def financialStatusMap : EcommercePaymentStatus → Option OrderEventType
  | .pending => some .paymentPending
  | .authorized => some .paymentAuthorized
  | .partiallyPaid => some .paymentPartiallyPaid
  | .paid => some .paymentPaid
  | .partiallyRefunded => some .paymentRefunded
  | .refunded => some .paymentRefunded
  | .voided => some .paymentVoided
  | .expired => none
  | .unknown => none

def youcanShippingMap (slug : String) : Option OrderEventType :=
  if slug = "pending" then some .fulfillmentPending
  else if slug = "processing" then some .fulfillmentCreated
  else if slug = "shipped" then some .inTransit
  else if slug = "in_delivery" then some .outForDelivery
  else if slug = "delivered" then some .delivered
  else if slug = "returned" then some .returned
  else if slug = "cancelled" then some .orderCancelled
  else if slug = "canceled" then some .orderCancelled
  else none

def lightfunnelsFulfillmentMap (slug : String) : Option OrderEventType :=
  if slug = "unfulfilled" then some .fulfillmentPending
  else if slug = "partial" then some .fulfillmentCreated
  else if slug = "fulfilled" then some .fulfillmentCreated
  else if slug = "restocked" then some .returned
  else none

def DiffedPlatform.fulfillmentMap : DiffedPlatform → String → Option OrderEventType
  | .youcan => youcanShippingMap
  | .lightfunnels => lightfunnelsFulfillmentMap

/-- `text.replace(/\s+/g, '_')`. -/
def underscored (text : String) : String :=
  String.ofList ((collapseSpaces text).toList.map fun c => if isSpace c then '_' else c)

section Timeline

variable (toLowerCase : String → String)

def statusSlug (status : String) : String := underscored (toLowerCase status)

variable (platform : DiffedPlatform)

def DiffedPlatform.eventType (status : String) : OrderEventType :=
  (platform.fulfillmentMap (statusSlug toLowerCase status)).getD .other

def financialEventKey (orderId : String) (status : EcommercePaymentStatus) : String :=
  platform.text ++ "-financial-" ++ orderId ++ "-" ++ status.text

def fulfillmentEventKey (orderId : String) (previous : Option String) (current : String) : String :=
  platform.text ++ "-fulfillment-" ++ orderId ++ "-" ++
    statusSlug toLowerCase (previous.getD "none") ++ "-to-" ++ statusSlug toLowerCase current

def financialChange (orderId : String) (previous current : OrderData) : List OrderEventRow :=
  if previous.financialStatus = current.financialStatus then []
  else
    [{ type := (financialStatusMap current.financialStatus).getD .other
       occurredAt := current.providerUpdatedAt
       providerEventId := financialEventKey platform orderId current.financialStatus
       source := platform.source }]

def fulfillmentChange (orderId : String) (previous current : OrderData) : List OrderEventRow :=
  if previous.fulfillmentStatus = current.fulfillmentStatus then []
  else
    match truthy current.fulfillmentStatus with
    | none => []
    | some status =>
      [{ type := platform.eventType toLowerCase status
         occurredAt := current.providerUpdatedAt
         providerEventId :=
           fulfillmentEventKey toLowerCase platform orderId previous.fulfillmentStatus status
         source := platform.source }]

/-- The events that `detectAndStoreChanges` stores. -/
def detectChanges (orderId : String) (previous current : OrderData) : List OrderEventRow :=
  financialChange platform orderId previous current ++
    fulfillmentChange toLowerCase platform orderId previous current

end Timeline

def syntheticProgress (orderId : String) (order : OrderData) : List OrderEventRow :=
  [{ type := .orderCreated
     occurredAt := order.providerCreatedAt
     providerEventId := "system-created-" ++ orderId
     source := .system
     synthetic := true }] ++
  (if order.processedAt = order.providerCreatedAt then []
  else
    [{ type := .orderConfirmed
       occurredAt := order.processedAt
       providerEventId := "system-confirmed-" ++ orderId
       source := .system
       synthetic := true }]) ++
  (match financialStatusMap order.financialStatus with
  | none => []
  | some type =>
    [{ type
       occurredAt := order.processedAt
       providerEventId := "system-financial-" ++ orderId ++ "-" ++ order.financialStatus.text
       source := .system
       synthetic := true }]) ++
  (match truthy order.fulfillmentStatus with
  | none => []
  | some status =>
    if status = "unfulfilled" ∨ status = "unknown" then []
    else
      [{ type := .fulfillmentCreated
         occurredAt := order.processedAt
         providerEventId := "system-fulfillment-" ++ orderId ++ "-" ++ status
         source := .system
         synthetic := true }])

def syntheticCancellation (orderId : String) (cancelledAt : ℤ) : OrderEventRow where
  type := .orderCancelled
  occurredAt := cancelledAt
  providerEventId := "system-cancelled-" ++ orderId
  source := .system
  synthetic := true

/-- The events that `backfillSyntheticEvents` makes of what is stored of an order. -/
def syntheticEvents (orderId : String) (order : OrderData) : List OrderEventRow :=
  syntheticProgress orderId order ++
    (order.cancelledAt.map (syntheticCancellation orderId)).toList

/-! ### Storing events -/

def eventKeys (events : List OrderEventRow) : List String :=
  events.map OrderEventRow.providerEventId

def storeEvent (events : List OrderEventRow) (event : OrderEventRow) : List OrderEventRow :=
  if event.providerEventId ∈ eventKeys events then events else events ++ [event]

/-- **`upsertEvents`**, the transaction: events are immutable once stored. -/
def upsertEvents (events news : List OrderEventRow) : List OrderEventRow :=
  news.foldl storeEvent events

@[simp] theorem upsertEvents_nil (events : List OrderEventRow) : upsertEvents events [] = events :=
  rfl

theorem upsertEvents_append (events news more : List OrderEventRow) :
    upsertEvents events (news ++ more) = upsertEvents (upsertEvents events news) more :=
  List.foldl_append

variable {events : List OrderEventRow} {event : OrderEventRow}

theorem upsertEvents_of_fresh (h : event.providerEventId ∉ eventKeys events) :
    upsertEvents events [event] = events ++ [event] := if_neg h

theorem upsertEvents_of_stored (h : event.providerEventId ∈ eventKeys events) :
    upsertEvents events [event] = events := if_pos h

variable {news : List OrderEventRow}

theorem upsertEvents_of_all_stored (h : ∀ event ∈ news, event.providerEventId ∈ eventKeys events) :
    upsertEvents events news = events := by
  induction news with
  | nil => rfl
  | cons event news ih =>
    rw [← List.singleton_append, upsertEvents_append,
      upsertEvents_of_stored (h event (List.mem_cons_self ..))]
    exact ih fun other hother => h other (List.mem_cons_of_mem _ hother)

theorem subset_upsertEvents (events news : List OrderEventRow) :
    events ⊆ upsertEvents events news := by
  induction news generalizing events with
  | nil => exact List.Subset.refl _
  | cons event news ih =>
    refine fun row hrow => ih (storeEvent events event) ?_
    rw [storeEvent]
    split
    · exact hrow
    · exact List.mem_append_left _ hrow

/-- **What is stored afterwards** was stored before, or is new. -/
theorem mem_upsertEvents {row : OrderEventRow} (h : row ∈ upsertEvents events news) :
    row ∈ events ∨ row ∈ news := by
  induction news generalizing events with
  | nil => exact Or.inl h
  | cons event news ih =>
    rcases ih h with h | h
    · rw [storeEvent] at h
      split at h
      · exact Or.inl h
      · rcases List.mem_append.1 h with h | h
        · exact Or.inl h
        · exact Or.inr (List.mem_singleton.1 h ▸ List.mem_cons_self ..)
    · exact Or.inr (List.mem_cons_of_mem _ h)

theorem mem_eventKeys_upsertEvents {key : String} :
    key ∈ eventKeys (upsertEvents events news) ↔ key ∈ eventKeys events ∨ key ∈ eventKeys news := by
  induction news generalizing events with
  | nil => simp [eventKeys]
  | cons event news ih =>
    have hone : key ∈ eventKeys (storeEvent events event) ↔
        key ∈ eventKeys events ∨ key = event.providerEventId := by
      rw [storeEvent]
      split
      · rename_i hstored
        exact ⟨Or.inl, fun h => h.elim id fun heq => heq ▸ hstored⟩
      · simp [eventKeys]
    rw [show upsertEvents events (event :: news) = upsertEvents (storeEvent events event) news
      from rfl, ih, hone, eventKeys, eventKeys, eventKeys, List.map_cons, List.mem_cons, or_assoc]

section Keys

variable {toLowerCase : String → String} {platform : DiffedPlatform} {orderId : String}

theorem financial_ne_fulfillment (status : EcommercePaymentStatus) (previous : Option String)
    (current : String) :
    financialEventKey platform orderId status ≠
      fulfillmentEventKey toLowerCase platform orderId previous current := by
  have hapart : Key.Apart (platform.text ++ "-financial-") (platform.text ++ "-fulfillment-") := by
    cases platform <;> decide
  have hne := hapart.append_ne (orderId ++ "-" ++ status.text)
    (orderId ++ "-" ++ statusSlug toLowerCase (previous.getD "none") ++ "-to-" ++
      statusSlug toLowerCase current)
  simpa only [financialEventKey, fulfillmentEventKey, String.append_assoc] using hne

theorem fulfillment_fresh {previous current : OrderData} {before : Option String}
    {status : String} :
    fulfillmentEventKey toLowerCase platform orderId before status ∈
        eventKeys (upsertEvents events (financialChange platform orderId previous current)) ↔
      fulfillmentEventKey toLowerCase platform orderId before status ∈ eventKeys events := by
  rw [mem_eventKeys_upsertEvents, or_iff_left]
  rw [financialChange]
  split
  · exact List.not_mem_nil
  · intro hin
    exact financial_ne_fulfillment _ _ _ (List.mem_singleton.1 hin).symm

end Keys

/-! ### Synthetic events -/

/-- The families of the keys of synthetic events, besides that of a cancellation. -/
def progressFamilies : List String :=
  ["system-created-", "system-confirmed-", "system-financial-", "system-fulfillment-"]

variable {orderId : String}

theorem syntheticProgress_spec {order : OrderData} (h : event ∈ syntheticProgress orderId order) :
    (event.type = .delivered || event.type.terminalFailure) = false ∧
      ∃ family ∈ progressFamilies, Key.InFamily family event.providerEventId := by
  rw [syntheticProgress] at h
  rcases List.mem_append.1 h with h | h
  · rcases List.mem_append.1 h with h | h
    · rcases List.mem_append.1 h with h | h
      · rw [List.mem_singleton.1 h]
        exact ⟨rfl, "system-created-", by decide, Key.InFamily.intro _ _⟩
      · split at h
        · cases h
        · rw [List.mem_singleton.1 h]
          exact ⟨rfl, "system-confirmed-", by decide, Key.InFamily.intro _ _⟩
    · split at h
      · cases h
      · rename_i type htype
        rw [List.mem_singleton.1 h]
        refine ⟨?_, "system-financial-", by decide, ?_⟩
        · cases hstatus : order.financialStatus <;> rw [hstatus] at htype <;>
            simp only [financialStatusMap, Option.some.injEq, reduceCtorEq] at htype <;>
            subst htype <;> rfl
        · exact ((Key.InFamily.intro _ _).append _).append _
  · split at h
    · cases h
    · split at h
      · cases h
      · rw [List.mem_singleton.1 h]
        exact ⟨rfl, "system-fulfillment-", by decide,
          ((Key.InFamily.intro _ _).append _).append _⟩

theorem syntheticEvents_not_fulfillment {toLowerCase : String → String} {platform : DiffedPlatform}
    (order : OrderData) (previous : Option String) (status : String) :
    fulfillmentEventKey toLowerCase platform orderId previous status ∉
      eventKeys (syntheticEvents orderId order) := by
  intro hin
  obtain ⟨event, hevent, hkey⟩ := List.mem_map.1 hin
  have hchange : Key.InFamily (platform.text ++ "-fulfillment-") event.providerEventId := by
    rw [hkey, fulfillmentEventKey]
    exact ((((Key.InFamily.intro _ _).append _).append _).append _).append _
  rcases List.mem_append.1 hevent with hevent | hevent
  · obtain ⟨-, family, hfamily, hsystem⟩ := syntheticProgress_spec hevent
    have hapart : ∀ family ∈ progressFamilies,
        Key.Apart (platform.text ++ "-fulfillment-") family := by
      cases platform <;> decide
    exact (hapart family hfamily).not_both hchange hsystem
  · rw [Option.mem_toList] at hevent
    obtain ⟨cancelledAt, -, rfl⟩ := Option.map_eq_some_iff.1 hevent
    have hapart : Key.Apart (platform.text ++ "-fulfillment-") "system-cancelled-" := by
      cases platform <;> decide
    exact hapart.not_both hchange (Key.InFamily.intro _ _)

theorem syntheticCancellation_fresh (order : OrderData) (cancelledAt : ℤ) :
    (syntheticCancellation orderId cancelledAt).providerEventId ∉
      eventKeys (syntheticProgress orderId order) := by
  intro hin
  obtain ⟨event, hevent, hkey⟩ := List.mem_map.1 hin
  obtain ⟨-, family, hfamily, hsystem⟩ := syntheticProgress_spec hevent
  have hapart : ∀ family ∈ progressFamilies, Key.Apart "system-cancelled-" family := by decide
  exact (hapart family hfamily).not_both (hkey ▸ Key.InFamily.intro _ _) hsystem

end Zomaal
