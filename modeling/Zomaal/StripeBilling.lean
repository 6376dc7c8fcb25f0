/-
**Webhooks of Stripe.**

The webhook fetches the subscription again, under a lock of the owner, chooses an invoice, and
raises the end of access to the end of the period that the invoice pays for.  This module embeds it,
for the events about one subscription, as a machine: any number of deliveries are under way, and
Stripe changes what it has at any moment; the transactions exclude each other by the lock.

Main results:

* `stripeWebhooks` — **when what is paid for is granted**.
-/

import Zomaal.JsText
import Zomaal.KeyedRows
import Zomaal.MachineRun
import Zomaal.Subscriptions

set_option autoImplicit false

namespace Zomaal

open JsText

/-! ### What Stripe has -/

inductive StripeStatus
  | incomplete
  | incompleteExpired
  | trialing
  | active
  | pastDue
  | canceled
  | unpaid
  | paused
  deriving DecidableEq

namespace StripeStatus

def live (status : StripeStatus) : Bool := status ∈ [active, pastDue]

def revoked (status : StripeStatus) : Bool :=
  status ∈ [canceled, unpaid, paused, incompleteExpired]

theorem not_revoked_of_live {status : StripeStatus} (h : status.live) : status.revoked = false := by
  cases status <;> first | rfl | cases h

end StripeStatus

structure StripeRecurring where
  interval : String
  intervalCount : ℤ
  usageType : String
  deriving DecidableEq

structure StripePrice where
  id : String
  livemode : Bool := false
  active : Bool := true
  currency : String
  unitAmount : Option ℤ
  recurring : Option StripeRecurring
  deriving DecidableEq

structure StripeItem where
  quantity : Option ℤ
  price : StripePrice
  deriving DecidableEq

/-- What `checkout` has told Stripe of a subscription. -/
structure StripeMetadata where
  app : Option String := none
  billingEnvironment : Option String := none
  ownerUserId : Option String := none
  localSubscriptionId : Option String := none
  planId : Option String := none
  checkoutRequestId : Option String := none
  deriving DecidableEq

structure StripeSubscription where
  id : String
  customer : String
  livemode : Bool := false
  metadata : StripeMetadata
  status : StripeStatus
  cancelAtPeriodEnd : Bool := false
  canceledAt : Option ℤ := none
  endedAt : Option ℤ := none
  items : List StripeItem
  latestInvoice : Option String
  deriving DecidableEq

inductive StripeInvoiceStatus
  | draft
  | open
  | paid
  | uncollectible
  | void
  deriving DecidableEq

structure StripeLine where
  price : Option String
  quantity : Option ℤ
  periodStart : ℤ
  periodEnd : ℤ
  deriving DecidableEq

structure StripeInvoice where
  id : String
  status : StripeInvoiceStatus
  currency : String
  amountDue : ℤ
  amountPaid : ℤ
  subscription : Option String
  lines : List StripeLine
  hasMore : Bool := false
  paidAt : Option ℤ := none
  deriving DecidableEq

/-- The object of an event, as far as it leads to a subscription. -/
inductive StripeObject
  | subscription (id : String)
  | checkoutSession (subscription : Option String)
  | invoice (id : String) (subscription : Option String)
  deriving DecidableEq

def StripeObject.subscriptionId : StripeObject → Option String
  | .subscription id => some id
  | .checkoutSession id => id
  | .invoice _ id => id

inductive StripeEventType
  | checkoutSessionCompleted
  | invoicePaid
  | invoicePaymentFailed
  | subscriptionUpdated
  | subscriptionDeleted
  | other (type : String)
  deriving DecidableEq

def StripeEventType.supported : StripeEventType → Bool
  | .other _ => false
  | _ => true

structure StripeEvent where
  id : String
  type : StripeEventType
  livemode : Bool := false
  created : ℤ
  object : StripeObject
  deriving DecidableEq

/-! ### Checks -/

inductive StripeError
  | liveEvent
  | ownership
  | foreignSubscription
  | planNotFound
  | items
  | price
  | invoiceLines
  | notAvailable
  | notConfigured
  | other (message : String)
  deriving DecidableEq

def StripeError.message : StripeError → String
  | .liveEvent => "Live events are not accepted in staging"
  | .ownership => "Invalid Stripe subscription ownership"
  | .foreignSubscription => "Stripe subscription does not belong to this billing account"
  | .planNotFound => "Stripe plan mapping not found"
  | .items => "Unexpected Stripe subscription items"
  | .price => "Stripe price does not match the configured plan"
  | .invoiceLines => "Unexpected Stripe invoice lines"
  | .notAvailable => "This plan or interval is not available through Stripe"
  | .notConfigured => "Stripe price is not configured"
  | .other message => message

abbrev StripeConfig := String → Option String

def StripeConfig.priceId (config : StripeConfig) (code : String) (interval : BillingInterval) :
    Except StripeError String :=
  if code ∉ ["STARTER", "PRO"] ∨ interval ≠ .monthly then .error .notAvailable
  else
    match config ("STRIPE_" ++ code ++ "_MONTHLY_PRICE_ID") with
    | some id =>
      if "price_".toList.isPrefixOf id.toList then .ok id else .error .notConfigured
    | none => .error .notConfigured

/-- `priceMinor`: the price of a month, in hundredths. -/
def Plan.priceMinor (plan : Plan) : ℚ := plan.monthlyPrice.getD 0 * 100

/-- `assertPrice`. -/
def StripePrice.matchesPlan (price : StripePrice) (plan : Plan) : Bool :=
  !price.livemode && price.active && upperCode price.currency = upperCode plan.currency &&
    match price.unitAmount, price.recurring with
    | some amount, some recurring =>
      decide ((amount : ℚ) = plan.priceMinor) && decide (0 < amount) &&
        recurring.interval = "month" && recurring.intervalCount = 1 &&
          recurring.usageType = "licensed"
    | _, _ => false

def StripeSubscription.planItem (config : StripeConfig) (current : StripeSubscription)
    (plan : Plan) : Except StripeError StripeItem :=
  match current.items with
  | [item] =>
    if item.quantity = some 1 then
      match config.priceId plan.code .monthly with
      | .error error => .error error
      | .ok priceId =>
        if item.price.id ≠ priceId then .error .items
        else if item.price.matchesPlan plan then .ok item
        else .error .price
    else .error .items
  | _ => .error .items

def StripeInvoice.paysFor (invoice : StripeInvoice) (plan : Plan) (subscriptionId : String) :
    Prop :=
  invoice.status = .paid ∧ invoice.amountDue ≤ invoice.amountPaid ∧
    plan.priceMinor ≤ invoice.amountPaid ∧
      upperCode invoice.currency = upperCode plan.currency ∧
        invoice.subscription = some subscriptionId

instance (invoice : StripeInvoice) (plan : Plan) (subscriptionId : String) :
    Decidable (invoice.paysFor plan subscriptionId) :=
  inferInstanceAs (Decidable (_ ∧ _))

def StripeInvoice.paidPeriod (invoice : StripeInvoice) (plan : Plan)
    (subscriptionId priceId : String) : Except StripeError (Option (ℤ × ℤ)) :=
  if invoice.paysFor plan subscriptionId then
    match invoice.lines.find? fun entry => entry.price = some priceId with
    | none => .error .invoiceLines
    | some line =>
      if invoice.hasMore ∨ invoice.lines.length ≠ 1 ∨ line.quantity ≠ some 1 then
        .error .invoiceLines
      else .ok (some (line.periodStart * 1000, line.periodEnd * 1000))
  else .ok none

def chosenPeriod (plan : Plan) (subscriptionId priceId : String) :
    Option StripeInvoice → Except StripeError (Option (ℤ × ℤ))
  | none => .ok none
  | some invoice => invoice.paidPeriod plan subscriptionId priceId

/-- `local` is the account that the subscription was bought for. -/
def Subscription.ownsStripe (row : Subscription) (remote : StripeSubscription) : Bool :=
  remote.metadata.localSubscriptionId = some row.id &&
    row.stripeCustomerId = some remote.customer &&
    match truthy row.stripeSubscriptionId with
    | some id => id = remote.id
    | none => row.stripeCheckoutRequestId.isSome &&
        row.stripeCheckoutRequestId = remote.metadata.checkoutRequestId

/-! ### Deliveries -/

inductive StripeResponse
  | received
  | ignored
  | duplicate
  deriving DecidableEq

/-- How far a delivery got: what is checked of the event, what the transaction has read, what was
fetched of the subscription, and which invoice was chosen. -/
inductive StripePhase
  | waiting
  | checked (event : StripeEvent) (subscriptionId : String)
  | retrieved (event : StripeEvent) (remote : StripeSubscription)
  | locked (event : StripeEvent) (row : Subscription) (plan : Plan)
  | fetched (event : StripeEvent) (row : Subscription) (plan : Plan)
      (current : StripeSubscription) (priceId : String) (latest : Option StripeInvoice)
  | chosen (event : StripeEvent) (row : Subscription) (plan : Plan)
      (current : StripeSubscription) (priceId : String) (invoice : Option StripeInvoice)
  | responded (response : StripeResponse)
  | threw (error : StripeError)
  deriving DecidableEq

/-- The billing of one owner, and what Stripe has: the subscription, and the invoices. -/
structure StripeBillingDb where
  ownerId : String
  plans : List Plan
  subscription : Option Subscription
  invoices : List BillingInvoice := []
  receipts : List (String × StripeEventType) := []
  clock : ℤ := 0
  remote : StripeSubscription
  remoteInvoices : List StripeInvoice := []
  lockedBy : Option ℕ := none
  phases : ℕ → StripePhase := fun _ => .waiting

inductive StripeAction
  | tick (elapsed : ℕ)
  | change (remote : StripeSubscription) (remoteInvoices : List StripeInvoice)
  | deliver (call : ℕ) (event : StripeEvent)
  | advance (call : ℕ)
  | fail (call : ℕ) (message : String)

/-- What is written to the row of the subscription; `row` is what the transaction has read. -/
def webhookUpdate (own row : Subscription) (plan : Plan) (current : StripeSubscription)
    (period : Option (ℤ × ℤ)) (now : ℤ) : Subscription :=
  let data :=
    { own with
      stripeSubscriptionId := some current.id
      cancelAtPeriodEnd := current.cancelAtPeriodEnd
      canceledAt := current.canceledAt.bind fun at' => if at' = 0 then none else some (at' * 1000) }
  let data := match period with
    | some (periodStart, periodEnd) =>
      if row.accessEndsAt < periodEnd ∧ current.status.live then
        { data with
          planId := some plan.id
          interval := some .monthly
          currentPeriodStart := some periodStart
          currentPeriodEnd := some periodEnd
          accessEndsAt := periodEnd
          provider := .stripe
          providerReference := some current.id }
      else data
    | none => data
  -- a failed payment never buys a new period; cancellation takes access away at once
  if current.status.revoked then
    { data with accessEndsAt := min (current.endedAt.getD (now / 1000) * 1000) row.accessEndsAt }
  else data

def billedInvoice (event : StripeEvent) (plan : Plan) (invoice : StripeInvoice)
    (period : ℤ × ℤ) (now : ℤ) : BillingInvoice where
  planId := plan.id
  planName := plan.name
  interval := .monthly
  amount := (invoice.amountPaid : ℚ) / 100
  currency := upperCode invoice.currency
  periodStart := period.1
  periodEnd := period.2
  paidAt := invoice.paidAt.getD event.created * 1000
  provider := .stripe
  providerReference := some invoice.id
  stripeInvoiceId := some invoice.id
  createdAt := now

namespace StripeBillingDb

variable (config : StripeConfig) (s : StripeBillingDb)

variable (call : ℕ)

def setPhase (phase : StripePhase) : StripeBillingDb :=
  { s with phases := Function.update s.phases call phase }

def finish (phase : StripePhase) : StripeBillingDb :=
  { s.setPhase call phase with lockedBy := if s.lockedBy = some call then none else s.lockedBy }

def hasReceipt (eventId : String) : Bool := s.receipts.any fun receipt => receipt.1 = eventId

def retrieve (subscriptionId : String) : Except StripeError StripeSubscription :=
  if subscriptionId = s.remote.id then .ok s.remote
  else .error (.other ("No such subscription: " ++ subscriptionId))

def retrieveInvoice (invoiceId : String) : Option StripeInvoice :=
  KeyedRows.lookup StripeInvoice.id invoiceId s.remoteInvoices

def plan (remote : StripeSubscription) : Option Plan :=
  s.plans.find? fun plan => some plan.id = remote.metadata.planId

def Recorded (invoiceId : String) : Prop :=
  ∃ invoice ∈ s.invoices, invoice.stripeInvoiceId = some invoiceId

instance (invoiceId : String) : Decidable (s.Recorded invoiceId) :=
  inferInstanceAs (Decidable (∃ invoice ∈ s.invoices, _))

variable (event : StripeEvent)

def upsertInvoice (plan : Plan) (invoice : StripeInvoice) (period : ℤ × ℤ) : List BillingInvoice :=
  if s.Recorded invoice.id then s.invoices
  else s.invoices ++ [billedInvoice event plan invoice period s.clock]

def checkEvent : StripePhase :=
  if event.livemode then .threw .liveEvent
  else if !event.type.supported then .responded .ignored
  else if s.hasReceipt event.id then .responded .duplicate
  else
    match event.object.subscriptionId with
    | none => .responded .ignored
    | some subscriptionId => .checked event subscriptionId

def checkRemote (subscriptionId : String) : StripePhase :=
  match s.retrieve subscriptionId with
  | .error error => .threw error
  | .ok remote =>
    if remote.metadata.app ≠ some "zomaal" ∨
        remote.metadata.billingEnvironment ≠ some "staging" then .responded .ignored
    else if truthy remote.metadata.ownerUserId = none ∨ remote.livemode then .threw .ownership
    else .retrieved event remote

/-- What a transaction reads once it has the lock; nothing changes it before the commit. -/
def readLocked (remote : StripeSubscription) : StripePhase :=
  if s.hasReceipt event.id then .responded .duplicate
  else
    match if remote.metadata.ownerUserId = some s.ownerId then s.subscription else none with
    | none => .threw .foreignSubscription
    | some row =>
      if row.ownsStripe remote then
        match s.plan remote with
        | none => .threw .planNotFound
        | some plan => .locked event row plan
      else .threw .foreignSubscription

def fetchCurrent (row : Subscription) (plan : Plan) : StripePhase :=
  match s.remote.planItem config plan with
  | .error error => .threw error
  | .ok item =>
    .fetched event row plan s.remote item.price.id (s.remote.latestInvoice.bind s.retrieveInvoice)

def chooseInvoice (row : Subscription) (plan : Plan) (current : StripeSubscription)
    (priceId : String) (latest : Option StripeInvoice) : StripePhase :=
  match event.object, event.type with
  | .invoice id _, .invoicePaid =>
    match s.retrieveInvoice id with
    | some invoice => .chosen event row plan current priceId (some invoice)
    | none => .threw (.other ("No such invoice: " ++ id))
  | _, _ => .chosen event row plan current priceId latest

def written (own row : Subscription) (plan : Plan) (current : StripeSubscription)
    (invoice : Option StripeInvoice) (period : Option (ℤ × ℤ)) : StripeBillingDb :=
  { s with
    subscription := some (webhookUpdate own row plan current period s.clock)
    invoices := match invoice, period with
      | some invoice, some period => s.upsertInvoice event plan invoice period
      | _, _ => s.invoices
    receipts := s.receipts ++ [(event.id, event.type)] }

def commit (event : StripeEvent) (row : Subscription) (plan : Plan) (current : StripeSubscription)
    (priceId : String) (invoice : Option StripeInvoice) : StripeBillingDb :=
  match chosenPeriod plan current.id priceId invoice with
  | .error error => s.finish call (.threw error)
  | .ok period =>
    match s.subscription with
    | none => s.finish call (.threw (.other "Record to update not found"))
    | some own =>
      if s.hasReceipt event.id then
        s.finish call (.threw (.other "Unique constraint failed on the fields: (eventId)"))
      else
        (s.written event own row plan current invoice period).finish call (.responded .received)

def advance : StripeBillingDb :=
  match s.phases call with
  | .checked event subscriptionId => s.setPhase call (s.checkRemote event subscriptionId)
  | .retrieved event remote =>
    match s.lockedBy with
    | some _ => s
    | none =>
      match s.readLocked event remote with
      | .locked event row plan =>
        { s.setPhase call (.locked event row plan) with lockedBy := some call }
      | phase => s.setPhase call phase
  | .locked event row plan =>
    match s.fetchCurrent config event row plan with
    | .threw error => s.finish call (.threw error)
    | phase => s.setPhase call phase
  | .fetched event row plan current priceId latest =>
    match s.chooseInvoice event row plan current priceId latest with
    | .threw error => s.finish call (.threw error)
    | phase => s.setPhase call phase
  | .chosen event row plan current priceId invoice =>
    s.commit call event row plan current priceId invoice
  | _ => s

def step : StripeAction → StripeBillingDb
  | .tick elapsed => { s with clock := s.clock + elapsed }
  | .change remote remoteInvoices => { s with remote := remote, remoteInvoices := remoteInvoices }
  | .deliver call event =>
    match s.phases call with
    | .waiting => s.setPhase call (s.checkEvent event)
    | _ => s
  | .advance call => s.advance config call
  | .fail call message =>
    match s.phases call with
    | .responded _ => s
    | _ => s.finish call (.threw (.other message))

/-! ### What is promised -/

def paidPeriod (invoice : StripeInvoice) : Option (ℤ × ℤ) :=
  match s.plan s.remote with
  | none => none
  | some plan =>
    match config.priceId plan.code .monthly with
    | .error _ => none
    | .ok priceId => (invoice.paidPeriod plan s.remote.id priceId).toOption.join

def latest : Option StripeInvoice := s.remote.latestInvoice.bind s.retrieveInvoice

def Grants (until' : ℤ) : Prop :=
  ∃ row plan, s.subscription = some row ∧ s.plan s.remote = some plan ∧
    row.planId = some plan.id ∧ row.provider = .stripe ∧ until' ≤ row.accessEndsAt

/-- **What is paid for is granted**: once the latest invoice of an active subscription is
processed, which pays for a period, the account has the plan until its end. -/
def Granted : Prop :=
  s.remote.status = .active → ∀ invoice period, s.latest = some invoice →
    s.paidPeriod config invoice = some period → s.Recorded invoice.id → s.Grants period.2

/-- **A step that grants exactly what is paid for.** -/
structure Granting (action : StripeAction) : Prop where
  /-- An event takes effect once. -/
  effect : (s.step config action).subscription = s.subscription ∧
      (s.step config action).invoices = s.invoices ∧
        (s.step config action).receipts = s.receipts ∨
    ∃ eventId type, s.hasReceipt eventId = false ∧
      (s.step config action).receipts = s.receipts ++ [(eventId, type)]
  /-- An invoice is recorded once. -/
  once : ((s.step config action).invoices.filterMap BillingInvoice.stripeInvoiceId).Nodup
  /-- Access is raised to the end of a paid period. -/
  raised : ∀ row row', s.subscription = some row →
    (s.step config action).subscription = some row' → row.accessEndsAt < row'.accessEndsAt →
      ∃ invoice ∈ s.remoteInvoices, ∃ period, s.paidPeriod config invoice = some period ∧
        row'.accessEndsAt = period.2
  /-- Access is lowered when the subscription, as it was fetched, is revoked. -/
  lowered : ∀ row row', s.subscription = some row →
    (s.step config action).subscription = some row' → row'.accessEndsAt < row.accessEndsAt →
      ∃ call event own plan current priceId invoice, action = .advance call ∧
        s.phases call = .chosen event own plan current priceId invoice ∧ current.status.revoked
  granted : (s.step config action).Granted config

/-! ### What is asked for -/

/-- **What Stripe documents**: a subscription keeps its customer and its metadata, and an invoice
that is paid does not change. -/
def Documented : StripeAction → Prop
  | .change remote remoteInvoices =>
    remote.id = s.remote.id ∧ remote.customer = s.remote.customer ∧
      remote.metadata = s.remote.metadata ∧ remote.livemode = s.remote.livemode ∧
        ∀ id invoice, s.retrieveInvoice id = some invoice → invoice.status = .paid →
          KeyedRows.lookup StripeInvoice.id id remoteInvoices = some invoice
  | _ => True

/-- **Access from elsewhere does not shadow what is paid for.** A live subscription's latest invoice
is processed with the subscription live when fetched and access over before its period, unless the
account has the plan already; and no subscription becomes live with an invoice recorded before. -/
def Unshadowed : StripeAction → Prop
  | .advance call =>
    match s.phases call with
    | .chosen _ row plan current _ (some invoice) =>
      ∀ period, s.paidPeriod config invoice = some period → s.remote.status.live →
        s.remote.latestInvoice = some invoice.id →
          current.status.live ∧ (row.accessEndsAt < period.2 ∨
            row.planId = some plan.id ∧ row.provider = .stripe)
    | _ => True
  | .change remote _ =>
    ∀ id, remote.status.live → remote.latestInvoice = some id → s.Recorded id →
      s.remote.status.live ∧ s.remote.latestInvoice = some id
  | _ => True

structure Start : Prop where
  invoices : ∀ invoice ∈ s.invoices, invoice.stripeInvoiceId = none
  receipts : s.receipts = []
  lockedBy : s.lockedBy = none
  phases : ∀ call, s.phases call = .waiting

end StripeBillingDb

/-! ### What is written to the row -/

section Update

variable {own row : Subscription} {plan : Plan} {current : StripeSubscription}
  {period : Option (ℤ × ℤ)} {now : ℤ}

theorem webhookUpdate_raised
    (h : own.accessEndsAt < (webhookUpdate own own plan current period now).accessEndsAt) :
    ∃ paid, period = some paid ∧
      (webhookUpdate own own plan current period now).accessEndsAt = paid.2 := by
  unfold webhookUpdate at h ⊢
  dsimp only at h ⊢
  split at h
  · -- a revoked subscription does not raise access
    exact absurd h (not_lt.2 (min_le_right _ _))
  · rw [if_neg ‹_›]
    split at h
    · rename_i periodStart periodEnd
      split at h
      · exact ⟨_, rfl, by rw [if_pos ‹_›]⟩
      · exact absurd h (lt_irrefl _)
    · exact absurd h (lt_irrefl _)

theorem le_webhookUpdate (h : current.status.revoked = false) :
    own.accessEndsAt ≤ (webhookUpdate own own plan current period now).accessEndsAt := by
  unfold webhookUpdate
  dsimp only
  rw [if_neg (by rw [h]; decide)]
  split
  · split
    · rename_i hraise
      exact hraise.1.le
    · exact le_rfl
  · exact le_rfl

theorem webhookUpdate_onPlan (h : own.planId = some plan.id ∧ own.provider = .stripe) :
    (webhookUpdate own row plan current period now).planId = some plan.id ∧
      (webhookUpdate own row plan current period now).provider = .stripe := by
  unfold webhookUpdate
  dsimp only
  split <;> split
  · split
    · exact ⟨rfl, rfl⟩
    · exact h
  · exact h
  · split
    · exact ⟨rfl, rfl⟩
    · exact h
  · exact h

theorem webhookUpdate_grants {paid : ℤ × ℤ} (hlive : current.status.live)
    (h : own.accessEndsAt < paid.2 ∨ own.planId = some plan.id ∧ own.provider = .stripe) :
    (webhookUpdate own own plan current (some paid) now).planId = some plan.id ∧
      (webhookUpdate own own plan current (some paid) now).provider = .stripe ∧
        paid.2 ≤ (webhookUpdate own own plan current (some paid) now).accessEndsAt := by
  by_cases hlater : own.accessEndsAt < paid.2
  · unfold webhookUpdate
    dsimp only
    rw [if_neg (by rw [StripeStatus.not_revoked_of_live hlive]; decide), if_pos ⟨hlater, hlive⟩]
    exact ⟨rfl, rfl, le_rfl⟩
  · have honPlan : (webhookUpdate own own plan current (some paid) now).planId = some plan.id ∧
        (webhookUpdate own own plan current (some paid) now).provider = .stripe :=
      webhookUpdate_onPlan (h.resolve_left hlater)
    refine ⟨honPlan.1, honPlan.2, le_trans (not_lt.1 hlater) ?_⟩
    exact le_webhookUpdate (StripeStatus.not_revoked_of_live hlive)

end Update

/-! ### The invariant -/

def StripePhase.inTransaction : StripePhase → Bool
  | .locked .. | .fetched .. | .chosen .. => true
  | _ => false

namespace StripeBillingDb

variable (config : StripeConfig) (s : StripeBillingDb)

/-- The status that was fetched is live, if the subscription has become live since with a latest
invoice that is recorded. -/
def StatusKept (current : StripeSubscription) : Prop :=
  ∀ id, s.remote.status.live → s.remote.latestInvoice = some id → s.Recorded id →
    current.status.live

def InvoiceKept (invoice : StripeInvoice) : Prop :=
  invoice.status = .paid → s.retrieveInvoice invoice.id = some invoice

structure FetchedInv (row : Subscription) (plan : Plan) (current : StripeSubscription)
    (priceId : String) (invoice : Option StripeInvoice) : Prop where
  row : s.subscription = some row
  onPlan : s.plan s.remote = some plan
  id : current.id = s.remote.id
  price : config.priceId plan.code .monthly = .ok priceId
  status : s.StatusKept current
  invoice : ∀ own, invoice = some own → s.InvoiceKept own

def PhaseInv : StripePhase → Prop
  | .retrieved _ remote => remote.metadata = s.remote.metadata
  | .locked _ row plan => s.subscription = some row ∧ s.plan s.remote = some plan
  | .fetched _ row plan current priceId latest =>
    s.FetchedInv config row plan current priceId latest
  | .chosen _ row plan current priceId invoice =>
    s.FetchedInv config row plan current priceId invoice
  | _ => True

structure Inv : Prop where
  lockedBy : ∀ call, (s.phases call).inTransaction → s.lockedBy = some call
  phase : ∀ call, s.PhaseInv config (s.phases call)
  once : (s.invoices.filterMap BillingInvoice.stripeInvoiceId).Nodup
  recorded : ∀ id, s.Recorded id → ∃ invoice, s.retrieveInvoice id = some invoice ∧
    invoice.status = .paid
  granted : s.remote.status.live → ∀ invoice period, s.latest = some invoice →
    s.paidPeriod config invoice = some period → s.Recorded invoice.id → s.Grants period.2

variable {config s}

theorem Start.inv (h : s.Start) : s.Inv config := by
  have hnone : ∀ id, ¬ s.Recorded id := by
    rintro id ⟨invoice, hmem, hid⟩
    rw [h.invoices invoice hmem] at hid
    cases hid
  refine ⟨?_, ?_, ?_, fun id hid => absurd hid (hnone id), ?_⟩
  · intro call hcall
    rw [h.phases call] at hcall
    cases hcall
  · intro call
    rw [h.phases call]
    exact trivial
  · have hempty : s.invoices.filterMap BillingInvoice.stripeInvoiceId = [] :=
      List.filterMap_eq_nil_iff.2 h.invoices
    rw [hempty]
    exact List.nodup_nil
  · intro _ invoice _ _ _ hrecorded
    exact absurd hrecorded (hnone invoice.id)

theorem Inv.granted_active (h : s.Inv config) : s.Granted config := by
  intro hactive
  exact h.granted (by rw [hactive]; rfl)

theorem PhaseInv.move {phase : StripePhase} (h : s.PhaseInv config phase)
    (phases : ℕ → StripePhase) (lockedBy : Option ℕ) :
    ({ s with phases := phases, lockedBy := lockedBy } : StripeBillingDb).PhaseInv config
      phase := by
  cases phase with
  | retrieved event remote => exact h
  | locked event row plan => exact h
  | fetched event row plan current priceId latest =>
    exact ⟨h.row, h.onPlan, h.id, h.price, h.status, h.invoice⟩
  | chosen event row plan current priceId invoice =>
    exact ⟨h.row, h.onPlan, h.id, h.price, h.status, h.invoice⟩
  | waiting | checked | responded | threw => exact trivial

theorem Inv.move (h : s.Inv config) {s' : StripeBillingDb} {call : ℕ} {phase : StripePhase}
    (hbooks : s' =
      { s with phases := Function.update s.phases call phase, lockedBy := s'.lockedBy })
    (hphase : s.PhaseInv config phase) (hlock : phase.inTransaction → s'.lockedBy = some call)
    (hothers : ∀ other, other ≠ call → s.lockedBy = some other → s'.lockedBy = some other) :
    s'.Inv config := by
  rw [hbooks]
  refine ⟨?_, ?_, h.once, h.recorded, h.granted⟩
  · intro other hother
    change (Function.update s.phases call phase other).inTransaction at hother
    rcases eq_or_ne other call with rfl | hne
    · rw [Function.update_self] at hother
      exact hlock hother
    · rw [Function.update_of_ne hne] at hother
      exact hothers other hne (h.lockedBy other hother)
  · intro other
    refine PhaseInv.move ?_ _ _
    change s.PhaseInv config (Function.update s.phases call phase other)
    rcases eq_or_ne other call with rfl | hne
    · rwa [Function.update_self]
    · rw [Function.update_of_ne hne]
      exact h.phase other

theorem Inv.finish (h : s.Inv config) {call : ℕ} {phase : StripePhase}
    (hphase : phase.inTransaction = false) (hinv : s.PhaseInv config phase) :
    (s.finish call phase).Inv config := by
  refine h.move rfl hinv (fun hin => absurd (hphase.symm.trans hin) Bool.false_ne_true) ?_
  intro other hne hother
  change (if s.lockedBy = some call then none else s.lockedBy) = some other
  rw [if_neg, hother]
  rw [hother]
  exact fun hsame => hne (Option.some.inj hsame)

theorem Inv.setPhase (h : s.Inv config) {call : ℕ} {phase : StripePhase}
    (hphase : phase.inTransaction → s.lockedBy = some call) (hinv : s.PhaseInv config phase) :
    (s.setPhase call phase).Inv config :=
  h.move rfl hinv hphase fun _ _ hother => hother

/-! ### Reading -/

theorem checkEvent_outside (event : StripeEvent) :
    (s.checkEvent event).inTransaction = false ∧ s.PhaseInv config (s.checkEvent event) := by
  unfold checkEvent
  repeat' split
  all_goals exact ⟨rfl, trivial⟩

theorem checkRemote_outside (event : StripeEvent) (subscriptionId : String) :
    (s.checkRemote event subscriptionId).inTransaction = false ∧
      s.PhaseInv config (s.checkRemote event subscriptionId) := by
  unfold checkRemote retrieve
  split
  · exact ⟨rfl, trivial⟩
  · rename_i remote hremote
    split at hremote
    · obtain rfl := Except.ok.inj hremote
      repeat' split
      · exact ⟨rfl, trivial⟩
      · exact ⟨rfl, trivial⟩
      · exact ⟨rfl, rfl⟩
    · cases hremote

theorem readLocked_inv {event : StripeEvent} {remote : StripeSubscription}
    (h : remote.metadata = s.remote.metadata) :
    s.PhaseInv config (s.readLocked event remote) := by
  have hplan : s.plan remote = s.plan s.remote := by rw [plan, plan, h]
  unfold readLocked
  split
  · exact trivial
  · split
    · exact trivial
    · rename_i row hrow
      split
      · split
        · exact trivial
        · rename_i plan hfound
          refine ⟨?_, hplan.symm.trans hfound⟩
          split at hrow
          · exact hrow
          · cases hrow
      · exact trivial

theorem planItem_price {current : StripeSubscription} {plan : Plan} {item : StripeItem}
    (h : current.planItem config plan = .ok item) :
    config.priceId plan.code .monthly = .ok item.price.id := by
  unfold StripeSubscription.planItem at h
  split at h
  · split at h
    · split at h
      · cases h
      · rename_i priceId hprice
        split at h
        · cases h
        · rename_i hid
          split at h
          · obtain rfl := Except.ok.inj h
            rw [hprice, not_not.1 hid]
          · cases h
    · cases h
  · cases h

theorem retrieveInvoice_id {id : String} {invoice : StripeInvoice}
    (h : s.retrieveInvoice id = some invoice) : invoice.id = id :=
  (KeyedRows.lookup_some StripeInvoice.id h).2

theorem invoiceKept_of_retrieve {id : String} {invoice : StripeInvoice}
    (h : s.retrieveInvoice id = some invoice) : s.InvoiceKept invoice := by
  intro _
  rwa [retrieveInvoice_id h]

theorem fetchCurrent_inv {event : StripeEvent} {row : Subscription} {plan : Plan}
    (hrow : s.subscription = some row) (hplan : s.plan s.remote = some plan) :
    s.PhaseInv config (s.fetchCurrent config event row plan) := by
  unfold fetchCurrent
  split
  · exact trivial
  · rename_i item hitem
    refine ⟨hrow, hplan, rfl, planItem_price hitem, fun _ hlive _ _ => hlive, ?_⟩
    intro invoice hinvoice
    obtain ⟨id, -, hid⟩ := Option.bind_eq_some_iff.1 hinvoice
    exact invoiceKept_of_retrieve hid

theorem chooseInvoice_inv {event : StripeEvent} {row : Subscription} {plan : Plan}
    {current : StripeSubscription} {priceId : String} {latest : Option StripeInvoice}
    (h : s.FetchedInv config row plan current priceId latest) :
    s.PhaseInv config (s.chooseInvoice event row plan current priceId latest) := by
  unfold chooseInvoice
  split
  · split
    · rename_i invoice hinvoice
      refine ⟨h.row, h.onPlan, h.id, h.price, h.status, ?_⟩
      rintro own ⟨⟩
      exact invoiceKept_of_retrieve hinvoice
    · exact trivial
  · exact h

/-! ### Writing -/

theorem status_of_paidPeriod {invoice : StripeInvoice} {plan : Plan}
    {subscriptionId priceId : String} {period : ℤ × ℤ}
    (h : invoice.paidPeriod plan subscriptionId priceId = .ok (some period)) :
    invoice.status = .paid := by
  unfold StripeInvoice.paidPeriod at h
  split at h
  · rename_i hpays
    exact hpays.1
  · cases h

theorem chosenPeriod_some {plan : Plan} {subscriptionId priceId : String}
    {invoice : Option StripeInvoice} {period : ℤ × ℤ}
    (h : chosenPeriod plan subscriptionId priceId invoice = .ok (some period)) :
    ∃ own, invoice = some own ∧ own.paidPeriod plan subscriptionId priceId = .ok (some period) := by
  cases invoice with
  | none => cases h
  | some own => exact ⟨own, rfl, h⟩

variable {event : StripeEvent} {row : Subscription} {plan : Plan} {current : StripeSubscription}
  {priceId : String} {invoice : Option StripeInvoice} {period : Option (ℤ × ℤ)}

theorem FetchedInv.paidPeriod (h : s.FetchedInv config row plan current priceId invoice)
    {own : StripeInvoice} {paid : ℤ × ℤ}
    (hpaid : own.paidPeriod plan current.id priceId = .ok (some paid)) :
    s.paidPeriod config own = some paid := by
  rw [h.id] at hpaid
  simp only [StripeBillingDb.paidPeriod, h.onPlan, h.price, hpaid]
  rfl

theorem recorded_written {id : String}
    (h : (s.written event row row plan current invoice period).Recorded id) :
    s.Recorded id ∨ ∃ own paid, invoice = some own ∧ period = some paid ∧ own.id = id := by
  obtain ⟨billed, hmem, hid⟩ := h
  cases invoice with
  | none => exact Or.inl ⟨billed, hmem, hid⟩
  | some own =>
    cases period with
    | none => exact Or.inl ⟨billed, hmem, hid⟩
    | some paid =>
      change billed ∈ s.upsertInvoice event plan own paid at hmem
      unfold upsertInvoice at hmem
      split at hmem
      · exact Or.inl ⟨billed, hmem, hid⟩
      · rcases Ledger.mem_concat.1 hmem with hold | rfl
        · exact Or.inl ⟨billed, hold, hid⟩
        · exact Or.inr ⟨own, paid, rfl, rfl, Option.some.inj hid⟩

theorem Inv.once_written (h : s.Inv config) :
    ((s.written event row row plan current invoice period).invoices.filterMap
      BillingInvoice.stripeInvoiceId).Nodup := by
  cases invoice with
  | none => exact h.once
  | some own =>
    cases period with
    | none => exact h.once
    | some paid =>
      change ((s.upsertInvoice event plan own paid).filterMap _).Nodup
      unfold upsertInvoice
      split
      · exact h.once
      · rename_i hfresh
        rw [List.filterMap_append]
        refine List.nodup_append'.2 ⟨h.once, List.nodup_singleton _, ?_⟩
        intro id hold hnew
        obtain ⟨billed, hmem, hid⟩ := List.mem_filterMap.1 hold
        obtain rfl := List.mem_singleton.1 hnew
        exact hfresh ⟨billed, hmem, hid⟩

theorem PhaseInv.outside {s' : StripeBillingDb} {phase : StripePhase}
    (h : s.PhaseInv config phase) (houtside : phase.inTransaction = false)
    (hremote : s'.remote.metadata = s.remote.metadata) : s'.PhaseInv config phase := by
  cases phase with
  | retrieved event remote => exact h.trans hremote.symm
  | locked | fetched | chosen => cases houtside
  | waiting | checked | responded | threw => exact trivial

theorem Inv.granted_written (h : s.Inv config)
    (hfetched : s.FetchedInv config row plan current priceId invoice)
    (hchosen : chosenPeriod plan current.id priceId invoice = .ok period)
    (hunshadowed : ∀ own, invoice = some own → ∀ paid, s.paidPeriod config own = some paid →
      s.remote.status.live → s.remote.latestInvoice = some own.id →
        current.status.live ∧ (row.accessEndsAt < paid.2 ∨
          row.planId = some plan.id ∧ row.provider = .stripe))
    (hlive : s.remote.status.live) {latest : StripeInvoice} {paid : ℤ × ℤ}
    (hlatest : s.latest = some latest) (hpaid : s.paidPeriod config latest = some paid)
    (hrecorded : (s.written event row row plan current invoice period).Recorded latest.id) :
    (s.written event row row plan current invoice period).Grants paid.2 := by
  obtain ⟨id, hid, hretrieve⟩ := Option.bind_eq_some_iff.1 hlatest
  obtain rfl := retrieveInvoice_id hretrieve
  refine ⟨_, plan, rfl, hfetched.onPlan, ?_⟩
  rcases recorded_written hrecorded with hold | ⟨own, found, rfl, rfl, hsame⟩
  · -- the invoice was granted before, and the subscription is not revoked since
    obtain ⟨own, found, hrow, hplan, honPlan, hprovider, huntil⟩ :=
      h.granted hlive latest paid hlatest hpaid hold
    obtain rfl := Option.some.inj (hrow.symm.trans hfetched.row)
    obtain rfl := Option.some.inj (hplan.symm.trans hfetched.onPlan)
    refine ⟨(webhookUpdate_onPlan ⟨honPlan, hprovider⟩).1,
      (webhookUpdate_onPlan ⟨honPlan, hprovider⟩).2, huntil.trans (le_webhookUpdate ?_)⟩
    exact StripeStatus.not_revoked_of_live (hfetched.status latest.id hlive hid hold)
  · -- it is the one that was chosen
    have hkept := hfetched.invoice own rfl (status_of_paidPeriod hchosen)
    obtain rfl : own = latest := by
      rw [hsame] at hkept
      exact Option.some.inj (hkept.symm.trans hretrieve)
    obtain rfl : found = paid :=
      Option.some.inj ((hfetched.paidPeriod hchosen).symm.trans hpaid)
    obtain ⟨hcurrent, hroom⟩ := hunshadowed own rfl found hpaid hlive hid
    exact webhookUpdate_grants hcurrent hroom

theorem Inv.commit (h : s.Inv config) {call : ℕ}
    (hphase : s.phases call = .chosen event row plan current priceId invoice)
    (hunshadowed : s.Unshadowed config (.advance call)) :
    (s.commit call event row plan current priceId invoice).Inv config := by
  have hfetched : s.FetchedInv config row plan current priceId invoice := by
    have hinv := h.phase call
    rwa [hphase] at hinv
  have hholds : s.lockedBy = some call := h.lockedBy call (by rw [hphase]; rfl)
  unfold StripeBillingDb.commit
  split
  · exact h.finish rfl trivial
  · rename_i period hchosen
    rw [hfetched.row]
    dsimp only
    split
    · exact h.finish rfl trivial
    · have honce : ((s.written event row row plan current invoice period).invoices.filterMap
          BillingInvoice.stripeInvoiceId).Nodup := h.once_written
      refine ⟨?_, ?_, honce, ?_, ?_⟩
      · intro other hother
        change (Function.update s.phases call _ other).inTransaction at hother
        rcases eq_or_ne other call with rfl | hne
        · rw [Function.update_self] at hother
          cases hother
        · rw [Function.update_of_ne hne] at hother
          exact absurd (Option.some.inj ((h.lockedBy other hother).symm.trans hholds)) hne
      · intro other
        change PhaseInv config _ (Function.update s.phases call _ other)
        rcases eq_or_ne other call with rfl | hne
        · rw [Function.update_self]
          exact trivial
        · rw [Function.update_of_ne hne]
          refine (h.phase other).outside ?_ rfl
          by_contra hin
          have hother := h.lockedBy other (by simpa using hin)
          exact hne (Option.some.inj (hother.symm.trans hholds))
      · intro id hid
        have hwritten : (s.written event row row plan current invoice period).Recorded id := hid
        rcases recorded_written hwritten with hold | ⟨own, paid, rfl, rfl, rfl⟩
        · exact h.recorded id hold
        · have hpaid := status_of_paidPeriod hchosen
          exact ⟨own, hfetched.invoice own rfl hpaid, hpaid⟩
      · intro hlive latest paid hlatest hpaid hrecorded
        refine h.granted_written hfetched hchosen ?_ hlive hlatest hpaid hrecorded
        intro own hown found hfound hremote hid
        simp only [Unshadowed, hphase, hown] at hunshadowed
        exact hunshadowed found hfound hremote hid

theorem PhaseInv.change {remote : StripeSubscription} {remoteInvoices : List StripeInvoice}
    {phase : StripePhase} (h : s.PhaseInv config phase)
    (hdocumented : s.Documented (.change remote remoteInvoices))
    (hunshadowed : s.Unshadowed config (.change remote remoteInvoices)) :
    (s.step config (.change remote remoteInvoices)).PhaseInv config phase := by
  obtain ⟨hid, -, hmetadata, -, hinvoices⟩ := hdocumented
  have hplan : (s.step config (.change remote remoteInvoices)).plan remote = s.plan s.remote := by
    change s.plans.find? _ = s.plans.find? _
    rw [hmetadata]
  have hfetched : ∀ {row plan current priceId invoice},
      s.FetchedInv config row plan current priceId invoice →
        (s.step config (.change remote remoteInvoices)).FetchedInv config row plan current priceId
          invoice := by
    intro row plan current priceId invoice hinv
    refine ⟨hinv.row, hplan.trans hinv.onPlan, hinv.id.trans hid.symm, hinv.price, ?_, ?_⟩
    · intro latest hlive hlatest hrecorded
      obtain ⟨hwas, hsame⟩ := hunshadowed latest hlive hlatest hrecorded
      exact hinv.status latest hwas hsame hrecorded
    · intro own hown hpaid
      exact hinvoices own.id own (hinv.invoice own hown hpaid) hpaid
  cases phase with
  | retrieved event own => exact h.trans hmetadata.symm
  | locked event row plan => exact ⟨h.1, hplan.trans h.2⟩
  | fetched event row plan current priceId latest => exact hfetched h
  | chosen event row plan current priceId invoice => exact hfetched h
  | waiting | checked | responded | threw => exact trivial

theorem Inv.change (h : s.Inv config) {remote : StripeSubscription}
    {remoteInvoices : List StripeInvoice}
    (hdocumented : s.Documented (.change remote remoteInvoices))
    (hunshadowed : s.Unshadowed config (.change remote remoteInvoices)) :
    (s.step config (.change remote remoteInvoices)).Inv config := by
  have hphases := fun call => (h.phase call).change hdocumented hunshadowed
  obtain ⟨hid, -, hmetadata, -, hinvoices⟩ := hdocumented
  have hplan : (s.step config (.change remote remoteInvoices)).plan remote = s.plan s.remote := by
    change s.plans.find? _ = s.plans.find? _
    rw [hmetadata]
  refine ⟨h.lockedBy, hphases, h.once, ?_, ?_⟩
  · intro id hrecorded
    obtain ⟨invoice, hretrieve, hpaid⟩ := h.recorded id hrecorded
    exact ⟨invoice, hinvoices id invoice hretrieve hpaid, hpaid⟩
  · intro hlive invoice period hlatest hpaid hrecorded
    obtain ⟨id, hremote, hretrieve⟩ := Option.bind_eq_some_iff.1 hlatest
    obtain rfl := retrieveInvoice_id hretrieve
    obtain ⟨hwas, hsame⟩ := hunshadowed invoice.id hlive hremote hrecorded
    obtain ⟨own, hown, hownPaid⟩ := h.recorded invoice.id hrecorded
    obtain rfl : own = invoice :=
      Option.some.inj ((hinvoices own.id own (by rwa [retrieveInvoice_id hown])
        hownPaid).symm.trans (by rwa [retrieveInvoice_id hown]))
    have hperiod : s.paidPeriod config own = some period := by
      unfold StripeBillingDb.paidPeriod at hpaid ⊢
      change (match (s.step config (.change remote remoteInvoices)).plan remote with
        | none => none
        | some plan =>
          match config.priceId plan.code .monthly with
          | .error _ => none
          | .ok priceId => (own.paidPeriod plan remote.id priceId).toOption.join) = _ at hpaid
      rwa [hplan, hid] at hpaid
    have hwasLatest : s.latest = some own := by
      rw [StripeBillingDb.latest, hsame]
      exact hown
    obtain ⟨row, plan, hrow, hfound, hgrants⟩ :=
      h.granted hwas own period hwasLatest hperiod hrecorded
    exact ⟨row, plan, hrow, hplan.trans hfound, hgrants⟩

/-! ### Steps -/

theorem step_idle_or_commit (action : StripeAction) :
    ((s.step config action).subscription = s.subscription ∧
      (s.step config action).invoices = s.invoices ∧
        (s.step config action).receipts = s.receipts) ∨
    ∃ call event row plan current priceId invoice period own, action = .advance call ∧
      s.phases call = .chosen event row plan current priceId invoice ∧
        chosenPeriod plan current.id priceId invoice = .ok period ∧ s.subscription = some own ∧
          s.hasReceipt event.id = false ∧
            s.step config action =
              (s.written event own row plan current invoice period).finish call
                (.responded .received) := by
  cases action with
  | tick elapsed => exact Or.inl ⟨rfl, rfl, rfl⟩
  | change remote remoteInvoices => exact Or.inl ⟨rfl, rfl, rfl⟩
  | deliver call event =>
    refine Or.inl ?_
    unfold StripeBillingDb.step
    dsimp only
    split <;> exact ⟨rfl, rfl, rfl⟩
  | fail call message =>
    refine Or.inl ?_
    unfold StripeBillingDb.step
    dsimp only
    split <;> exact ⟨rfl, rfl, rfl⟩
  | advance call =>
    cases hphase : s.phases call with
    | chosen event row plan current priceId invoice =>
      simp only [StripeBillingDb.step, advance, hphase]
      unfold StripeBillingDb.commit
      split
      · exact Or.inl ⟨rfl, rfl, rfl⟩
      · rename_i period hchosen
        split
        · exact Or.inl ⟨rfl, rfl, rfl⟩
        · rename_i own hown
          split
          · exact Or.inl ⟨rfl, rfl, rfl⟩
          · rename_i hfresh
            exact Or.inr ⟨call, event, row, plan, current, priceId, invoice, period, own, rfl,
              hphase, hchosen, hown, by simpa using hfresh, rfl⟩
    | retrieved event remote =>
      refine Or.inl ?_
      simp only [StripeBillingDb.step, advance, hphase]
      split
      · exact ⟨rfl, rfl, rfl⟩
      · split <;> exact ⟨rfl, rfl, rfl⟩
    | locked event row plan =>
      refine Or.inl ?_
      simp only [StripeBillingDb.step, advance, hphase]
      split <;> exact ⟨rfl, rfl, rfl⟩
    | fetched event row plan current priceId latest =>
      refine Or.inl ?_
      simp only [StripeBillingDb.step, advance, hphase]
      split <;> exact ⟨rfl, rfl, rfl⟩
    | checked event subscriptionId =>
      refine Or.inl ?_
      simp only [StripeBillingDb.step, advance, hphase]
      exact ⟨rfl, rfl, rfl⟩
    | waiting | responded | threw =>
      refine Or.inl ?_
      simp only [StripeBillingDb.step, advance, hphase]
      exact ⟨trivial, trivial, trivial⟩

theorem Inv.advance (h : s.Inv config) {call : ℕ}
    (hunshadowed : s.Unshadowed config (.advance call)) : (s.advance config call).Inv config := by
  have hinv := h.phase call
  have hlock := h.lockedBy call
  cases hphase : s.phases call with
  | checked event subscriptionId =>
    simp only [StripeBillingDb.advance, hphase]
    obtain ⟨houtside, hread⟩ := @checkRemote_outside config s event subscriptionId
    exact h.setPhase (fun hin => absurd (houtside.symm.trans hin) Bool.false_ne_true) hread
  | retrieved event remote =>
    rw [hphase] at hinv
    have hread := @readLocked_inv config s event remote hinv
    simp only [StripeBillingDb.advance, hphase]
    split
    · exact h
    · rename_i hfree
      split
      · rename_i locked row plan hlocked
        rw [hlocked] at hread
        refine h.move rfl hread (fun _ => rfl) ?_
        intro other _ hother
        rw [hfree] at hother
        cases hother
      · rename_i hnot
        refine h.setPhase (fun hin => ?_) hread
        unfold readLocked at hin hnot
        split at hin
        · cases hin
        · split at hin
          · cases hin
          · split at hin
            · split at hin
              · cases hin
              · simp_all
            · cases hin
  | locked event row plan =>
    rw [hphase] at hinv hlock
    have hread := @fetchCurrent_inv config s event row plan hinv.1 hinv.2
    simp only [StripeBillingDb.advance, hphase]
    split
    · exact h.finish rfl trivial
    · exact h.setPhase (fun _ => hlock rfl) hread
  | fetched event row plan current priceId latest =>
    rw [hphase] at hinv hlock
    have hread := @chooseInvoice_inv config s event row plan current priceId latest hinv
    simp only [StripeBillingDb.advance, hphase]
    split
    · exact h.finish rfl trivial
    · exact h.setPhase (fun _ => hlock rfl) hread
  | chosen event row plan current priceId invoice =>
    simp only [StripeBillingDb.advance, hphase]
    exact h.commit hphase hunshadowed
  | waiting | responded | threw => simpa only [StripeBillingDb.advance, hphase] using h

theorem Inv.step (h : s.Inv config) {action : StripeAction} (hdocumented : s.Documented action)
    (hunshadowed : s.Unshadowed config action) : (s.step config action).Inv config := by
  cases action with
  | tick elapsed =>
    refine ⟨h.lockedBy, fun call => ?_, h.once, h.recorded, h.granted⟩
    have hinv := h.phase call
    change PhaseInv config { s with clock := s.clock + elapsed } (s.phases call)
    cases hphase : s.phases call with
    | retrieved event remote =>
      rw [hphase] at hinv
      exact hinv
    | locked event row plan =>
      rw [hphase] at hinv
      exact hinv
    | fetched event row plan current priceId latest =>
      rw [hphase] at hinv
      exact ⟨hinv.row, hinv.onPlan, hinv.id, hinv.price, hinv.status, hinv.invoice⟩
    | chosen event row plan current priceId invoice =>
      rw [hphase] at hinv
      exact ⟨hinv.row, hinv.onPlan, hinv.id, hinv.price, hinv.status, hinv.invoice⟩
    | waiting | checked | responded | threw => exact trivial
  | change remote remoteInvoices => exact h.change hdocumented hunshadowed
  | deliver call event =>
    unfold StripeBillingDb.step
    dsimp only
    split
    · obtain ⟨houtside, hread⟩ := @checkEvent_outside config s event
      exact h.setPhase (fun hin => absurd (houtside.symm.trans hin) Bool.false_ne_true) hread
    · exact h
  | advance call => exact h.advance hunshadowed
  | fail call message =>
    unfold StripeBillingDb.step
    dsimp only
    split
    · exact h
    · exact h.finish rfl trivial

theorem Inv.granting (h : s.Inv config) {action : StripeAction} (hdocumented : s.Documented action)
    (hunshadowed : s.Unshadowed config action) : s.Granting config action := by
  have hafter := h.step hdocumented hunshadowed
  rcases @step_idle_or_commit config s action with hidle |
    ⟨call, event, row, plan, current, priceId, invoice, period, own, rfl, hphase, hchosen, hown,
      hfresh, hstep⟩
  · refine ⟨Or.inl hidle, hafter.once, ?_, ?_, hafter.granted_active⟩
    · intro own own' hown hown' hlt
      rw [hidle.1] at hown'
      obtain rfl := Option.some.inj (hown.symm.trans hown')
      exact absurd hlt (lt_irrefl _)
    · intro own own' hown hown' hlt
      rw [hidle.1] at hown'
      obtain rfl := Option.some.inj (hown.symm.trans hown')
      exact absurd hlt (lt_irrefl _)
  · have hfetched : s.FetchedInv config row plan current priceId invoice := by
      have hinv := h.phase call
      rwa [hphase] at hinv
    obtain rfl := Option.some.inj (hfetched.row.symm.trans hown)
    have hwritten : ∀ row', (s.step config (.advance call)).subscription = some row' →
        row' = webhookUpdate row row plan current period s.clock := by
      intro row' hrow'
      rw [hstep] at hrow'
      exact (Option.some.inj hrow').symm
    refine ⟨Or.inr ⟨event.id, event.type, hfresh, ?_⟩, hafter.once, ?_, ?_, hafter.granted_active⟩
    · rw [hstep]
      rfl
    · intro own own' hrow hrow' hlt
      obtain rfl := Option.some.inj (hown.symm.trans hrow)
      rw [hwritten own' hrow'] at hlt ⊢
      obtain ⟨paid, rfl, haccess⟩ := webhookUpdate_raised hlt
      obtain ⟨bought, rfl, hbought⟩ := chosenPeriod_some hchosen
      have hkept := hfetched.invoice bought rfl (status_of_paidPeriod hbought)
      exact ⟨bought, (KeyedRows.lookup_some StripeInvoice.id hkept).1, paid,
        hfetched.paidPeriod hbought, haccess⟩
    · intro own own' hrow hrow' hlt
      obtain rfl := Option.some.inj (hown.symm.trans hrow)
      rw [hwritten own' hrow'] at hlt
      refine ⟨call, event, row, plan, current, priceId, invoice, rfl, hphase, ?_⟩
      by_contra hnot
      exact absurd hlt (not_lt.2 (le_webhookUpdate (by simpa using hnot)))

end StripeBillingDb

/-- **Stripe's events grant exactly what is paid for**, in any order and however often they are
delivered, when access from elsewhere does not shadow it: an event takes effect once, an invoice is
recorded once, access is raised to the end of a paid period only and lowered only when the
subscription is revoked, and an active subscription whose latest invoice is processed has its plan
until the end of the period. -/
theorem stripeWebhooks (config : StripeConfig) {s : StripeBillingDb} (hstart : s.Start)
    {acts : List StripeAction}
    (hdocumented : Machine.Along (StripeBillingDb.step config) StripeBillingDb.Documented s acts)
    (h : Machine.Along (StripeBillingDb.step config) (StripeBillingDb.Unshadowed config) s acts) :
    Machine.Along (StripeBillingDb.step config) (StripeBillingDb.Granting config) s acts :=
  Machine.Along.of_keeps (fun _ _ hinv hmeets => hinv.step hmeets.1 hmeets.2)
    (fun _ _ hinv hmeets => hinv.granting hmeets.1 hmeets.2) hstart.inv (hdocumented.and h)

/-! ### Runs -/

def stripeStarter : Plan where
  id := "starter"
  code := "STARTER"
  name := "Starter"
  monthlyPrice := some 99

def stripePrices : StripeConfig := fun name =>
  if name = "STRIPE_STARTER_MONTHLY_PRICE_ID" then some "price_starter" else none

def starterPrice : StripePrice where
  id := "price_starter"
  currency := "mad"
  unitAmount := some 9900
  recurring := some ⟨"month", 1, "licensed"⟩

def starterSubscription : StripeSubscription where
  id := "sub_1"
  customer := "cus_1"
  metadata :=
    { app := some "zomaal"
      billingEnvironment := some "staging"
      ownerUserId := some "owner"
      localSubscriptionId := some "subscription"
      planId := some "starter"
      checkoutRequestId := some "request" }
  status := .active
  items := [⟨some 1, starterPrice⟩]
  latestInvoice := some "in_1"

def firstMonth : StripeInvoice where
  id := "in_1"
  status := .paid
  currency := "mad"
  amountDue := 9900
  amountPaid := 9900
  subscription := some "sub_1"
  lines := [⟨some "price_starter", some 1, 0, 2592000⟩]

def firstMonthPaid : StripeEvent where
  id := "evt_1"
  type := .invoicePaid
  created := 0
  object := .invoice "in_1" (some "sub_1")

def boughtStarter (accessEndsAt : ℤ) : StripeBillingDb where
  ownerId := "owner"
  plans := [stripeStarter]
  subscription := some
    { id := "subscription", accessEndsAt := accessEndsAt, stripeCustomerId := some "cus_1",
      stripeCheckoutRequestId := some "request" }
  remote := starterSubscription
  remoteInvoices := [firstMonth]

def firstDelivery : List StripeAction :=
  [.deliver 0 firstMonthPaid, .advance 0, .advance 0, .advance 0, .advance 0, .advance 0]

/-- During a trial of sixty days the paid plan is not granted. -/
theorem stripeWebhooks_long_trial :
    (boughtStarter 5184000000).Start ∧
      Machine.Along (StripeBillingDb.step stripePrices) StripeBillingDb.Documented
        (boughtStarter 5184000000) firstDelivery ∧
      ¬ Machine.Along (StripeBillingDb.step stripePrices)
        (StripeBillingDb.Granting stripePrices) (boughtStarter 5184000000) firstDelivery := by
  refine ⟨⟨(fun _ hmem => nomatch hmem), rfl, rfl, fun _ => rfl⟩,
    ⟨trivial, trivial, trivial, trivial, trivial, trivial, trivial⟩, fun h => ?_⟩
  have hsplit : Machine.Along (StripeBillingDb.step stripePrices)
      (StripeBillingDb.Granting stripePrices) (boughtStarter 5184000000)
        (firstDelivery.dropLast ++ [.advance 0]) := h
  obtain ⟨row, plan, hrow, -, hplan, -⟩ := (Machine.Along.append.1 hsplit).2.1.granted
    (by decide +kernel) firstMonth (0, 2592000000) (by decide +kernel) (by decide +kernel)
      (by decide +kernel)
  have hnone : (((Machine.run (StripeBillingDb.step stripePrices) (boughtStarter 5184000000)
      firstDelivery.dropLast).step stripePrices (.advance 0)).subscription.bind
        Subscription.planId) = none := by
    decide +kernel
  rw [hrow] at hnone
  cases hplan.symm.trans hnone

def endedSubscription : StripeSubscription :=
  { starterSubscription with status := .canceled, endedAt := some 864000 }

def subscriptionEnded : StripeEvent where
  id := "evt_2"
  type := .subscriptionDeleted
  created := 864000
  object := .subscription "sub_1"

section Unshadowed

variable {config : StripeConfig} {s : StripeBillingDb} {call : ℕ}

theorem StripeBillingDb.unshadowed_of_not_chosen
    (h : ∀ event row plan current priceId invoice,
      s.phases call ≠ .chosen event row plan current priceId invoice) :
    s.Unshadowed config (.advance call) := by
  unfold StripeBillingDb.Unshadowed
  dsimp only
  split
  · rename_i hphase
    exact absurd hphase (h _ _ _ _ _ _)
  · exact trivial

theorem StripeBillingDb.unshadowed_of_not_live (h : s.remote.status.live = false) :
    s.Unshadowed config (.advance call) := by
  unfold StripeBillingDb.Unshadowed
  dsimp only
  split
  · intro period _ hlive
    exact absurd (h.symm.trans hlive) Bool.false_ne_true
  · exact trivial

theorem StripeBillingDb.unshadowed_of_room {event : StripeEvent} {row : Subscription} {plan : Plan}
    {current : StripeSubscription} {priceId : String} {invoice : StripeInvoice} {period : ℤ × ℤ}
    (hphase : s.phases call = .chosen event row plan current priceId (some invoice))
    (hpaid : s.paidPeriod config invoice = some period) (hlive : current.status.live)
    (hroom : row.accessEndsAt < period.2) : s.Unshadowed config (.advance call) := by
  simp only [StripeBillingDb.Unshadowed, hphase]
  intro other hother _ _
  obtain rfl := Option.some.inj (hpaid.symm.trans hother)
  exact ⟨hlive, Or.inl hroom⟩

end Unshadowed

def StripePhase.choosing : StripePhase → Bool
  | .chosen .. => true
  | _ => false

theorem StripePhase.ne_chosen {phase : StripePhase} (h : phase.choosing = false)
    (event : StripeEvent) (row : Subscription) (plan : Plan) (current : StripeSubscription)
    (priceId : String) (invoice : Option StripeInvoice) :
    phase ≠ .chosen event row plan current priceId invoice := by
  rintro rfl
  cases h

/-- A plan is bought and ended. -/
theorem stripeWebhooks_ended :
    Machine.Along (StripeBillingDb.step stripePrices) (StripeBillingDb.Granting stripePrices)
      (boughtStarter 0)
      (firstDelivery ++ [.change endedSubscription [firstMonth], .deliver 1 subscriptionEnded,
        .advance 1, .advance 1, .advance 1, .advance 1, .advance 1]) := by
  have hstart : (boughtStarter 0).Start :=
    ⟨(fun _ hmem => nomatch hmem), rfl, rfl, fun _ => rfl⟩
  have hinvoices : (Machine.run (StripeBillingDb.step stripePrices) (boughtStarter 0)
      firstDelivery).remoteInvoices = [firstMonth] := by
    decide +kernel
  refine stripeWebhooks stripePrices hstart ?_ ?_
  · refine ⟨trivial, trivial, trivial, trivial, trivial, trivial,
      ⟨by decide +kernel, by decide +kernel, by decide +kernel, by decide +kernel, ?_⟩, trivial,
      trivial, trivial, trivial, trivial, trivial, trivial⟩
    intro id invoice hretrieve _
    rw [← hinvoices]
    exact hretrieve
  · refine ⟨trivial, ?_, ?_, ?_, ?_, ?_, ?_, trivial, ?_, ?_, ?_, ?_, ?_, trivial⟩
    · exact StripeBillingDb.unshadowed_of_not_chosen (StripePhase.ne_chosen (by decide +kernel))
    · exact StripeBillingDb.unshadowed_of_not_chosen (StripePhase.ne_chosen (by decide +kernel))
    · exact StripeBillingDb.unshadowed_of_not_chosen (StripePhase.ne_chosen (by decide +kernel))
    · exact StripeBillingDb.unshadowed_of_not_chosen (StripePhase.ne_chosen (by decide +kernel))
    · have hphase : (Machine.run (StripeBillingDb.step stripePrices) (boughtStarter 0)
          firstDelivery.dropLast).phases 0 =
            .chosen firstMonthPaid
              { id := "subscription", accessEndsAt := 0, stripeCustomerId := some "cus_1",
                stripeCheckoutRequestId := some "request" }
              stripeStarter starterSubscription "price_starter" (some firstMonth) := by
        decide +kernel
      have hpaid : (Machine.run (StripeBillingDb.step stripePrices) (boughtStarter 0)
          firstDelivery.dropLast).paidPeriod stripePrices firstMonth = some (0, 2592000000) := by
        decide +kernel
      exact StripeBillingDb.unshadowed_of_room hphase hpaid rfl (by decide)
    · intro id hlive
      cases hlive
    · exact StripeBillingDb.unshadowed_of_not_live (by decide +kernel)
    · exact StripeBillingDb.unshadowed_of_not_live (by decide +kernel)
    · exact StripeBillingDb.unshadowed_of_not_live (by decide +kernel)
    · exact StripeBillingDb.unshadowed_of_not_live (by decide +kernel)
    · exact StripeBillingDb.unshadowed_of_not_live (by decide +kernel)

end Zomaal
