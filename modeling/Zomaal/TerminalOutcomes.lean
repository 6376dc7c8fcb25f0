/-
**What an order came to, in whatever order its timeline is read.**

The outcome is the latest of the deliveries and failures among the events: of simultaneous ones the
first that is read.  The fee of the parcel is taken from the latest event of the courier, again the
first of simultaneous ones.

Main results:

* `terminalOutcome_alike_iff` — **the outcome is the same in all readings exactly when the latest
  deliveries and failures are of one type**;
* `terminalReadings` — **all readings are evaluated alike exactly when there is one outcome and one
  fee**.
-/

import Zomaal.Latest
import Zomaal.LedgerEvaluations

set_option autoImplicit false

namespace Zomaal

/-! ### What is read from a timeline -/

variable (event : TimelineEvent)

def TimelineEvent.terminal : Bool :=
  event.type = .delivered || event.type.terminalFailure

def TimelineEvent.fromAmeex : Bool :=
  (event.metadata.bind EventMetadata.carrier) = some "AMEEX"

def TimelineEvent.shipmentFee : Option ShipmentFee :=
  event.metadata.map fun metadata => ⟨metadata.fee, metadata.currency⟩

def TimelineEvent.fee : Option Decimal :=
  event.metadata.bind EventMetadata.fee

/-- An event as the services store it: a fee has four decimals and the currency of the courier. -/
def TimelineEvent.FeeStored : Prop :=
  ∀ metadata fee, event.metadata = some metadata → metadata.fee = some fee →
    toFixed4 fee = fee ∧ metadata.currency = some "MAD"

def OrderEventType.charged (type : OrderEventType) : Bool :=
  type = .delivered || type.shippedFailure

/-- Two fees are booked alike: they are the same, or there is a failure and neither is a cost. -/
def FeesAlike (type : OrderEventType) (fee other : Option Decimal) : Prop :=
  fee = other ∨ type ≠ .delivered ∧ ∃ x y, fee = some x ∧ other = some y ∧ x < 0 ∧ y < 0

def OneOutcome (events : List TimelineEvent) : Prop :=
  ∀ a b, Latest.IsLatest TimelineEvent.occurredAt a (events.filter TimelineEvent.terminal) →
    Latest.IsLatest TimelineEvent.occurredAt b (events.filter TimelineEvent.terminal) →
    a.type = b.type

/-- **The latest events of the courier tell one fee**, if the courier is paid for what happened
last. -/
def OneFee (events : List TimelineEvent) : Prop :=
  ∀ last, Latest.IsLatest TimelineEvent.occurredAt last (events.filter TimelineEvent.terminal) →
    last.type.charged = true →
    ∀ a b, Latest.IsLatest TimelineEvent.occurredAt a (events.filter TimelineEvent.fromAmeex) →
      Latest.IsLatest TimelineEvent.occurredAt b (events.filter TimelineEvent.fromAmeex) →
      FeesAlike last.type a.fee b.fee

/-- **All readings of a timeline come to the same outcome**, and their evaluations write the same to
the books and to the stock. -/
def ReadAlike (events : List TimelineEvent) : Prop :=
  ∀ read reread : List TimelineEvent, read.Perm events → reread.Perm events →
    deriveTerminalOutcome read = deriveTerminalOutcome reread ∧
      ∀ environment orderId s, syncFromTimelineEvents environment orderId read s =
        syncFromTimelineEvents environment orderId reread s

/-! ### The outcome -/

section Outcome

variable {events read reread : List TimelineEvent} {type : OrderEventType}

theorem deriveTerminalOutcome_nil (h : events.filter TimelineEvent.terminal = []) :
    deriveTerminalOutcome events = none := by
  change events.filter (fun event => event.type = .delivered || event.type.terminalFailure) = []
    at h
  rw [deriveTerminalOutcome, h]

theorem deriveTerminalOutcome_cons {first : TimelineEvent} {rest : List TimelineEvent}
    (h : events.filter TimelineEvent.terminal = first :: rest) :
    deriveTerminalOutcome events =
      some (Latest.scan TimelineEvent.occurredAt first rest).type := by
  change events.filter (fun event => event.type = .delivered || event.type.terminalFailure) =
    first :: rest at h
  rw [deriveTerminalOutcome, h]
  rfl

theorem deriveTerminalOutcome_some (h : deriveTerminalOutcome events = some type) :
    ∃ last, Latest.IsLatest TimelineEvent.occurredAt last
      (events.filter TimelineEvent.terminal) ∧ last.type = type := by
  cases hlist : events.filter TimelineEvent.terminal with
  | nil =>
    rw [deriveTerminalOutcome_nil hlist] at h
    cases h
  | cons first rest =>
    rw [deriveTerminalOutcome_cons hlist] at h
    exact ⟨_, Latest.scan_isLatest first rest, Option.some.inj h⟩

theorem deriveTerminalOutcome_none (h : deriveTerminalOutcome events = none) :
    events.filter TimelineEvent.terminal = [] := by
  cases hlist : events.filter TimelineEvent.terminal with
  | nil => rfl
  | cons first rest =>
    rw [deriveTerminalOutcome_cons hlist] at h
    cases h

theorem deriveTerminalOutcome_first {last : TimelineEvent}
    (h : Latest.IsLatest TimelineEvent.occurredAt last
      ((last :: events).filter TimelineEvent.terminal)) :
    deriveTerminalOutcome (last :: events) = some last.type := by
  have hfilter : (last :: events).filter TimelineEvent.terminal =
      last :: events.filter TimelineEvent.terminal :=
    List.filter_cons_of_pos (List.mem_filter.1 h.1).2
  rw [hfilter] at h
  rw [deriveTerminalOutcome_cons hfilter, Latest.scan_of_latest TimelineEvent.occurredAt
    fun event hevent => h.2 event (List.mem_cons_of_mem _ hevent)]

theorem OneOutcome.outcome (h : OneOutcome events) (hread : read.Perm events)
    (hreread : reread.Perm events) :
    deriveTerminalOutcome read = deriveTerminalOutcome reread := by
  have hfilter : (read.filter TimelineEvent.terminal).Perm
      (reread.filter TimelineEvent.terminal) :=
    (hread.trans hreread.symm).filter _
  cases houtcome : deriveTerminalOutcome read with
  | none =>
    have hempty := deriveTerminalOutcome_none houtcome
    rw [hempty] at hfilter
    have hempty' := hfilter.nil_eq.symm
    cases houtcome' : deriveTerminalOutcome reread with
    | none => rfl
    | some type =>
      obtain ⟨last, hlast, _⟩ := deriveTerminalOutcome_some houtcome'
      rw [hempty'] at hlast
      exact absurd hlast.1 List.not_mem_nil
  | some type =>
    obtain ⟨last, hlast, rfl⟩ := deriveTerminalOutcome_some houtcome
    cases houtcome' : deriveTerminalOutcome reread with
    | none =>
      have hempty := deriveTerminalOutcome_none houtcome'
      rw [hempty] at hfilter
      rw [hfilter.eq_nil] at hlast
      exact absurd hlast.1 List.not_mem_nil
    | some type' =>
      obtain ⟨last', hlast', rfl⟩ := deriveTerminalOutcome_some houtcome'
      exact congrArg some (h last last' (hlast.perm (hread.filter _))
        (hlast'.perm (hreread.filter _)))

/-- **The outcome is the same in all readings exactly when the latest deliveries and failures are of
one type.** -/
theorem terminalOutcome_alike_iff :
    (∀ read reread : List TimelineEvent, read.Perm events → reread.Perm events →
      deriveTerminalOutcome read = deriveTerminalOutcome reread) ↔ OneOutcome events := by
  constructor
  · intro halike a b ha hb
    have hreada : (a :: events.erase a).Perm events :=
      (List.perm_cons_erase (List.mem_filter.1 ha.1).1).symm
    have hreadb : (b :: events.erase b).Perm events :=
      (List.perm_cons_erase (List.mem_filter.1 hb.1).1).symm
    have h := halike _ _ hreada hreadb
    rw [deriveTerminalOutcome_first (ha.perm (hreada.symm.filter _)),
      deriveTerminalOutcome_first (hb.perm (hreadb.symm.filter _))] at h
    exact Option.some.inj h
  · intro h read reread hread hreread
    exact h.outcome hread hreread

end Outcome

/-! ### The fee -/

section Fee

variable {events read reread : List TimelineEvent}

def feeInDirhams (fee : Option Decimal) : Option ShipmentFee :=
  fee.map fun fee => ⟨some fee, some "MAD"⟩

theorem convertShipmentFee_stored {event : TimelineEvent} (h : event.FeeStored)
    (environment : Environment) (orderCurrency : String) :
    convertShipmentFee environment event.shipmentFee orderCurrency =
      convertShipmentFee environment (feeInDirhams event.fee) orderCurrency := by
  cases hmetadata : event.metadata with
  | none => simp [TimelineEvent.shipmentFee, TimelineEvent.fee, feeInDirhams, hmetadata]
  | some metadata =>
    cases hfee : metadata.fee with
    | none =>
      simp [TimelineEvent.shipmentFee, TimelineEvent.fee, feeInDirhams, convertShipmentFee,
        hmetadata, hfee]
    | some fee =>
      have hcurrency := (h metadata fee hmetadata hfee).2
      simp [TimelineEvent.shipmentFee, TimelineEvent.fee, feeInDirhams, convertShipmentFee,
        hmetadata, hfee, hcurrency]

theorem latestAmeexFee_eq (events : List TimelineEvent) :
    latestAmeexFee events = ((Latest.sorted TimelineEvent.occurredAt events).find?
      TimelineEvent.fromAmeex).bind TimelineEvent.shipmentFee := by
  change Option.map _ (Option.bind ((Latest.sorted TimelineEvent.occurredAt events).find?
    TimelineEvent.fromAmeex) TimelineEvent.metadata) = _
  cases (Latest.sorted TimelineEvent.occurredAt events).find? TimelineEvent.fromAmeex with
  | none => rfl
  | some event => rfl

theorem latestAmeexFee_cases (events : List TimelineEvent) :
    events.filter TimelineEvent.fromAmeex = [] ∧ latestAmeexFee events = none ∨
      ∃ a, Latest.IsLatest TimelineEvent.occurredAt a (events.filter TimelineEvent.fromAmeex) ∧
        latestAmeexFee events = a.shipmentFee := by
  rw [latestAmeexFee_eq]
  cases hfind : (Latest.sorted TimelineEvent.occurredAt events).find?
      TimelineEvent.fromAmeex with
  | none =>
    refine Or.inl ⟨?_, rfl⟩
    rw [List.filter_eq_nil_iff]
    intro event hevent
    exact List.find?_eq_none.1 hfind event ((Latest.sorted_perm _ events).mem_iff.2 hevent)
  | some a => exact Or.inr ⟨a, Latest.find_sorted_isLatest hfind, rfl⟩

theorem latestAmeexFee_first {a : TimelineEvent}
    (h : Latest.IsLatest TimelineEvent.occurredAt a
      ((a :: events).filter TimelineEvent.fromAmeex)) :
    latestAmeexFee (a :: events) = a.shipmentFee := by
  rw [latestAmeexFee_eq, Latest.find_sorted_cons h]
  rfl

def CostsAlike (cost other : Except ServiceError (Option Decimal)) : Prop :=
  cost = other ∨ ∃ x y, cost = .ok (some x) ∧ other = .ok (some y) ∧ x ≤ 0 ∧ y ≤ 0

theorem convert_negative (environment : Environment) (orderCurrency : String) {x y : Decimal}
    (hx : x < 0) (hy : y < 0) :
    CostsAlike (convertShipmentFee environment (feeInDirhams (some x)) orderCurrency)
      (convertShipmentFee environment (feeInDirhams (some y)) orderCurrency) := by
  have hconvert : ∀ fee : Decimal, convertShipmentFee environment (feeInDirhams (some fee))
      orderCurrency = (environment.convert fee (some "MAD") (some orderCurrency)).map some :=
    fun _ => rfl
  rw [hconvert, hconvert]
  simp only [Environment.convert, requiredCurrencyConverter]
  split
  · exact Or.inl rfl
  · split
    · rename_i hsame
      rw [if_pos (Or.inl (hsame.resolve_right hx.ne))]
      exact Or.inr ⟨x, y, rfl, rfl, hx.le, hy.le⟩
    · rename_i hother
      rw [if_neg (by
        rintro (hsame | hzero)
        · exact hother (Or.inl hsame)
        · exact hy.ne hzero)]
      split
      · rename_i rate _
        split
        · exact Or.inl rfl
        · rename_i hrate
          have hpos : 0 < rate := lt_of_not_ge hrate
          exact Or.inr ⟨x * rate, y * rate, rfl, rfl, (mul_neg_of_neg_of_pos hx hpos).le,
            (mul_neg_of_neg_of_pos hy hpos).le⟩
      · exact Or.inl rfl

theorem applyShippingLoss_alike {environment : Environment} {orderId currency : String}
    {fallbackShipping : Decimal} {fee other : Option ShipmentFee}
    (h : CostsAlike (convertShipmentFee environment fee currency)
      (convertShipmentFee environment other currency)) :
    applyShippingLoss environment orderId currency fallbackShipping fee =
      applyShippingLoss environment orderId currency fallbackShipping other := by
  rcases h with hsame | ⟨x, y, hx, hy, hxle, hyle⟩
  · rw [applyShippingLoss, applyShippingLoss, hsame]
  · funext s
    simp only [applyShippingLoss, hx, hy, bind, Command.ask, Command.lift]
    cases s.findEvent orderId revenueRecognizedKey with
    | some event => rfl
    | none =>
      dsimp only
      cases s.findEvent orderId shippingLossKey with
      | some event => rfl
      | none => simp [hxle, hyle]

theorem applyRevenueRecognition_same {environment : Environment} {order : EcommerceOrder}
    {fee other : Option ShipmentFee}
    (h : convertShipmentFee environment fee order.currency =
      convertShipmentFee environment other order.currency) :
    applyRevenueRecognition environment order fee =
      applyRevenueRecognition environment order other := by
  rw [applyRevenueRecognition, applyRevenueRecognition, h]

theorem deliveredAt_perm (h : read.Perm reread) : deliveredAt read = deliveredAt reread := by
  have hmax : ∀ (time : ℤ) (event : TimelineEvent),
      (if time < event.occurredAt then event.occurredAt else time) =
        max time event.occurredAt := by
    intro time event
    rw [max_def]
    split <;> split <;> omega
  have hfold : ∀ events : List TimelineEvent, deliveredAt events =
      (events.filter fun event => event.type = .delivered).foldl
        (fun latest event => max latest event.occurredAt) 0 := by
    intro events
    rw [deliveredAt]
    simp only [hmax]
  rw [hfold, hfold]
  exact (h.filter _).foldl_eq' (fun a _ b _ time => by
    rw [max_assoc, max_assoc, max_comm a.occurredAt]) 0

end Fee

/-! ### The evaluation -/

section Evaluation

variable {events read reread : List TimelineEvent}

theorem OneFee.cases (h : OneFee events) (hstored : ∀ event ∈ events, event.FeeStored)
    {last : TimelineEvent}
    (hlast : Latest.IsLatest TimelineEvent.occurredAt last
      (events.filter TimelineEvent.terminal))
    (hcharged : last.type.charged = true) (hread : read.Perm events)
    (hreread : reread.Perm events) (environment : Environment) (orderCurrency : String) :
    convertShipmentFee environment (latestAmeexFee read) orderCurrency =
        convertShipmentFee environment (latestAmeexFee reread) orderCurrency ∨
      last.type ≠ .delivered ∧
        CostsAlike (convertShipmentFee environment (latestAmeexFee read) orderCurrency)
          (convertShipmentFee environment (latestAmeexFee reread) orderCurrency) := by
  have hfilter : (read.filter TimelineEvent.fromAmeex).Perm
      (reread.filter TimelineEvent.fromAmeex) :=
    (hread.trans hreread.symm).filter _
  rcases latestAmeexFee_cases read with ⟨hempty, hnone⟩ | ⟨a, ha, hfee⟩
  · rcases latestAmeexFee_cases reread with ⟨_, hnone'⟩ | ⟨b, hb, _⟩
    · rw [hnone, hnone']
      exact Or.inl rfl
    · rw [hempty] at hfilter
      rw [hfilter.nil_eq.symm] at hb
      exact absurd hb.1 List.not_mem_nil
  · rcases latestAmeexFee_cases reread with ⟨hempty, _⟩ | ⟨b, hb, hfee'⟩
    · rw [hempty] at hfilter
      rw [hfilter.eq_nil] at ha
      exact absurd ha.1 List.not_mem_nil
    · have ha := ha.perm (hread.filter _)
      have hb := hb.perm (hreread.filter _)
      rw [hfee, hfee', convertShipmentFee_stored (hstored a (List.mem_filter.1 ha.1).1),
        convertShipmentFee_stored (hstored b (List.mem_filter.1 hb.1).1)]
      rcases h last hlast hcharged a b ha hb with hsame | ⟨hfailed, x, y, hx, hy, hxneg, hyneg⟩
      · rw [hsame]
        exact Or.inl rfl
      · rw [hx, hy]
        exact Or.inr ⟨hfailed, convert_negative environment orderCurrency hxneg hyneg⟩

theorem OneOutcome.sync (h : OneOutcome events) (hfee : OneFee events)
    (hstored : ∀ event ∈ events, event.FeeStored) (hread : read.Perm events)
    (hreread : reread.Perm events) (environment : Environment) (orderId : String) :
    syncFromTimelineEvents environment orderId read =
      syncFromTimelineEvents environment orderId reread := by
  have hperm : read.Perm reread := hread.trans hreread.symm
  have hempty : read.isEmpty = reread.isEmpty := by
    rw [Bool.eq_iff_iff, List.isEmpty_iff, List.isEmpty_iff]
    exact ⟨fun hnil => by
      rw [hnil] at hperm
      exact hperm.nil_eq.symm, fun hnil => by
      rw [hnil] at hperm
      exact hperm.eq_nil⟩
  rw [syncFromTimelineEvents, syncFromTimelineEvents, hempty, h.outcome hread hreread,
    deliveredAt_perm hperm]
  cases houtcome : deriveTerminalOutcome reread with
  | none => rfl
  | some type =>
    obtain ⟨last, hlast, rfl⟩ := deriveTerminalOutcome_some houtcome
    have hlast := hlast.perm (hreread.filter _)
    congr 2
    funext found
    cases found with
    | none => rfl
    | some order =>
      dsimp only
      split
      · rename_i hdelivered
        have hcharged : last.type.charged = true := by rw [hdelivered]; rfl
        rcases hfee.cases hstored hlast hcharged hread hreread environment
          order.currency with hsame | ⟨hfailed, _⟩
        · rw [syncDelivered, syncDelivered, applyRevenueRecognition_same hsame]
        · exact absurd hdelivered hfailed
      · split
        · rw [syncFailed, syncFailed]
          cases hshipped : last.type.shippedFailure with
          | false => rfl
          | true =>
            have hcharged : last.type.charged = true := by
              rw [OrderEventType.charged, hshipped, Bool.or_true]
            have halike : CostsAlike
                (convertShipmentFee environment (latestAmeexFee read) order.currency)
                (convertShipmentFee environment (latestAmeexFee reread)
                  order.currency) := by
              rcases hfee.cases hstored hlast hcharged hread hreread environment
                order.currency with hsame | ⟨_, halike⟩
              · exact Or.inl hsame
              · exact halike
            rw [applyShippingLoss_alike halike]
        · rfl

/-! ### Telling two fees apart -/

def bareEnvironment : Environment where
  locale :=
    { toUpperCase := id
      toLowerCase := id
      localeCompare := fun _ _ => .eq }
  currency := none
  packaging := {}

variable (currency : String)

def bareOrder (shipping : Decimal) : EcommerceOrder where
  id := "order"
  storeId := "store"
  currency := currency
  shipping := shipping

def bareStore (shipping : Decimal) : Store where
  orders := [bareOrder currency shipping]

def bareSync (shipping : Decimal) (read : List TimelineEvent) :
    Except ServiceError SyncResult × Store :=
  syncFromTimelineEvents bareEnvironment "order" read (bareStore currency shipping)

theorem convertShipmentFee_bare (fee : Option Decimal) :
    convertShipmentFee bareEnvironment (feeInDirhams fee) "MAD" = .ok fee := by
  cases fee with
  | none => rfl
  | some fee =>
    have hcode : isCurrencyCode (JsText.trim "MAD") = true := by decide
    change ((bareEnvironment.convert fee (some "MAD") (some "MAD")).map some) = .ok (some fee)
    simp [Environment.convert, requiredCurrencyConverter, bareEnvironment, hcode, Except.map]

theorem convertShipmentFee_abroad (fee : Decimal) :
    (convertShipmentFee bareEnvironment (feeInDirhams (some fee)) "EUR").toOption =
      if fee = 0 then some (some 0) else none := by
  have hcode : isCurrencyCode (JsText.trim "MAD") = true := by decide
  have hcode' : isCurrencyCode (JsText.trim "EUR") = true := by decide
  have hne : JsText.trim "MAD" ≠ JsText.trim "EUR" := by decide
  change ((bareEnvironment.convert fee (some "MAD") (some "EUR")).map some).toOption = _
  by_cases hzero : fee = 0
  · simp [Environment.convert, requiredCurrencyConverter, bareEnvironment, hcode, hcode', hzero,
      Except.map, Except.toOption]
  · simp [Environment.convert, requiredCurrencyConverter, bareEnvironment, hcode, hcode', hzero,
      hne, Except.map, Except.toOption]

theorem convertedCosts_bare (shipping : Decimal) :
    convertedCosts bareEnvironment (bareOrder "MAD" shipping) = .ok ⟨0, 0, 0⟩ := by
  have hcode : isCurrencyCode (JsText.trim "MAD") = true := by decide
  simp [convertedCosts, resolvePackagingUnitCosts, totalCosts, bareOrder, bareEnvironment,
    Environment.convert, requiredCurrencyConverter, hcode]
  rfl

theorem deliverOrder_bare {currency : String} {shipping : Decimal} {s : Store}
    (h : s.orders = [bareOrder currency shipping]) (time : Option ℤ) :
    deliverOrder (bareOrder currency shipping).id time s = (.ok (), s) := by
  rw [deliverOrder, loadOrder, Command.ask_bind_apply, Store.findOrder, h]
  rfl

theorem releaseOrder_bare {currency : String} {shipping : Decimal} {s : Store}
    (h : s.orders = [bareOrder currency shipping]) :
    releaseOrder (bareOrder currency shipping).id s = (.ok (), s) := by
  rw [releaseOrder, loadOrder, Command.ask_bind_apply, Store.findOrder, h]
  rfl

variable {fee : Option Decimal}

theorem applyRevenueRecognition_bare {shipment : Option ShipmentFee}
    (hfee : convertShipmentFee bareEnvironment shipment "MAD" = .ok fee) (shipping : Decimal) :
    ∃ event, applyRevenueRecognition bareEnvironment (bareOrder "MAD" shipping) shipment
        (bareStore "MAD" shipping) = (.ok event, (bareStore "MAD" shipping).appendRow
          (recognitionData (bareOrder "MAD" shipping) ⟨0, 0, 0⟩ (fee.getD shipping))) := by
  have hconvert : convertShipmentFee bareEnvironment shipment
      (bareOrder "MAD" shipping).currency = .ok fee := hfee
  refine ⟨{ (recognitionData (bareOrder "MAD" shipping) ⟨0, 0, 0⟩ (fee.getD shipping)).stored with
    id := uuid 0 }, ?_⟩
  rw [applyRevenueRecognition, Command.ask_bind_apply]
  change (Command.lift (convertedCosts bareEnvironment (bareOrder "MAD" shipping)) >>= _)
    (bareStore "MAD" shipping) = _
  rw [convertedCosts_bare, Command.lift_bind_apply]
  dsimp only
  rw [Command.ask_bind_apply]
  have hfresh : ((bareStore "MAD" shipping).findEvent (bareOrder "MAD" shipping).id
      shippingLossKey).isSome = false := rfl
  rw [hfresh, if_neg Bool.false_ne_true, hconvert]
  rfl

theorem applyShippingLoss_bare {shipment : Option ShipmentFee}
    (hfee : convertShipmentFee bareEnvironment shipment "MAD" = .ok fee) (shipping : Decimal) :
    ∃ event, applyShippingLoss bareEnvironment "order" "MAD" shipping shipment
        (bareStore "MAD" shipping) = (.ok event,
          if fee.getD shipping ≤ 0 then bareStore "MAD" shipping
          else (bareStore "MAD" shipping).appendRow
            (shippingLossData "order" "MAD" (fee.getD shipping))) := by
  rw [applyShippingLoss, Command.ask_bind_apply]
  change ∃ event, (Command.lift (convertShipmentFee bareEnvironment shipment "MAD") >>= fun fee =>
    if fee.getD shipping ≤ 0 then pure none
    else upsertEvent (shippingLossData "order" "MAD" (fee.getD shipping)) >>= fun event =>
      pure (some event)) (bareStore "MAD" shipping) = _
  rw [hfee, Command.lift_bind_apply]
  dsimp only
  split
  · exact ⟨none, rfl⟩
  · exact ⟨_, rfl⟩

theorem bareSync_delivered (hread : read ≠ [])
    (houtcome : deriveTerminalOutcome read = some .delivered)
    (hfee : convertShipmentFee bareEnvironment (latestAmeexFee read) "MAD" = .ok fee)
    (shipping : Decimal) :
    ((bareSync "MAD" shipping read).2.financialEvents.map fun event => event.shippingCost) =
      [toFixed4 (fee.getD shipping)] := by
  have hempty : read.isEmpty = false := by
    rw [← Bool.not_eq_true, List.isEmpty_iff]
    exact hread
  have hfound : (bareStore "MAD" shipping).findOrder "order" =
      some (bareOrder "MAD" shipping) := rfl
  obtain ⟨event, hrecognized⟩ := applyRevenueRecognition_bare hfee shipping
  rw [bareSync, syncFromTimelineEvents, hempty, if_neg Bool.false_ne_true,
    Command.ask_bind_apply, hfound, houtcome]
  dsimp only
  rw [if_pos rfl, syncDelivered, Command.bind_assoc, Command.bind_of_ok hrecognized,
    Command.bind_of_ok (deliverOrder_bare rfl _)]
  rfl

variable {type : OrderEventType}

theorem bareSync_failed (hread : read ≠ []) (houtcome : deriveTerminalOutcome read = some type)
    (hfailed : type.shippedFailure = true) (currency : String) (shipping : Decimal) :
    bareSync currency shipping read =
      (applyShippingLoss bareEnvironment "order" currency shipping (latestAmeexFee read) >>=
        fun _ => releaseOrder (bareOrder currency shipping).id >>= fun _ =>
          pure { applied := false, reason := .cancelled, shipmentStatus := some (.inr type) })
        (bareStore currency shipping) := by
  have hempty : read.isEmpty = false := by
    rw [← Bool.not_eq_true, List.isEmpty_iff]
    exact hread
  have hfound : (bareStore currency shipping).findOrder "order" =
      some (bareOrder currency shipping) := rfl
  have hne : type ≠ .delivered := by
    rintro rfl
    cases hfailed
  have hterminal : type.terminalFailure = true := by
    cases type <;> first | rfl | cases hfailed
  have hreversed : applyRevenueReversal (bareOrder currency shipping).id
      (bareOrder currency shipping).currency (bareStore currency shipping) =
      (.ok none, bareStore currency shipping) := rfl
  rw [bareSync, syncFromTimelineEvents, hempty, if_neg Bool.false_ne_true,
    Command.ask_bind_apply, hfound, houtcome]
  dsimp only
  rw [if_neg hne, if_pos hterminal, syncFailed, hfailed, Command.bind_assoc,
    Command.bind_of_ok hreversed, if_pos rfl]
  simp only [Command.bind_assoc, Command.pure_bind]
  rfl

theorem bareSync_lost (hread : read ≠ []) (houtcome : deriveTerminalOutcome read = some type)
    (hfailed : type.shippedFailure = true)
    (hfee : convertShipmentFee bareEnvironment (latestAmeexFee read) "MAD" = .ok fee)
    (shipping : Decimal) :
    ((bareSync "MAD" shipping read).2.financialEvents.map fun event => event.shippingCost) =
      if fee.getD shipping ≤ 0 then [] else [toFixed4 (fee.getD shipping)] := by
  obtain ⟨event, hlost⟩ := applyShippingLoss_bare hfee shipping
  rw [bareSync_failed hread houtcome hfailed, Command.bind_of_ok hlost]
  split
  · rw [Command.bind_of_ok (releaseOrder_bare rfl)]
    rfl
  · rw [Command.bind_of_ok (releaseOrder_bare rfl)]
    rfl

theorem bareSync_abroad {fee : Decimal} (hread : read ≠ [])
    (houtcome : deriveTerminalOutcome read = some type) (hfailed : type.shippedFailure = true)
    (hfee : convertShipmentFee bareEnvironment (latestAmeexFee read) "EUR" =
      convertShipmentFee bareEnvironment (feeInDirhams (some fee)) "EUR") :
    (bareSync "EUR" 0 read).1.toOption.isSome = decide (fee = 0) := by
  have habroad := convertShipmentFee_abroad fee
  rw [bareSync_failed hread houtcome hfailed, applyShippingLoss, hfee]
  cases hconvert : convertShipmentFee bareEnvironment (feeInDirhams (some fee)) "EUR" with
  | error e =>
    rw [hconvert] at habroad
    by_cases hzero : fee = 0
    · rw [if_pos hzero] at habroad
      cases habroad
    · rw [decide_eq_false hzero]
      rfl
  | ok cost =>
    rw [hconvert] at habroad
    by_cases hzero : fee = 0
    · rw [if_pos hzero] at habroad
      obtain rfl : cost = some 0 := Option.some.inj habroad
      rw [decide_eq_true hzero]
      rfl
    · rw [if_neg hzero] at habroad
      cases habroad

theorem fee_eq_of_booked {x y : Option Decimal} (hx : ∀ fee ∈ x, toFixed4 fee = fee)
    (hy : ∀ fee ∈ y, toFixed4 fee = fee)
    (h : ∀ shipping, toFixed4 (x.getD shipping) = toFixed4 (y.getD shipping)) : x = y := by
  have hdiffer : toFixed4 1 ≠ toFixed4 2 := by decide +kernel
  cases x with
  | none =>
    cases y with
    | none => rfl
    | some y => exact absurd ((h 1).trans (h 2).symm) hdiffer
  | some x =>
    cases y with
    | none => exact absurd ((h 1).symm.trans (h 2)) hdiffer
    | some y =>
      have hsame := h 0
      rw [Option.getD_some, Option.getD_some, hx x rfl, hy y rfl] at hsame
      rw [hsame]

theorem feesAlike_of_booked (htype : type ≠ .delivered) {x y : Option Decimal}
    (hx : ∀ fee ∈ x, toFixed4 fee = fee) (hy : ∀ fee ∈ y, toFixed4 fee = fee)
    (h : ∀ shipping, (if x.getD shipping ≤ 0 then [] else [toFixed4 (x.getD shipping)]) =
      if y.getD shipping ≤ 0 then [] else [toFixed4 (y.getD shipping)])
    (hzero : ∀ fee ∈ x, ∀ other ∈ y, fee = 0 ↔ other = 0) : FeesAlike type x y := by
  have hone : ¬(1 : Decimal) ≤ 0 := by decide +kernel
  have htwo : ¬(2 : Decimal) ≤ 0 := by decide +kernel
  have hdiffer : [toFixed4 1] ≠ [toFixed4 2] := by decide +kernel
  have hnone : ∀ fee : Decimal,
      ¬∀ shipping, (if shipping ≤ 0 then [] else [toFixed4 shipping]) =
        if fee ≤ 0 then [] else [toFixed4 fee] := by
    intro fee hall
    have h1 := hall 1
    have h2 := hall 2
    rw [if_neg hone] at h1
    rw [if_neg htwo] at h2
    exact hdiffer (h1.trans h2.symm)
  cases x with
  | none =>
    cases y with
    | none => exact Or.inl rfl
    | some y => exact absurd h (hnone y)
  | some x =>
    cases y with
    | none => exact absurd (fun shipping => (h shipping).symm) (hnone x)
    | some y =>
      have hsame := h 0
      have hzero := hzero x rfl y rfl
      rw [Option.getD_some, Option.getD_some, hx x rfl, hy y rfl] at hsame
      split at hsame
      · rename_i hxle
        split at hsame
        · rename_i hyle
          by_cases hnull : x = 0
          · exact Or.inl (by rw [hnull, hzero.1 hnull])
          · exact Or.inr ⟨htype, x, y, rfl, rfl, lt_of_le_of_ne hxle hnull,
              lt_of_le_of_ne hyle fun hy => hnull (hzero.2 hy)⟩
        · cases hsame
      · split at hsame
        · cases hsame
        · rw [List.singleton_inj.1 hsame]
          exact Or.inl rfl

theorem TimelineEvent.FeeStored.decimals {event : TimelineEvent} (h : event.FeeStored) :
    ∀ fee ∈ event.fee, toFixed4 fee = fee := by
  intro fee hfee
  obtain ⟨metadata, hmetadata, hin⟩ := Option.bind_eq_some_iff.1 hfee
  exact (h metadata fee hmetadata hin).1

theorem ReadAlike.oneFee (h : ReadAlike events) (hstored : ∀ event ∈ events, event.FeeStored) :
    OneFee events := by
  intro last hlast hcharged a b ha hb
  have hafirst : (a :: events.erase a).Perm events :=
    (List.perm_cons_erase (List.mem_filter.1 ha.1).1).symm
  have hbfirst : (b :: events.erase b).Perm events :=
    (List.perm_cons_erase (List.mem_filter.1 hb.1).1).symm
  have hlfirst : (last :: events.erase last).Perm events :=
    (List.perm_cons_erase (List.mem_filter.1 hlast.1).1).symm
  have hastored := hstored a (List.mem_filter.1 ha.1).1
  have hbstored := hstored b (List.mem_filter.1 hb.1).1
  have houtcome := deriveTerminalOutcome_first (hlast.perm (hlfirst.symm.filter _))
  have haoutcome := (h _ _ hafirst hlfirst).1.trans houtcome
  have hboutcome := (h _ _ hbfirst hlfirst).1.trans houtcome
  have hsync : ∀ currency shipping, bareSync currency shipping (a :: events.erase a) =
      bareSync currency shipping (b :: events.erase b) := fun currency shipping =>
    (h _ _ hafirst hbfirst).2 bareEnvironment "order" (bareStore currency shipping)
  have hafee : ∀ currency, convertShipmentFee bareEnvironment
      (latestAmeexFee (a :: events.erase a)) currency =
      convertShipmentFee bareEnvironment (feeInDirhams a.fee) currency := fun currency => by
    rw [latestAmeexFee_first (ha.perm (hafirst.symm.filter _)), convertShipmentFee_stored hastored]
  have hbfee : ∀ currency, convertShipmentFee bareEnvironment
      (latestAmeexFee (b :: events.erase b)) currency =
      convertShipmentFee bareEnvironment (feeInDirhams b.fee) currency := fun currency => by
    rw [latestAmeexFee_first (hb.perm (hbfirst.symm.filter _)), convertShipmentFee_stored hbstored]
  have haMad := (hafee "MAD").trans (convertShipmentFee_bare a.fee)
  have hbMad := (hbfee "MAD").trans (convertShipmentFee_bare b.fee)
  by_cases hdelivered : last.type = .delivered
  · rw [hdelivered] at haoutcome hboutcome
    refine Or.inl (fee_eq_of_booked hastored.decimals hbstored.decimals fun shipping => ?_)
    have hbooked := bareSync_delivered (List.cons_ne_nil _ _) haoutcome haMad shipping
    rw [hsync, bareSync_delivered (List.cons_ne_nil _ _) hboutcome hbMad] at hbooked
    exact (List.singleton_inj.1 hbooked).symm
  · have hfailed : last.type.shippedFailure = true := by
      rw [OrderEventType.charged, decide_eq_false hdelivered, Bool.false_or] at hcharged
      exact hcharged
    refine feesAlike_of_booked hdelivered hastored.decimals hbstored.decimals
      (fun shipping => ?_) fun fee hfee other hother => ?_
    · have hbooked := bareSync_lost (List.cons_ne_nil _ _) haoutcome hfailed haMad shipping
      rw [hsync, bareSync_lost (List.cons_ne_nil _ _) hboutcome hfailed hbMad] at hbooked
      exact hbooked.symm
    · have hacosts := hafee "EUR"
      have hbcosts := hbfee "EUR"
      rw [hfee] at hacosts
      rw [hother] at hbcosts
      have hbooked := bareSync_abroad (List.cons_ne_nil _ _) haoutcome hfailed hacosts
      rw [hsync, bareSync_abroad (List.cons_ne_nil _ _) hboutcome hfailed hbcosts] at hbooked
      exact (decide_eq_decide.1 hbooked).symm

/-- **All readings of a timeline are evaluated alike exactly when there is one outcome and one
fee.** -/
theorem terminalReadings (events : List TimelineEvent)
    (hstored : ∀ event ∈ events, event.FeeStored) :
    ReadAlike events ↔ OneOutcome events ∧ OneFee events := by
  constructor
  · intro h
    exact ⟨terminalOutcome_alike_iff.1 fun read reread hread hreread =>
      (h read reread hread hreread).1, h.oneFee hstored⟩
  · rintro ⟨houtcome, hfee⟩ read reread hread hreread
    exact ⟨houtcome.outcome hread hreread, fun environment orderId s => by
      rw [houtcome.sync hfee hstored hread hreread environment orderId]⟩

end Evaluation

/-! ### A delivery and a return on one day -/

def deliveredThatDay : TimelineEvent where
  type := .delivered
  occurredAt := 1000
  metadata := some { carrier := some "AMEEX", fee := some 35, currency := some "MAD" }

def returnedThatDay : TimelineEvent where
  type := .returned
  occurredAt := 1000
  metadata := some { carrier := some "AMEEX", fee := some 35, currency := some "MAD" }

theorem feeStored_that_day : ∀ event ∈ [deliveredThatDay, returnedThatDay], event.FeeStored := by
  intro event hevent metadata fee hmetadata hfee
  have hmetadata' : event.metadata =
      some { carrier := some "AMEEX", fee := some 35, currency := some "MAD" } := by
    rcases List.mem_pair.1 hevent with rfl | rfl
    · rfl
    · rfl
  obtain rfl := Option.some.inj (hmetadata.symm.trans hmetadata')
  obtain rfl := Option.some.inj hfee
  exact ⟨by decide +kernel, rfl⟩

/-- A delivery alone is evaluated alike in all readings. -/
theorem terminalReadings_delivery : ReadAlike [deliveredThatDay] := by
  have honly : ∀ (p : TimelineEvent → Bool) a, Latest.IsLatest TimelineEvent.occurredAt a
      ([deliveredThatDay].filter p) → a = deliveredThatDay := fun p a ha =>
    List.mem_singleton.1 (List.mem_filter.1 ha.1).1
  refine (terminalReadings [deliveredThatDay] fun event hevent => feeStored_that_day event ?_).2
    ⟨fun a b ha hb => ?_, fun last _ _ a b ha hb => ?_⟩
  · rw [List.mem_singleton.1 hevent]
    exact List.mem_cons_self ..
  · rw [honly _ a ha, honly _ b hb]
  · rw [honly _ a ha, honly _ b hb]
    exact Or.inl rfl

/-- **Read the other way round, a delivery is a return.** -/
theorem terminalReadings_differ :
    ¬∀ events read reread : List TimelineEvent, read.Perm events → reread.Perm events →
      deriveTerminalOutcome read = deriveTerminalOutcome reread := by
  intro h
  have hread := h [deliveredThatDay, returnedThatDay] [deliveredThatDay, returnedThatDay]
    [returnedThatDay, deliveredThatDay] (List.Perm.refl _) (List.Perm.swap _ _ _)
  exact absurd hread (by decide)

end Zomaal
