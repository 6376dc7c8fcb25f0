/-
**What a timeline says became of an order.**

For YouCan and Lightfunnels the timeline is written by the syncs: each compares the answer of the
platform with the row it stored before, and an order that is seen for the first time has no row to
compare with.  This module follows one order through its syncs.

Main results:

* `timelineOutcome` — **the outcome is the last terminal status a sync saw**, as long as no change
  to a terminal status uses a key again or goes unrecorded.
-/

import Zomaal.Latest
import Zomaal.PlatformOrders

set_option autoImplicit false

namespace Zomaal

open JsText

/-! ### One order -/

/-- The row of an order, once it was seen, and its events. -/
structure TrackedOrder where
  row : Option OrderData := none
  events : List OrderEventRow := []

namespace TrackedOrder

section Sync

variable (toLowerCase : String → String) (platform : DiffedPlatform) (orderId : String)

/-- What `persistOrders` does to an order of a page: its changes are detected, unless that fails,
which is only logged; an order that is new has no prior state to compare with. -/
def sync (order : TrackedOrder) (current : OrderData) (detected : Bool) : TrackedOrder where
  row := some current
  events :=
    match order.row with
    | none => order.events
    | some previous =>
      if detected then
        upsertEvents order.events (detectChanges toLowerCase platform orderId previous current)
      else order.events

end Sync

/-- What `getTimeline` and `backfillAllOrders` do to an order: if it has no events yet, it gets
synthetic ones. -/
def backfill (orderId : String) (order : TrackedOrder) : TrackedOrder :=
  match order.row with
  | none => order
  | some row =>
    if order.events.isEmpty then
      { order with events := upsertEvents [] (syntheticEvents orderId row) }
    else order

end TrackedOrder

def terminalOutcome (events : List OrderEventRow) : Option OrderEventType :=
  deriveTerminalOutcome (events.map OrderEventRow.toTimelineEvent)

def OrderEventType.terminal (type : OrderEventType) : Bool :=
  type = .delivered || type.terminalFailure

/-! ### What events tell -/

/-- There is an event of a type that is later than all other deliveries and failures. -/
def LatestTerminal (type : OrderEventType) (events : List OrderEventRow) : Prop :=
  ∃ event ∈ events, event.type = type ∧ type.terminal = true ∧
    ∀ other ∈ events, other.type.terminal = true →
      other = event ∨ other.occurredAt < event.occurredAt

/-- **The events tell an outcome**, and are not later than a given time. -/
structure Told (outcome : Option OrderEventType) (time : ℤ) (events : List OrderEventRow) :
    Prop where
  none_of : outcome = none → ∀ event ∈ events, event.type.terminal = false
  latest : ∀ type, outcome = some type → LatestTerminal type events
  before : ∀ event ∈ events, event.type.terminal = true → event.occurredAt ≤ time

theorem terminalOutcome_none {events : List OrderEventRow}
    (h : ∀ event ∈ events, event.type.terminal = false) : terminalOutcome events = none := by
  have hempty : (events.map OrderEventRow.toTimelineEvent).filter
      (fun event => event.type = .delivered || event.type.terminalFailure) = [] := by
    rw [List.filter_eq_nil_iff]
    intro event hevent
    obtain ⟨row, hrow, rfl⟩ := List.mem_map.1 hevent
    have hnot := h row hrow
    rw [OrderEventType.terminal] at hnot
    simp [hnot]
  rw [terminalOutcome, deriveTerminalOutcome, hempty]

theorem terminalOutcome_latest {type : OrderEventType} {events : List OrderEventRow}
    (h : LatestTerminal type events) : terminalOutcome events = some type := by
  obtain ⟨event, hevent, rfl, hterminal, honly⟩ := h
  have hin : event.toTimelineEvent ∈ (events.map OrderEventRow.toTimelineEvent).filter
      (fun event => event.type = .delivered || event.type.terminalFailure) :=
    List.mem_filter.2 ⟨List.mem_map_of_mem hevent, hterminal⟩
  rw [terminalOutcome, deriveTerminalOutcome]
  cases hlist : (events.map OrderEventRow.toTimelineEvent).filter
      (fun event => event.type = .delivered || event.type.terminalFailure) with
  | nil =>
    rw [hlist] at hin
    cases hin
  | cons first rest =>
    rw [hlist] at hin
    have hscan := Latest.scan_of_only TimelineEvent.occurredAt hin fun other hother => by
      rw [← hlist, List.mem_filter] at hother
      obtain ⟨row, hrow, rfl⟩ := List.mem_map.1 hother.1
      rcases honly row hrow hother.2 with rfl | hlt
      · exact Or.inl rfl
      · exact Or.inr hlt
    exact congrArg (fun event => some event.type) hscan

namespace Told

variable {outcome : Option OrderEventType} {time : ℤ} {events : List OrderEventRow}

theorem terminalOutcome (h : Told outcome time events) {read : List OrderEventRow}
    (hread : read.Perm events) : terminalOutcome read = outcome := by
  cases houtcome : outcome with
  | none =>
    exact terminalOutcome_none fun event hevent =>
      h.none_of houtcome event (hread.mem_iff.1 hevent)
  | some type =>
    obtain ⟨event, hevent, htype, hterminal, honly⟩ := h.latest type houtcome
    exact terminalOutcome_latest ⟨event, hread.mem_iff.2 hevent, htype, hterminal,
      fun other hother => honly other (hread.mem_iff.1 hother)⟩

theorem nil (time : ℤ) : Told none time [] :=
  ⟨fun _ _ hevent => absurd hevent List.not_mem_nil, (fun _ htype => nomatch htype),
    fun _ hevent => absurd hevent List.not_mem_nil⟩

theorem later (h : Told outcome time events) {time' : ℤ} (hle : time ≤ time') :
    Told outcome time' events :=
  ⟨h.none_of, h.latest, fun event hevent hterminal => (h.before event hevent hterminal).trans hle⟩

theorem upsert (h : Told outcome time events) {news : List OrderEventRow}
    (hnews : ∀ event ∈ news, event.type.terminal = false) :
    Told outcome time (upsertEvents events news) := by
  have hold : ∀ event ∈ upsertEvents events news, event.type.terminal = true → event ∈ events :=
    fun event hevent hterminal => (mem_upsertEvents hevent).resolve_right fun hnew => by
      rw [hnews event hnew] at hterminal
      cases hterminal
  refine ⟨fun hnone event hevent => ?_, fun type htype => ?_,
    fun event hevent hterminal => h.before event (hold event hevent hterminal) hterminal⟩
  · cases hterminal : event.type.terminal with
    | false => rfl
    | true =>
      rw [h.none_of hnone event (hold event hevent hterminal)] at hterminal
      exact hterminal.symm
  · obtain ⟨event, hevent, his, hterminal, honly⟩ := h.latest type htype
    exact ⟨event, subset_upsertEvents events news hevent, his, hterminal,
      fun other hother hother' => honly other (hold other hother hother') hother'⟩

theorem append (h : Told outcome time events) {event : OrderEventRow}
    (hlater : time < event.occurredAt) (hterminal : event.type.terminal = true) :
    Told (some event.type) event.occurredAt (events ++ [event]) := by
  refine ⟨(fun hnone => nomatch hnone), fun type htype => ?_, fun other hother hother' => ?_⟩
  · obtain rfl := Option.some.inj htype
    refine ⟨event, by simp, rfl, hterminal, fun other hother hother' => ?_⟩
    rcases Ledger.mem_concat.1 hother with hold | hnew
    · exact Or.inr ((h.before other hold hother').trans_lt hlater)
    · exact Or.inl hnew
  · rcases Ledger.mem_concat.1 hother with hold | hnew
    · exact (h.before other hold hother').trans hlater.le
    · rw [hnew]

end Told

/-! ### Following an order -/

section Follow

variable (toLowerCase : String → String) (platform : DiffedPlatform) (orderId : String)

def DiffedPlatform.terminalStatus (platform : DiffedPlatform) (status : Option String) :
    Option OrderEventType :=
  match truthy status with
  | none => none
  | some status =>
    let type := platform.eventType toLowerCase status
    if type.terminal then some type else none

/-- An order, and what its syncs have seen: the last terminal status, and when the platform last
changed the order. -/
structure FollowedOrder where
  order : TrackedOrder
  seen : Option OrderEventType := none
  time : ℤ

/-- What a sync sees, and whether the changes could be stored. -/
structure Observation where
  current : OrderData
  detected : Bool := true

variable (followed : FollowedOrder)

def FollowedOrder.step (observation : Observation) : FollowedOrder where
  order := followed.order.sync toLowerCase platform orderId observation.current observation.detected
  seen :=
    (platform.terminalStatus toLowerCase observation.current.fulfillmentStatus).or followed.seen
  time := observation.current.providerUpdatedAt

def FollowedOrder.changeKey (observation : Observation) : String :=
  fulfillmentEventKey toLowerCase platform orderId
    (followed.order.row.bind OrderData.fulfillmentStatus)
    (observation.current.fulfillmentStatus.getD "")

def FollowedOrder.Newer (observation : Observation) : Prop :=
  followed.time < observation.current.providerUpdatedAt

/-- **A change to a terminal status is told apart**: its changes are stored and its key is new,
unless the same outcome was the last one seen. -/
def FollowedOrder.Recorded (observation : Observation) : Prop :=
  ∀ type, platform.terminalStatus toLowerCase observation.current.fulfillmentStatus = some type →
    followed.order.row.bind OrderData.fulfillmentStatus ≠ observation.current.fulfillmentStatus →
    followed.seen = some type ∨ observation.detected = true ∧
      followed.changeKey toLowerCase platform orderId observation ∉ eventKeys followed.order.events

/-- The outcome is the last terminal status a sync saw, whatever the order in which the events are
read; and a change whose key is new has its event. -/
def FollowedOrder.InStep (observation : Observation) : Prop :=
  let after := followed.step toLowerCase platform orderId observation
  observation.detected = true →
    (∀ read : List OrderEventRow, read.Perm after.order.events →
      terminalOutcome read = after.seen) ∧
    ∀ previous status, followed.order.row = some previous →
      truthy observation.current.fulfillmentStatus = some status →
      previous.fulfillmentStatus ≠ observation.current.fulfillmentStatus →
      followed.changeKey toLowerCase platform orderId observation ∉
        eventKeys followed.order.events →
      ∃ event ∈ after.order.events, event ∉ followed.order.events ∧
        event.type = platform.eventType toLowerCase status ∧
        event.occurredAt = observation.current.providerUpdatedAt

/-- **The invariant**: the order was seen, its events tell the last terminal status, and so does its
row. -/
structure FollowedOrder.Inv : Prop where
  seen_row : ∃ row, followed.order.row = some row ∧
    ∀ type, platform.terminalStatus toLowerCase row.fulfillmentStatus = some type →
      followed.seen = some type
  told : Told followed.seen followed.time followed.order.events

end Follow

section Steps

variable {toLowerCase : String → String} {platform : DiffedPlatform} {orderId : String}

theorem financialChange_not_terminal {previous current : OrderData} :
    ∀ event ∈ financialChange platform orderId previous current, event.type.terminal = false := by
  intro event hevent
  rw [financialChange] at hevent
  split at hevent
  · cases hevent
  · rw [List.mem_singleton.1 hevent]
    cases current.financialStatus <;> rfl

theorem fulfillmentChange_of_truthy {previous current : OrderData} {status : String}
    (hne : previous.fulfillmentStatus ≠ current.fulfillmentStatus)
    (hstatus : truthy current.fulfillmentStatus = some status) :
    ∃ event, fulfillmentChange toLowerCase platform orderId previous current = [event] ∧
      event.type = platform.eventType toLowerCase status ∧
      event.occurredAt = current.providerUpdatedAt ∧
      event.providerEventId =
        fulfillmentEventKey toLowerCase platform orderId previous.fulfillmentStatus status := by
  rw [fulfillmentChange, if_neg hne, hstatus]
  exact ⟨_, rfl, rfl, rfl, rfl⟩

theorem fulfillmentChange_not_terminal {previous current : OrderData}
    (h : platform.terminalStatus toLowerCase current.fulfillmentStatus = none ∨
      previous.fulfillmentStatus = current.fulfillmentStatus) :
    ∀ event ∈ fulfillmentChange toLowerCase platform orderId previous current,
      event.type.terminal = false := by
  intro event hevent
  rw [fulfillmentChange] at hevent
  split at hevent
  · cases hevent
  · rename_i hne
    have hnone := h.resolve_right hne
    rw [DiffedPlatform.terminalStatus] at hnone
    split at hevent
    · cases hevent
    · rename_i status hstatus
      rw [hstatus] at hnone
      rw [List.mem_singleton.1 hevent]
      simpa using hnone

theorem terminalStatus_some {status : Option String} {type : OrderEventType}
    (h : platform.terminalStatus toLowerCase status = some type) :
    ∃ text, truthy status = some text ∧ platform.eventType toLowerCase text = type ∧
      type.terminal = true := by
  rw [DiffedPlatform.terminalStatus] at h
  split at h
  · cases h
  · rename_i text htext
    dsimp only at h
    split at h
    · rename_i hterminal
      obtain rfl := Option.some.inj h
      exact ⟨text, htext, rfl, hterminal⟩
    · cases h

theorem Told.detectChanges {outcome : Option OrderEventType} {time : ℤ}
    {events : List OrderEventRow} (h : Told outcome time events) {previous current : OrderData}
    (hcurrent : platform.terminalStatus toLowerCase current.fulfillmentStatus = none ∨
      previous.fulfillmentStatus = current.fulfillmentStatus) :
    Told outcome time
      (upsertEvents events (detectChanges toLowerCase platform orderId previous current)) := by
  refine h.upsert fun event hevent => ?_
  rcases List.mem_append.1 hevent with hevent | hevent
  · exact financialChange_not_terminal event hevent
  · exact fulfillmentChange_not_terminal hcurrent event hevent

theorem Told.detectChanges_terminal {outcome : Option OrderEventType} {time : ℤ}
    {events : List OrderEventRow} (h : Told outcome time events) {previous current : OrderData}
    {type : OrderEventType}
    (hcurrent : platform.terminalStatus toLowerCase current.fulfillmentStatus = some type)
    (hne : previous.fulfillmentStatus ≠ current.fulfillmentStatus)
    (hlater : time < current.providerUpdatedAt)
    (hfresh : fulfillmentEventKey toLowerCase platform orderId previous.fulfillmentStatus
      (current.fulfillmentStatus.getD "") ∉ eventKeys events) :
    Told (some type) current.providerUpdatedAt
      (upsertEvents events
        (Zomaal.detectChanges toLowerCase platform orderId previous current)) := by
  obtain ⟨status, hstatus, rfl, hterminal⟩ := terminalStatus_some hcurrent
  obtain ⟨event, hevent, htype, htime, hkey⟩ :=
    @fulfillmentChange_of_truthy toLowerCase platform orderId previous current status hne hstatus
  have hfinancial := h.upsert (@financialChange_not_terminal platform orderId previous current)
  rw [(truthy_some hstatus).1, Option.getD_some, ← hkey] at hfresh
  rw [Zomaal.detectChanges, upsertEvents_append, hevent, upsertEvents_of_fresh
    (fun h => hfresh (hkey ▸ fulfillment_fresh.1 (hkey ▸ h))), ← htype, ← htime]
  exact hfinancial.append (htime ▸ hlater) (htype ▸ hterminal)

theorem Told.detectChanges_stored {outcome : Option OrderEventType} {time : ℤ}
    {events : List OrderEventRow} (h : Told outcome time events) {previous current : OrderData}
    {status : String} (hstatus : truthy current.fulfillmentStatus = some status)
    (hne : previous.fulfillmentStatus ≠ current.fulfillmentStatus)
    (hstored : fulfillmentEventKey toLowerCase platform orderId previous.fulfillmentStatus
      (current.fulfillmentStatus.getD "") ∈ eventKeys events) :
    Told outcome time
      (upsertEvents events
        (Zomaal.detectChanges toLowerCase platform orderId previous current)) := by
  obtain ⟨event, hevent, -, -, hkey⟩ :=
    @fulfillmentChange_of_truthy toLowerCase platform orderId previous current status hne hstatus
  rw [(truthy_some hstatus).1, Option.getD_some, ← hkey] at hstored
  rw [Zomaal.detectChanges, upsertEvents_append, hevent, upsertEvents_of_stored]
  · exact h.upsert financialChange_not_terminal
  · obtain ⟨row, hrow, hsame⟩ := List.mem_map.1 hstored
    exact hsame ▸ List.mem_map_of_mem (subset_upsertEvents events _ hrow)

theorem TrackedOrder.sync_events {order : TrackedOrder} {previous current : OrderData}
    (hrow : order.row = some previous) (detected : Bool) :
    (order.sync toLowerCase platform orderId current detected).events =
      if detected then
        upsertEvents order.events
          (Zomaal.detectChanges toLowerCase platform orderId previous current)
      else order.events := by
  rw [TrackedOrder.sync, hrow]

variable {followed : FollowedOrder} {observation : Observation}

theorem FollowedOrder.Inv.told_step (h : followed.Inv toLowerCase platform)
    (hnewer : followed.Newer observation)
    (hrecorded : followed.Recorded toLowerCase platform orderId observation) :
    Told (followed.step toLowerCase platform orderId observation).seen
      observation.current.providerUpdatedAt
      (followed.step toLowerCase platform orderId observation).order.events := by
  obtain ⟨⟨previous, hrow, hseen⟩, htold⟩ := h
  obtain ⟨current, detected⟩ := observation
  have hnewer : followed.time < current.providerUpdatedAt := hnewer
  have hevents := @TrackedOrder.sync_events toLowerCase platform orderId followed.order previous
    current hrow detected
  simp only [FollowedOrder.step, hevents]
  cases hterminal : platform.terminalStatus toLowerCase current.fulfillmentStatus with
  | none =>
    rw [Option.none_or]
    cases detected with
    | false => exact htold.later hnewer.le
    | true => exact (htold.detectChanges (Or.inl hterminal)).later hnewer.le
  | some type =>
    rw [Option.some_or]
    by_cases hsame : previous.fulfillmentStatus = current.fulfillmentStatus
    · have hlast := hseen type (hsame ▸ hterminal)
      rw [hlast] at htold
      cases detected with
      | false => exact htold.later hnewer.le
      | true => exact (htold.detectChanges (Or.inr hsame)).later hnewer.le
    · have hcase := hrecorded type hterminal
        (by rw [hrow, Option.bind_some]; exact hsame)
      rw [FollowedOrder.changeKey, hrow, Option.bind_some] at hcase
      obtain ⟨status, hstatus, -, -⟩ := terminalStatus_some hterminal
      cases detected with
      | false =>
        rcases hcase with hlast | ⟨hdetected, -⟩
        · exact hlast ▸ htold.later hnewer.le
        · cases hdetected
      | true =>
        by_cases hfresh : fulfillmentEventKey toLowerCase platform orderId
            previous.fulfillmentStatus (current.fulfillmentStatus.getD "") ∈
              eventKeys followed.order.events
        · rcases hcase with hlast | ⟨-, hnot⟩
          · exact hlast ▸ (htold.detectChanges_stored hstatus hsame hfresh).later hnewer.le
          · exact absurd hfresh hnot
        · exact htold.detectChanges_terminal hterminal hsame hnewer hfresh

theorem FollowedOrder.Inv.step (h : followed.Inv toLowerCase platform)
    (hnewer : followed.Newer observation)
    (hrecorded : followed.Recorded toLowerCase platform orderId observation) :
    (followed.step toLowerCase platform orderId observation).Inv toLowerCase platform := by
  refine ⟨⟨observation.current, rfl, fun type htype => ?_⟩, h.told_step hnewer hrecorded⟩
  rw [FollowedOrder.step, htype, Option.some_or]

theorem FollowedOrder.Inv.inStep (h : followed.Inv toLowerCase platform)
    (hnewer : followed.Newer observation)
    (hrecorded : followed.Recorded toLowerCase platform orderId observation) :
    followed.InStep toLowerCase platform orderId observation := by
  intro hdetected
  refine ⟨fun read hread => (h.told_step hnewer hrecorded).terminalOutcome hread, ?_⟩
  intro previous status hrow hstatus hne hfresh
  obtain ⟨event, hevent, htype, htime, hkey⟩ :=
    @fulfillmentChange_of_truthy toLowerCase platform orderId previous observation.current status
      hne hstatus
  rw [FollowedOrder.changeKey, hrow, Option.bind_some, (truthy_some hstatus).1, Option.getD_some,
    ← hkey] at hfresh
  refine ⟨event, ?_, fun hold => hfresh (List.mem_map_of_mem hold), htype, htime⟩
  change event ∈ (followed.order.sync toLowerCase platform orderId observation.current
    observation.detected).events
  rw [followed.order.sync_events hrow, hdetected, if_pos rfl, Zomaal.detectChanges,
    upsertEvents_append, hevent,
    upsertEvents_of_fresh (fun h => hfresh (hkey ▸ fulfillment_fresh.1 (hkey ▸ h)))]
  simp

end Steps

/-- **Platform status changes drive the right outcome.**  An order is first seen without a terminal
status and without a delivery or failure in its timeline.  In every run of syncs in which the
platform changes the order in between and every change to a terminal status is told apart, after
each sync whose changes were stored the outcome is the last terminal status a sync saw, and a change
whose key is new has its event. -/
theorem timelineOutcome (toLowerCase : String → String) (platform : DiffedPlatform)
    (orderId : String) (first : OrderData) (events : List OrderEventRow)
    (observations : List Observation)
    (hfirst : platform.terminalStatus toLowerCase first.fulfillmentStatus = none)
    (hevents : ∀ event ∈ events, event.type.terminal = false)
    (hrecorded : Machine.Along (FollowedOrder.step toLowerCase platform orderId)
      (fun followed observation => followed.Newer observation ∧
        followed.Recorded toLowerCase platform orderId observation)
      { order := { row := some first, events }, time := first.providerUpdatedAt } observations) :
    Machine.Along (FollowedOrder.step toLowerCase platform orderId)
      (FollowedOrder.InStep toLowerCase platform orderId)
      { order := { row := some first, events }, time := first.providerUpdatedAt } observations := by
  have hstart : FollowedOrder.Inv toLowerCase platform
      { order := { row := some first, events }, time := first.providerUpdatedAt } := by
    refine ⟨⟨first, rfl, fun type htype => ?_⟩, fun _ => hevents, (fun _ h => nomatch h),
      fun event hevent hterminal => ?_⟩
    · rw [hfirst] at htype
      cases htype
    · rw [hevents event hevent] at hterminal
      cases hterminal
  exact Machine.Along.of_keeps (fun _ _ hinv h => hinv.step h.1 h.2)
    (fun _ _ hinv h => hinv.inStep h.1 h.2) hstart hrecorded

def parcelAt (time : ℤ) (status : String) : OrderData where
  externalOrderId := "1001"
  fulfillmentStatus := some status
  providerUpdatedAt := time

def parcelSeen : FollowedOrder where
  order := { row := some (parcelAt 0 "unknown") }
  time := 0

def parcelReturns : List Observation :=
  [⟨parcelAt 1 "delivered", true⟩, ⟨parcelAt 2 "returned", true⟩, ⟨parcelAt 3 "shipped", true⟩,
    ⟨parcelAt 4 "delivered", true⟩, ⟨parcelAt 5 "returned", true⟩]

/-- **The same change twice.**  The second time the order goes from delivered to returned, the key
of the change is there already; no event is stored, and the order counts as delivered. -/
theorem timelineOutcome_second_return :
    let last :=
      Machine.run (FollowedOrder.step lowerAscii .youcan "order-1") parcelSeen parcelReturns
    last.seen = some .returned ∧ terminalOutcome last.order.events = some .delivered ∧
      last.order.events.length = 4 := by
  decide +kernel

/-- The first return is told: every change has a key of its own. -/
theorem timelineOutcome_first_return :
    Machine.Along (FollowedOrder.step lowerAscii .youcan "order-1")
      (FollowedOrder.InStep lowerAscii .youcan "order-1") parcelSeen (parcelReturns.take 2) := by
  refine timelineOutcome lowerAscii .youcan "order-1" (parcelAt 0 "unknown") []
    (parcelReturns.take 2) (by decide +kernel) (by simp) ⟨⟨Int.zero_lt_one, ?_⟩,
      ⟨Int.lt_succ 1, ?_⟩, trivial⟩
  · exact fun _ _ _ => Or.inr ⟨rfl, by decide +kernel⟩
  · exact fun _ _ _ => Or.inr ⟨rfl, by decide +kernel⟩

end Zomaal
