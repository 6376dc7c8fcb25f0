/-
**Two schedules of syncs of one order.**

The timeline is the difference between consecutive syncs, so what it tells depends on the versions
that the syncs happened to see.

Main results:

* `schedule_told` — **a schedule ends with the outcome it tells**;
* `scheduleOutcomes` — two schedules agree if and only if they tell the same.
-/

import Zomaal.OrderTimeline
import Mathlib.Data.Int.ConditionallyCompleteOrder

set_option autoImplicit false

namespace Zomaal

open JsText

/-! ### Schedules -/

/-- A sync that fetches a version of the order, or a `getTimeline` or `backfillAllOrders`. -/
inductive ScheduleAct
  | sync (version : ℕ)
  | backfill

def FetchedInOrder : ℕ → List ScheduleAct → Prop
  | _, [] => True
  | version, .backfill :: acts => FetchedInOrder version acts
  | version, .sync next :: acts => version ≤ next ∧ FetchedInOrder next acts

section Schedules

variable (toLowerCase : String → String) (platform : DiffedPlatform) (orderId : String)
  (history : ℕ → OrderData)

def ScheduleAct.step (order : TrackedOrder) : ScheduleAct → TrackedOrder
  | .sync version => order.sync toLowerCase platform orderId (history version) true
  | .backfill => order.backfill orderId

/-- The key of the change of the fulfilment status between two versions, if there is a change to
something. -/
def changeKeyOf (previous current : OrderData) : Option String :=
  if previous.fulfillmentStatus = current.fulfillmentStatus then none
  else (truthy current.fulfillmentStatus).map
    (fulfillmentEventKey toLowerCase platform orderId previous.fulfillmentStatus)

/-- **A sync catches the terminal status**: it sees the order change to it since the sync before,
and no earlier change had the same key. -/
def catchesTerminal (keys : List String) : Option ℕ → List ScheduleAct → Bool
  | _, [] => false
  | previous, .backfill :: acts => catchesTerminal keys previous acts
  | none, .sync version :: acts => catchesTerminal keys (some version) acts
  | some previous, .sync version :: acts =>
    match changeKeyOf toLowerCase platform orderId (history previous) (history version) with
    | none => catchesTerminal keys (some version) acts
    | some key =>
      if (platform.terminalStatus toLowerCase (history version).fulfillmentStatus).isSome &&
        key ∉ keys then true
      else catchesTerminal (keys ++ [key]) (some version) acts

/-- **The first backfill comes before any change was seen**, and finds the order cancelled. -/
def backfillsCancelled : Option ℕ → List ScheduleAct → Bool
  | _, [] => false
  | none, .backfill :: acts => backfillsCancelled none acts
  | some previous, .backfill :: _ => (history previous).cancelledAt.isSome
  | none, .sync version :: acts => backfillsCancelled (some version) acts
  | some previous, .sync version :: acts =>
    (detectChanges toLowerCase platform orderId (history previous) (history version)).isEmpty &&
      backfillsCancelled (some version) acts

def scheduleTells (terminal : OrderEventType) (acts : List ScheduleAct) : Option OrderEventType :=
  if catchesTerminal toLowerCase platform orderId history [] none acts then some terminal
  else if backfillsCancelled toLowerCase platform orderId history none acts then
    some .orderCancelled
  else none

/-- **A history with one terminal status**: later versions are newer, and no version was cancelled
after its last change. -/
structure OneTerminal (terminal : OrderEventType) : Prop where
  newer : StrictMono fun version => (history version).providerUpdatedAt
  cancelled : ∀ version time, (history version).cancelledAt = some time →
    time ≤ (history version).providerUpdatedAt
  one : ∀ version type,
    platform.terminalStatus toLowerCase (history version).fulfillmentStatus = some type →
      type = terminal

end Schedules

section Proofs

variable {toLowerCase : String → String} {platform : DiffedPlatform} {orderId : String}
  {history : ℕ → OrderData} {terminal : OrderEventType}

/-- The keys of changes that are stored are the ones that were used. -/
def KeysUsed (toLowerCase : String → String) (platform : DiffedPlatform) (orderId : String)
    (keys : List String) (events : List OrderEventRow) : Prop :=
  ∀ previous status, fulfillmentEventKey toLowerCase platform orderId previous status ∈ keys ↔
    fulfillmentEventKey toLowerCase platform orderId previous status ∈ eventKeys events

theorem keysUsed_nil : KeysUsed toLowerCase platform orderId [] [] := fun _ _ => Iff.rfl

theorem told_synthetic (order : OrderData) {time : ℤ}
    (hcancelled : ∀ cancelledAt, order.cancelledAt = some cancelledAt → cancelledAt ≤ time) :
    Told (order.cancelledAt.map fun _ => .orderCancelled) time
      (upsertEvents [] (syntheticEvents orderId order)) := by
  have hprogress : ∀ before, Told none before
      (upsertEvents [] (syntheticProgress orderId order)) := fun before =>
    (Told.nil before).upsert fun event hevent => (syntheticProgress_spec hevent).1
  rw [syntheticEvents, upsertEvents_append]
  cases hat : order.cancelledAt with
  | none => exact hprogress time
  | some cancelledAt =>
    have hfresh : (syntheticCancellation orderId cancelledAt).providerEventId ∉
        eventKeys (upsertEvents [] (syntheticProgress orderId order)) := by
      rw [mem_eventKeys_upsertEvents]
      rintro (hnil | hin)
      · exact absurd hnil List.not_mem_nil
      · exact syntheticCancellation_fresh order cancelledAt hin
    have hlater : cancelledAt - 1 < (syntheticCancellation orderId cancelledAt).occurredAt :=
      Int.sub_lt_self cancelledAt Int.one_pos
    rw [Option.map_some, Option.map_some, Option.toList_some, upsertEvents_of_fresh hfresh]
    exact ((hprogress (cancelledAt - 1)).append hlater rfl).later (hcancelled cancelledAt hat)

theorem keysUsed_synthetic (order : OrderData) :
    KeysUsed toLowerCase platform orderId []
      (upsertEvents [] (syntheticEvents orderId order)) := by
  intro previous status
  rw [mem_eventKeys_upsertEvents]
  refine ⟨fun h => absurd h List.not_mem_nil, ?_⟩
  rintro (hnil | hin)
  · exact absurd hnil List.not_mem_nil
  · exact absurd hin (syntheticEvents_not_fulfillment order previous status)

theorem fulfillmentChange_of_key (previous current : OrderData) :
    (changeKeyOf toLowerCase platform orderId previous current = none ∧
      fulfillmentChange toLowerCase platform orderId previous current = []) ∨
    ∃ status, truthy current.fulfillmentStatus = some status ∧
      previous.fulfillmentStatus ≠ current.fulfillmentStatus ∧
      changeKeyOf toLowerCase platform orderId previous current = some
        (fulfillmentEventKey toLowerCase platform orderId previous.fulfillmentStatus status) := by
  rw [changeKeyOf, fulfillmentChange]
  by_cases hsame : previous.fulfillmentStatus = current.fulfillmentStatus
  · exact Or.inl ⟨if_pos hsame, if_pos hsame⟩
  · rw [if_neg hsame, if_neg hsame]
    cases hstatus : truthy current.fulfillmentStatus with
    | none => exact Or.inl ⟨rfl, rfl⟩
    | some status => exact Or.inr ⟨status, rfl, hsame, rfl⟩

variable {keys : List String}

theorem KeysUsed.detectChanges {events : List OrderEventRow}
    (h : KeysUsed toLowerCase platform orderId keys events) (previous current : OrderData) :
    KeysUsed toLowerCase platform orderId
      (keys ++ (changeKeyOf toLowerCase platform orderId previous current).toList)
      (upsertEvents events
        (Zomaal.detectChanges toLowerCase platform orderId previous current)) := by
  intro before status
  rw [Zomaal.detectChanges, upsertEvents_append, mem_eventKeys_upsertEvents, fulfillment_fresh,
    List.mem_append, h before status]
  refine or_congr Iff.rfl ?_
  rcases @fulfillmentChange_of_key toLowerCase platform orderId previous current with
    ⟨hkey, hchange⟩ | ⟨now, hnow, hne, hkey⟩
  · rw [hkey, hchange]
    simp [eventKeys]
  · obtain ⟨event, hchange, -, -, hid⟩ :=
      @fulfillmentChange_of_truthy toLowerCase platform orderId previous current now hne hnow
    rw [hkey, hchange, eventKeys, List.map_singleton, hid, Option.toList_some]

variable {previous : ℕ}

variable {version : ℕ}

theorem catchesTerminal_unchanged
    (h : changeKeyOf toLowerCase platform orderId (history previous) (history version) = none)
    (acts : List ScheduleAct) :
    catchesTerminal toLowerCase platform orderId history keys (some previous)
        (.sync version :: acts) =
      catchesTerminal toLowerCase platform orderId history keys (some version) acts := by
  rw [catchesTerminal, h]

theorem catchesTerminal_changed {key : String}
    (h : changeKeyOf toLowerCase platform orderId (history previous) (history version) = some key)
    (acts : List ScheduleAct) :
    catchesTerminal toLowerCase platform orderId history keys (some previous)
        (.sync version :: acts) =
      if (platform.terminalStatus toLowerCase (history version).fulfillmentStatus).isSome &&
        key ∉ keys then true
      else catchesTerminal toLowerCase platform orderId history (keys ++ [key]) (some version)
        acts := by
  rw [catchesTerminal, h]

variable {order : TrackedOrder}

/-- **What a sync makes of what the events tell**, and of what the schedule is to tell. -/
theorem told_sync (hone : OneTerminal toLowerCase platform history terminal)
    {outcome : Option OrderEventType} (hrow : order.row = some (history previous))
    (htold : Told outcome (history previous).providerUpdatedAt order.events)
    (hkeys : KeysUsed toLowerCase platform orderId keys order.events) (hle : previous ≤ version)
    (acts : List ScheduleAct) :
    ∃ outcome', ∃ keys',
      Told outcome' (history version).providerUpdatedAt
        (order.sync toLowerCase platform orderId (history version) true).events ∧
      KeysUsed toLowerCase platform orderId keys'
        (order.sync toLowerCase platform orderId (history version) true).events ∧
      (if catchesTerminal toLowerCase platform orderId history keys (some previous)
          (.sync version :: acts) then some terminal else outcome) =
        if catchesTerminal toLowerCase platform orderId history keys' (some version) acts
          then some terminal else outcome' := by
  have hnewer : (history previous).providerUpdatedAt ≤ (history version).providerUpdatedAt :=
    hone.newer.monotone hle
  rw [order.sync_events hrow, if_pos rfl]
  have hused := hkeys.detectChanges (history previous) (history version)
  rcases @fulfillmentChange_of_key toLowerCase platform orderId (history previous)
    (history version) with ⟨hkey, hchange⟩ | ⟨status, hstatus, hne, hkey⟩
  · rw [hkey, Option.toList_none, List.append_nil] at hused
    refine ⟨outcome, keys, ?_, hused, by rw [catchesTerminal_unchanged hkey]⟩
    rw [detectChanges, hchange, List.append_nil]
    exact (htold.upsert financialChange_not_terminal).later hnewer
  · rw [hkey, Option.toList_some] at hused
    have hcatches := @catchesTerminal_changed toLowerCase platform orderId history keys previous
      version _ hkey acts
    cases hterminal : platform.terminalStatus toLowerCase (history version).fulfillmentStatus with
    | none =>
      rw [hterminal, Option.isSome_none, Bool.false_and, if_neg (by simp)] at hcatches
      refine ⟨outcome, _, (htold.detectChanges (Or.inl hterminal)).later hnewer, hused, ?_⟩
      rw [hcatches]
    | some type =>
      obtain rfl := hone.one version type hterminal
      have hlt : previous < version := hle.lt_of_ne fun heq => hne (by rw [heq])
      have hfresh := hkeys (history previous).fulfillmentStatus status
      have hspelled : (history version).fulfillmentStatus.getD "" = status := by
        rw [(truthy_some hstatus).1, Option.getD_some]
      rw [hterminal, Option.isSome_some, Bool.true_and] at hcatches
      by_cases hin : fulfillmentEventKey toLowerCase platform orderId
          (history previous).fulfillmentStatus status ∈ keys
      · rw [if_neg (by simpa using hin)] at hcatches
        refine ⟨outcome, _, (htold.detectChanges_stored hstatus hne ?_).later hnewer, hused, ?_⟩
        · rw [hspelled]
          exact hfresh.1 hin
        · rw [hcatches]
      · rw [if_pos (by simpa using hin)] at hcatches
        refine ⟨some type, _, htold.detectChanges_terminal hterminal hne
          (hone.newer hlt) ?_, hused, ?_⟩
        · rw [hspelled]
          exact fun h => hin (hfresh.2 h)
        · rw [hcatches, if_pos rfl, ite_self]

def runSchedule (toLowerCase : String → String) (platform : DiffedPlatform) (orderId : String)
    (history : ℕ → OrderData) (order : TrackedOrder) (acts : List ScheduleAct) : TrackedOrder :=
  Machine.run (ScheduleAct.step toLowerCase platform orderId history) order acts

theorem backfill_of_stored (h : order.events ≠ []) : order.backfill orderId = order := by
  rw [TrackedOrder.backfill]
  split
  · rfl
  · exact if_neg (by simpa using h)

/-- **Once there are events**, the schedule tells the terminal status if it catches it later, and
otherwise what the events told. -/
theorem told_stored (hone : OneTerminal toLowerCase platform history terminal)
    (acts : List ScheduleAct) {outcome : Option OrderEventType}
    (hrow : order.row = some (history previous)) (hstored : order.events ≠ [])
    (htold : Told outcome (history previous).providerUpdatedAt order.events)
    (hkeys : KeysUsed toLowerCase platform orderId keys order.events)
    (horder : FetchedInOrder previous acts) :
    ∃ time, Told (if catchesTerminal toLowerCase platform orderId history keys (some previous) acts
        then some terminal else outcome) time
      (runSchedule toLowerCase platform orderId history order acts).events := by
  induction acts generalizing order previous keys outcome with
  | nil => exact ⟨_, htold⟩
  | cons act acts ih =>
    cases act with
    | sync version =>
      obtain ⟨outcome', keys', htold', hkeys', hsame⟩ :=
        told_sync hone hrow htold hkeys horder.1 acts
      rw [hsame]
      refine ih rfl ?_ htold' hkeys' horder.2
      rw [ScheduleAct.step, order.sync_events hrow, if_pos rfl]
      exact fun hempty => hstored (List.subset_nil.1 (hempty ▸ subset_upsertEvents _ _))
    | backfill =>
      have hsame := @backfill_of_stored orderId order hstored
      have hstep : runSchedule toLowerCase platform orderId history order (.backfill :: acts) =
          runSchedule toLowerCase platform orderId history order acts := by
        rw [runSchedule, Machine.run_cons, ScheduleAct.step, hsame]
        rfl
      rw [hstep, catchesTerminal]
      exact ih hrow hstored htold hkeys horder

theorem upsertEvents_ne_nil {news : List OrderEventRow} (h : news ≠ []) :
    upsertEvents [] news ≠ [] := by
  obtain ⟨event, rest, rfl⟩ := List.exists_cons_of_ne_nil h
  intro hempty
  have hin : event.providerEventId ∈ eventKeys (upsertEvents [] (event :: rest)) :=
    mem_eventKeys_upsertEvents.2 (Or.inr (List.mem_map_of_mem (List.mem_cons_self ..)))
  rw [hempty] at hin
  cases hin

theorem changeKeyOf_of_silent {previous current : OrderData}
    (h : detectChanges toLowerCase platform orderId previous current = []) :
    changeKeyOf toLowerCase platform orderId previous current = none := by
  rcases @fulfillmentChange_of_key toLowerCase platform orderId previous current with
    ⟨hkey, -⟩ | ⟨status, hstatus, hne, -⟩
  · exact hkey
  · obtain ⟨event, hchange, -, -, -⟩ :=
      @fulfillmentChange_of_truthy toLowerCase platform orderId previous current status hne hstatus
    rw [detectChanges, hchange] at h
    exact absurd (List.append_eq_nil_iff.1 h).2 (List.cons_ne_nil _ _)

/-- **Before there are events**, the schedule tells the terminal status if it catches it, and
otherwise the cancellation if it is backfilled. -/
theorem told_silent (hone : OneTerminal toLowerCase platform history terminal)
    (acts : List ScheduleAct) (hrow : order.row = some (history previous))
    (hsilent : order.events = []) (horder : FetchedInOrder previous acts) :
    ∃ time, Told (if catchesTerminal toLowerCase platform orderId history [] (some previous) acts
        then some terminal
        else if backfillsCancelled toLowerCase platform orderId history (some previous) acts then
          some .orderCancelled
        else none) time
      (runSchedule toLowerCase platform orderId history order acts).events := by
  have htold : ∀ time, Told none time order.events := fun time => hsilent ▸ Told.nil time
  have hkeys : KeysUsed toLowerCase platform orderId [] order.events := hsilent ▸ keysUsed_nil
  induction acts generalizing order previous with
  | nil => exact ⟨0, htold 0⟩
  | cons act acts ih =>
    cases act with
    | sync version =>
      have hevents := @TrackedOrder.sync_events toLowerCase platform orderId order
        (history previous) (history version) hrow true
      rw [if_pos rfl, hsilent] at hevents
      rw [backfillsCancelled]
      by_cases hnone : detectChanges toLowerCase platform orderId (history previous)
          (history version) = []
      · rw [hnone, upsertEvents_nil] at hevents
        rw [catchesTerminal_unchanged (changeKeyOf_of_silent hnone), hnone, List.isEmpty_nil,
          Bool.true_and]
        exact ih rfl hevents horder.2 (fun time => hevents ▸ Told.nil time)
          (hevents ▸ keysUsed_nil)
      · obtain ⟨outcome', keys', htold', hkeys', hsame⟩ :=
          told_sync hone hrow (htold _) hkeys horder.1 acts
        have hempty : (detectChanges toLowerCase platform orderId (history previous)
            (history version)).isEmpty = false := by simpa using hnone
        rw [hempty, Bool.false_and, if_neg Bool.false_ne_true, hsame]
        exact told_stored hone acts rfl (hevents ▸ upsertEvents_ne_nil hnone) htold' hkeys'
          horder.2
    | backfill =>
      have hevents : (order.backfill orderId).events =
          upsertEvents [] (syntheticEvents orderId (history previous)) := by
        rw [TrackedOrder.backfill, hrow, hsilent]
        rfl
      have hkept : (order.backfill orderId).row = some (history previous) := by
        rw [TrackedOrder.backfill, hrow, hsilent]
        rfl
      have htells : (if (history previous).cancelledAt.isSome then
          some OrderEventType.orderCancelled else none) =
            (history previous).cancelledAt.map fun _ => .orderCancelled := by
        cases (history previous).cancelledAt <;> rfl
      rw [catchesTerminal, backfillsCancelled, htells]
      refine told_stored hone acts hkept (hevents ▸ upsertEvents_ne_nil (by simp
        [syntheticEvents, syntheticProgress])) ?_ ?_ horder
      · rw [ScheduleAct.step, hevents]
        exact told_synthetic (history previous) (hone.cancelled previous)
      · rw [ScheduleAct.step, hevents]
        exact keysUsed_synthetic (history previous)

/-- **A schedule ends with the outcome it tells.** -/
theorem schedule_told (hone : OneTerminal toLowerCase platform history terminal)
    (acts : List ScheduleAct) (horder : FetchedInOrder 0 acts) :
    ∃ time, Told (scheduleTells toLowerCase platform orderId history terminal acts) time
      (runSchedule toLowerCase platform orderId history {} acts).events := by
  have hunseen : ∀ (acts : List ScheduleAct) (version : ℕ), FetchedInOrder version acts →
      ∃ time, Told (scheduleTells toLowerCase platform orderId history terminal acts) time
        (runSchedule toLowerCase platform orderId history {} acts).events := by
    intro acts
    induction acts with
    | nil => exact fun _ _ => ⟨0, Told.nil 0⟩
    | cons act acts ih =>
      intro version horder
      cases act with
      | sync next => exact told_silent hone acts rfl rfl horder.2
      | backfill => exact ih version horder
  exact hunseen acts 0 horder

end Proofs

/-- **The outcome of a platform order and when it was synced.**  The order has a history with one
terminal status.  Two schedules of syncs and backfills, from before the order was seen, end with the
same outcome, whatever the order in which their events are read, if and only if they tell the
same. -/
theorem scheduleOutcomes (toLowerCase : String → String) (platform : DiffedPlatform)
    (orderId : String) (history : ℕ → OrderData) (terminal : OrderEventType)
    (hone : OneTerminal toLowerCase platform history terminal) (acts acts' : List ScheduleAct)
    (horder : FetchedInOrder 0 acts) (horder' : FetchedInOrder 0 acts')
    (read read' : List OrderEventRow)
    (hread : read.Perm (runSchedule toLowerCase platform orderId history {} acts).events)
    (hread' : read'.Perm (runSchedule toLowerCase platform orderId history {} acts').events) :
    terminalOutcome read = terminalOutcome read' ↔
      scheduleTells toLowerCase platform orderId history terminal acts =
        scheduleTells toLowerCase platform orderId history terminal acts' := by
  obtain ⟨_, htold⟩ :=
    @schedule_told toLowerCase platform orderId history terminal hone acts horder
  obtain ⟨_, htold'⟩ :=
    @schedule_told toLowerCase platform orderId history terminal hone acts' horder'
  rw [htold.terminalOutcome hread, htold'.terminalOutcome hread']

/-! ### An order that was first seen when it was delivered -/

def parcelHistory (version : ℕ) : OrderData :=
  parcelAt version (if version = 0 then "pending" else "delivered")

theorem parcelHistory_oneTerminal : OneTerminal lowerAscii .youcan parcelHistory .delivered := by
  refine ⟨fun version later hlt => Int.ofNat_lt.2 hlt, (fun _ _ h => nomatch h), ?_⟩
  intro version type htype
  by_cases hfirst : version = 0
  · have hnone : DiffedPlatform.youcan.terminalStatus lowerAscii (some "pending") = none := by
      decide +kernel
    rw [parcelHistory, if_pos hfirst, parcelAt, hnone] at htype
    cases htype
  · have hdelivered : DiffedPlatform.youcan.terminalStatus lowerAscii (some "delivered") =
        some .delivered := by decide +kernel
    rw [parcelHistory, if_neg hfirst, parcelAt, hdelivered] at htype
    exact (Option.some.inj htype).symm

/-- **Followed from the start, or first seen when it was delivered.**  The order that was synced
while it waited counts as delivered; the one that was not has no outcome, and its backfill says that
it was fulfilled. -/
theorem scheduleOutcomes_first_seen :
    FetchedInOrder 0 [.sync 0, .sync 1] ∧ FetchedInOrder 0 [.sync 1, .backfill] ∧
      terminalOutcome (runSchedule lowerAscii .youcan "order-1" parcelHistory {}
        [.sync 0, .sync 1]).events = some .delivered ∧
      terminalOutcome (runSchedule lowerAscii .youcan "order-1" parcelHistory {}
        [.sync 1, .backfill]).events = none ∧
      ((runSchedule lowerAscii .youcan "order-1" parcelHistory {}
        [.sync 1, .backfill]).events.map fun event => event.type) =
          [.orderCreated, .paymentPending, .fulfillmentCreated] := by
  refine ⟨⟨le_refl 0, Nat.zero_le 1, trivial⟩, ⟨Nat.zero_le 1, trivial⟩, by decide +kernel,
    by decide +kernel, by decide +kernel⟩

/-- Two schedules that see the parcel wait and then see it delivered agree. -/
theorem scheduleOutcomes_followed :
    terminalOutcome (runSchedule lowerAscii .youcan "order-1" parcelHistory {}
        [.sync 0, .sync 1]).events =
      terminalOutcome (runSchedule lowerAscii .youcan "order-1" parcelHistory {}
        [.backfill, .sync 0, .backfill, .sync 3]).events := by
  refine (scheduleOutcomes lowerAscii .youcan "order-1" parcelHistory .delivered
    parcelHistory_oneTerminal [.sync 0, .sync 1] [.backfill, .sync 0, .backfill, .sync 3] ?_ ?_ _ _
    (List.Perm.refl _) (List.Perm.refl _)).2 (by decide +kernel)
  · exact ⟨le_refl 0, Nat.zero_le 1, trivial⟩
  · exact ⟨le_refl 0, Nat.zero_le 3, trivial⟩

end Zomaal
