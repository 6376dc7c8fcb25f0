/-
**The parcels of ForceLog: the row and its timeline.**

A snapshot of a parcel is written to its row as it is, what it lacks included, and to the timeline
as one event for each status code, which keeps the time it was first seen at.  This module embeds
`persistSnapshot`, `snapshotFromProvider` and `reconcileProviderDeletion` of
`forcelog-shipment.service.ts`, as far as one parcel of a user is concerned.

Main results:

* `ForceLog.timeline_agrees` — **a run of calls is sound exactly if each call is faithful**;
* `ForceLog.timeline_disagrees` — a refresh without dates, and a status that comes back.
-/

import Zomaal.CourierStatuses
import Zomaal.Latest
import Zomaal.ParcelSync
import Zomaal.QuickLivraisonRisk

set_option autoImplicit false

namespace Zomaal.ForceLog

open QuickLivraison (UnicodeText)

/-! ### Snapshots and rows -/

/-- What a snapshot may say about a parcel, beside its status and the time of its update. -/
structure ParcelData where
  situation : Option String := none
  reference : Option String := none
  recipientName : Option String := none
  recipientPhone : Option String := none
  address : Option String := none
  city : Option String := none
  codAmount : Option Decimal := none
  fee : Option Decimal := none
  canOpen : Option Bool := none
  comment : Option String := none
  productNature : Option String := none
  providerCreatedAt : Option ℤ := none

inductive ParcelField
  | situation
  | reference
  | recipientName
  | recipientPhone
  | address
  | city
  | codAmount
  | fee
  | canOpen
  | comment
  | productNature
  | providerCreatedAt

inductive FieldValue
  | text (value : String)
  | amount (value : Decimal)
  | flag (value : Bool)
  | time (value : ℤ)

def ParcelData.value (data : ParcelData) : ParcelField → Option FieldValue
  | .situation => data.situation.map .text
  | .reference => data.reference.map .text
  | .recipientName => data.recipientName.map .text
  | .recipientPhone => data.recipientPhone.map .text
  | .address => data.address.map .text
  | .city => data.city.map .text
  | .codAmount => data.codAmount.map .amount
  | .fee => data.fee.map .amount
  | .canOpen => data.canOpen.map .flag
  | .comment => data.comment.map .text
  | .productNature => data.productNature.map .text
  | .providerCreatedAt => data.providerCreatedAt.map .time

structure Snapshot extends ParcelData where
  providerStatus : String
  providerUpdatedAt : Option ℤ := none

structure Shipment extends ParcelData where
  connectionId : Option String := none
  dispatchId : Option String := none
  providerStatus : String
  normalizedStatus : ShippingShipmentStatus
  lastActionAt : Option ℤ := none
  providerUpdatedAt : Option ℤ := none

/-- A record of the courier, its fields read under any of their names. -/
structure ProviderRecord where
  status : Option String := none
  situation : Option String := none
  orderNum : Option String := none
  receiver : Option String := none
  phone : Option String := none
  address : Option String := none
  cityName : Option String := none
  price : Option Decimal := none
  deliveryFees : Option Decimal := none
  canOpen : Option Bool := none
  comment : Option String := none
  productNature : Option String := none
  updatedAt : Option ℤ := none
  creationTime : Option ℤ := none

structure ForceLogParcelDto where
  orderNum : String
  receive : String
  phone : String
  city : String
  address : String
  how : Option String := none
  productNature : Option String := none
  cod : Option Decimal := none
  canOpen : Option Bool := none

def snapshotFromProvider (parcel : ProviderRecord) (request : Option ForceLogParcelDto)
    (fallbackStatus : Option String) : Snapshot where
  providerStatus := (parcel.status.or fallbackStatus).getD "UNKNOWN"
  situation := parcel.situation
  reference := parcel.orderNum.or (request.map (·.orderNum))
  recipientName := parcel.receiver.or (request.map (·.receive))
  recipientPhone := parcel.phone.or (request.map (·.phone))
  address := parcel.address.or (request.map (·.address))
  city := parcel.cityName.or (request.map (·.city))
  codAmount := parcel.price.or (request.bind (·.cod))
  fee := parcel.deliveryFees
  canOpen := parcel.canOpen.or (request.bind (·.canOpen))
  comment := parcel.comment.or (request.bind (·.how))
  productNature := parcel.productNature.or (request.bind (·.productNature))
  providerUpdatedAt := parcel.updatedAt
  providerCreatedAt := parcel.creationTime

/-! ### The timeline -/

structure Event where
  providerEventKey : String
  eventType : String
  providerStatus : String
  normalizedStatus : ShippingShipmentStatus
  message : Option String
  eventAt : ℤ

def upsertEvent (event : Event) (update : Event → Event) (events : List Event) : List Event :=
  match KeyedRows.lookup Event.providerEventKey event.providerEventKey events with
  | some _ => KeyedRows.change Event.providerEventKey event.providerEventKey update events
  | none => events ++ [event]

structure Parcel where
  row : Option Shipment := none
  events : List Event := []

variable (unicode : UnicodeText)

def Snapshot.normalizedStatus (snapshot : Snapshot) : ShippingShipmentStatus :=
  normalizeForceLogStatus unicode snapshot.providerStatus

/-- `providerEventKey: status:${statusCode}` -/
def Snapshot.eventKey (snapshot : Snapshot) : String :=
  "status:" ++ (normalizeForceLogStatusCode unicode snapshot.providerStatus).getD "UNKNOWN"

/-- The guard of `persistSnapshot`. -/
def isStale (row : Option Shipment) (snapshot : Snapshot) : Bool :=
  staleShipmentStatus
    (row.map fun row =>
      { normalizedStatus := row.normalizedStatus, providerUpdatedAt := row.providerUpdatedAt })
    (snapshot.normalizedStatus unicode) snapshot.providerUpdatedAt

/-- What a transaction reads beside the parcel: the connection, and the dispatch the reference of
the snapshot belongs to, if there is one. -/
structure Reads where
  connectionId : Option String := none
  dispatchId : Option String := none

/-- The row after its `upsert`: the snapshot as it is, nulls included. -/
def snapshotRow (row : Option Shipment) (reads : Reads) (snapshot : Snapshot) (eventAt : ℤ) :
    Shipment :=
  { toParcelData := snapshot.toParcelData
    connectionId := reads.connectionId.or (row.bind (·.connectionId))
    dispatchId := reads.dispatchId.or (row.bind (·.dispatchId))
    providerStatus := snapshot.providerStatus
    normalizedStatus := snapshot.normalizedStatus unicode
    lastActionAt := some eventAt
    providerUpdatedAt := snapshot.providerUpdatedAt }

def snapshotEvent (snapshot : Snapshot) (created : Bool) (eventAt : ℤ) : Event where
  providerEventKey := snapshot.eventKey unicode
  eventType := if created then "parcel.created" else "parcel.status_refreshed"
  providerStatus := snapshot.providerStatus
  normalizedStatus := snapshot.normalizedStatus unicode
  message := snapshot.situation
  eventAt := eventAt

def refreshedEvent (snapshot : Snapshot) (event : Event) : Event :=
  { event with
    normalizedStatus := snapshot.normalizedStatus unicode
    message := snapshot.situation }

/-- `persistSnapshot`; its time is read before the transaction. -/
def Parcel.persistSnapshot (parcel : Parcel) (reads : Reads) (snapshot : Snapshot) (created : Bool)
    (eventAt : ℤ) : Parcel :=
  if isStale unicode parcel.row snapshot then parcel
  else
    { row := some (snapshotRow unicode parcel.row reads snapshot eventAt)
      events :=
        upsertEvent (snapshotEvent unicode snapshot created eventAt)
          (refreshedEvent unicode snapshot) parcel.events }

/-- Whether a deletion that the courier has confirmed is carried out: an absence only cancels a
parcel that awaits its pickup, and it need not do so twice. -/
def deletes (row : Shipment) (authenticatedAbsence : Bool) : Bool :=
  !authenticatedAbsence || row.normalizedStatus = .pending

def deletedRow (row : Shipment) (now : ℤ) : Shipment :=
  { row with
    providerStatus := "DELETED"
    normalizedStatus := .cancelled
    situation := some "Parcel deleted at ForceLog"
    providerUpdatedAt := some now
    lastActionAt := some now }

def deletedEvent (now : ℤ) : Event where
  providerEventKey := "parcel.deleted"
  eventType := "parcel.deleted"
  providerStatus := "DELETED"
  normalizedStatus := .cancelled
  message := some "Parcel deleted at ForceLog"
  eventAt := now

/-- `reconcileProviderDeletion`, of a confirmed deletion. -/
def Parcel.reconcileProviderDeletion (parcel : Parcel) (authenticatedAbsence : Bool) (now : ℤ) :
    Parcel :=
  match parcel.row with
  | none => parcel
  | some row =>
    if deletes row authenticatedAbsence then
      { row := some (deletedRow row now)
        events := upsertEvent (deletedEvent now) id parcel.events }
    else parcel

inductive Call
  | persistSnapshot (reads : Reads) (snapshot : Snapshot) (created : Bool) (eventAt : ℤ)
  | reconcileProviderDeletion (authenticatedAbsence : Bool) (now : ℤ)

def Parcel.step (parcel : Parcel) : Call → Parcel
  | .persistSnapshot reads snapshot created eventAt =>
    parcel.persistSnapshot unicode reads snapshot created eventAt
  | .reconcileProviderDeletion authenticatedAbsence now =>
    parcel.reconcileProviderDeletion authenticatedAbsence now

/-! ### What is asked of a call -/

def Agrees (events : List Event) (status : ShippingShipmentStatus) : Prop :=
  ∀ event, Latest.IsLatest Event.eventAt event events → event.normalizedStatus = status

def Call.KeepsLacking (fields : List ParcelField) (call : Call) (row row' : Shipment) : Prop :=
  match call with
  | .persistSnapshot _ snapshot _ _ =>
    ∀ field ∈ fields, snapshot.value field = none → row'.value field = row.value field
  | .reconcileProviderDeletion _ _ => True

def Call.IsIgnored (parcel : Parcel) : Call → Prop
  | .persistSnapshot _ snapshot _ _ => isStale unicode parcel.row snapshot
  | .reconcileProviderDeletion _ _ => False

/-- **What is asked of a call**: the last update is kept and does not go back, no terminal status is
reopened, what the snapshot lacks is kept, an ignored snapshot changes nothing, and the latest event
has the status of the row. -/
structure StepSound (fields : List ParcelField) (parcel : Parcel) (call : Call) : Prop where
  row : ∀ row, parcel.row = some row → ∃ row', (parcel.step unicode call).row = some row' ∧
    Chronological row.normalizedStatus row'.normalizedStatus row.providerUpdatedAt
      row'.providerUpdatedAt ∧ call.KeepsLacking fields row row'
  ignored : call.IsIgnored unicode parcel → parcel.step unicode call = parcel
  timeline : ∀ row', (parcel.step unicode call).row = some row' →
    Agrees (parcel.step unicode call).events row'.normalizedStatus

/-- The event of a key, which has its time already or gets it now, is later than all others. -/
def IsNewest (events : List Event) (key : String) (now : ℤ) : Prop :=
  ∀ event ∈ events, event.providerEventKey ≠ key → event.eventAt <
    ((KeyedRows.lookup Event.providerEventKey key events).map (·.eventAt)).getD now

/-- **The calls that are sound.** A snapshot that is not ignored has a time, every field of the row,
and the newest event if it changes the status; a deletion is not before the last update, and has the
newest event unless the parcel was cancelled. -/
def Faithful (fields : List ParcelField) (parcel : Parcel) (call : Call) : Prop :=
  ∀ row, parcel.row = some row →
    match call with
    | .persistSnapshot _ snapshot _ eventAt =>
      isStale unicode parcel.row snapshot ∨
        ((row.providerUpdatedAt ≠ none → snapshot.providerUpdatedAt ≠ none) ∧
          (∀ field ∈ fields, row.value field ≠ none → snapshot.value field ≠ none) ∧
          (snapshot.normalizedStatus unicode = row.normalizedStatus ∨
            IsNewest parcel.events (snapshot.eventKey unicode) eventAt))
    | .reconcileProviderDeletion authenticatedAbsence now =>
      deletes row authenticatedAbsence →
        (∀ updatedAt, row.providerUpdatedAt = some updatedAt → updatedAt ≤ now) ∧
          (row.normalizedStatus = .cancelled ∨ IsNewest parcel.events "parcel.deleted" now)

/-! ### The timeline after an event -/

/-- What the key of an event finds after its `upsert`. -/
def writtenEvent (event : Event) (update : Event → Event) (events : List Event) : Event :=
  ((KeyedRows.lookup Event.providerEventKey event.providerEventKey events).map update).getD event

variable {update : Event → Event} {events : List Event} {event : Event}

theorem mem_upsertEvent (hnodup : (events.map Event.providerEventKey).Nodup) {e : Event} :
    e ∈ upsertEvent event update events ↔ e = writtenEvent event update events ∨
      (e ∈ events ∧ e.providerEventKey ≠ event.providerEventKey) := by
  rw [upsertEvent, writtenEvent]
  cases hlookup : KeyedRows.lookup Event.providerEventKey event.providerEventKey events with
  | none =>
    have hapart := (KeyedRows.lookup_none _).1 hlookup
    simp only [List.mem_append, List.mem_singleton, Option.map_none, Option.getD_none]
    constructor
    · rintro (he | he)
      · exact .inr ⟨he, hapart e he⟩
      · exact .inl he
    · rintro (he | ⟨he, -⟩)
      · exact .inr he
      · exact .inl he
  | some old =>
    obtain ⟨hold, hkey⟩ := KeyedRows.lookup_some _ hlookup
    simp only [KeyedRows.mem_change, Option.map_some, Option.getD_some]
    constructor
    · rintro (⟨e', he', hkey', rfl⟩ | he)
      · have := KeyedRows.lookup_of_mem Event.providerEventKey hnodup he'
        rw [hkey', hlookup, Option.some.injEq] at this
        exact .inl (congrArg update this.symm)
      · exact .inr he
    · rintro (rfl | he)
      · exact .inl ⟨old, hold, hkey, rfl⟩
      · exact .inr he

theorem upsertEvent_nodup (hnodup : (events.map Event.providerEventKey).Nodup)
    (hupdate : ∀ e, (update e).providerEventKey = e.providerEventKey) :
    ((upsertEvent event update events).map Event.providerEventKey).Nodup := by
  rw [upsertEvent]
  split
  · rw [KeyedRows.map_key_change _ hupdate]
    exact hnodup
  · rename_i hlookup
    exact KeyedRows.nodup_concat _ hnodup ((KeyedRows.lookup_none _).1 hlookup)

theorem agrees_upsertEvent_iff {before after : ShippingShipmentStatus}
    (hnodup : (events.map Event.providerEventKey).Nodup) (hagrees : Agrees events before)
    (hupdate : ∀ e, (update e).eventAt = e.eventAt)
    (hwritten : (writtenEvent event update events).normalizedStatus = after) :
    Agrees (upsertEvent event update events) after ↔
      (after = before ∨ IsNewest events event.providerEventKey event.eventAt) := by
  have htime : (writtenEvent event update events).eventAt =
      ((KeyedRows.lookup Event.providerEventKey event.providerEventKey events).map
        (·.eventAt)).getD event.eventAt := by
    rw [writtenEvent]
    cases KeyedRows.lookup Event.providerEventKey event.providerEventKey events with
    | none => rfl
    | some old => exact hupdate old
  -- an event that was there under the key has the time of the event written
  have hold : ∀ e ∈ events, e.providerEventKey = event.providerEventKey →
      e.eventAt = (writtenEvent event update events).eventAt := by
    intro e he hkey
    have hlookup := KeyedRows.lookup_of_mem Event.providerEventKey hnodup he
    rw [hkey] at hlookup
    rw [htime, hlookup]
    rfl
  rw [IsNewest, ← htime]
  constructor
  · intro hafter
    by_contra hnot
    push Not at hnot
    obtain ⟨hchanged, other, hother, hotherKey, hlate⟩ := hnot
    -- the latest of the other events is the latest before and after
    have hne : events.filter (·.providerEventKey ≠ event.providerEventKey) ≠ [] :=
      List.ne_nil_of_mem (List.mem_filter.2 ⟨hother, by simpa using hotherKey⟩)
    obtain ⟨latest, hlatest, hmax⟩ := Latest.exists_isLatest Event.eventAt hne
    obtain ⟨hmem, hkey⟩ := List.mem_filter.1 hlatest
    have hkey : latest.providerEventKey ≠ event.providerEventKey := by simpa using hkey
    have hwrittenLate : (writtenEvent event update events).eventAt ≤ latest.eventAt :=
      le_trans hlate (hmax other (List.mem_filter.2 ⟨hother, by simpa using hotherKey⟩))
    have hothers : ∀ e ∈ events, e.providerEventKey ≠ event.providerEventKey →
        e.eventAt ≤ latest.eventAt :=
      fun e he hne => hmax e (List.mem_filter.2 ⟨he, by simpa using hne⟩)
    have hbefore : latest.normalizedStatus = before := by
      refine hagrees latest ⟨hmem, fun e he => ?_⟩
      by_cases heq : e.providerEventKey = event.providerEventKey
      · exact hold e he heq ▸ hwrittenLate
      · exact hothers e he heq
    have hnow : latest.normalizedStatus = after := by
      refine hafter latest ⟨(mem_upsertEvent hnodup).2 (.inr ⟨hmem, hkey⟩), fun e he => ?_⟩
      rcases (mem_upsertEvent hnodup).1 he with rfl | ⟨he, hne⟩
      · exact hwrittenLate
      · exact hothers e he hne
    exact hchanged (hnow.symm.trans hbefore)
  · intro hcases e hlatest
    rcases (mem_upsertEvent hnodup).1 hlatest.1 with rfl | ⟨he, hkey⟩
    · exact hwritten
    · have hwrittenLate := hlatest.2 _ ((mem_upsertEvent hnodup).2 (.inl rfl))
      rcases hcases with hsame | hnewest
      · -- an event that is latest now was latest before
        rw [hsame]
        refine hagrees e ⟨he, fun e' he' => ?_⟩
        by_cases heq : e'.providerEventKey = event.providerEventKey
        · exact hold e' he' heq ▸ hwrittenLate
        · exact hlatest.2 e' ((mem_upsertEvent hnodup).2 (.inr ⟨he', heq⟩))
      · exact absurd hwrittenLate (not_le.2 (hnewest e he hkey))

/-! ### One call -/

variable {unicode} {fields : List ParcelField} {parcel : Parcel}

/-- What every state of a parcel meets, if its calls were sound so far. -/
structure Inv (parcel : Parcel) : Prop where
  keys : (parcel.events.map Event.providerEventKey).Nodup
  empty : parcel.row = none → parcel.events = []
  deleted : ∀ event ∈ parcel.events, event.providerEventKey = "parcel.deleted" →
    event.normalizedStatus = .cancelled
  agrees : ∀ row, parcel.row = some row → Agrees parcel.events row.normalizedStatus

theorem eventKey_ne_deleted (snapshot : Snapshot) :
    snapshot.eventKey unicode ≠ "parcel.deleted" := by
  intro h
  have hlist := congrArg String.toList h
  rw [Snapshot.eventKey, String.toList_append] at hlist
  exact absurd hlist (by simp)

theorem writtenEvent_key (hupdate : ∀ e, (update e).providerEventKey = e.providerEventKey) :
    (writtenEvent event update events).providerEventKey = event.providerEventKey := by
  rw [writtenEvent]
  cases hlookup : KeyedRows.lookup Event.providerEventKey event.providerEventKey events with
  | none => rfl
  | some old => exact (hupdate old).trans (KeyedRows.lookup_some _ hlookup).2

theorem refreshedEvent_key (snapshot : Snapshot) (event : Event) :
    (refreshedEvent unicode snapshot event).providerEventKey = event.providerEventKey := by
  rw [refreshedEvent]

theorem writtenEvent_status {status : ShippingShipmentStatus}
    (hevent : event.normalizedStatus = status)
    (hupdate : ∀ e ∈ events, e.providerEventKey = event.providerEventKey →
      (update e).normalizedStatus = status) :
    (writtenEvent event update events).normalizedStatus = status := by
  rw [writtenEvent]
  cases hlookup : KeyedRows.lookup Event.providerEventKey event.providerEventKey events with
  | none => exact hevent
  | some old =>
    obtain ⟨hmem, hkey⟩ := KeyedRows.lookup_some _ hlookup
    exact hupdate old hmem hkey

variable {call : Call}

theorem StepSound.of_same (hinv : Inv parcel) (h : parcel.step unicode call = parcel) :
    StepSound unicode fields parcel call := by
  refine ⟨fun row hrow => ⟨row, by rw [h, hrow], .refl _ _, ?_⟩, fun _ => h, fun row hrow => ?_⟩
  · cases call with
    | persistSnapshot reads snapshot created eventAt => exact fun _ _ _ => rfl
    | reconcileProviderDeletion authenticatedAbsence now => trivial
  · rw [h] at hrow ⊢
    exact hinv.agrees row hrow

theorem StepSound.of_new (hrow : parcel.row = none) (hignored : ¬ call.IsIgnored unicode parcel)
    (htimeline : ∀ row', (parcel.step unicode call).row = some row' →
      Agrees (parcel.step unicode call).events row'.normalizedStatus) :
    StepSound unicode fields parcel call :=
  ⟨fun row h => absurd (hrow.symm.trans h) (by simp), fun h => absurd h hignored, htimeline⟩

section Snapshots

variable (reads : Reads) (snapshot : Snapshot) (created : Bool) (eventAt : ℤ)

theorem snapshotRow_status (row : Option Shipment) :
    (snapshotRow unicode row reads snapshot eventAt).normalizedStatus =
      snapshot.normalizedStatus unicode := by
  rw [snapshotRow]

theorem persistSnapshot_row (hstale : isStale unicode parcel.row snapshot = false) :
    (parcel.persistSnapshot unicode reads snapshot created eventAt).row =
      some (snapshotRow unicode parcel.row reads snapshot eventAt) := by
  rw [Parcel.persistSnapshot, if_neg (by simp [hstale])]

theorem persistSnapshot_agrees_iff (hinv : Inv parcel)
    (hstale : isStale unicode parcel.row snapshot = false) {before : ShippingShipmentStatus}
    (hbefore : Agrees parcel.events before) :
    Agrees (parcel.persistSnapshot unicode reads snapshot created eventAt).events
        (snapshot.normalizedStatus unicode) ↔
      (snapshot.normalizedStatus unicode = before ∨
        IsNewest parcel.events (snapshot.eventKey unicode) eventAt) := by
  rw [Parcel.persistSnapshot, if_neg (by simp [hstale])]
  refine agrees_upsertEvent_iff hinv.keys hbefore (fun _ => ?_)
    (writtenEvent_status ?_ fun _ _ _ => ?_)
  · rw [refreshedEvent]
  · rw [snapshotEvent]
  · rw [refreshedEvent]

theorem persistSnapshot_new (hinv : Inv parcel) (hrow : parcel.row = none) :
    StepSound unicode fields parcel (.persistSnapshot reads snapshot created eventAt) := by
  have hstale : isStale unicode parcel.row snapshot = false := by rw [hrow]; rfl
  have hbefore : Agrees parcel.events (snapshot.normalizedStatus unicode) := by
    rw [hinv.empty hrow]
    exact fun event hevent => absurd hevent.1 List.not_mem_nil
  refine .of_new hrow (by simp [Call.IsIgnored, hstale]) fun row' hrow' => ?_
  rw [Parcel.step, persistSnapshot_row _ _ _ _ hstale, Option.some.injEq] at hrow'
  subst hrow'
  rw [Parcel.step, snapshotRow_status]
  exact (persistSnapshot_agrees_iff reads snapshot created eventAt hinv hstale hbefore).2 (.inl rfl)

theorem persistSnapshot_sound_iff (hinv : Inv parcel) {row : Shipment}
    (hrow : parcel.row = some row) (hstale : isStale unicode parcel.row snapshot = false) :
    StepSound unicode fields parcel (.persistSnapshot reads snapshot created eventAt) ↔
      (row.providerUpdatedAt ≠ none → snapshot.providerUpdatedAt ≠ none) ∧
        (∀ field ∈ fields, row.value field ≠ none → snapshot.value field ≠ none) ∧
        (snapshot.normalizedStatus unicode = row.normalizedStatus ∨
          IsNewest parcel.events (snapshot.eventKey unicode) eventAt) := by
  have hrow' := persistSnapshot_row reads snapshot created eventAt hstale
  have hagrees := persistSnapshot_agrees_iff reads snapshot created eventAt hinv hstale
    (hinv.agrees row hrow)
  have hguard : isStale unicode (some row) snapshot = false := hrow ▸ hstale
  obtain ⟨hterminal, htimes⟩ := staleShipmentStatus_eq_false hguard
  constructor
  · intro hsound
    obtain ⟨next, hnext, hchronological, hkeeps⟩ := hsound.row row hrow
    rw [Parcel.step, hrow', Option.some.injEq] at hnext
    subst hnext
    refine ⟨fun hhas hlost => ?_, fun field hfield hhas hlost => ?_, ?_⟩
    · have hlast := hchronological.lastAction
      rw [show (snapshotRow unicode parcel.row reads snapshot eventAt).providerUpdatedAt = none
        from hlost] at hlast
      cases hupdated : row.providerUpdatedAt with
      | none => exact hhas hupdated
      | some updatedAt =>
        rw [hupdated] at hlast
        exact hlast
    · exact hhas ((hkeeps field hfield hlost).symm.trans hlost)
    · have htimeline := hsound.timeline _ hrow'
      rw [Parcel.step, snapshotRow_status] at htimeline
      exact hagrees.1 htimeline
  · rintro ⟨hhasTime, hhasFields, hnewest⟩
    refine ⟨fun row₀ hrow₀ => ?_, ?_, fun row' h => ?_⟩
    · obtain rfl : row = row₀ := Option.some.inj (hrow.symm.trans hrow₀)
      refine ⟨_, hrow', ⟨?_, ?_⟩, fun field hfield hlacks => ?_⟩
      · rw [snapshotRow_status]
        exact hterminal
      · show NotEarlier row.providerUpdatedAt snapshot.providerUpdatedAt
        cases hupdated : row.providerUpdatedAt with
        | none => trivial
        | some before =>
          cases hnext : snapshot.providerUpdatedAt with
          | none => exact absurd hnext (hhasTime (by simp [hupdated]))
          | some after => exact htimes after before hnext hupdated
      · have hlacked : row.value field = none := by
          by_contra hhas
          exact hhasFields field hfield hhas hlacks
        rw [hlacked]
        exact hlacks
    · simp [Call.IsIgnored, hstale]
    · rw [Parcel.step, hrow', Option.some.injEq] at h
      subst h
      rw [Parcel.step, snapshotRow_status]
      exact hagrees.2 hnewest

end Snapshots

theorem reconcileProviderDeletion_sound_iff (hinv : Inv parcel) (authenticatedAbsence : Bool)
    (now : ℤ) {row : Shipment} (hrow : parcel.row = some row)
    (hdeletes : deletes row authenticatedAbsence) :
    StepSound unicode fields parcel (.reconcileProviderDeletion authenticatedAbsence now) ↔
      (∀ updatedAt, row.providerUpdatedAt = some updatedAt → updatedAt ≤ now) ∧
        (row.normalizedStatus = .cancelled ∨ IsNewest parcel.events "parcel.deleted" now) := by
  have hstep : parcel.step unicode (.reconcileProviderDeletion authenticatedAbsence now) =
      { row := some (deletedRow row now)
        events := upsertEvent (deletedEvent now) id parcel.events } := by
    rw [Parcel.step, Parcel.reconcileProviderDeletion, hrow]
    exact if_pos hdeletes
  have hagrees : Agrees (upsertEvent (deletedEvent now) id parcel.events) .cancelled ↔
      (.cancelled = row.normalizedStatus ∨ IsNewest parcel.events "parcel.deleted" now) :=
    agrees_upsertEvent_iff hinv.keys (hinv.agrees row hrow) (fun _ => rfl)
      (writtenEvent_status rfl hinv.deleted)
  constructor
  · intro hsound
    obtain ⟨next, hnext, hchronological, -⟩ := hsound.row row hrow
    rw [hstep, Option.some.injEq] at hnext
    subst hnext
    refine ⟨fun updatedAt hupdated => ?_, ?_⟩
    · have hlast := hchronological.lastAction
      rw [hupdated] at hlast
      exact hlast
    · have htimeline := hsound.timeline (deletedRow row now) (by rw [hstep])
      rw [hstep] at htimeline
      exact (hagrees.1 htimeline).imp_left Eq.symm
  · rintro ⟨htime, hnewest⟩
    refine ⟨fun row₀ hrow₀ => ?_, fun h => h.elim, fun row' h => ?_⟩
    · obtain rfl : row = row₀ := Option.some.inj (hrow.symm.trans hrow₀)
      refine ⟨deletedRow row now, by rw [hstep], ⟨fun _ => rfl, ?_⟩, trivial⟩
      show NotEarlier row.providerUpdatedAt (some now)
      cases hupdated : row.providerUpdatedAt with
      | none => trivial
      | some updatedAt => exact htime updatedAt hupdated
    · rw [hstep, Option.some.injEq] at h
      subst h
      rw [hstep]
      exact hagrees.2 (hnewest.imp_left Eq.symm)

/-- **A call is sound exactly if it is faithful**, in every state that the calls before it left
sound. -/
theorem stepSound_iff (hinv : Inv parcel) (call : Call) :
    Faithful unicode fields parcel call ↔ StepSound unicode fields parcel call := by
  cases hrow : parcel.row with
  | none =>
    refine iff_of_true (fun row h => absurd (hrow.symm.trans h) (by simp)) ?_
    cases call with
    | persistSnapshot reads snapshot created eventAt =>
      exact persistSnapshot_new reads snapshot created eventAt hinv hrow
    | reconcileProviderDeletion authenticatedAbsence now =>
      refine .of_same hinv ?_
      rw [Parcel.step, Parcel.reconcileProviderDeletion, hrow]
  | some row =>
    have hthis : ∀ {P : Shipment → Prop}, (∀ row', parcel.row = some row' → P row') ↔ P row := by
      intro P
      constructor
      · exact fun h => h row hrow
      · intro h row' hrow'
        rwa [← Option.some.inj (hrow.symm.trans hrow')]
    rw [Faithful, hthis]
    cases call with
    | persistSnapshot reads snapshot created eventAt =>
      cases hstale : isStale unicode parcel.row snapshot with
      | true =>
        refine iff_of_true (.inl hstale) (.of_same hinv ?_)
        rw [Parcel.step, Parcel.persistSnapshot, if_pos hstale]
      | false =>
        rw [persistSnapshot_sound_iff reads snapshot created eventAt hinv hrow hstale]
        exact or_iff_right (by simp [hstale])
    | reconcileProviderDeletion authenticatedAbsence now =>
      by_cases hdeletes : deletes row authenticatedAbsence
      · rw [reconcileProviderDeletion_sound_iff hinv authenticatedAbsence now hrow hdeletes]
        exact ⟨fun h => h hdeletes, fun h _ => h⟩
      · refine iff_of_true (fun h => absurd h hdeletes) (.of_same hinv ?_)
        rw [Parcel.step, Parcel.reconcileProviderDeletion, hrow]
        exact if_neg hdeletes

/-! ### Every run of calls -/

theorem Inv.step (hinv : Inv parcel) (hsound : StepSound unicode fields parcel call) :
    Inv (parcel.step unicode call) := by
  cases call with
  | persistSnapshot reads snapshot created eventAt =>
    cases hstale : isStale unicode parcel.row snapshot with
    | true =>
      rwa [Parcel.step, Parcel.persistSnapshot, if_pos hstale]
    | false =>
      refine ⟨?_, fun hnone => ?_, ?_, hsound.timeline⟩
      · rw [Parcel.step, Parcel.persistSnapshot, if_neg (by simp [hstale])]
        exact upsertEvent_nodup hinv.keys (refreshedEvent_key snapshot)
      · rw [Parcel.step, persistSnapshot_row _ _ _ _ hstale] at hnone
        exact absurd hnone (by simp)
      · rw [Parcel.step, Parcel.persistSnapshot, if_neg (by simp [hstale])]
        intro event hevent hkey
        rcases (mem_upsertEvent hinv.keys).1 hevent with rfl | ⟨hmem, -⟩
        · rw [writtenEvent_key (refreshedEvent_key snapshot)] at hkey
          exact absurd hkey (eventKey_ne_deleted snapshot)
        · exact hinv.deleted event hmem hkey
  | reconcileProviderDeletion authenticatedAbsence now =>
    have hagrees := hsound.timeline
    revert hagrees
    rw [Parcel.step, Parcel.reconcileProviderDeletion]
    cases hrow : parcel.row with
    | none => exact fun _ => hinv
    | some row =>
      dsimp only
      split
      · refine fun hagrees => ⟨upsertEvent_nodup hinv.keys fun _ => rfl, (fun h => nomatch h),
          ?_, hagrees⟩
        intro event hevent hkey
        rcases (mem_upsertEvent hinv.keys).1 hevent with rfl | ⟨hmem, -⟩
        · exact writtenEvent_status rfl hinv.deleted
        · exact hinv.deleted event hmem hkey
      · exact fun _ => hinv

theorem Inv.start : Inv ({} : Parcel) where
  keys := List.nodup_nil
  empty _ := rfl
  deleted _ hevent := absurd hevent List.not_mem_nil
  agrees _ hrow := nomatch hrow

/-- **The row and its timeline**: in a run of calls about one parcel, every call keeps what is asked
of it exactly if every call is faithful: unless it is ignored, a snapshot has a time and the fields
the row has, and the event of a new status is the newest one. -/
theorem timeline_agrees (unicode : UnicodeText) (fields : List ParcelField) (calls : List Call) :
    Machine.Along (Parcel.step unicode) (Faithful unicode fields) {} calls ↔
      Machine.Along (Parcel.step unicode) (StepSound unicode fields) {} calls :=
  Machine.Along.iff_of_keeps (I := Inv)
    (fun _ call hinv h => hinv.step ((stepSound_iff hinv call).1 h))
    (fun _ call hinv => stepSound_iff hinv call) Inv.start

/-! ### Snapshots that lose what was stored -/

def createdSnapshot : Snapshot :=
  snapshotFromProvider
    { status := some "NEW_PARCEL", deliveryFees := some 35, updatedAt := some 10 }
    (some {
      orderNum := "ZM-1", receive := "Amal", phone := "0612345678", city := "Rabat",
      address := "12 rue", cod := some 300 })
    (some "NEW_PARCEL")

def bareSnapshot (status : String) : Snapshot :=
  snapshotFromProvider { status := some status } none none

def earlierSnapshot : Snapshot :=
  snapshotFromProvider { status := some "IN_TRANSIT", updatedAt := some 5 } none none

/-- A parcel is created; a refresh has neither a time nor the contact; the next one is dated before
the creation. -/
def losingCalls : List Call :=
  [.persistSnapshot {} createdSnapshot true 100,
   .persistSnapshot {} (bareSnapshot "IN_TRANSIT") false 200,
   .persistSnapshot {} earlierSnapshot false 300]

def revisitedCalls : List Call :=
  [.persistSnapshot {} (bareSnapshot "IN_TRANSIT") true 100,
   .persistSnapshot {} (bareSnapshot "POSTPONED") false 200,
   .persistSnapshot {} (bareSnapshot "IN_TRANSIT") false 300]

/-- **A refresh erases what it lacks**, so that an older one is taken next, and the latest event of
a parcel whose status came back has another status. -/
theorem timeline_disagrees :
    ((Machine.run (Parcel.step QuickLivraison.plainTexts) {} (losingCalls.take 1)).row.map
        fun row => (row.providerUpdatedAt, row.recipientPhone, row.fee)) =
      some (some 10, some "0612345678", some 35) ∧
    ((Machine.run (Parcel.step QuickLivraison.plainTexts) {} (losingCalls.take 2)).row.map
        fun row => (row.providerUpdatedAt, row.recipientPhone, row.fee)) = some (none, none, none) ∧
    ((Machine.run (Parcel.step QuickLivraison.plainTexts) {} losingCalls).row.map
        fun row => row.providerUpdatedAt) = some (some 5) ∧
    ((Machine.run (Parcel.step QuickLivraison.plainTexts) {} revisitedCalls).row.map
        fun row => row.normalizedStatus) = some .inTransit ∧
    (Machine.run (Parcel.step QuickLivraison.plainTexts) {} revisitedCalls).events.map
        (fun event => (event.normalizedStatus, event.eventAt)) =
      [(.inTransit, 100), (.postponed, 200)] := by
  refine ⟨?_, ?_, ?_, ?_, ?_⟩
  all_goals decide +kernel

end Zomaal.ForceLog
