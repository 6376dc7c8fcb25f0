/-
**The parcels of OzoneExpress: status and fee.**

The information about a parcel brings its prices, and the fee that its status has by them; it takes
no lock.  A tracking envelope brings a status, and the fee that the status has by the stored prices;
it holds the lock of the parcel, and is ignored if its time is before the last action of the row.
This module embeds `persistInfo` and `persistTrackingEnvelope` of
`ozoneexpress-shipment.service.ts`, as far as the row of one parcel of a user is concerned.

Main results:

* `OzoneExpress.row_matches` — **the row matches after every run** of transactions each of which
  commits while what it read is still so, with its envelopes in order;
* `OzoneExpress.row_mismatches` — the two ways in which it may not.
-/

import Zomaal.CourierStatuses
import Zomaal.Latest
import Zomaal.ParcelSync
import Zomaal.QuickLivraisonRisk
import Zomaal.ReadCommitted

set_option autoImplicit false

namespace Zomaal.OzoneExpress

open QuickLivraison (UnicodeText)
open ReadCommitted (Program)

/-! ### Rows and answers -/

structure ParcelInfo extends OzonePrices where
  reference : Option String := none
  recipientName : Option String := none
  recipientPhone : Option String := none
  address : Option String := none
  city : Option String := none
  cityId : Option ℤ := none
  codAmount : Option Decimal := none
  note : Option String := none
  nature : Option String := none
  stock : Option ℤ := none
  canOpen : Option ℤ := none
  fragile : Option ℤ := none
  replacement : Option ℤ := none

structure Shipment extends ParcelInfo where
  providerStatus : String
  normalizedStatus : ShippingShipmentStatus
  fee : Option Decimal
  lastActionAt : Option ℤ

structure TrackingRecord where
  status : String
  trackingDate : Option ℤ := none
  deriving DecidableEq

/-- A tracking envelope of the parcel, and its place among the answers of the courier. -/
structure Envelope where
  answer : ℕ
  lastTracking : Option TrackingRecord := none
  history : List TrackingRecord := []
  deriving DecidableEq

/-- `trackingHistory`: the records by their dates. -/
def trackingHistory (envelope : Envelope) : List TrackingRecord :=
  envelope.history.mergeSort fun left right =>
    left.trackingDate.getD 0 ≤ right.trackingDate.getD 0

def Envelope.latestRecord (envelope : Envelope) : Option TrackingRecord :=
  envelope.lastTracking.or (trackingHistory envelope).getLast?

/-- The row of the parcel, and the envelopes that were persisted. -/
structure ParcelStore where
  row : Option Shipment := none
  persisted : List Envelope := []

/-- What a transaction may have locked: the parcel, and its row. -/
inductive Lock
  | parcel
  | row
  deriving DecidableEq

inductive OzoneError
  /-- `malformedResponse('TRACKING.LAST_TRACKING')` -/
  | malformedResponse
  /-- The transaction is broken off. -/
  | interrupted

/-! ### The two transactions -/

variable (unicode : UnicodeText)

/-- The `upsert` of `persistInfo`, with the statuses it has read. -/
def upsertInfo (info : ParcelInfo) (now : ℤ) (current : Option (String × ShippingShipmentStatus))
    (store : ParcelStore) : ParcelStore :=
  let providerStatus := (current.map (·.1)).getD "Nouveau Colis"
  let normalizedStatus :=
    (current.map (·.2)).getD (normalizeOzoneExpressStatus unicode providerStatus)
  let fee := ozoneFeeForStatus normalizedStatus info.toOzonePrices
  { store with
    row := some <|
      match store.row with
      | none =>
        { toParcelInfo := info
          providerStatus := providerStatus
          normalizedStatus := normalizedStatus
          fee := fee
          lastActionAt := some now }
      | some row => { row with toParcelInfo := info, fee := fee } }

/-- `persistInfo`; `now` is the clock of the server. -/
def persistInfo (info : ParcelInfo) (now : ℤ) : Program ParcelStore Lock OzoneError :=
  .read (fun _ => none)
    (fun store => store.row.map fun row => (row.providerStatus, row.normalizedStatus))
    fun current =>
      .write (fun _ => none) (fun _ => [.row]) (upsertInfo unicode info now current) .done

/-- What `persistTrackingEnvelope` reads of the row. -/
structure Current where
  prices : OzonePrices
  normalizedStatus : ShippingShipmentStatus
  lastActionAt : Option ℤ
  deriving DecidableEq

def Shipment.current (row : Shipment) : Current where
  prices := row.toOzonePrices
  normalizedStatus := row.normalizedStatus
  lastActionAt := row.lastActionAt

def TrackingRecord.normalizedStatus (latest : TrackingRecord) : ShippingShipmentStatus :=
  normalizeOzoneExpressStatus unicode latest.status

/-- The guard of `persistTrackingEnvelope`. -/
def isStale (current : Option Current) (latest : TrackingRecord) : Bool :=
  staleShipmentStatus
    (current.map fun current =>
      { normalizedStatus := current.normalizedStatus, providerUpdatedAt := current.lastActionAt })
    (latest.normalizedStatus unicode) latest.trackingDate

variable (providerCode : String)

/-- The `upsert` of `persistTrackingEnvelope`, with the prices it has read. -/
def upsertTracking (latest : TrackingRecord) (now : ℤ) (current : Option Current)
    (store : ParcelStore) : ParcelStore :=
  let normalizedStatus := latest.normalizedStatus unicode
  let fee := ozoneFeeForStatus normalizedStatus ((current.map (·.prices)).getD {})
  let lastActionAt := latest.trackingDate.getD now
  { store with
    row := some <|
      match store.row with
      | none =>
        { reference := some providerCode
          providerStatus := latest.status
          normalizedStatus := normalizedStatus
          fee := fee
          lastActionAt := some lastActionAt }
      | some row =>
        { row with
          providerStatus := latest.status
          normalizedStatus := normalizedStatus
          fee := fee
          lastActionAt := some lastActionAt } }

def ParcelStore.note (store : ParcelStore) (envelope : Envelope) : ParcelStore :=
  { store with persisted := store.persisted ++ [envelope] }

/-- `persistTrackingEnvelope`, which first takes the lock of the parcel. -/
def persistTrackingEnvelope (envelope : Envelope) (now : ℤ) : Program ParcelStore Lock OzoneError :=
  match envelope.latestRecord with
  | none => .fail .malformedResponse
  | some latest =>
    .write (fun _ => none) (fun _ => [.parcel]) id <|
      .read (fun _ => none) (fun store => store.row.map Shipment.current) fun current =>
        if isStale unicode current latest then
          .write (fun _ => none) (fun _ => []) (·.note envelope) .done
        else
          .write (fun _ => none) (fun _ => [.row])
            (fun store =>
              (upsertTracking unicode providerCode latest now current store).note envelope) .done

inductive Call
  | persistInfo (info : ParcelInfo) (now : ℤ)
  | persistTrackingEnvelope (envelope : Envelope) (now : ℤ)

def transaction : Call → Program ParcelStore Lock OzoneError
  | .persistInfo info now => persistInfo unicode info now
  | .persistTrackingEnvelope envelope now =>
    persistTrackingEnvelope unicode providerCode envelope now

/-! ### What is asked of the row -/

def Reopens (row : Shipment) (latest : TrackingRecord) : Prop :=
  row.normalizedStatus.isTerminal ∧ ¬ (latest.normalizedStatus unicode).isTerminal

instance (row : Shipment) (latest : TrackingRecord) : Decidable (Reopens unicode row latest) :=
  inferInstanceAs (Decidable (_ ∧ _))

/-- **The row matches**: its fee is that of its status by its prices, and its status that of the
newest envelope, unless that would reopen a terminal parcel. -/
structure Matches (store : ParcelStore) : Prop where
  fee : ∀ row, store.row = some row →
    row.fee = ozoneFeeForStatus row.normalizedStatus row.toOzonePrices
  status : ∀ row, store.row = some row →
    ∀ envelope, Latest.IsLatest Envelope.answer envelope store.persisted →
      ∀ latest, envelope.latestRecord = some latest →
        row.normalizedStatus = latest.normalizedStatus unicode ∨ Reopens unicode row latest

def isBefore (row : Shipment) (latest : TrackingRecord) : Bool :=
  match latest.trackingDate, row.lastActionAt with
  | some date, some lastActionAt => date ≤ lastActionAt
  | _, _ => false

/-- **The guard sees the envelopes in their order**: one that brings another status, and would not
reopen the parcel, is newer than all persisted and dated after the row's last action, or older than
one and dated before it. -/
def InOrder (call : Call) (store : ParcelStore) : Prop :=
  match call with
  | .persistInfo .. => True
  | .persistTrackingEnvelope envelope _ =>
    ∀ latest, envelope.latestRecord = some latest → ∀ row, store.row = some row →
      latest.normalizedStatus unicode = row.normalizedStatus ∨ Reopens unicode row latest ∨
        ((∀ other ∈ store.persisted, other.answer < envelope.answer) ∧ ¬ isBefore row latest) ∨
        ((∃ other ∈ store.persisted, envelope.answer < other.answer) ∧ isBefore row latest)

instance (call : Call) (store : ParcelStore) : Decidable (InOrder unicode call store) :=
  match call with
  | .persistInfo .. => isTrue trivial
  | .persistTrackingEnvelope envelope _ =>
    inferInstanceAs (Decidable (∀ latest ∈ envelope.latestRecord, ∀ row ∈ store.row,
      latest.normalizedStatus unicode = row.normalizedStatus ∨ Reopens unicode row latest ∨
        ((∀ other ∈ store.persisted, other.answer < envelope.answer) ∧ ¬ isBefore row latest) ∨
        ((∃ other ∈ store.persisted, envelope.answer < other.answer) ∧ isBefore row latest)))

/-! ### One transaction, alone -/

variable {unicode} {store store' : ParcelStore}

theorem isStale_iff (row : Shipment) (latest : TrackingRecord) :
    isStale unicode (some row.current) latest = true ↔
      (∃ date lastActionAt, latest.trackingDate = some date ∧ row.lastActionAt = some lastActionAt ∧
        (date < lastActionAt ∨
          (date = lastActionAt ∧ latest.normalizedStatus unicode ≠ row.normalizedStatus))) ∨
        Reopens unicode row latest := by
  simp only [isStale, staleShipmentStatus, Option.map_some, Shipment.current, Reopens]
  cases latest.trackingDate with
  | none => simp
  | some date =>
    cases row.lastActionAt with
    | none => simp
    | some lastActionAt => simp

variable {latest : TrackingRecord} {row : Shipment}

theorem reopens_of_isStale (hstale : isStale unicode (some row.current) latest = true)
    (hbefore : ¬ isBefore row latest) : Reopens unicode row latest := by
  rcases (isStale_iff row latest).1 hstale with ⟨date, lastActionAt, hdate, hlast, htime⟩ | hreopens
  · refine absurd ?_ hbefore
    rw [isBefore, hdate, hlast]
    rcases htime with hlt | ⟨heq, -⟩
    · exact decide_eq_true (le_of_lt hlt)
    · exact decide_eq_true (le_of_eq heq)
  · exact hreopens

theorem repeats_of_isBefore (hstale : isStale unicode (some row.current) latest = false)
    (hbefore : isBefore row latest) : latest.normalizedStatus unicode = row.normalizedStatus := by
  by_contra hother
  rw [isBefore] at hbefore
  split at hbefore
  · rename_i date lastActionAt hdate hlast
    have htrue := (isStale_iff row latest).2 (.inl ⟨date, lastActionAt, hdate, hlast,
      (lt_or_eq_of_le (of_decide_eq_true hbefore)).imp_right fun heq => ⟨heq, hother⟩⟩)
    rw [hstale] at htrue
    cases htrue
  · cases hbefore

variable (unicode) in
def Kept (store : ParcelStore) : Prop :=
  Matches unicode store ∧ (store.row = none → store.persisted = [])

variable {envelope : Envelope}

theorem not_isLatest_nil {persisted : List Envelope} (hnil : persisted = []) :
    ¬ Latest.IsLatest Envelope.answer envelope persisted := by
  rintro ⟨hmem, -⟩
  rw [hnil] at hmem
  exact List.not_mem_nil hmem

variable {now : ℤ}

theorem persistInfo_keeps {info : ParcelInfo} (h : Kept unicode store)
    (halone : (persistInfo unicode info now).alone store = some store') : Kept unicode store' := by
  simp only [persistInfo, Program.alone, Option.some.injEq] at halone
  subst halone
  cases hrow : store.row with
  | none =>
    refine ⟨⟨fun row hnew => ?_, fun row _ envelope hlatest => ?_⟩, fun hnone => by cases hnone⟩
    · simp only [upsertInfo, hrow, Option.some.injEq] at hnew
      rw [← hnew]
    · exact absurd hlatest (not_isLatest_nil (h.2 hrow))
  | some row =>
    refine ⟨⟨fun row' hnew => ?_, fun row' hnew envelope hlatest latest hrecord => ?_⟩,
      fun hnone => by cases hnone⟩
    all_goals
      simp only [upsertInfo, hrow, Option.map_some, Option.getD_some, Option.some.injEq] at hnew
      subst hnew
    · rfl
    · exact h.1.status row hrow envelope hlatest latest hrecord

theorem note_matches (h : Matches unicode store) (hrow : store.row = some row)
    (hrecord : envelope.latestRecord = some latest)
    (horder : InOrder unicode (.persistTrackingEnvelope envelope now) store)
    (hstale : isStale unicode (some row.current) latest = true) :
    Matches unicode (store.note envelope) := by
  refine ⟨h.fee, fun row' hrow' newest hlatest record hnewest => ?_⟩
  obtain ⟨hle, heq | hbefore⟩ := hlatest.of_append
  · subst heq
    obtain rfl : row = row' := Option.some.inj (hrow.symm.trans hrow')
    obtain rfl : latest = record := Option.some.inj (hrecord.symm.trans hnewest)
    rcases horder latest hrecord row hrow with hrepeats | hreopens | ⟨-, htime⟩ | ⟨hold, -⟩
    · exact .inl hrepeats.symm
    · exact .inr hreopens
    · exact .inr (reopens_of_isStale hstale htime)
    · -- it cannot be the newest and older than another one
      obtain ⟨other, hother, hlt⟩ := hold
      exact absurd (hlatest.2 other (List.mem_append_left _ hother)) (not_le.2 hlt)
  · exact h.status row' hrow' newest hbefore record hnewest

theorem upsertTracking_matches (h : Matches unicode store) (hrow : store.row = some row)
    (hrecord : envelope.latestRecord = some latest)
    (horder : InOrder unicode (.persistTrackingEnvelope envelope now) store)
    (hstale : isStale unicode (some row.current) latest = false) :
    Matches unicode
      ((upsertTracking unicode providerCode latest now (some row.current)
        store).note envelope) := by
  have hrow' : ((upsertTracking unicode providerCode latest now (some row.current)
      store).note envelope).row = some { row with
        providerStatus := latest.status
        normalizedStatus := latest.normalizedStatus unicode
        fee := ozoneFeeForStatus (latest.normalizedStatus unicode) row.toOzonePrices
        lastActionAt := some (latest.trackingDate.getD now) } := by
    simp [upsertTracking, ParcelStore.note, hrow, Shipment.current]
  refine ⟨fun written hwritten => ?_, fun written hwritten newest hlatest record hnewest => ?_⟩
  all_goals
    rw [hrow', Option.some.injEq] at hwritten
    subst hwritten
    dsimp only
  · obtain ⟨hle, heq | hbefore⟩ := hlatest.of_append
    · subst heq
      obtain rfl : latest = record := Option.some.inj (hrecord.symm.trans hnewest)
      exact .inl rfl
    · -- another one is the newest: the status of the row is repeated
      have hrepeats : latest.normalizedStatus unicode = row.normalizedStatus := by
        rcases horder latest hrecord row hrow with hrepeats | hreopens | ⟨hnewer, -⟩ | ⟨-, htime⟩
        · exact hrepeats
        · have htrue := (isStale_iff row latest).2 (.inr hreopens)
          rw [hstale] at htrue
          cases htrue
        · exact absurd hle (not_le.2 (hnewer newest hbefore.1))
        · exact repeats_of_isBefore hstale htime
      have hstatus := h.status row hrow newest hbefore record hnewest
      rw [Reopens] at hstatus ⊢
      rw [← hrepeats] at hstatus
      dsimp only
      exact hstatus

theorem persistTrackingEnvelope_keeps {providerCode : String} (h : Kept unicode store)
    (horder : InOrder unicode (.persistTrackingEnvelope envelope now) store)
    (halone : (persistTrackingEnvelope unicode providerCode envelope now).alone store =
      some store') : Kept unicode store' := by
  unfold persistTrackingEnvelope at halone
  cases hrecord : envelope.latestRecord with
  | none => simp [hrecord, Program.alone] at halone
  | some latest =>
    simp only [hrecord, Program.alone, id] at halone
    cases hrow : store.row with
    | none =>
      have hstale : isStale unicode none latest = false := rfl
      simp only [hrow, Option.map_none, hstale, Bool.false_eq_true, if_false, Program.alone,
        Option.some.injEq] at halone
      subst halone
      refine ⟨⟨fun row hnew => ?_, fun row hnew newest hlatest record hnewest => ?_⟩,
        fun hnone => by cases hnone⟩
      all_goals
        simp only [upsertTracking, ParcelStore.note, hrow, Option.some.injEq] at hnew
        subst hnew
        dsimp only
      · rfl
      · rcases hlatest.of_append.2 with heq | hbefore
        · subst heq
          obtain rfl : latest = record := Option.some.inj (hrecord.symm.trans hnewest)
          exact .inl rfl
        · exact absurd hbefore (not_isLatest_nil (h.2 hrow))
    | some row =>
      rw [hrow, Option.map_some] at halone
      cases hstale : isStale unicode (some row.current) latest with
      | true =>
        rw [if_pos hstale, Program.alone, Program.alone, Option.some.injEq] at halone
        subst halone
        exact ⟨note_matches h.1 hrow hrecord horder hstale,
          fun hnone => absurd (hrow.symm.trans hnone) (by simp)⟩
      | false =>
        rw [if_neg (by simp [hstale]), Program.alone, Program.alone,
          Option.some.injEq] at halone
        subst halone
        exact ⟨upsertTracking_matches providerCode h.1 hrow hrecord horder hstale,
          fun hnone => by cases hnone⟩

/-! ### Every interleaving -/

/-- **The row matches after every run** of transactions that take turns at every statement, if each
of them commits while what it has read of the parcel is still so, and the guard sees each envelope
in its order. -/
theorem row_matches (unicode : UnicodeText) (providerCode : String)
    {actions : List (ReadCommitted.Action Call OzoneError)}
    (h : Machine.Along (ReadCommitted.step (transaction unicode providerCode))
      (fun pool action => ReadCommitted.StillCurrent pool action ∧
        ReadCommitted.CommitMeets (InOrder unicode) pool action) { shared := {} } actions) :
    Matches unicode
      (Machine.run (ReadCommitted.step (transaction unicode providerCode)) { shared := {} }
        actions).shared := by
  have hkeeps : ∀ call store store', Kept unicode store → InOrder unicode call store →
      (transaction unicode providerCode call).alone store = some store' → Kept unicode store' := by
    intro call store store' hkept horder halone
    cases call with
    | persistInfo info now => exact persistInfo_keeps hkept halone
    | persistTrackingEnvelope envelope now =>
      exact persistTrackingEnvelope_keeps hkept horder halone
  have hstart : Kept unicode {} :=
    ⟨⟨(fun _ hrow => nomatch hrow), (fun _ hrow => nomatch hrow)⟩, fun _ => rfl⟩
  exact (ReadCommitted.run_keeps_when hkeeps hstart h).1

def parcelPrices : ParcelInfo :=
  { deliveredPrice := some 30, returnedPrice := some 15, refusedPrice := some 10 }

def trackedAt (answer : ℕ) (status : String) (date : ℤ) : Envelope :=
  { answer, lastTracking := some { status, trackingDate := some date } }

def creation : List (ReadCommitted.Action Call OzoneError) :=
  .start (.persistInfo parcelPrices 100) :: List.replicate 3 (.turn 0)

/-- An envelope waits for another one's lock, and an information comes when both are done. -/
def inTurn : List (ReadCommitted.Action Call OzoneError) :=
  creation ++
    [.start (.persistTrackingEnvelope (trackedAt 1 "IN_TRANSIT" 110) 111),
      .start (.persistTrackingEnvelope (trackedAt 2 "DELIVERED" 120) 121), .turn 1, .turn 2] ++
    List.replicate 3 (.turn 1) ++ List.replicate 4 (.turn 2) ++
    .start (.persistInfo parcelPrices 130) :: List.replicate 3 (.turn 3)

def plainRun (actions : List (ReadCommitted.Action Call OzoneError)) :
    ReadCommitted.Pool Call ParcelStore Lock OzoneError :=
  Machine.run (ReadCommitted.step (transaction QuickLivraison.plainTexts "OZ-1")) { shared := {} }
    actions

theorem row_matches_inTurn :
    ((plainRun inTurn).shared.row.map fun row => (row.normalizedStatus, row.fee)) =
      some (.delivered, some 30) ∧
    Matches QuickLivraison.plainTexts (plainRun inTurn).shared :=
  ⟨by decide +kernel, row_matches QuickLivraison.plainTexts "OZ-1" (by decide +kernel)⟩

/-- An information reads the status before an envelope brings another one, and writes after it. -/
def overlappingInfo : List (ReadCommitted.Action Call OzoneError) :=
  creation ++
    [.start (.persistInfo parcelPrices 110), .turn 1,
      .start (.persistTrackingEnvelope (trackedAt 1 "DELIVERED" 120) 121)] ++
    List.replicate 4 (.turn 2) ++ List.replicate 2 (.turn 1)

/-- An envelope that the courier has dated before the parcel was created by the server's clock. -/
def earlyEnvelope : List (ReadCommitted.Action Call OzoneError) :=
  creation ++ .start (.persistTrackingEnvelope (trackedAt 1 "DELIVERED" 90) 101) ::
    List.replicate 4 (.turn 1)

/-- **A delivered parcel without its fee**, and a parcel whose delivery is ignored: nothing is under
way, and the row matches neither its prices nor the newest envelope. -/
theorem row_mismatches :
    (ReadCommitted.Quiet (plainRun overlappingInfo) ∧
      ((plainRun overlappingInfo).shared.row.map fun row =>
        (row.normalizedStatus, row.fee, row.deliveredPrice)) = some (.delivered, none, some 30)) ∧
    (ReadCommitted.Quiet (plainRun earlyEnvelope) ∧
      (plainRun earlyEnvelope).shared.persisted = [trackedAt 1 "DELIVERED" 90] ∧
      ((plainRun earlyEnvelope).shared.row.map fun row => row.normalizedStatus) =
        some .pending) := by
  decide +kernel

end Zomaal.OzoneExpress
