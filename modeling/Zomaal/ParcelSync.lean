/-
**Every open parcel gets its turn.**

A sync run of a courier's service selects the parcels whose last action is the oldest, as many as
its limit says.  A refreshed parcel goes to the back of the queue only if the answer of the courier
is persisted, and only as far as the date of that answer.

Main results:

* `sync_reachesAll` — **after as many runs as the limit goes into the number of parcels, every
  parcel was selected**, if the runs keep the turns;
* `sync_starves` — of each of the services, two runs that select the same parcel twice.
-/

import Zomaal.KeyedRows
import Zomaal.MachineRun
import Zomaal.Rotation
import Zomaal.ShipmentChronology
import Mathlib.Data.Prod.Lex
import Mathlib.Data.Int.ConditionallyCompleteOrder

set_option autoImplicit false

namespace Zomaal

/-! ### The stored parcels -/

/-- What the sync services read and write of a stored parcel of a user. -/
structure ParcelRow where
  providerCode : String
  normalizedStatus : ShippingShipmentStatus
  lastActionAt : Option ℤ
  createdAt : ℤ
  providerUpdatedAt : Option ℤ
  deriving DecidableEq

/-- The statuses a sync run selects: all but those of its `notIn`. -/
def ShippingShipmentStatus.isSynced (status : ShippingShipmentStatus) : Bool :=
  status ∉ [.delivered, .cancelled, .returnedToStock, .returnedToSeller]

/-- `orderBy: [{ lastActionAt: 'asc' }, { createdAt: 'asc' }]`; a null comes last. -/
def syncPlace (lastActionAt : Option ℤ) (createdAt : ℤ) : WithTop ℤ ×ₗ ℤ :=
  match lastActionAt with
  | none => toLex (⊤, createdAt)
  | some lastActionAt => toLex ((lastActionAt : WithTop ℤ), createdAt)

def ParcelRow.place (row : ParcelRow) : WithTop ℤ ×ₗ ℤ := syncPlace row.lastActionAt row.createdAt

def openParcels (rows : List ParcelRow) : List ParcelRow :=
  rows.filter fun row => row.normalizedStatus.isSynced

/-- What the guard against stale answers sees of a parcel, with the time that a service compares. -/
def ParcelRow.stored (row : ParcelRow) (comparedAt : Option ℤ) : Option StoredStatus :=
  some { normalizedStatus := row.normalizedStatus, providerUpdatedAt := comparedAt }

/-! ### What a refresh writes -/

def ParcelRow.report (row : ParcelRow) (status : ShippingShipmentStatus) (lastActionAt : ℤ)
    (providerUpdatedAt : Option ℤ) : ParcelRow :=
  { row with
    normalizedStatus := status
    lastActionAt := some lastActionAt
    providerUpdatedAt := providerUpdatedAt }

namespace ForceLog

inductive Answer
  /-- The refresh throws before it writes. -/
  | failed
  | parcel (status : ShippingShipmentStatus) (providerUpdatedAt : Option ℤ)
  /-- `Parcel code Not Found`, by an answer that authenticates the account or not. -/
  | notFound (authenticated : Bool)

/-- What an answer brings: the new status and last action, or nothing. -/
def brings (now : ℤ) (answer : Answer) (row : ParcelRow) : Option (ShippingShipmentStatus × ℤ) :=
  match answer with
  | .failed => none
  | .parcel status providerUpdatedAt =>
    if staleShipmentStatus (row.stored row.providerUpdatedAt) status providerUpdatedAt then none
    else some (status, now)
  | .notFound authenticated =>
    if authenticated && row.normalizedStatus = .pending then some (.cancelled, now) else none

/-- `refresh`: `persistSnapshot`, or `reconcileProviderDeletion` of a parcel that is not found. -/
def refreshRow (now : ℤ) (answer : Answer) (row : ParcelRow) : ParcelRow :=
  match answer with
  | .failed => row
  | .parcel status providerUpdatedAt =>
    if staleShipmentStatus (row.stored row.providerUpdatedAt) status providerUpdatedAt then row
    else row.report status now providerUpdatedAt
  | .notFound authenticated =>
    if authenticated && row.normalizedStatus = .pending then row.report .cancelled now (some now)
    else row

end ForceLog

namespace OzoneExpress

inductive Answer
  /-- The refresh throws before it writes a status. -/
  | failed
  | tracked (status : ShippingShipmentStatus) (trackingDate : Option ℤ)

def brings (now : ℤ) (answer : Answer) (row : ParcelRow) : Option (ShippingShipmentStatus × ℤ) :=
  match answer with
  | .failed => none
  | .tracked status trackingDate =>
    if staleShipmentStatus (row.stored row.lastActionAt) status trackingDate then none
    else some (status, trackingDate.getD now)

/-- `refresh`: `persistInfo` writes none of these columns, then `persistTrackingEnvelope`. -/
def refreshRow (now : ℤ) (answer : Answer) (row : ParcelRow) : ParcelRow :=
  match answer with
  | .failed => row
  | .tracked status trackingDate =>
    if staleShipmentStatus (row.stored row.lastActionAt) status trackingDate then row
    else row.report status (trackingDate.getD now) row.providerUpdatedAt

end OzoneExpress

namespace Ameex

structure Event where
  normalizedStatus : ShippingShipmentStatus
  date : Option ℤ
  providerUpdatedAt : Option ℤ

variable (now : ℤ)

def eventDate (event : Event) : ℤ := event.date.getD now

/-- The mass answer or, where it has nothing of a parcel, the single one. -/
inductive Answer
  | failed
  | tracked (events : List Event)

/-- `[...events].sort((a, b) => eventDate(a) - eventDate(b)).at(-1)`. -/
def latest (events : List Event) : Option Event :=
  (events.mergeSort fun a b => eventDate now a ≤ eventDate now b).getLast?

/-- `persistSnapshot`, of a stored parcel. -/
def snapshotBrings (event : Event) (row : ParcelRow) : Option (ShippingShipmentStatus × ℤ) :=
  if staleShipmentStatus (row.stored row.providerUpdatedAt) event.normalizedStatus
      event.providerUpdatedAt then none
  else some (event.normalizedStatus, eventDate now event)

def snapshotRow (event : Event) (row : ParcelRow) : ParcelRow :=
  if staleShipmentStatus (row.stored row.providerUpdatedAt) event.normalizedStatus
      event.providerUpdatedAt then row
  else
    row.report event.normalizedStatus (eventDate now event)
      (event.providerUpdatedAt.or row.providerUpdatedAt)

def brings (answer : Answer) (row : ParcelRow) : Option (ShippingShipmentStatus × ℤ) :=
  match answer with
  | .failed => none
  | .tracked events => (latest now events).bind fun event => snapshotBrings now event row

/-- `reconcileTracking`; an answer without any event is malformed. -/
def refreshRow (answer : Answer) (row : ParcelRow) : ParcelRow :=
  match answer with
  | .failed => row
  | .tracked events =>
    match latest now events with
    | none => row
    | some event => snapshotRow now event row

/-- A record of the remote list, with the time it is persisted at; `fails` if that throws. -/
structure RemoteParcel where
  providerCode : Option String
  now : ℤ
  event : Event
  fails : Bool

/-- The codes an import has seen, beside the stored parcels. -/
structure Importing where
  seen : List String
  rows : List ParcelRow

/-- `persistSnapshot`, of a parcel that may not be stored yet. -/
def persistSnapshot (code : String) (now : ℤ) (event : Event) (rows : List ParcelRow) :
    List ParcelRow :=
  match KeyedRows.lookup ParcelRow.providerCode code rows with
  | some _ => KeyedRows.change ParcelRow.providerCode code (snapshotRow now event) rows
  | none =>
    rows ++ [{
      providerCode := code
      normalizedStatus := event.normalizedStatus
      lastActionAt := some (eventDate now event)
      createdAt := now
      providerUpdatedAt := event.providerUpdatedAt }]

/-- A record is persisted unless it has no code, its code was seen before, or it fails. -/
def importParcel (importing : Importing) (parcel : RemoteParcel) : Importing :=
  match parcel.providerCode with
  | none => importing
  | some code =>
    if code ∈ importing.seen then importing
    else
      { seen := importing.seen ++ [code]
        rows :=
          if parcel.fails then importing.rows
          else persistSnapshot code parcel.now parcel.event importing.rows }

def importRemoteParcels (parcels : List RemoteParcel) (rows : List ParcelRow) : List ParcelRow :=
  (Machine.run importParcel ⟨[], rows⟩ parcels).rows

end Ameex

/-! ### Whose turn it is -/

/-- **The parcels that wait stand in front**: each of them is stored and open, and comes before
every open parcel that does not wait. -/
structure Turns (waiting : List String) (rows : List ParcelRow) : Prop where
  codes : (rows.map ParcelRow.providerCode).Nodup
  nodup : waiting.Nodup
  stored : ∀ code ∈ waiting, ∃ row ∈ rows, row.providerCode = code ∧ row.normalizedStatus.isSynced
  front : ∀ row ∈ rows, ∀ other ∈ rows, other.normalizedStatus.isSynced →
    row.providerCode ∈ waiting → other.providerCode ∉ waiting → row.place < other.place

/-- A parcel written with a status and a place stays among the waiting ones, or behind them. -/
def InPlace (waiting : List String) (rows : List ParcelRow) (code : String)
    (status : ShippingShipmentStatus) (place : WithTop ℤ ×ₗ ℤ) : Prop :=
  if code ∈ waiting then
    status.isSynced ∧ ∀ other ∈ rows, other.normalizedStatus.isSynced →
      other.providerCode ∉ waiting → place < other.place
  else status.isSynced → ∀ other ∈ rows, other.providerCode ∈ waiting → other.place < place

variable {rows : List ParcelRow} {waiting : List String} {code : String}

theorem Turns.change (h : Turns waiting rows) {f : ParcelRow → ParcelRow}
    (hcode : ∀ row, (f row).providerCode = row.providerCode)
    (hplace : ∀ row ∈ rows, row.providerCode = code → f row = row ∨
      InPlace waiting rows code (f row).normalizedStatus (f row).place) :
    Turns waiting (KeyedRows.change ParcelRow.providerCode code f rows) := by
  have hmem : ∀ {row}, row ∈ KeyedRows.change ParcelRow.providerCode code f rows → row ∈ rows ∨
      (row.providerCode = code ∧ InPlace waiting rows code row.normalizedStatus row.place) := by
    intro row hrow
    obtain ⟨before, hbefore, hkey, rfl⟩ | ⟨hrow, -⟩ :=
      (KeyedRows.mem_change ParcelRow.providerCode).1 hrow
    · rcases hplace before hbefore hkey with hsame | hin
      · exact .inl (hsame.symm ▸ hbefore)
      · exact .inr ⟨(hcode before).trans hkey, hin⟩
    · exact .inl hrow
  refine ⟨?_, h.nodup, ?_, ?_⟩
  · rw [KeyedRows.map_key_change _ hcode]
    exact h.codes
  · intro waits hwaits
    obtain ⟨row, hrow, hrowCode, hopen⟩ := h.stored waits hwaits
    by_cases hkey : row.providerCode = code
    · refine ⟨f row, (KeyedRows.mem_change _).2 (.inl ⟨row, hrow, hkey, rfl⟩),
        (hcode row).trans hrowCode, ?_⟩
      rcases hplace row hrow hkey with hsame | hin
      · rwa [hsame]
      · rw [InPlace, if_pos (by rwa [← hkey, hrowCode])] at hin
        exact hin.1
    · exact ⟨row, (KeyedRows.mem_change _).2 (.inr ⟨hrow, hkey⟩), hrowCode, hopen⟩
  · intro row hrow other hother hopen hwaits hnot
    rcases hmem hrow with hrow | ⟨hrowCode, hrowIn⟩ <;>
      rcases hmem hother with hother | ⟨hotherCode, hotherIn⟩
    · exact h.front row hrow other hother hopen hwaits hnot
    · rw [InPlace, if_neg (hotherCode ▸ hnot)] at hotherIn
      exact hotherIn hopen row hrow hwaits
    · rw [InPlace, if_pos (hrowCode ▸ hwaits)] at hrowIn
      exact hrowIn.2 other hother hopen hnot
    · exact absurd (hrowCode ▸ hwaits) (hotherCode ▸ hnot)

variable {row : ParcelRow}

theorem Turns.append (h : Turns waiting rows)
    (hnew : ∀ other ∈ rows, other.providerCode ≠ row.providerCode)
    (hplace : InPlace waiting rows row.providerCode row.normalizedStatus row.place) :
    Turns waiting (rows ++ [row]) := by
  have hfresh : row.providerCode ∉ waiting := by
    intro hwaits
    obtain ⟨other, hother, hcode, -⟩ := h.stored _ hwaits
    exact hnew other hother hcode
  rw [InPlace, if_neg hfresh] at hplace
  refine ⟨?_, h.nodup, ?_, ?_⟩
  · exact KeyedRows.nodup_concat _ h.codes hnew
  · intro code hcode
    obtain ⟨other, hother, hrest⟩ := h.stored code hcode
    exact ⟨other, List.mem_append_left _ hother, hrest⟩
  · intro first hfirst other hother hopen hwaits hnot
    rcases List.mem_append.1 hfirst with hfirst | hfirst
    · rcases List.mem_append.1 hother with hother | hother
      · exact h.front first hfirst other hother hopen hwaits hnot
      · rw [List.mem_singleton] at hother
        rw [hother] at hopen ⊢
        exact hplace hopen first hfirst hwaits
    · rw [List.mem_singleton] at hfirst
      exact absurd (hfirst ▸ hwaits) hfresh

namespace Ameex

/-- **A record of the remote list leaves the waiting parcels in front**, if it is persisted. -/
def ImportsInPlace (waiting : List String) (importing : Importing) (parcel : RemoteParcel) :
    Prop :=
  match parcel.providerCode with
  | none => True
  | some code =>
    code ∈ importing.seen ∨ parcel.fails ∨
      match KeyedRows.lookup ParcelRow.providerCode code importing.rows with
      | none =>
        InPlace waiting importing.rows code parcel.event.normalizedStatus
          (syncPlace (some (eventDate parcel.now parcel.event)) parcel.now)
      | some row =>
        match snapshotBrings parcel.now parcel.event row with
        | none => True
        | some (status, lastActionAt) =>
          InPlace waiting importing.rows code status
            (syncPlace (some lastActionAt) row.createdAt)

def ImportKeepsTurns (waiting : List String) (rows : List ParcelRow)
    (parcels : List RemoteParcel) : Prop :=
  Machine.Along importParcel (ImportsInPlace waiting) ⟨[], rows⟩ parcels

theorem snapshotRow_eq (now : ℤ) (event : Event) (row : ParcelRow) :
    snapshotRow now event row =
      match snapshotBrings now event row with
      | none => row
      | some (status, lastActionAt) =>
        row.report status lastActionAt (event.providerUpdatedAt.or row.providerUpdatedAt) := by
  rw [snapshotRow, snapshotBrings]
  split <;> rfl

theorem snapshotRow_code (now : ℤ) (event : Event) (row : ParcelRow) :
    (snapshotRow now event row).providerCode = row.providerCode := by
  rw [snapshotRow]
  split <;> rfl

theorem persistSnapshot_turns (h : Turns waiting rows) {now : ℤ} {event : Event}
    (hplace : match KeyedRows.lookup ParcelRow.providerCode code rows with
      | none => InPlace waiting rows code event.normalizedStatus
          (syncPlace (some (eventDate now event)) now)
      | some row =>
        match snapshotBrings now event row with
        | none => True
        | some (status, lastActionAt) =>
          InPlace waiting rows code status (syncPlace (some lastActionAt) row.createdAt)) :
    Turns waiting (persistSnapshot code now event rows) := by
  rw [persistSnapshot]
  cases hlookup : KeyedRows.lookup ParcelRow.providerCode code rows with
  | none =>
    rw [hlookup] at hplace
    exact h.append ((KeyedRows.lookup_none _).1 hlookup) hplace
  | some row =>
    rw [hlookup] at hplace
    refine h.change (snapshotRow_code now event) fun row' hrow' hcode => ?_
    -- the code finds this row
    have hfound := KeyedRows.lookup_of_mem ParcelRow.providerCode h.codes hrow'
    rw [hcode, hlookup, Option.some.injEq] at hfound
    subst hfound
    rw [snapshotRow_eq]
    cases hbrings : snapshotBrings now event row with
    | none => exact .inl rfl
    | some brought =>
      dsimp only at hplace
      rw [hbrings] at hplace
      exact .inr hplace

theorem importRemoteParcels_turns {parcels : List RemoteParcel} (h : Turns waiting rows)
    (hkeeps : ImportKeepsTurns waiting rows parcels) :
    Turns waiting (importRemoteParcels parcels rows) := by
  refine Machine.run_keeps_along (I := fun importing => Turns waiting importing.rows) ?_ h hkeeps
  intro importing parcel hturns hplace
  rw [ImportsInPlace] at hplace
  rw [importParcel]
  split
  · exact hturns
  · rename_i code hcode
    rw [hcode] at hplace
    by_cases hseen : code ∈ importing.seen
    · rwa [if_pos hseen]
    · rw [if_neg hseen]
      by_cases hfails : parcel.fails
      · simpa only [hfails, if_true] using hturns
      · simp only [hfails, Bool.false_eq_true, if_false]
        refine persistSnapshot_turns hturns ?_
        simpa [hseen, hfails] using hplace

end Ameex

/-! ### A sync run -/

/-- **A courier's sync service**: what it imports before it selects, and what a refresh writes. -/
structure SyncService where
  Remote : Type
  Answer : Type
  importRemoteParcels : Remote → List ParcelRow → List ParcelRow
  refreshRow : ℤ → Answer → ParcelRow → ParcelRow
  /-- The status and the last action that an answer brings, or nothing. -/
  brings : ℤ → Answer → ParcelRow → Option (ShippingShipmentStatus × ℤ)
  /-- The import leaves the waiting parcels in front. -/
  ImportKeepsTurns : List String → List ParcelRow → Remote → Prop
  import_turns : ∀ {waiting rows remote}, Turns waiting rows →
    ImportKeepsTurns waiting rows remote → Turns waiting (importRemoteParcels remote rows)
  refreshRow_code : ∀ now answer row,
    (refreshRow now answer row).providerCode = row.providerCode
  refreshRow_brings : ∀ {now answer row status lastActionAt},
    brings now answer row = some (status, lastActionAt) →
      (refreshRow now answer row).normalizedStatus = status ∧
        (refreshRow now answer row).place = syncPlace (some lastActionAt) row.createdAt

/-- The refresh of a parcel, with its time by the clock of the server. -/
structure Refresh (Answer : Type) where
  providerCode : String
  now : ℤ
  answer : Answer

structure SyncRun (service : SyncService) where
  remote : service.Remote
  refreshes : List (Refresh service.Answer)

def SyncRun.selected {service : SyncService} (run : SyncRun service) : List String :=
  run.refreshes.map Refresh.providerCode

/-- The stored parcels, and which of those that were open at the start no run has selected yet. -/
structure SyncWorld where
  rows : List ParcelRow
  waiting : List String

namespace SyncService

variable (service : SyncService)

variable (refreshes : List (Refresh service.Answer))

def refreshAll (rows : List ParcelRow) : List ParcelRow :=
  refreshes.foldl (fun rows refresh =>
    KeyedRows.change ParcelRow.providerCode refresh.providerCode
      (service.refreshRow refresh.now refresh.answer) rows) rows

/-- `sync`: the import, then a refresh of each parcel selected. -/
def sync (world : SyncWorld) (run : SyncRun service) : SyncWorld :=
  { rows := service.refreshAll run.refreshes (service.importRemoteParcels run.remote world.rows)
    waiting := world.waiting.filter fun code => code ∉ run.selected }

/-- `findMany`: the parcels refreshed are the first ones by their place, up to the limit. -/
def Selects (limit : ℕ) (world : SyncWorld) (run : SyncRun service) : Prop :=
  ∃ page, Rotation.IsPage ParcelRow.place limit
      (openParcels (service.importRemoteParcels run.remote world.rows)) page ∧
    run.selected = page.map ParcelRow.providerCode

/-- **A refresh puts a parcel behind another one**: it is neither a failure nor stale, and closes
the parcel or is dated after the other's last action. -/
def PutsBehind (refresh : Refresh service.Answer) (row other : ParcelRow) : Prop :=
  match service.brings refresh.now refresh.answer row with
  | none => False
  | some (status, lastActionAt) =>
    status.isSynced → other.place < syncPlace (some lastActionAt) row.createdAt

instance (refresh : Refresh service.Answer) (row other : ParcelRow) :
    Decidable (service.PutsBehind refresh row other) :=
  match h : service.brings refresh.now refresh.answer row with
  | none => isFalse (by simp [PutsBehind, h])
  | some (status, lastActionAt) =>
    decidable_of_iff (status.isSynced → other.place < syncPlace (some lastActionAt) row.createdAt)
      (by simp [PutsBehind, h])

/-- **A run keeps the turns**: the import leaves the waiting parcels in front, and each refresh puts
its parcel behind those that still wait. -/
def KeepsTurns (world : SyncWorld) (run : SyncRun service) : Prop :=
  service.ImportKeepsTurns world.waiting world.rows run.remote ∧
    ∀ refresh ∈ run.refreshes, ∀ row ∈ service.importRemoteParcels run.remote world.rows,
      row.providerCode = refresh.providerCode →
        ∀ other ∈ service.importRemoteParcels run.remote world.rows,
          other.providerCode ∈ (service.sync world run).waiting →
            service.PutsBehind refresh row other

def refreshed (row : ParcelRow) : ParcelRow :=
  refreshes.foldl (fun row refresh =>
    if row.providerCode = refresh.providerCode then
      service.refreshRow refresh.now refresh.answer row
    else row) row

variable {service}

theorem refreshAll_eq (rows : List ParcelRow) :
    service.refreshAll refreshes rows = rows.map (service.refreshed refreshes) :=
  KeyedRows.foldl_change _ _ _ _ _

theorem refreshed_of_notMem {refreshes : List (Refresh service.Answer)}
    (h : row.providerCode ∉ refreshes.map Refresh.providerCode) :
    service.refreshed refreshes row = row := by
  induction refreshes with
  | nil => rfl
  | cons refresh refreshes ih =>
    rw [List.map_cons, List.mem_cons, not_or] at h
    rw [refreshed, List.foldl_cons, if_neg h.1]
    exact ih h.2

theorem refreshed_of_mem {refreshes : List (Refresh service.Answer)}
    (hnodup : (refreshes.map Refresh.providerCode).Nodup) {refresh : Refresh service.Answer}
    (hrefresh : refresh ∈ refreshes) (hcode : row.providerCode = refresh.providerCode) :
    service.refreshed refreshes row = service.refreshRow refresh.now refresh.answer row := by
  induction refreshes with
  | nil => exact absurd hrefresh (List.not_mem_nil)
  | cons head refreshes ih =>
    rw [List.map_cons, List.nodup_cons] at hnodup
    rw [refreshed, List.foldl_cons]
    rcases List.mem_cons.1 hrefresh with rfl | htail
    · rw [if_pos hcode]
      refine refreshed_of_notMem ?_
      rw [service.refreshRow_code, hcode]
      exact hnodup.1
    · have hne : row.providerCode ≠ head.providerCode := by
        intro heq
        exact hnodup.1 (heq ▸ hcode ▸ List.mem_map_of_mem htail)
      rw [if_neg hne]
      exact ih hnodup.2 htail

theorem refreshed_code (row : ParcelRow) :
    (service.refreshed refreshes row).providerCode = row.providerCode := by
  induction refreshes generalizing row with
  | nil => rfl
  | cons refresh refreshes ih =>
    rw [refreshed, List.foldl_cons]
    refine (ih _).trans ?_
    split
    · exact service.refreshRow_code _ _ _
    · rfl

end SyncService

/-! ### What a run does to the turns -/

section Runs

variable {service : SyncService} {limit : ℕ} {world : SyncWorld} {run : SyncRun service}

theorem SyncService.Selects.nodup (h : service.Selects limit world run)
    (hcodes : ((service.importRemoteParcels run.remote world.rows).map
      ParcelRow.providerCode).Nodup) : run.selected.Nodup := by
  obtain ⟨page, ⟨order, horder, rfl⟩, hselected⟩ := h
  rw [hselected]
  have hopen : ((openParcels (service.importRemoteParcels run.remote world.rows)).map
      ParcelRow.providerCode).Nodup := (List.filter_sublist.map _).nodup hcodes
  exact ((List.take_sublist limit order).map _).nodup
    (((horder.1.map ParcelRow.providerCode).nodup_iff).2 hopen)

theorem Turns.waiting_length {selected : List String} (h : Turns waiting rows)
    {page : List ParcelRow} (hpage : Rotation.IsPage ParcelRow.place limit (openParcels rows) page)
    (hselected : selected = page.map ParcelRow.providerCode) :
    (waiting.filter fun code => code ∉ selected).length ≤ waiting.length - limit := by
  obtain ⟨order, horder, rfl⟩ := hpage
  have hopen : ∀ row, row ∈ openParcels rows ↔ row ∈ rows ∧ row.normalizedStatus.isSynced :=
    fun row => List.mem_filter
  have hfront : Rotation.Front ParcelRow.place (fun row => row.providerCode ∈ waiting)
      (openParcels rows) := by
    intro row hrow other hother hwaits hnot
    exact h.front row ((hopen row).1 hrow).1 other ((hopen other).1 hother).1
      ((hopen other).1 hother).2 hwaits hnot
  have hleft := hfront.left horder limit
  -- every open parcel that waits has one of the codes
  have hcodes : (((openParcels rows).filter (·.providerCode ∈ waiting)).map
      ParcelRow.providerCode).Nodup :=
    ((List.filter_sublist.trans List.filter_sublist).map _).nodup h.codes
  have hbound : ((openParcels rows).filter (·.providerCode ∈ waiting)).length ≤ waiting.length := by
    rw [← List.length_map ParcelRow.providerCode]
    refine (List.subperm_of_subset hcodes fun code hcode => ?_).length_le
    obtain ⟨row, hrow, rfl⟩ := List.mem_map.1 hcode
    simpa using (List.mem_filter.1 hrow).2
  -- and a code that still waits belongs to a parcel behind the page
  have hstill : (waiting.filter fun code => code ∉ selected) ⊆
      ((order.drop limit).filter (·.providerCode ∈ waiting)).map ParcelRow.providerCode := by
    intro code hcode
    rw [List.mem_filter] at hcode
    obtain ⟨row, hrow, rfl, hsynced⟩ := h.stored code hcode.1
    have hmem : row ∈ order := horder.1.mem_iff.2 ((hopen row).2 ⟨hrow, hsynced⟩)
    rw [← List.take_append_drop limit order, List.mem_append] at hmem
    rcases hmem with htake | hdrop
    · have hin : row.providerCode ∈ selected := hselected ▸ List.mem_map_of_mem htake
      exact absurd hin (by simpa using hcode.2)
    · exact List.mem_map_of_mem (List.mem_filter.2 ⟨hdrop, by simpa using hcode.1⟩)
  calc (waiting.filter fun code => code ∉ selected).length
      ≤ (((order.drop limit).filter (·.providerCode ∈ waiting)).map
          ParcelRow.providerCode).length :=
        (List.subperm_of_subset (h.nodup.filter _) hstill).length_le
    _ = ((openParcels rows).filter (·.providerCode ∈ waiting)).length - limit := by
        rw [List.length_map, hleft]
    _ ≤ waiting.length - limit := Nat.sub_le_sub_right hbound limit

theorem Turns.sync (h : Turns world.waiting world.rows) (hselects : service.Selects limit world run)
    (hkeeps : service.KeepsTurns world run) :
    Turns (service.sync world run).waiting (service.sync world run).rows := by
  have himport := service.import_turns h hkeeps.1
  have hnodup := hselects.nodup himport.codes
  have hrows : (service.sync world run).rows =
      (service.importRemoteParcels run.remote world.rows).map (service.refreshed run.refreshes) :=
    SyncService.refreshAll_eq _ _
  -- a parcel that still waits is the one it was
  have hwaits : ∀ row, (service.refreshed run.refreshes row).providerCode ∈
      (service.sync world run).waiting → row.providerCode ∈ world.waiting ∧
        service.refreshed run.refreshes row = row := by
    intro row hrow
    rw [SyncService.refreshed_code] at hrow
    obtain ⟨hbefore, hnot⟩ := List.mem_filter.1 hrow
    have hout : row.providerCode ∉ run.selected := by simpa using hnot
    exact ⟨hbefore, SyncService.refreshed_of_notMem hout⟩
  rw [hrows]
  refine ⟨?_, himport.nodup.filter _, ?_, ?_⟩
  · rw [List.map_map]
    have hcodes : ParcelRow.providerCode ∘ service.refreshed run.refreshes =
        ParcelRow.providerCode := funext fun row => SyncService.refreshed_code _ row
    rw [hcodes]
    exact himport.codes
  · intro code hcode
    obtain ⟨hbefore, hnot⟩ := List.mem_filter.1 hcode
    obtain ⟨row, hrow, rfl, hopen⟩ := himport.stored code hbefore
    have hout : row.providerCode ∉ run.selected := by simpa using hnot
    have hsame : service.refreshed run.refreshes row = row := SyncService.refreshed_of_notMem hout
    exact ⟨row, List.mem_map.2 ⟨row, hrow, hsame⟩, rfl, hopen⟩
  · intro first hfirst second hsecond hopen hwaiting hnot
    obtain ⟨row, hrow, rfl⟩ := List.mem_map.1 hfirst
    obtain ⟨other, hother, rfl⟩ := List.mem_map.1 hsecond
    obtain ⟨hbefore, hsame⟩ := hwaits row hwaiting
    rw [hsame] at hwaiting ⊢
    by_cases hselected : other.providerCode ∈ run.selected
    · -- the other parcel was refreshed, and went behind
      obtain ⟨refresh, hrefresh, hcode⟩ := List.mem_map.1 hselected
      have hbehind := hkeeps.2 refresh hrefresh other hother hcode.symm row hrow hwaiting
      rw [SyncService.refreshed_of_mem hnodup hrefresh hcode.symm] at hopen ⊢
      rw [SyncService.PutsBehind] at hbehind
      split at hbehind
      · exact hbehind.elim
      · rename_i status lastActionAt hbrings
        obtain ⟨hstatus, hplace⟩ := service.refreshRow_brings hbrings
        rw [hplace]
        exact hbehind (hstatus ▸ hopen)
    · have hsameOther : service.refreshed run.refreshes other = other :=
        SyncService.refreshed_of_notMem hselected
      rw [hsameOther] at hopen hnot ⊢
      refine himport.front row hrow other hother hopen hbefore fun hwaitsOther => hnot ?_
      exact List.mem_filter.2 ⟨hwaitsOther, by simpa using hselected⟩

def SyncWorld.start (rows : List ParcelRow) : SyncWorld :=
  { rows := rows, waiting := (openParcels rows).map ParcelRow.providerCode }

theorem SyncWorld.start_turns (hcodes : (rows.map ParcelRow.providerCode).Nodup) :
    Turns (SyncWorld.start rows).waiting (SyncWorld.start rows).rows := by
  refine ⟨hcodes, (List.filter_sublist.map _).nodup hcodes, ?_, ?_⟩
  · intro code hcode
    obtain ⟨row, hrow, rfl⟩ := List.mem_map.1 hcode
    exact ⟨row, (List.mem_filter.1 hrow).1, rfl, (List.mem_filter.1 hrow).2⟩
  · intro row _ other hother hopen _ hnot
    exact absurd (List.mem_map_of_mem (List.mem_filter.2 ⟨hother, hopen⟩)) hnot

theorem waiting_run (runs : List (SyncRun service)) (world : SyncWorld)
    (hcode : code ∈ world.waiting) (hnot : ∀ run ∈ runs, code ∉ run.selected) :
    code ∈ (Machine.run service.sync world runs).waiting := by
  induction runs generalizing world with
  | nil => exact hcode
  | cons run runs ih =>
    refine ih (service.sync world run) (List.mem_filter.2 ⟨hcode, ?_⟩)
      fun later hlater => hnot later (.tail run hlater)
    simpa using hnot run (.head runs)

theorem waiting_shorter {runs : List (SyncRun service)} {world : SyncWorld}
    (h : Turns world.waiting world.rows)
    (halong : Machine.Along service.sync
      (fun world run => service.Selects limit world run ∧ service.KeepsTurns world run)
      world runs) :
    (Machine.run service.sync world runs).waiting.length ≤
      world.waiting.length - runs.length * limit := by
  induction runs generalizing world with
  | nil => simp
  | cons run runs ih =>
    obtain ⟨⟨hselects, hkeeps⟩, hrest⟩ := halong
    have hnext := ih (h.sync hselects hkeeps) hrest
    obtain ⟨page, hpage, hselected⟩ := hselects
    have hless := (service.import_turns h hkeeps.1).waiting_length hpage hselected
    rw [Machine.run_cons, List.length_cons, Nat.succ_mul]
    have hwaiting :
        (service.sync world run).waiting.length ≤ world.waiting.length - limit := hless
    omega

end Runs

/-! ### The three services -/

/-- The couriers whose services select the parcels of a run by their last action. -/
inductive SyncCourier
  | forceLog
  | ozoneExpress
  | ameex

def ForceLog.syncService : SyncService where
  Remote := Unit
  Answer := ForceLog.Answer
  importRemoteParcels _ rows := rows
  refreshRow := ForceLog.refreshRow
  brings := ForceLog.brings
  ImportKeepsTurns _ _ _ := True
  import_turns h _ := h
  refreshRow_code now answer row := by
    unfold ForceLog.refreshRow
    split
    · rfl
    · split <;> rfl
    · split <;> rfl
  refreshRow_brings {now answer row status lastActionAt} h := by
    unfold ForceLog.brings at h
    unfold ForceLog.refreshRow
    split at h
    · exact absurd h (by simp)
    · split at h
      · exact absurd h (by simp)
      · rename_i hstale
        obtain ⟨rfl, rfl⟩ := Prod.mk.inj (Option.some.inj h)
        exact ⟨by rw [if_neg hstale]; rfl, by rw [if_neg hstale]; rfl⟩
    · split at h
      · rename_i hpending
        obtain ⟨rfl, rfl⟩ := Prod.mk.inj (Option.some.inj h)
        exact ⟨by rw [if_pos hpending]; rfl, by rw [if_pos hpending]; rfl⟩
      · exact absurd h (by simp)

def OzoneExpress.syncService : SyncService where
  Remote := Unit
  Answer := OzoneExpress.Answer
  importRemoteParcels _ rows := rows
  refreshRow := OzoneExpress.refreshRow
  brings := OzoneExpress.brings
  ImportKeepsTurns _ _ _ := True
  import_turns h _ := h
  refreshRow_code now answer row := by
    unfold OzoneExpress.refreshRow
    split
    · rfl
    · split <;> rfl
  refreshRow_brings {now answer row status lastActionAt} h := by
    unfold OzoneExpress.brings at h
    unfold OzoneExpress.refreshRow
    split at h
    · exact absurd h (by simp)
    · split at h
      · exact absurd h (by simp)
      · rename_i hstale
        obtain ⟨rfl, rfl⟩ := Prod.mk.inj (Option.some.inj h)
        exact ⟨by rw [if_neg hstale]; rfl, by rw [if_neg hstale]; rfl⟩

def Ameex.syncService : SyncService where
  Remote := List Ameex.RemoteParcel
  Answer := Ameex.Answer
  importRemoteParcels := Ameex.importRemoteParcels
  refreshRow := Ameex.refreshRow
  brings := Ameex.brings
  ImportKeepsTurns := Ameex.ImportKeepsTurns
  import_turns := Ameex.importRemoteParcels_turns
  refreshRow_code now answer row := by
    unfold Ameex.refreshRow
    split
    · rfl
    · split
      · rfl
      · exact Ameex.snapshotRow_code _ _ _
  refreshRow_brings {now answer row status lastActionAt} h := by
    unfold Ameex.brings at h
    unfold Ameex.refreshRow
    split at h
    · exact absurd h (by simp)
    · obtain ⟨event, hevent, hbrings⟩ := Option.bind_eq_some_iff.1 h
      rw [hevent]
      dsimp only
      rw [Ameex.snapshotRow_eq, hbrings]
      exact ⟨rfl, rfl⟩

def SyncCourier.service : SyncCourier → SyncService
  | .forceLog => ForceLog.syncService
  | .ozoneExpress => OzoneExpress.syncService
  | .ameex => Ameex.syncService

/-- **Every open parcel gets its turn**: as many runs as the limit goes into the number of open
parcels select each of them, if every run keeps the turns. -/
theorem sync_reachesAll (courier : SyncCourier) {limit : ℕ} (hlimit : 1 ≤ limit)
    {rows : List ParcelRow} (hcodes : (rows.map ParcelRow.providerCode).Nodup)
    {runs : List (SyncRun courier.service)}
    (hruns : runs.length = ((openParcels rows).length + limit - 1) / limit)
    (halong : Machine.Along courier.service.sync
      (fun world run => courier.service.Selects limit world run ∧
        courier.service.KeepsTurns world run) (SyncWorld.start rows) runs) :
    ∀ row ∈ openParcels rows, ∃ run ∈ runs, row.providerCode ∈ run.selected := by
  intro row hrow
  by_contra hnever
  push Not at hnever
  have hwaits := waiting_run runs (SyncWorld.start rows) (List.mem_map_of_mem hrow) hnever
  have hlength := waiting_shorter (SyncWorld.start_turns hcodes) halong
  have hstart : (SyncWorld.start rows).waiting.length = (openParcels rows).length :=
    List.length_map _
  -- the runs have room for all of the parcels
  have hroom : (openParcels rows).length ≤ runs.length * limit := by
    have hdiv := Nat.div_add_mod ((openParcels rows).length + limit - 1) limit
    have hmod := Nat.mod_lt ((openParcels rows).length + limit - 1) hlimit
    rw [← hruns, Nat.mul_comm] at hdiv
    omega
  have hnone : (Machine.run courier.service.sync (SyncWorld.start rows) runs).waiting = [] :=
    List.eq_nil_of_length_eq_zero (by omega)
  rw [hnone] at hwaits
  exact absurd hwaits List.not_mem_nil

/-! ### Two parcels, one of which is always first -/

def olderParcel : ParcelRow :=
  { providerCode := "A", normalizedStatus := .inTransit, lastActionAt := some 10, createdAt := 1,
    providerUpdatedAt := some 10 }

def newerParcel : ParcelRow :=
  { providerCode := "B", normalizedStatus := .inTransit, lastActionAt := some 20, createdAt := 2,
    providerUpdatedAt := some 20 }

def twoParcels : List ParcelRow := [olderParcel, newerParcel]

def twoRuns (service : SyncService) (remote : service.Remote) (answer answer' : service.Answer) :
    List (SyncRun service) :=
  [{ remote := remote, refreshes := [⟨"A", 100, answer⟩] },
   { remote := remote, refreshes := [⟨"A", 200, answer'⟩] }]

def failedRuns : List (SyncRun SyncCourier.forceLog.service) :=
  twoRuns ForceLog.syncService () .failed .failed

def takingTurns : List (SyncRun SyncCourier.forceLog.service) :=
  [{ remote := (), refreshes := [⟨"A", 100, .parcel .outForDelivery none⟩] },
   { remote := (), refreshes := [⟨"B", 200, .failed⟩] }]

/-- OzoneExpress: both answers are persisted, with dates before the last action of the other. -/
def earlyRuns : List (SyncRun SyncCourier.ozoneExpress.service) :=
  twoRuns OzoneExpress.syncService () (.tracked .atWarehouse (some 11))
    (.tracked .inTransit (some 12))

def staleRuns : List (SyncRun SyncCourier.ameex.service) :=
  twoRuns Ameex.syncService [] (.tracked [⟨.outForDelivery, some 30, some 5⟩])
    (.tracked [⟨.outForDelivery, some 40, some 5⟩])

theorem selects_first {service : SyncService} {world : SyncWorld} {run : SyncRun service}
    (first second : ParcelRow)
    (hopen : openParcels (service.importRemoteParcels run.remote world.rows) = [first, second])
    (hplace : first.place ≤ second.place) (hselected : run.selected = [first.providerCode]) :
    service.Selects 1 world run :=
  ⟨[first], ⟨[first, second], ⟨hopen ▸ .refl _, by simpa using hplace⟩, rfl⟩, hselected⟩

/-- **Two parcels take turns** when the answers about the first are persisted, and dated late. -/
theorem sync_reachesAll_two :
    takingTurns.length = 2 ∧
      ∀ row ∈ openParcels twoParcels, ∃ run ∈ takingTurns, row.providerCode ∈ run.selected := by
  refine ⟨rfl, sync_reachesAll .forceLog (le_refl 1) (by decide) rfl
    ⟨⟨?_, ?_⟩, ⟨?_, ?_⟩, trivial⟩⟩
  · exact selects_first olderParcel newerParcel rfl (by decide) rfl
  · exact ⟨trivial, by decide⟩
  · refine ⟨[newerParcel], ⟨[newerParcel, olderParcel.report .outForDelivery 100 none],
      ⟨List.Perm.swap _ _ _, by decide⟩, rfl⟩, rfl⟩
  · exact ⟨trivial, by decide⟩

def Starves (service : SyncService) (runs : List (SyncRun service)) : Prop :=
  Machine.Along service.sync (service.Selects 1) (SyncWorld.start twoParcels) runs ∧
    (runs.flatMap fun run => run.refreshes.map Refresh.now).Pairwise (· < ·) ∧
    (openParcels (Machine.run service.sync (SyncWorld.start twoParcels) runs).rows).length = 2 ∧
    runs.length = ((openParcels twoParcels).length + 1 - 1) / 1 ∧
    ¬ ∀ row ∈ openParcels twoParcels, ∃ run ∈ runs, row.providerCode ∈ run.selected

/-- **A parcel starves** behind one whose refreshes fail, are dated early, or are stale: though the
clock advances, both parcels stay open and there are two runs for them, one is never selected. -/
theorem sync_starves :
    Starves SyncCourier.forceLog.service failedRuns ∧
      Starves SyncCourier.ozoneExpress.service earlyRuns ∧
        Starves SyncCourier.ameex.service staleRuns := by
  refine ⟨⟨⟨?_, ?_, trivial⟩, by decide, rfl, rfl, by decide⟩,
    ⟨⟨?_, ?_, trivial⟩, by decide, rfl, rfl, by decide⟩,
    ⟨⟨?_, ?_, trivial⟩, by decide, by decide +kernel, rfl, by decide⟩⟩
  · exact selects_first olderParcel newerParcel rfl (by decide) rfl
  · exact selects_first olderParcel newerParcel rfl (by decide) rfl
  · exact selects_first olderParcel newerParcel rfl (by decide) rfl
  · exact selects_first (olderParcel.report .atWarehouse 11 (some 10)) newerParcel rfl
      (by decide) rfl
  · exact selects_first olderParcel newerParcel rfl (by decide) rfl
  · exact selects_first olderParcel newerParcel (by decide +kernel) (by decide) rfl

end Zomaal
