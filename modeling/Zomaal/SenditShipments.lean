/-
**Parcels at Sendit.**

Three calls write the row of a parcel: the answer to the request that creates it, a page of the
provider's list of deliveries, and a status webhook.  Each call is one transaction here; a call that
throws leaves everything as it was.
-/

import Zomaal.CustomerRisk
import Zomaal.ShipmentChronology

set_option autoImplicit false

namespace Zomaal.Sendit

/-! ### Statuses -/

def deliveryStatusMap : String → Option ShippingShipmentStatus
  | "PENDING" => some .pending
  | "TO_PREPARE" => some .confirmed
  | "NEW_DESTINATION" => some .confirmed
  | "SCHEDULED" => some .confirmed
  | "TO_PICKUP" => some .pickupPending
  | "PICKEDUP" => some .pickedUp
  | "WAREHOUSE" => some .atWarehouse
  | "TRANSIT" => some .inTransit
  | "DISTRIBUTED" => some .outForDelivery
  | "DELIVERING" => some .outForDelivery
  | "POSTPONED" => some .postponed
  | "UNREACHABLE" => some .unreachable
  | "DELIVERED" => some .delivered
  | "CANCELED" => some .cancelled
  | "CANCELLED" => some .cancelled
  | "REJECTED" => some .refused
  | _ => none

def returnStatusMap : String → Option ShippingShipmentStatus
  | "RETOUR_PENDING" => some .returnPending
  | "RETURN_PENDING" => some .returnPending
  | "TORETURN" => some .returnInTransit
  | "RETURN_WAREHOUSE" => some .returnedToWarehouse
  | "RETURN_TOCHECK" => some .returnInspection
  | "RETURN_STOCK" => some .returnedToStock
  | "RETURN_SELLER" => some .returnedToSeller
  | _ => none

def normalizeCode (value : Option String) : Option String :=
  JsText.truthy (value.map fun text => JsText.upperCode (JsText.trim text))

@[irreducible]
def normalizeSenditStatus (providerStatus : String) (providerReturnStatus : Option String) :
    ShippingShipmentStatus :=
  match (normalizeCode providerReturnStatus).bind returnStatusMap with
  | some status => status
  | none => ((normalizeCode (some providerStatus)).bind deliveryStatusMap).getD .unknown

def isRisk (status : ShippingShipmentStatus) : Bool := status = .refused || status = .unreachable

def riskOutcome (status : ShippingShipmentStatus) : RiskCategory :=
  if status = .refused then .refusals else .noAnswer

/-! ### The rows -/

structure SenditShipment where
  userId : String
  providerCode : String
  connectionId : Option String := none
  dispatchId : Option String := none
  providerStatus : String
  providerReturnStatus : Option String := none
  normalizedStatus : ShippingShipmentStatus
  reference : Option String := none
  recipientName : String
  recipientPhone : String
  address : String
  city : Option String := none
  pickupDistrictId : Option ℤ := none
  destinationDistrictId : Option ℤ := none
  codAmount : Decimal
  fee : Option Decimal := none
  lastActionAt : Option ℤ := none
  providerCreatedAt : Option ℤ := none
  providerUpdatedAt : Option ℤ := none
  deriving DecidableEq

/-- `userId_providerCode`. -/
def SenditShipment.key (shipment : SenditShipment) : String × String :=
  (shipment.userId, shipment.providerCode)

structure SenditDispatch where
  id : String
  userId : String
  merchantTracking : String

structure SenditDb where
  shipments : List SenditShipment := []
  dispatches : List SenditDispatch := []
  /-- the Sendit account of a user -/
  connections : String → Option String := fun _ => none
  book : CustomerBook := {}

inductive SenditError
  | badRequest (message : String)
  | badGateway (message : String)
  | notFound (message : String)
  | unauthorized (message : String)
  | uniqueConstraint

/-! ### What the provider sends -/

/-- A delivery: its texts as they are, and its numbers and dates as `optionalInteger`,
`optionalDecimal` and `providerDate` read them. -/
structure SenditDelivery where
  code : Option String
  status : Option String := none
  statusReturn : Option String := none
  reference : Option String := none
  name : Option String := none
  phone : Option String := none
  address : Option String := none
  districtVille : Option String := none
  districtName : Option String := none
  pickupDistrictId : Option ℤ := none
  districtId : Option ℤ := none
  amount : Option Decimal := none
  fee : Option Decimal := none
  lastActionAt : Option ℤ := none
  createdAt : Option ℤ := none
  updatedAt : Option ℤ := none

structure SenditDeliveryDto where
  name : String
  phone : String
  address : String
  reference : Option String := none
  pickupDistrictId : ℤ
  districtId : ℤ
  amount : Decimal

def requiredString (value : Option String) (field : String) : Except SenditError String :=
  match cleaned value with
  | some text => .ok text
  | none => .error (.badGateway ("Sendit accepted the delivery but did not return " ++ field))

/-- `providerDeliverySnapshot`. -/
structure SenditSnapshot where
  providerCode : String
  providerStatus : String
  providerReturnStatus : Option String
  reference : Option String
  recipientName : String
  recipientPhone : String
  address : Option String
  city : Option String
  pickupDistrictId : Option ℤ
  destinationDistrictId : Option ℤ
  codAmount : Decimal
  fee : Option Decimal
  lastActionAt : Option ℤ
  providerCreatedAt : Option ℤ
  providerUpdatedAt : Option ℤ

variable (delivery : SenditDelivery)

def SenditDelivery.city : Option String :=
  (cleaned delivery.districtVille).or (cleaned delivery.districtName)

def providerDeliverySnapshot : Except SenditError SenditSnapshot := do
  let providerCode ← requiredString delivery.code "code"
  let recipientName ← requiredString delivery.name "name"
  let recipientPhone ← requiredString delivery.phone "phone"
  .ok
    { providerCode, recipientName, recipientPhone
      providerStatus := (cleaned delivery.status).getD "PENDING"
      providerReturnStatus := cleaned delivery.statusReturn
      reference := cleaned delivery.reference
      address := cleaned delivery.address
      city := delivery.city
      pickupDistrictId := delivery.pickupDistrictId
      destinationDistrictId := delivery.districtId
      codAmount := delivery.amount.getD 0
      fee := delivery.fee
      lastActionAt := delivery.lastActionAt
      providerCreatedAt := delivery.createdAt
      providerUpdatedAt := delivery.updatedAt }

def SenditSnapshot.normalizedStatus (snapshot : SenditSnapshot) : ShippingShipmentStatus :=
  normalizeSenditStatus snapshot.providerStatus snapshot.providerReturnStatus

namespace SenditDb

variable (db : SenditDb)

/-! ### Shipments -/

def findShipment (userId providerCode : String) : Option SenditShipment :=
  KeyedRows.lookup SenditShipment.key (userId, providerCode) db.shipments

def dispatchTaken (key : String × String) (dispatchId : Option String) : Bool :=
  db.shipments.any fun other =>
    other.key ≠ key && other.dispatchId.isSome && other.dispatchId = dispatchId

def createShipment (shipment : SenditShipment) : Except SenditError SenditDb :=
  if (db.findShipment shipment.userId shipment.providerCode).isSome ||
      db.dispatchTaken shipment.key shipment.dispatchId then .error .uniqueConstraint
  else .ok { db with shipments := db.shipments ++ [shipment] }

/-- An update of a row, to the dispatch `dispatchId` if one is given. -/
def updateShipment (key : String × String) (dispatchId : Option String)
    (change : SenditShipment → SenditShipment) : Except SenditError SenditDb :=
  if db.dispatchTaken key dispatchId then .error .uniqueConstraint
  else .ok { db with shipments := KeyedRows.change SenditShipment.key key change db.shipments }

variable (userId : String)

def findDispatch (reference : Option String) : Option SenditDispatch :=
  (JsText.truthy reference).bind fun reference =>
    db.dispatches.find? fun dispatch =>
      dispatch.userId = userId && dispatch.merchantTracking = reference

/-! ### The answer to a request -/

/-- What a created delivery writes over a row; what the answer lacks is taken from the request. -/
def createdRow (request : SenditDeliveryDto) (delivery : SenditDelivery)
    (connectionId dispatchId : Option String) (row : SenditShipment) : SenditShipment :=
  let providerStatus := (cleaned delivery.status).getD "PENDING"
  let providerReturnStatus := cleaned delivery.statusReturn
  { row with
    connectionId := connectionId.or row.connectionId
    dispatchId := dispatchId.or row.dispatchId
    providerStatus, providerReturnStatus
    normalizedStatus := normalizeSenditStatus providerStatus providerReturnStatus
    reference := ((cleaned delivery.reference).or request.reference).or row.reference
    recipientName := (cleaned delivery.name).getD request.name
    recipientPhone := (cleaned delivery.phone).getD request.phone
    address := (cleaned delivery.address).getD request.address
    city := delivery.city
    pickupDistrictId := some (delivery.pickupDistrictId.getD request.pickupDistrictId)
    destinationDistrictId := some (delivery.districtId.getD request.districtId)
    codAmount := delivery.amount.getD request.amount
    fee := delivery.fee
    lastActionAt := delivery.lastActionAt
    providerCreatedAt := delivery.createdAt
    providerUpdatedAt := delivery.updatedAt }

def blankShipment (userId providerCode : String) : SenditShipment :=
  { userId, providerCode, providerStatus := "", normalizedStatus := .unknown, recipientName := ""
    recipientPhone := "", address := "", codAmount := 0 }

def persistCreatedDelivery (request : SenditDeliveryDto) (delivery : SenditDelivery)
    : Except SenditError SenditDb := do
  let providerCode ← requiredString delivery.code "code"
  let reference := (cleaned delivery.reference).or request.reference
  let dispatchId := (db.findDispatch userId reference).map SenditDispatch.id
  let change := createdRow request delivery (db.connections userId) dispatchId
  if (db.findShipment userId providerCode).isSome then
    db.updateShipment (userId, providerCode) dispatchId change
  else db.createShipment (change (blankShipment userId providerCode))

/-! ### A page of the provider's list -/

/-- The last dispatch of the user with the snapshot's reference, if no other snapshot of the page has
it and no other parcel is dispatched with it. -/
def snapshotDispatch (page : List SenditSnapshot) (snapshot : SenditSnapshot) : Option String :=
  snapshot.reference.bind fun reference =>
    let dispatch := (db.dispatches.filter fun dispatch =>
      dispatch.userId = userId && dispatch.merchantTracking = reference).getLast?
    let shipped := dispatch.bind fun dispatch =>
      db.shipments.find? fun shipment => shipment.dispatchId = some dispatch.id
    if page.countP (fun other => other.reference = some reference) = 1 &&
        shipped.all (fun shipment => shipment.providerCode = snapshot.providerCode) then
      dispatch.map SenditDispatch.id
    else none

/-- `shouldRefresh`: the snapshot is not behind the row that was read. -/
def shouldRefresh (current : Option SenditShipment) (snapshot : SenditSnapshot) : Bool :=
  !staleShipmentStatus
      (current.map fun row =>
        { normalizedStatus := row.normalizedStatus
          providerUpdatedAt := row.providerUpdatedAt.or row.lastActionAt })
      snapshot.normalizedStatus (snapshot.providerUpdatedAt.or snapshot.lastActionAt) &&
    (match current.bind SenditShipment.lastActionAt with
      | none => true
      | some lastActionAt => snapshot.lastActionAt.any fun at_ => lastActionAt ≤ at_)

/-- `statusChanged`: the snapshot is not what was read. -/
def statusChanged (current : Option SenditShipment) (snapshot : SenditSnapshot) : Bool :=
  current.all fun row =>
    row.providerStatus ≠ snapshot.providerStatus ||
      row.providerReturnStatus ≠ snapshot.providerReturnStatus

def importedRow (userId connectionId : String) (dispatchId : Option String)
    (snapshot : SenditSnapshot) : SenditShipment :=
  { userId, dispatchId
    connectionId := some connectionId
    providerCode := snapshot.providerCode
    providerStatus := snapshot.providerStatus
    providerReturnStatus := snapshot.providerReturnStatus
    normalizedStatus := snapshot.normalizedStatus
    reference := snapshot.reference
    recipientName := snapshot.recipientName
    recipientPhone := snapshot.recipientPhone
    address := snapshot.address.getD ""
    city := snapshot.city
    pickupDistrictId := snapshot.pickupDistrictId
    destinationDistrictId := snapshot.destinationDistrictId
    codAmount := snapshot.codAmount
    fee := snapshot.fee
    lastActionAt := snapshot.lastActionAt
    providerCreatedAt := snapshot.providerCreatedAt
    providerUpdatedAt := snapshot.providerUpdatedAt }

/-- What a page writes over a row; what the snapshot lacks is taken from the row `current` that was
read, or left alone. -/
def refreshedRow (connectionId : String) (dispatchId : Option String) (current : SenditShipment)
    (snapshot : SenditSnapshot) (row : SenditShipment) : SenditShipment :=
  { row with
    connectionId := some connectionId
    dispatchId := dispatchId.or row.dispatchId
    providerStatus := snapshot.providerStatus
    providerReturnStatus := snapshot.providerReturnStatus
    normalizedStatus := snapshot.normalizedStatus
    reference := snapshot.reference.or current.reference
    recipientName := snapshot.recipientName
    recipientPhone := snapshot.recipientPhone
    address := snapshot.address.getD row.address
    city := snapshot.city.or current.city
    pickupDistrictId := snapshot.pickupDistrictId.or current.pickupDistrictId
    destinationDistrictId := snapshot.destinationDistrictId.or current.destinationDistrictId
    codAmount := snapshot.codAmount
    fee := snapshot.fee.or row.fee
    lastActionAt := snapshot.lastActionAt.or current.lastActionAt
    providerCreatedAt := snapshot.providerCreatedAt.or current.providerCreatedAt
    providerUpdatedAt := snapshot.providerUpdatedAt.or current.providerUpdatedAt }

/-- One turn of the loop over a page; `start`: the rows that were read before the loop. -/
def reconcileSnapshot (start : SenditDb) (userId connectionId : String)
    (page : List SenditSnapshot) (db : SenditDb) (snapshot : SenditSnapshot) :
    Except SenditError SenditDb :=
  let dispatchId := start.snapshotDispatch userId page snapshot
  match start.findShipment userId snapshot.providerCode with
  | none => db.createShipment (importedRow userId connectionId dispatchId snapshot)
  | some current =>
    if shouldRefresh (some current) snapshot then
      db.updateShipment current.key dispatchId
        (refreshedRow connectionId dispatchId current snapshot)
    else .ok db

/-- What a snapshot says about its recipient: one entry of `riskOutcomesToRecord`. -/
def snapshotOutcome (snapshot : SenditSnapshot) : Option ShipmentOutcome :=
  if statusChanged (db.findShipment userId snapshot.providerCode) snapshot &&
      isRisk snapshot.normalizedStatus then
    some
      { userId, phone := some snapshot.recipientPhone, name := some snapshot.recipientName
        outcome := riskOutcome snapshot.normalizedStatus }
  else none

structure PageCounts where
  processed : ℕ
  imported : ℕ
  reconciled : ℕ
  /-- the dispatches whose finances are brought up to date -/
  dispatchIdsToSync : List String

def pageCounts (page : List SenditSnapshot) : PageCounts :=
  let current := fun snapshot : SenditSnapshot => db.findShipment userId snapshot.providerCode
  { processed := page.length
    imported := page.countP fun snapshot => (current snapshot).isNone
    reconciled := page.countP fun snapshot => (current snapshot).isSome
    dispatchIdsToSync := (page.filterMap fun snapshot =>
      if statusChanged (current snapshot) snapshot then
        (db.snapshotDispatch userId page snapshot).or
          ((current snapshot).bind SenditShipment.dispatchId)
      else none).eraseDups }

/-- `reconcileProviderPage`: the rows, the outcomes that are then recorded, and the counts. -/
def reconcileProviderPage (deliveries : List SenditDelivery) :
    Except SenditError (SenditDb × List ShipmentOutcome × PageCounts) := do
  let page ← deliveries.mapM providerDeliverySnapshot
  match db.connections userId with
  | none => .error (.notFound "Connected Sendit account was not found")
  | some connectionId => do
      let db' ← page.foldlM (reconcileSnapshot db userId connectionId page) db
      .ok (db', page.filterMap (db.snapshotOutcome userId), db.pageCounts userId page)

/-! ### A status webhook -/

end SenditDb

inductive SenditSignature
  | missing
  | invalid
  | valid
  deriving DecidableEq

/-- A webhook that was parsed; `lastActionAt` is missing when it is not a date. -/
structure SenditStatusWebhook where
  code : String
  newStatus : String
  lastActionAt : Option ℤ

variable (event : SenditStatusWebhook)

def SenditStatusWebhook.appliedRow (eventAt : ℤ) (row : SenditShipment) : SenditShipment :=
  { row with
    providerStatus := event.newStatus
    normalizedStatus := normalizeSenditStatus event.newStatus none
    lastActionAt := some eventAt
    providerUpdatedAt := some eventAt }

def SenditStatusWebhook.applies (eventAt : ℤ) (row : SenditShipment) : Bool :=
  terminalRegressionFilter (normalizeSenditStatus event.newStatus none) row.normalizedStatus &&
    row.lastActionAt.all fun lastActionAt => lastActionAt ≤ eventAt

/-- What a webhook that was applied says about the recipient of the parcel it found. -/
def SenditStatusWebhook.outcome (shipment : SenditShipment) : Option ShipmentOutcome :=
  let normalizedStatus := normalizeSenditStatus event.newStatus none
  if shipment.normalizedStatus ≠ normalizedStatus && isRisk normalizedStatus then
    some
      { userId := shipment.userId
        phone := some shipment.recipientPhone
        name := some shipment.recipientName
        outcome := riskOutcome normalizedStatus }
  else none

/-- `processStatusWebhook`: the rows, and the outcome that is then recorded. -/
def SenditDb.processStatusWebhook (db : SenditDb) (signature : SenditSignature)
    (event : SenditStatusWebhook) : Except SenditError (SenditDb × Option ShipmentOutcome) :=
  if signature = .missing then .error (.unauthorized "Missing Sendit webhook signature")
  else
    match db.shipments.find? fun shipment => shipment.providerCode = event.code with
    | none => .error (.notFound "Tracked Sendit shipment was not found")
    | some shipment =>
      if signature ≠ .valid then .error (.unauthorized "Invalid Sendit webhook signature")
      else
        match event.lastActionAt with
        | none => .error (.badRequest "Sendit webhook lastActionAt is invalid")
        | some eventAt =>
          if event.applies eventAt shipment then
            .ok
              ({ db with
                  shipments := KeyedRows.change SenditShipment.key shipment.key
                    (event.appliedRow eventAt) db.shipments },
                event.outcome shipment)
          else .ok (db, none)

/-! ### One call of any of them -/

inductive SenditAction
  | created (userId : String) (request : SenditDeliveryDto) (delivery : SenditDelivery)
  | page (userId : String) (deliveries : List SenditDelivery)
  | webhook (signature : SenditSignature) (event : SenditStatusWebhook)

def SenditDb.recordOutcomes (directory : CustomerDirectory) (db : SenditDb)
    (outcomes : List ShipmentOutcome) : SenditDb :=
  { db with
    book := outcomes.foldl
      (fun (book : CustomerBook) outcome => book.recordShipmentOutcome directory outcome) db.book }

namespace SenditAction

def step (directory : CustomerDirectory) (db : SenditDb) : SenditAction → SenditDb
  | .created userId request delivery =>
    match db.persistCreatedDelivery userId request delivery with
    | .ok db' => db'
    | .error _ => db
  | .page userId deliveries =>
    match db.reconcileProviderPage userId deliveries with
    | .ok (db', outcomes, _) => db'.recordOutcomes directory outcomes
    | .error _ => db
  | .webhook signature event =>
    match db.processStatusWebhook signature event with
    | .ok (db', outcome) => db'.recordOutcomes directory outcome.toList
    | .error _ => db

end SenditAction

/-! ### What is read of a delivery -/

theorem requiredString_ok {value : Option String} {field text : String}
    (h : requiredString value field = .ok text) : cleaned value = some text := by
  rw [requiredString] at h
  split at h
  · rename_i other hother
    rw [hother, Except.ok.inj h]
  · cases h

theorem cleaned_some {value : Option String} {text : String} (h : cleaned value = some text) :
    cleaned (some text) = some text := by
  obtain ⟨htrim, hne⟩ := JsText.truthy_some h
  obtain ⟨raw, _, rfl⟩ := Option.map_eq_some_iff.1 htrim
  rw [cleaned, Option.map_some, JsText.trim_trim, JsText.truthy, if_neg hne]

structure SnapshotOf (snapshot : SenditSnapshot) : Prop where
  code : cleaned delivery.code = some snapshot.providerCode
  phone : cleaned (some snapshot.recipientPhone) = some snapshot.recipientPhone
  lastActionAt : snapshot.lastActionAt = delivery.lastActionAt
  updatedAt : snapshot.providerUpdatedAt = delivery.updatedAt

theorem providerDeliverySnapshot_ok {delivery : SenditDelivery} {snapshot : SenditSnapshot}
    (h : providerDeliverySnapshot delivery = .ok snapshot) : SnapshotOf delivery snapshot := by
  rw [providerDeliverySnapshot] at h
  obtain ⟨code, hcode, h⟩ := Except.bind_eq_ok h
  obtain ⟨name, _, h⟩ := Except.bind_eq_ok h
  obtain ⟨phone, hphone, h⟩ := Except.bind_eq_ok h
  obtain rfl := Except.ok.inj h
  exact ⟨requiredString_ok hcode, cleaned_some (requiredString_ok hphone), rfl, rfl⟩

variable {deliveries : List SenditDelivery}

theorem snapshots_ok {page : List SenditSnapshot}
    (h : deliveries.mapM providerDeliverySnapshot = .ok page) :
    List.Forall₂ SnapshotOf deliveries page :=
  (Except.mapM_eq_ok h).imp fun _ _ => providerDeliverySnapshot_ok

theorem snapshot_mem {page : List SenditSnapshot} (h : List.Forall₂ SnapshotOf deliveries page)
    {snapshot : SenditSnapshot} (hmem : snapshot ∈ page) :
    ∃ delivery ∈ deliveries, SnapshotOf delivery snapshot := by
  induction h with
  | nil => cases hmem
  | cons hfirst _ ih =>
    rcases List.mem_cons.1 hmem with rfl | hrest
    · exact ⟨_, List.mem_cons_self .., hfirst⟩
    · obtain ⟨delivery, hdelivery, hof⟩ := ih hrest
      exact ⟨delivery, List.mem_cons_of_mem _ hdelivery, hof⟩

theorem snapshots_nodup {page : List SenditSnapshot} (h : List.Forall₂ SnapshotOf deliveries page)
    (hnodup : (deliveries.map fun delivery => cleaned delivery.code).Nodup) :
    (page.map SenditSnapshot.providerCode).Nodup := by
  have hcodes : deliveries.map (fun delivery => cleaned delivery.code) =
      (page.map SenditSnapshot.providerCode).map some := by
    induction h with
    | nil => rfl
    | cons hfirst _ ih =>
      rw [List.map_cons, List.map_cons, List.map_cons, hfirst.code]
      rw [List.map_cons, List.nodup_cons] at hnodup
      rw [ih hnodup.2]
  rw [hcodes] at hnodup
  exact hnodup.of_map some

/-! ### What the calls do to the rows -/

namespace SenditDb

def Keyed (db : SenditDb) : Prop := (db.shipments.map SenditShipment.key).Nodup

variable {db db' : SenditDb}

variable {row : SenditShipment}

theorem findShipment_some {userId providerCode : String}
    (h : db.findShipment userId providerCode = some row) :
    row ∈ db.shipments ∧ row.key = (userId, providerCode) :=
  KeyedRows.lookup_some SenditShipment.key h

theorem createShipment_ok (h : db.createShipment row = .ok db') :
    db.findShipment row.userId row.providerCode = none ∧
      db' = { db with shipments := db.shipments ++ [row] } := by
  rw [createShipment] at h
  split at h
  · cases h
  · rename_i hfree
    rw [Bool.or_eq_true, not_or] at hfree
    exact ⟨Option.not_isSome_iff_eq_none.1 hfree.1, (Except.ok.inj h).symm⟩

theorem findShipment_create (hfree : db.findShipment row.userId row.providerCode = none)
    (userId providerCode : String) :
    ({ db with shipments := db.shipments ++ [row] } : SenditDb).findShipment userId providerCode =
      if (userId, providerCode) = row.key then some row
      else db.findShipment userId providerCode := by
  unfold findShipment KeyedRows.lookup at *
  rw [List.find?_append]
  by_cases hkey : (userId, providerCode) = row.key
  · rw [if_pos hkey, hkey, SenditShipment.key, hfree]
    simp [SenditShipment.key]
  · rw [if_neg hkey, List.find?_singleton, if_neg (by simpa using Ne.symm hkey), Option.or_none]

theorem Keyed.create (h : db.Keyed) (hfree : db.findShipment row.userId row.providerCode = none) :
    ({ db with shipments := db.shipments ++ [row] } : SenditDb).Keyed := by
  rw [Keyed, List.map_append, List.map_singleton]
  refine List.Nodup.append h (List.nodup_singleton _) ?_
  intro key hold hnew
  obtain ⟨other, hother, rfl⟩ := List.mem_map.1 hold
  exact (KeyedRows.lookup_none SenditShipment.key).1 hfree other hother (List.mem_singleton.1 hnew)

theorem updateShipment_ok {key : String × String} {dispatchId : Option String}
    {change : SenditShipment → SenditShipment}
    (h : db.updateShipment key dispatchId change = .ok db') :
    db' = { db with shipments := KeyedRows.change SenditShipment.key key change db.shipments } := by
  rw [updateShipment] at h
  split at h
  · cases h
  · exact (Except.ok.inj h).symm

theorem findShipment_change {change : SenditShipment → SenditShipment}
    (hkey : ∀ row, (change row).key = row.key) (key : String × String)
    (userId providerCode : String) :
    ({ db with
        shipments := KeyedRows.change SenditShipment.key key change db.shipments } :
          SenditDb).findShipment userId providerCode =
      (db.findShipment userId providerCode).map fun row =>
        if (userId, providerCode) = key then change row else row :=
  KeyedRows.lookup_change SenditShipment.key hkey db.shipments

theorem Keyed.change (h : db.Keyed) {change : SenditShipment → SenditShipment}
    (hkey : ∀ row, (change row).key = row.key) (key : String × String) :
    ({ db with
        shipments := KeyedRows.change SenditShipment.key key change db.shipments } :
          SenditDb).Keyed := by
  rw [Keyed, KeyedRows.map_key_change SenditShipment.key hkey]
  exact h

theorem refreshedRow_key (connectionId : String) (dispatchId : Option String)
    (current : SenditShipment) (snapshot : SenditSnapshot) (row : SenditShipment) :
    (refreshedRow connectionId dispatchId current snapshot row).key = row.key := rfl

def snapshotRow (start : SenditDb) (userId connectionId : String) (page : List SenditSnapshot)
    (snapshot : SenditSnapshot) : SenditShipment :=
  match start.findShipment userId snapshot.providerCode with
  | none =>
    importedRow userId connectionId (start.snapshotDispatch userId page snapshot) snapshot
  | some current =>
    if shouldRefresh (some current) snapshot then
      refreshedRow connectionId (start.snapshotDispatch userId page snapshot) current snapshot
        current
    else current

section SnapshotRow

variable {start : SenditDb} {userId connectionId : String} {page : List SenditSnapshot}
  {snapshot : SenditSnapshot}

theorem snapshotRow_new (h : start.findShipment userId snapshot.providerCode = none) :
    snapshotRow start userId connectionId page snapshot =
      importedRow userId connectionId (start.snapshotDispatch userId page snapshot) snapshot := by
  rw [snapshotRow, h]

theorem snapshotRow_fresh {current : SenditShipment}
    (h : start.findShipment userId snapshot.providerCode = some current)
    (hrefresh : shouldRefresh (some current) snapshot = true) :
    snapshotRow start userId connectionId page snapshot =
      refreshedRow connectionId (start.snapshotDispatch userId page snapshot) current snapshot
        current := by
  rw [snapshotRow, h]
  exact if_pos hrefresh

theorem snapshotRow_stale {current : SenditShipment}
    (h : start.findShipment userId snapshot.providerCode = some current)
    (hrefresh : ¬ shouldRefresh (some current) snapshot = true) :
    snapshotRow start userId connectionId page snapshot = current := by
  rw [snapshotRow, h]
  exact if_neg hrefresh

end SnapshotRow

theorem reconcileSnapshot_ok {start : SenditDb} {userId connectionId : String}
    {page : List SenditSnapshot} {snapshot : SenditSnapshot} (hkeyed : db.Keyed)
    (hread : db.findShipment userId snapshot.providerCode =
      start.findShipment userId snapshot.providerCode)
    (h : reconcileSnapshot start userId connectionId page db snapshot = .ok db') :
    db'.Keyed ∧ ∀ user code, db'.findShipment user code =
      if (user, code) = (userId, snapshot.providerCode) then
        some (snapshotRow start userId connectionId page snapshot)
      else db.findShipment user code := by
  rw [reconcileSnapshot] at h
  cases hcurrent : start.findShipment userId snapshot.providerCode with
  | none =>
    rw [hcurrent] at h
    obtain ⟨hfree, rfl⟩ := createShipment_ok h
    rw [snapshotRow_new hcurrent]
    exact ⟨hkeyed.create hfree, findShipment_create hfree⟩
  | some current =>
    rw [hcurrent] at h hread
    have hkey : current.key = (userId, snapshot.providerCode) := (findShipment_some hread).2
    dsimp only at h
    split at h
    · rename_i hrefresh
      obtain rfl := updateShipment_ok h
      have hrefreshed := refreshedRow_key connectionId
        (start.snapshotDispatch userId page snapshot) current snapshot
      rw [snapshotRow_fresh hcurrent hrefresh]
      refine ⟨hkeyed.change hrefreshed current.key, fun user code => ?_⟩
      rw [findShipment_change hrefreshed, hkey]
      split
      · rename_i heq
        obtain ⟨rfl, rfl⟩ := Prod.mk.inj heq
        rw [hread, Option.map_some]
      · rw [Option.map_id']
    · rename_i hstale
      obtain rfl := Except.ok.inj h
      rw [snapshotRow_stale hcurrent hstale]
      refine ⟨hkeyed, fun user code => ?_⟩
      split
      · rename_i heq
        obtain ⟨rfl, rfl⟩ := Prod.mk.inj heq
        exact hread
      · rfl

theorem reconcile_ok {start : SenditDb} {userId connectionId : String}
    {page : List SenditSnapshot} {rest : List SenditSnapshot} (hkeyed : db.Keyed)
    (hnodup : (rest.map SenditSnapshot.providerCode).Nodup)
    (hread : ∀ snapshot ∈ rest, db.findShipment userId snapshot.providerCode =
      start.findShipment userId snapshot.providerCode)
    (h : rest.foldlM (reconcileSnapshot start userId connectionId page) db = .ok db') :
    db'.Keyed ∧
      (∀ snapshot ∈ rest, db'.findShipment userId snapshot.providerCode =
        some (snapshotRow start userId connectionId page snapshot)) ∧
      ∀ user code, (user = userId → code ∉ rest.map SenditSnapshot.providerCode) →
        db'.findShipment user code = db.findShipment user code := by
  induction rest generalizing db with
  | nil =>
    obtain rfl := Except.ok.inj h
    exact ⟨hkeyed, fun _ hmem => (nomatch hmem), fun _ _ _ => rfl⟩
  | cons snapshot rest ih =>
    rw [List.foldlM_cons] at h
    obtain ⟨db₁, hfirst, hrest⟩ := Except.bind_eq_ok h
    rw [List.map_cons, List.nodup_cons] at hnodup
    obtain ⟨hkeyed₁, hrow⟩ :=
      reconcileSnapshot_ok hkeyed (hread snapshot (List.mem_cons_self ..)) hfirst
    have hother : ∀ other ∈ rest, other.providerCode ≠ snapshot.providerCode := by
      intro other hmem heq
      exact hnodup.1 (heq ▸ List.mem_map_of_mem hmem)
    obtain ⟨hkeyed', hrows, hframe⟩ := ih hkeyed₁ hnodup.2 (fun other hmem => by
      rw [hrow, if_neg fun heq => hother other hmem (Prod.mk.inj heq).2]
      exact hread other (List.mem_cons_of_mem _ hmem)) hrest
    refine ⟨hkeyed', fun other hmem => ?_, fun user code hout => ?_⟩
    · rcases List.mem_cons.1 hmem with rfl | hmem
      · rw [hframe userId other.providerCode fun _ => hnodup.1, hrow, if_pos rfl]
      · exact hrows other hmem
    · rw [hframe user code fun heq hmem => hout heq (List.mem_cons_of_mem _ hmem), hrow,
        if_neg fun heq => ?_]
      obtain ⟨hu, hc⟩ := Prod.mk.inj heq
      exact hout hu (hc ▸ List.mem_cons_self ..)

theorem processStatusWebhook_ok {signature : SenditSignature} {event : SenditStatusWebhook}
    {outcome : Option ShipmentOutcome}
    (h : db.processStatusWebhook signature event = .ok (db', outcome)) :
    ∃ shipment eventAt, shipment ∈ db.shipments ∧ shipment.providerCode = event.code ∧
      event.lastActionAt = some eventAt ∧
      (event.applies eventAt shipment = true ∧
          db' = { db with
            shipments := KeyedRows.change SenditShipment.key shipment.key
              (event.appliedRow eventAt) db.shipments } ∧
          outcome = event.outcome shipment ∨
        event.applies eventAt shipment = false ∧ db' = db ∧ outcome = none) := by
  unfold processStatusWebhook at h
  split at h
  · cases h
  · split at h
    · cases h
    · rename_i shipment hfound
      have hcode : shipment.providerCode = event.code := by simpa using List.find?_some hfound
      have hmem : shipment ∈ db.shipments := List.mem_of_find?_eq_some hfound
      split at h
      · cases h
      · split at h
        · cases h
        · rename_i eventAt hat
          refine ⟨shipment, eventAt, hmem, hcode, hat, ?_⟩
          split at h
          · rename_i happlies
            obtain ⟨hdb, houtcome⟩ := Prod.mk.inj (Except.ok.inj h)
            exact Or.inl ⟨happlies, hdb.symm, houtcome.symm⟩
          · rename_i hnot
            obtain ⟨hdb, houtcome⟩ := Prod.mk.inj (Except.ok.inj h)
            exact Or.inr ⟨Bool.eq_false_iff.2 hnot, hdb.symm, houtcome.symm⟩

end SenditDb

end Zomaal.Sendit
