/-
**The parcels of QuickLivraison.**

Three calls write the row of a parcel: the answer to its creation, without any guard; a page of the
courier's list, which a check of the chronology guards; and a status webhook, which a filter in its
update guards.  A page and a webhook also count a parcel that was refused, or at which nobody was
reached, against its recipient.  This module embeds `persistDeliveries`,
`reconcileProviderDeliveries` and `processStatusWebhook` of `quicklivraison-shipment.service.ts`, as
far as one parcel of a user is concerned, and `quicklivraison-status.ts`.
-/

import Zomaal.SenditShipments

set_option autoImplicit false

namespace Zomaal.QuickLivraison

open Sendit (isRisk riskOutcome)

/-! ### Statuses -/

/-- `normalize('NFD')`, which depends on Unicode tables; ASCII texts are decomposed already. -/
structure UnicodeText where
  normalizeNfd : String → String
  normalizeNfd_ascii : ∀ text : String, (∀ c ∈ text.toList, c.toNat < 128) →
    normalizeNfd text = text

def plainTexts : UnicodeText where
  normalizeNfd := id
  normalizeNfd_ascii := fun _ _ => rfl

def isDiacritic (c : Char) : Bool := 0x300 ≤ c.toNat && c.toNat ≤ 0x36f

/-- `/[A-Z0-9]/` -/
def isKeyChar (c : Char) : Bool := ('A' ≤ c && c ≤ 'Z') || ('0' ≤ c && c ≤ '9')

/-- `replace(/[^A-Z0-9]+/g, '_')` -/
def underscored (inRun : Bool) : List Char → List Char
  | [] => []
  | c :: cs =>
    if isKeyChar c then c :: underscored false cs
    else if inRun then underscored true cs
    else '_' :: underscored true cs

/-- `replace(/^_+|_+$/g, '')` -/
def stripUnderscores (cs : List Char) : List Char :=
  ((cs.dropWhile (· = '_')).reverse.dropWhile (· = '_')).reverse

variable (unicode : UnicodeText)

/-- The key of a text in `STATUS_MAP`. -/
def statusKey (value : String) : String :=
  let plain := String.ofList ((unicode.normalizeNfd value).toList.filter fun c => !isDiacritic c)
  String.ofList (stripUnderscores
    (underscored false (JsText.upperCode (JsText.trim plain)).toList))

def statusMap : String → Option ShippingShipmentStatus
  | "NEW" | "NEW_PARCEL" | "NOUVEAU_COLIS" | "PENDING" => some .pending
  | "PROGRAMMER" | "PROGRAMME" | "SCHEDULED" => some .confirmed
  | "PICKED_UP" | "RAMASSE" => some .pickedUp
  | "AT_WAREHOUSE" | "ENTREPOT" => some .atWarehouse
  | "DISTRIBUTION" | "DISTRIBUE" | "IN_TRANSIT" => some .inTransit
  | "IN_PROGRESS" | "EN_COURS" | "OUT_FOR_DELIVERY" => some .outForDelivery
  | "POSTPONED" | "REPORTE" => some .postponed
  | "NOANSWER" | "NO_ANSWER" | "UNREACHABLE" | "INJOIGNABLE" => some .unreachable
  | "DELIVERED" | "LIVRE" => some .delivered
  | "REFUSE" | "REFUSED" => some .refused
  | "CANCELED" | "CANCELLED" | "ANNULE" => some .cancelled
  | "RETURNED" | "RETOURNE" => some .returnedToWarehouse
  | "RETURNED_CLIENT" | "RETOURNE_CLIENT" => some .returnedToSeller
  | _ => none

def normalizedValue (value : Option String) : Option ShippingShipmentStatus :=
  value.bind fun text => if JsText.trim text = "" then none else statusMap (statusKey unicode text)

@[irreducible]
def normalizeQuickLivraisonStatus (status : String) (secondaryStatus : Option String) :
    ShippingShipmentStatus :=
  ((normalizedValue unicode secondaryStatus).or (normalizedValue unicode (some status))).getD
    .unknown

/-! ### The row -/

structure QuickLivraisonShipment where
  connectionId : Option String := none
  providerStatus : String
  providerSecondaryStatus : Option String := none
  situation : Option String := none
  normalizedStatus : ShippingShipmentStatus
  reference : Option String := none
  recipientName : Option String := none
  recipientPhone : Option String := none
  address : Option String := none
  city : Option String := none
  destinationDistrictId : Option ℤ := none
  codAmount : Option Decimal := none
  fee : Option Decimal := none
  storeName : Option String := none
  lastActionAt : Option ℤ := none
  providerCreatedAt : Option ℤ := none
  providerUpdatedAt : Option ℤ := none

structure Parcel where
  row : Option QuickLivraisonShipment := none
  outcomes : List ShipmentOutcome := []

structure QuickLivraisonDeliveryDto where
  name : String
  phone : String
  address : String
  districtId : ℤ
  amount : Decimal
  code : Option String := none
  storeName : Option String := none

/-- `providerDeliverySnapshot`: what a page says about the parcel. -/
structure QuickLivraisonSnapshot where
  providerStatus : String
  providerSecondaryStatus : Option String := none
  situation : Option String := none
  reference : Option String := none
  recipientName : Option String := none
  recipientPhone : Option String := none
  address : Option String := none
  city : Option String := none
  destinationDistrictId : Option ℤ := none
  codAmount : Option Decimal := none
  fee : Option Decimal := none
  storeName : Option String := none
  lastActionAt : Option ℤ := none
  providerCreatedAt : Option ℤ := none
  providerUpdatedAt : Option ℤ := none

/-- `parseStatusWebhook`: what a webhook says about the parcel. -/
structure QuickLivraisonWebhook where
  providerStatus : String
  providerSecondaryStatus : Option String := none
  situation : Option String := none
  recipientName : Option String := none
  recipientPhone : Option String := none
  address : Option String := none
  city : Option String := none
  codAmount : Option Decimal := none
  storeName : Option String := none
  eventAt : ℤ

def QuickLivraisonSnapshot.normalizedStatus (snapshot : QuickLivraisonSnapshot) :
    ShippingShipmentStatus :=
  normalizeQuickLivraisonStatus unicode snapshot.providerStatus snapshot.providerSecondaryStatus

variable (event : QuickLivraisonWebhook)

def QuickLivraisonWebhook.normalizedStatus : ShippingShipmentStatus :=
  normalizeQuickLivraisonStatus unicode event.providerStatus event.providerSecondaryStatus

/-! ### The answer to a request -/

def createdRow (connectionId : Option String) (request : QuickLivraisonDeliveryDto)
    (row : QuickLivraisonShipment) : QuickLivraisonShipment :=
  { row with
    connectionId := connectionId.or row.connectionId
    providerStatus := "NEW_PARCEL"
    providerSecondaryStatus := none
    situation := none
    normalizedStatus := normalizeQuickLivraisonStatus unicode "NEW_PARCEL" none
    reference := request.code.or row.reference
    recipientName := some request.name
    recipientPhone := some request.phone
    address := some request.address
    destinationDistrictId := some request.districtId
    codAmount := some request.amount
    storeName := request.storeName.or row.storeName }

def blankShipment : QuickLivraisonShipment :=
  { providerStatus := "", normalizedStatus := .unknown }

variable (parcel : Parcel)

def Parcel.persistDeliveries (connectionId : Option String) (request : QuickLivraisonDeliveryDto)
    : Parcel :=
  { parcel with
    row := some (createdRow unicode connectionId request (parcel.row.getD blankShipment)) }

/-! ### A page of the courier's list -/

def isStale (current : Option QuickLivraisonShipment) (snapshot : QuickLivraisonSnapshot) : Bool :=
  staleShipmentStatus
    (current.map fun row =>
      { normalizedStatus := row.normalizedStatus
        providerUpdatedAt := row.providerUpdatedAt.or row.lastActionAt })
    (snapshot.normalizedStatus unicode) (snapshot.providerUpdatedAt.or snapshot.lastActionAt)

/-- `statusChanged`: the snapshot is not what was read. -/
def statusChanged (current : Option QuickLivraisonShipment) (snapshot : QuickLivraisonSnapshot) :
    Bool :=
  current.all fun row =>
    row.providerStatus ≠ snapshot.providerStatus ||
      row.providerSecondaryStatus ≠ snapshot.providerSecondaryStatus ||
      (snapshot.situation.isSome && row.situation ≠ snapshot.situation)

def importedRow (connectionId : String) (snapshot : QuickLivraisonSnapshot) :
    QuickLivraisonShipment :=
  { connectionId := some connectionId
    providerStatus := snapshot.providerStatus
    providerSecondaryStatus := snapshot.providerSecondaryStatus
    situation := snapshot.situation
    normalizedStatus := snapshot.normalizedStatus unicode
    reference := snapshot.reference
    recipientName := snapshot.recipientName
    recipientPhone := snapshot.recipientPhone
    address := snapshot.address
    city := snapshot.city
    destinationDistrictId := snapshot.destinationDistrictId
    codAmount := snapshot.codAmount
    fee := snapshot.fee
    storeName := snapshot.storeName
    lastActionAt := snapshot.lastActionAt
    providerCreatedAt := snapshot.providerCreatedAt
    providerUpdatedAt := snapshot.providerUpdatedAt }

/-- The row after a page found it as `current`. -/
def reconciledRow (connectionId : String) (snapshot : QuickLivraisonSnapshot)
    (current : QuickLivraisonShipment) : QuickLivraisonShipment :=
  { connectionId := some connectionId
    providerStatus := snapshot.providerStatus
    providerSecondaryStatus := snapshot.providerSecondaryStatus
    situation := snapshot.situation.or current.situation
    normalizedStatus := snapshot.normalizedStatus unicode
    reference := snapshot.reference.or current.reference
    recipientName := snapshot.recipientName.or current.recipientName
    recipientPhone := snapshot.recipientPhone.or current.recipientPhone
    address := snapshot.address.or current.address
    city := snapshot.city.or current.city
    destinationDistrictId := snapshot.destinationDistrictId.or current.destinationDistrictId
    codAmount := snapshot.codAmount.or current.codAmount
    fee := snapshot.fee.or current.fee
    storeName := snapshot.storeName.or current.storeName
    lastActionAt := snapshot.lastActionAt.or current.lastActionAt
    providerCreatedAt := snapshot.providerCreatedAt.or current.providerCreatedAt
    providerUpdatedAt := snapshot.providerUpdatedAt.or current.providerUpdatedAt }

variable (userId : String)

/-- What a snapshot says about the recipient, of a parcel that was read as `current`. -/
def snapshotOutcome (current : Option QuickLivraisonShipment) (snapshot : QuickLivraisonSnapshot)
    : List ShipmentOutcome :=
  if statusChanged current snapshot && isRisk (snapshot.normalizedStatus unicode) then
    [{ userId, phone := snapshot.recipientPhone, name := snapshot.recipientName
       outcome := riskOutcome (snapshot.normalizedStatus unicode) }]
  else []

/-- One turn of `reconcileProviderDeliveries`: `current` was read before the first one.  A parcel
that is created twice violates a unique constraint. -/
def pageTurn (userId connectionId : String) (current : Option QuickLivraisonShipment)
    (parcel : Parcel) (snapshot : QuickLivraisonSnapshot) : Option Parcel :=
  if isStale unicode current snapshot then some parcel
  else
    let outcomes := parcel.outcomes ++ snapshotOutcome unicode userId current snapshot
    match current with
    | none =>
      if parcel.row.isSome then none
      else some { row := some (importedRow unicode connectionId snapshot), outcomes }
    | some row => some { row := some (reconciledRow unicode connectionId snapshot row), outcomes }

/-- `reconcileProviderDeliveries`, as far as the snapshots of this parcel go.  The outcomes are
recorded when the transaction is over. -/
def Parcel.reconcileProviderDeliveries (userId : String) (connectionId : Option String)
    (snapshots : List QuickLivraisonSnapshot) : Parcel :=
  match connectionId with
  | none => parcel
  | some connectionId =>
    (snapshots.foldlM (pageTurn unicode userId connectionId parcel.row) parcel).getD parcel

/-! ### A webhook -/

def webhookRow (row : QuickLivraisonShipment) : QuickLivraisonShipment :=
  { row with
    providerStatus := event.providerStatus
    providerSecondaryStatus := event.providerSecondaryStatus
    situation := event.situation.or row.situation
    normalizedStatus := event.normalizedStatus unicode
    recipientName := event.recipientName.or row.recipientName
    recipientPhone := event.recipientPhone.or row.recipientPhone
    address := event.address.or row.address
    city := event.city.or row.city
    codAmount := event.codAmount.or row.codAmount
    storeName := event.storeName.or row.storeName
    lastActionAt := some event.eventAt
    providerUpdatedAt := some event.eventAt }

def webhookApplies (row : QuickLivraisonShipment) : Bool :=
  terminalRegressionFilter (event.normalizedStatus unicode) row.normalizedStatus &&
    row.lastActionAt.all (· ≤ event.eventAt)

def webhookOutcome (event : QuickLivraisonWebhook) (row : QuickLivraisonShipment)
    : List ShipmentOutcome :=
  if row.normalizedStatus ≠ event.normalizedStatus unicode &&
      isRisk (event.normalizedStatus unicode) then
    [{ userId
       phone := event.recipientPhone.or row.recipientPhone
       name := event.recipientName.or row.recipientName
       outcome := riskOutcome (event.normalizedStatus unicode) }]
  else []

def Parcel.processStatusWebhook (userId : String) (event : QuickLivraisonWebhook) : Parcel :=
  match parcel.row with
  | none => parcel
  | some row =>
    if webhookApplies unicode event row then
      { row := some (webhookRow unicode event row)
        outcomes := parcel.outcomes ++ webhookOutcome unicode userId event row }
    else parcel

/-! ### The calls -/

inductive QuickLivraisonCall
  | persistDeliveries (connectionId : Option String) (request : QuickLivraisonDeliveryDto)
  | reconcileProviderDeliveries (connectionId : Option String)
      (snapshots : List QuickLivraisonSnapshot)
  | processStatusWebhook (event : QuickLivraisonWebhook)

def Parcel.step (parcel : Parcel) : QuickLivraisonCall → Parcel
  | .persistDeliveries connectionId request =>
    parcel.persistDeliveries unicode connectionId request
  | .reconcileProviderDeliveries connectionId snapshots =>
    parcel.reconcileProviderDeliveries unicode userId connectionId snapshots
  | .processStatusWebhook event => parcel.processStatusWebhook unicode userId event

end Zomaal.QuickLivraison
