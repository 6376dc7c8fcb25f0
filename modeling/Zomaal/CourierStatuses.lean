/-
**The statuses of ForceLog and OzoneExpress.**

Both couriers report a status as a free text, in French or in English.  It is brought to a code in
capital letters, looked up in a table, and, if the table does not have it, guessed from the words
that are part of it.
-/

import Zomaal.QuickLivraison

set_option autoImplicit false

namespace Zomaal

open QuickLivraison (UnicodeText statusKey)

def includesPart (key part : String) : Bool := part.toList <:+: key.toList

variable (unicode : UnicodeText)

variable (value : String)

/-- The code of a status text, the same for both couriers; a blank text has none. -/
def courierStatusCode : Option String :=
  if JsText.trim value = "" then none else some (statusKey unicode value)

/-- A status by its code: by the table, or else by the words in it. -/
def statusOfCode (statusMap : String → Option ShippingShipmentStatus)
    (guess : String → ShippingShipmentStatus) (code : Option String) : ShippingShipmentStatus :=
  match code with
  | none => .unknown
  | some key => if key = "" then .unknown else (statusMap key).getD (guess key)

/-! ### ForceLog -/

namespace ForceLog

def statusMap : String → Option ShippingShipmentStatus
  | "NEW" | "NEW_PARCEL" | "NOUVEAU_COLIS" | "PENDING" => some .pending
  | "CONFIRMED" | "CONFIRME" | "PROGRAMME" => some .confirmed
  | "PICKUP_PENDING" | "RAMASSAGE" => some .pickupPending
  | "PICKED_UP" | "RAMASSE" | "COLLECTE" => some .pickedUp
  | "AT_WAREHOUSE" | "WAREHOUSE" | "ENTREPOT" => some .atWarehouse
  | "IN_TRANSIT" | "TRANSIT" => some .inTransit
  | "DISTRIBUTION" | "DISTRIBUE" | "OUT_FOR_DELIVERY" | "EN_COURS_DE_LIVRAISON" =>
    some .outForDelivery
  | "POSTPONED" | "REPORTE" => some .postponed
  | "UNREACHABLE" | "INJOIGNABLE" => some .unreachable
  | "DELIVERED" | "LIVRE" => some .delivered
  | "CANCELLED" | "CANCELED" | "ANNULE" => some .cancelled
  | "REFUSED" | "REFUSE" => some .refused
  | "RETURN_PENDING" | "RETOUR_EN_ATTENTE" => some .returnPending
  | "RETURN_IN_TRANSIT" | "RETOUR_EN_COURS" => some .returnInTransit
  | "RETURNED_TO_WAREHOUSE" | "RETOUR_ENTREPOT" => some .returnedToWarehouse
  | "RETURN_INSPECTION" | "RETOUR_CONTROLE" => some .returnInspection
  | "RETURNED_TO_STOCK" | "RETOUR_STOCK" => some .returnedToStock
  | "RETURNED_TO_SELLER" | "RETOURNE_A_L_EXPEDITEUR" | "RETOURNE_AU_CLIENT" =>
    some .returnedToSeller
  | _ => none

/-- The `includes` tests of a code that is not in the table, in their order. -/
def guess (key : String) : ShippingShipmentStatus :=
  if includesPart key "RETOUR" then
    if includesPart key "EXPEDITEUR" || includesPart key "CLIENT" then .returnedToSeller
    else if includesPart key "STOCK" then .returnedToStock
    else if includesPart key "CONTROLE" || includesPart key "INSPECTION" then .returnInspection
    else if includesPart key "ENTREPOT" || includesPart key "WAREHOUSE" then .returnedToWarehouse
    else if includesPart key "COURS" || includesPart key "TRANSIT" then .returnInTransit
    else .returnPending
  else if includesPart key "LIVR" then .delivered
  else if includesPart key "REFUS" then .refused
  else if includesPart key "ANNUL" then .cancelled
  else if includesPart key "REPORT" then .postponed
  else if includesPart key "INJOIGN" then .unreachable
  else if includesPart key "DISTRIB" then .outForDelivery
  else if includesPart key "TRANSIT" then .inTransit
  else if includesPart key "ENTREPOT" then .atWarehouse
  else if includesPart key "RAMASS" || includesPart key "COLLECT" then .pickedUp
  else if includesPart key "NOUVEAU" then .pending
  else .unknown

end ForceLog

def normalizeForceLogStatusCode : Option String := courierStatusCode unicode value

def normalizeForceLogStatus : ShippingShipmentStatus :=
  statusOfCode ForceLog.statusMap ForceLog.guess (normalizeForceLogStatusCode unicode value)

/-! ### OzoneExpress -/

namespace OzoneExpress

def statusMap : String → Option ShippingShipmentStatus
  | "NEW" | "NEW_PARCEL" | "NOUVEAU_COLIS" | "EN_ATTENTE" => some .pending
  | "CONFIRMED" | "CONFIRME" | "PROGRAMME" => some .confirmed
  | "PICKUP_PENDING" | "RAMASSAGE_PROGRAMME" => some .pickupPending
  | "PICKED_UP" | "RAMASSE" | "COLLECTE" => some .pickedUp
  | "AT_WAREHOUSE" | "ENTREPOT" => some .atWarehouse
  | "IN_TRANSIT" | "TRANSIT" => some .inTransit
  | "OUT_FOR_DELIVERY" | "EN_COURS_DE_LIVRAISON" | "DISTRIBUE" => some .outForDelivery
  | "POSTPONED" | "REPORTE" => some .postponed
  | "UNREACHABLE" | "INJOIGNABLE" => some .unreachable
  | "DELIVERED" | "LIVRE" => some .delivered
  | "CANCELLED" | "ANNULE" => some .cancelled
  | "REFUSED" | "REFUSE" => some .refused
  | "RETURN_PENDING" | "RETOUR_EN_ATTENTE" => some .returnPending
  | "RETURN_IN_TRANSIT" | "RETOUR_EN_COURS" => some .returnInTransit
  | "RETURNED_TO_WAREHOUSE" | "RETOUR_ENTREPOT" => some .returnedToWarehouse
  | "RETURN_INSPECTION" | "RETOUR_CONTROLE" => some .returnInspection
  | "RETURNED_TO_STOCK" | "RETOUR_STOCK" => some .returnedToStock
  | "RETURNED_TO_SELLER" | "RETOURNE_A_L_EXPEDITEUR" | "RETOURNE_AU_CLIENT" =>
    some .returnedToSeller
  | _ => none

/-- The `includes` tests of a code that is not in the table, in their order. -/
def guess (key : String) : ShippingShipmentStatus :=
  if includesPart key "RETOUR" then
    if includesPart key "EXPEDITEUR" || includesPart key "CLIENT" then .returnedToSeller
    else if includesPart key "STOCK" then .returnedToStock
    else if includesPart key "CONTROLE" || includesPart key "INSPECTION" then .returnInspection
    else if includesPart key "ENTREPOT" then .returnedToWarehouse
    else if includesPart key "COURS" || includesPart key "TRANSIT" then .returnInTransit
    else .returnPending
  else if includesPart key "LIVR" then .delivered
  else if includesPart key "REFUS" then .refused
  else if includesPart key "ANNUL" then .cancelled
  else if includesPart key "REPORT" then .postponed
  else if includesPart key "INJOIGN" then .unreachable
  else if includesPart key "DISTRIB" || includesPart key "COURS_DE_LIVRAISON" then .outForDelivery
  else if includesPart key "TRANSIT" then .inTransit
  else if includesPart key "ENTREPOT" then .atWarehouse
  else if includesPart key "RAMASS" || includesPart key "COLLECT" then .pickedUp
  else if includesPart key "NOUVEAU" then .pending
  else .unknown

end OzoneExpress

def normalizeOzoneExpressStatusCode : Option String :=
  courierStatusCode unicode value

def normalizeOzoneExpressStatus : ShippingShipmentStatus :=
  statusOfCode OzoneExpress.statusMap OzoneExpress.guess
    (normalizeOzoneExpressStatusCode unicode value)

structure OzonePrices where
  deliveredPrice : Option Decimal := none
  returnedPrice : Option Decimal := none
  refusedPrice : Option Decimal := none
  deriving DecidableEq

def ozoneFeeForStatus (status : ShippingShipmentStatus) (prices : OzonePrices) : Option Decimal :=
  if status = .delivered then prices.deliveredPrice
  else if status = .refused then prices.refusedPrice
  else if status ∈ [ShippingShipmentStatus.returnPending, .returnInTransit, .returnedToWarehouse,
      .returnInspection, .returnedToStock, .returnedToSeller] then prices.returnedPrice
  else none

end Zomaal
