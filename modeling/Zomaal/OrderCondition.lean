/-
**Return conditions: what came back, in what state.**

An allocation of a returned line's pieces to conditions replaces what was recorded for the line
before: the stock movements of the return are brought to what it asks for, the line keeps a snapshot
of it, and the difference in loss is booked in the order ledger.  This module embeds
`OrderConditionService.record` from `order-condition.service.ts`.
-/

import Zomaal.OrderLedger

set_option autoImplicit false

namespace Zomaal

/-! ### Requests -/

/-- A JavaScript number: an exact value, or one of the values that are not finite. -/
inductive JsNumber
  | finite (value : ℚ)
  | nonFinite
  deriving DecidableEq

def JsNumber.safeInteger : JsNumber → Option ℤ
  | .finite value =>
    if value.den = 1 ∧ -9007199254740991 ≤ value.num ∧ value.num ≤ 9007199254740991 then
      some value.num
    else none
  | .nonFinite => none

structure ConditionInput where
  orderLineId : String
  expectedRevision : Option JsNumber := none
  componentVariantId : Option String := none
  quantity : Option JsNumber := none
  condition : String
  damageCost : Option JsNumber := none
  notes : Option String := none

def ProductCondition.ofText (text : String) : Option ProductCondition :=
  [ProductCondition.good, .damaged, .lost, .returned, .missing].find? fun condition =>
    condition.text = text

def addToGroup (groups : List (String × List ConditionInput)) (input : ConditionInput) :
    List (String × List ConditionInput) :=
  if input.orderLineId ∈ groups.map Prod.fst then
    groups.map fun group =>
      if group.1 = input.orderLineId then (group.1, group.2 ++ [input]) else group
  else groups ++ [(input.orderLineId, [input])]

def groupInputs (order : EcommerceOrder) (inputs : List ConditionInput) :
    Except ServiceError (List (String × List ConditionInput)) :=
  inputs.foldlM
    (fun groups input =>
      if input.orderLineId ∈ order.lines.map OrderLine.id then .ok (addToGroup groups input)
      else .error (.badRequest "Order line does not belong to this order"))
    []

/-! ### One row of an allocation -/

variable (line : OrderLine)

def OrderLine.components : List BundleComponent :=
  match line.warehouseVariant with
  | none => []
  | some variant =>
    match variant.kind with
    | .bundle => variant.bundleComponents
    | .standard => []

def OrderLine.pieces : ℤ :=
  (line.components.map fun component => component.quantity * line.quantity).sum

/-- What has been allocated so far: pieces by component, the conditions named for each, and the
entries. -/
structure Allocation where
  totals : List (String × ℤ) := []
  identities : List String := []
  entries : List StoredConditionEntry := []

def Allocation.total (allocation : Allocation) (key : String) : Option ℤ :=
  (allocation.totals.find? fun total => total.1 = key).map Prod.snd

def Allocation.setTotal (allocation : Allocation) (key : String) (quantity : ℤ) :
    List (String × ℤ) :=
  (key, quantity) :: allocation.totals.filter fun total => total.1 ≠ key

/-- The share of a line's price that its allocated pieces sold for: for a pack by purchase cost or,
when no cost is known, by number. -/
def saleValue (costRate : Decimal) (line : OrderLine) (component : Option BundleComponent)
    (unitCost : Decimal) (quantity : ℤ) : Decimal :=
  match component with
  | none => toFixed4 (line.totalPrice * quantity / line.quantity)
  | some _ =>
    let totalCost := (line.components.map fun c =>
      c.componentVariant.costPrice * costRate * (c.quantity * line.quantity : ℤ)).sum
    if 0 < totalCost then toFixed4 (line.totalPrice * unitCost * quantity / totalCost)
    else toFixed4 (line.totalPrice * quantity / line.pieces)

/-- The inventory items `quantity` allocated pieces consist of. -/
def allocatedUnits (component : Option BundleComponent) (quantity : ℤ) : List ConditionUnit :=
  match component with
  | some component =>
    match component.componentVariant.inventoryItem with
    | none => []
    | some inventoryItemId => [{ inventoryItemId, quantity }]
  | none =>
    if line.components.isEmpty then
      match line.warehouseVariant.bind fun variant => variant.inventoryItem with
      | none => []
      | some inventoryItemId => [{ inventoryItemId, quantity }]
    else
      line.components.filterMap fun c =>
        c.componentVariant.inventoryItem.map fun inventoryItemId =>
          { inventoryItemId, quantity := c.quantity * quantity }

def invalidDamageCost : Option JsNumber → Bool
  | none => false
  | some .nonFinite => true
  | some (.finite value) => value < 0

def damageCostAmount : Option JsNumber → Option Decimal
  | some (.finite value) => some (toFixed4 value)
  | _ => none

def allocate (costRate : Decimal) (line : OrderLine) (componentMode : Bool)
    (allocation : Allocation) (row : ConditionInput) : Except ServiceError Allocation :=
  let component := if componentMode then
      line.components.find? fun c => some c.componentVariant.id = row.componentVariantId
    else none
  if componentMode ∧ component.isNone then
    .error (.badRequest "Component does not belong to this pack")
  else
    match ProductCondition.ofText row.condition with
    | none => .error (.badRequest "Invalid product condition")
    | some condition =>
      if invalidDamageCost row.damageCost then
        .error (.badRequest "Damage cost must be a finite nonnegative amount")
      else
        match (row.quantity.getD (.finite line.quantity)).safeInteger.filter (1 ≤ ·) with
        | none => .error (.badRequest "Allocation quantity must be a positive integer")
        | some quantity =>
          let key := (component.map fun c => c.componentVariant.id).getD "LINE"
          let capacity := match component with
            | some component => component.quantity * line.quantity
            | none => line.quantity
          let total := (allocation.total key).getD 0 + quantity
          let identity := key ++ ":" ++ row.condition
          if capacity < total then
            .error (.badRequest "Condition quantities exceed ordered quantity")
          else if identity ∈ allocation.identities then
            .error (.badRequest
              "Combine repeated conditions for the same component into one quantity")
          else
            let unitCost := (((component.map fun c => c.componentVariant.costPrice).or
              (line.warehouseVariant.map fun variant => variant.costPrice)).getD 0) * costRate
            .ok
              { totals := allocation.setTotal key total
                identities := allocation.identities ++ [identity]
                entries := allocation.entries ++ [
                  { componentVariantId := component.map fun c => c.componentVariant.id
                    quantity
                    condition
                    damageCost :=
                      if condition = .damaged then damageCostAmount row.damageCost else none
                    saleValue := saleValue costRate line component unitCost quantity
                    physicalQuantity :=
                      if component.isSome ∨ line.components.isEmpty then quantity
                      else (line.components.map BundleComponent.quantity).sum * quantity
                    unitCost := toFixed4 unitCost
                    units := allocatedUnits line component quantity }] }

/-! ### The allocation of a line -/

variable (entry : StoredConditionEntry)

/-- What a retry is compared by: the cost snapshot of an allocation is no part of it. -/
def requestFields : Option String × ℤ × ProductCondition × Option Decimal :=
  (entry.componentVariantId, entry.quantity, entry.condition, entry.damageCost)

def entrySortKey : String :=
  entry.componentVariantId.getD "null" ++ ":" ++ entry.condition.text

/-- What an entry loses: the damage, or the cost of what is gone. -/
def entryLoss : Decimal :=
  let cost := entry.unitCost * entry.quantity
  match entry.condition with
  | .damaged => entry.damageCost.getD cost
  | .lost | .missing => cost
  | .good | .returned => 0

def assertPersistedMoney (value : Decimal) (field : String) : Except ServiceError Unit :=
  if value < 0 ∨ 10000000000000000 ≤ value then
    .error (.badRequest (field ++ " exceeds the supported monetary range"))
  else .ok ()

structure PreparedLine where
  line : OrderLine
  snapshot : ConditionSnapshot
  unchanged : Bool
  notes : Option String

def allocationCompleted (componentMode : Bool) (allocation : Allocation) : Bool :=
  if componentMode then
    line.components.all fun c =>
      allocation.total c.componentVariant.id = some (c.quantity * line.quantity)
  else allocation.total "LINE" = some line.quantity

/-- **The allocation of a line**, checked against the line and against what is recorded for it.  An
identical retry keeps the snapshot it repeats. -/
def prepareLine (locale : Locale) (costRate : Decimal) (storeId : String) (line : OrderLine)
    (rows : List ConditionInput) : Except ServiceError PreparedLine := do
  let notes := rows.head?.bind ConditionInput.notes
  let componentMode := rows.any fun row => row.componentVariantId.isSome
  if line.warehouseVariant.any fun variant => variant.storeId ≠ storeId then
    .error (.badRequest "Product is unavailable in this store")
  else if line.components.any fun c => c.componentVariant.storeId ≠ storeId then
    .error (.badRequest "Pack component is unavailable in this store")
  else if componentMode ∧ (line.components.isEmpty ∨
      rows.any fun row => row.componentVariantId.getD "" = "") then
    .error (.badRequest
      "Component allocations require a pack and cannot mix with whole-pack allocations")
  else if 1 < rows.length ∧ rows.any fun row => row.quantity.isNone then
    .error (.badRequest "Repeated order lines require explicit quantity allocations")
  else do
    let allocation ← rows.foldlM (allocate costRate line componentMode) {}
    let entries := allocation.entries.mergeSort fun a b =>
      locale.localeCompare (entrySortKey a) (entrySortKey b) ≠ .gt
    match line.conditionAllocations.filter fun previous =>
        previous.entries.map requestFields = entries.map requestFields with
    | some previous => .ok { line, snapshot := previous, unchanged := true, notes }
    | none =>
      if rows.any fun row => row.expectedRevision.any fun revision =>
          revision ≠ .finite (line.conditionRevision : ℚ) then
        .error (.conflict
          "Conditions changed; reload the saved return before replacing allocations")
      else do
        let loss := (entries.map entryLoss).sum
        assertPersistedMoney loss "Allocated loss"
        .ok
          { line
            snapshot :=
              { completed := allocationCompleted line componentMode allocation
                expectedQuantity :=
                  if line.components.isEmpty then line.quantity else line.pieces
                loss := toFixed4 loss
                entries }
            unchanged := false
            notes }

/-! ### What an allocation does to the stock -/

def ReturnTargets.set (targets : ReturnTargets) (item : String) (target : ReturnTarget) :
    ReturnTargets :=
  if item ∈ targets.map Prod.fst then
    targets.map fun entry => if entry.1 = item then (item, target) else entry
  else targets ++ [(item, target)]

/-- One effect of a condition on `quantity` units. -/
def addEffect (quantity : ℤ) (target : ReturnTarget) (effect : ConditionEffect) : ReturnTarget :=
  match effect.bucket with
  | .onHand => { target with onHand := target.onHand + effect.sign * quantity }
  | .damaged => { target with damaged := target.damaged + effect.sign * quantity }
  | .reserved | .incoming => target

def addUnitEffects (delivered : Bool) (condition : ProductCondition) (targets : ReturnTargets)
    (unit : ConditionUnit) : ReturnTargets :=
  targets.set unit.inventoryItemId
    ((conditionEffects condition delivered).foldl (addEffect unit.quantity)
      (targets.get unit.inventoryItemId))

/-- **What the return movements of an allocation should add up to.** -/
def conditionTargets (delivered : Bool) (entries : List StoredConditionEntry) : ReturnTargets :=
  entries.foldl
    (fun targets entry => entry.units.foldl (addUnitEffects delivered entry.condition) targets) []

variable (snapshot : ConditionSnapshot)

def ConditionSnapshot.items : List String :=
  snapshot.entries.flatMap fun entry => entry.units.map ConditionUnit.inventoryItemId

/-! ### Recording -/

def snapshotCondition : Option String :=
  if snapshot.completed then
    match (snapshot.entries.map StoredConditionEntry.condition).dedup with
    | [condition] => some condition.text
    | _ => some "MIXED"
  else none

def snapshotDamageCost : Option Decimal :=
  if snapshot.entries.any fun entry => entry.damageCost.isSome then
    some (((snapshot.entries.filter fun entry => entry.condition = .damaged).map entryLoss).sum)
  else none

/-- `notes?.trim() || null`, if notes were sent. -/
def withNotes (notes : Option String) (line : OrderLine) : OrderLine :=
  match notes with
  | none => line
  | some _ => { line with conditionNotes := trimToNull notes }

def recordedLine (now : ℤ) (prepared : PreparedLine) (line : OrderLine) : OrderLine :=
  withNotes prepared.notes
    { line with
      condition := snapshotCondition prepared.snapshot
      damageCost := snapshotDamageCost prepared.snapshot
      conditionAllocations := some prepared.snapshot
      conditionRevision := prepared.line.conditionRevision + 1
      conditionRecordedAt := some now }

def PreparedLine.reconcileInput (prepared : PreparedLine) (orderId : String) : ReconcileInput where
  orderId := orderId
  lineId := prepared.line.id
  revision := prepared.line.conditionRevision + 1
  targets := (conditionTargets (prepared.line.stockStatus = some .delivered)
    prepared.snapshot.entries).cover
      ((prepared.line.conditionAllocations.map ConditionSnapshot.items).getD [])

/-- One prepared line is written: an identical retry only updates its notes. -/
def recordLine (now : ℤ) (order : EcommerceOrder) (prepared : PreparedLine) :
    Service (String × Bool) :=
  if prepared.unchanged then do
    Command.modify fun s => s.updateLine prepared.line.id (withNotes prepared.notes)
    pure (prepared.line.id, false)
  else do
    let updated ← reconcileReturnTargets (prepared.reconcileInput order.id)
    Command.modify fun s => s.updateLine prepared.line.id (recordedLine now prepared)
    let _ ← setLineLoss order.id prepared.line.id order.currency prepared.snapshot.loss
      "Warehouse quantity/component conditions reconciled"
    pure (prepared.line.id, updated)

structure ReturnContext where
  returnRequestId : String
  reason : Option String := none

/-- Whether the return of a line is complete, by its saved allocation or its condition. -/
def OrderLine.returnComplete : Bool :=
  (line.conditionAllocations.map ConditionSnapshot.completed).getD line.condition.isSome

/-- Whether the return of a line will be complete, by its prepared allocation if it has one. -/
def willBeComplete (prepared : List PreparedLine) (line : OrderLine) : Bool :=
  ((prepared.find? fun p => p.line.id = line.id).map fun p => p.snapshot.completed).getD
    line.returnComplete

/-- The return request a request is recorded for, checked: it must contain the lines, and an order
has one open return. -/
def checkReturnRequest (s : Store) (order : EcommerceOrder) (inputs : List ConditionInput)
    (prepared : List PreparedLine) (context : ReturnContext) : Except ServiceError ReturnRequest :=
  match s.returnRequests.find? fun request =>
      request.id = context.returnRequestId ∧ request.orderId = order.id with
  | none => .error (.notFound "Return request not found")
  | some request =>
    if inputs.any fun input => input.orderLineId ∉ request.lineIds then
      .error (.badRequest "Order line is not part of this return request")
    else if ((order.lines.filter fun line => line.id ∈ request.lineIds).all
          (willBeComplete prepared)) = false ∧
        s.returnRequests.any fun other => other.orderId = order.id ∧
          other.status = .needVerification ∧ other.id ≠ request.id then
      .error (.conflict
        "Another open return exists; verify that return before reopening this one")
    else .ok request

def settleReturnRequest (now : ℤ) (order : EcommerceOrder) (context : ReturnContext)
    (request : ReturnRequest) : ReturnRequest :=
  let complete :=
    (order.lines.filter fun line => line.id ∈ request.lineIds).all OrderLine.returnComplete
  { request with
    status := if complete then .processed else .needVerification
    verifiedAt := if complete then some now else none
    reason := context.reason.or request.reason }

def Store.orderOf (s : Store) (storeId orderId : String) : Option EcommerceOrder :=
  (s.findOrder orderId).filter fun order => order.storeId = storeId

variable (environment : Environment)

/-- How much the order's currency is worth in the store's, for costs. -/
def conditionCostRate (order : EcommerceOrder) : Except ServiceError Decimal :=
  let rate := if order.baseCurrency = order.currency then some 1
    else environment.currency.bind fun service =>
      service.convertOrNull environment.locale 1 order.baseCurrency order.currency
  match rate.filter fun rate => 0 < rate with
  | some rate => .ok rate
  | none => .error (.serviceUnavailable
      "A real exchange rate is required to record return costs in order currency")

def prepareRecord (locale : Locale) (costRate : Decimal) (storeId : String)
    (order : EcommerceOrder) (inputs : List ConditionInput) :
    Except ServiceError (List PreparedLine) := do
  let groups ← groupInputs order inputs
  groups.mapM fun group =>
    match order.lines.find? fun line => line.id = group.1 with
    | none => .error (.badRequest "Order line does not belong to this order")
    | some line => prepareLine locale costRate storeId line group.2

def recordLocked (now : ℤ) (costRate : Decimal) (storeId orderId : String)
    (inputs : List ConditionInput) (context : Option ReturnContext) :
    Service (List (String × Bool)) := do
  match ← Command.ask fun s => s.orderOf storeId orderId with
  | none => Command.fail (.notFound "Order not found")
  | some order => do
      let prepared ← Command.lift (prepareRecord environment.locale costRate storeId order inputs)
      let before ← Command.ask id
      let request ← Command.lift (context.mapM (checkReturnRequest before order inputs prepared))
      let inventoryUpdates ← Command.mapEach prepared (recordLine now order)
      Command.modify fun s =>
        match context, request, s.findOrder orderId with
        | some context, some request, some updated =>
          { s with
            returnRequests := s.returnRequests.map fun other =>
              if other.id = request.id then settleReturnRequest now updated context other
              else other }
        | _, _, _ => s
      pure inventoryUpdates

/-- **`record`**: the conditions of returned lines are recorded, all or nothing.  The answer says for
every line whether its stock changed. -/
def record (now : ℤ) (storeId orderId : String) (inputs : List ConditionInput)
    (context : Option ReturnContext := none) :
    Service (List (String × Bool)) := do
  match ← Command.ask fun s => s.orderOf storeId orderId with
  | none => Command.fail (.notFound "Order not found")
  | some pricing => do
      let costRate ← Command.lift (conditionCostRate environment pricing)
      withOrderTransaction
        (recordLocked environment now costRate storeId orderId inputs context)

end Zomaal
