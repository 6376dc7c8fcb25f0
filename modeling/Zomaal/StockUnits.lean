/-
**What an order line consists of, and what a returned unit does to the stock.**

`expandOrderLine` turns an order line into the stock units it physically consumes: the product (or
the components of a bundle), the gift (which may be a bundle too) and the packaging, each scaled by
the ordered quantity and merged per inventory item *and role*.  The module embeds it from
`order-stock.util.ts`, together with `packagingFor` and `conditionEffects`.

Main results:

* `expandOrderLine_wf` — **the units of a line are well formed**: every unit asks for at least one
  piece, and an item occurs at most once in each role.
-/

import Zomaal.LedgerTotals
import Zomaal.StockBalance

set_option autoImplicit false

namespace Zomaal

/-! ### The units of a line -/

inductive StockRole
  | product
  | gift
  | packaging
  deriving DecidableEq

structure StockUnit where
  inventoryItemId : String
  quantity : ℤ
  role : StockRole
  deriving DecidableEq

/-- Ask for `quantity` more of an item in a role: the unit of that item and role grows, or a new
one is appended. -/
def mergeUnit (inventoryItemId : String) (quantity : ℤ) (role : StockRole) :
    List StockUnit → List StockUnit
  | [] => [{ inventoryItemId, quantity, role }]
  | unit :: units =>
    if unit.inventoryItemId = inventoryItemId ∧ unit.role = role then
      { unit with quantity := unit.quantity + quantity } :: units
    else unit :: mergeUnit inventoryItemId quantity role units

/-- `add` of `expandOrderLine`: variants without an inventory item and quantities that are not
positive are skipped. -/
def addUnit (units : List StockUnit) (inventoryItem : Option String) (quantity : ℤ)
    (role : StockRole) : List StockUnit :=
  match inventoryItem with
  | none => units
  | some inventoryItemId =>
    if quantity ≤ 0 then units else mergeUnit inventoryItemId quantity role units

/-- `addPhysical` of `expandOrderLine`: a bundle stands for its components. -/
def addPhysical (units : List StockUnit) (physical : PhysicalVariant) (quantity : ℤ)
    (role : StockRole) : List StockUnit :=
  match physical.kind with
  | .bundle =>
    physical.bundleComponents.foldl
      (fun units component =>
        addUnit units component.componentVariant.inventoryItem (component.quantity * quantity)
          role)
      units
  | .standard => addUnit units physical.inventoryItem quantity role

/-- Variant-specific packaging rules override product-level ones per material. -/
def packagingFor (variantId : String) (requirements : List PackagingRequirement) :
    List PackagingRequirement :=
  let specific := requirements.filter fun r => r.variantId = some variantId
  let overridden := specific.map PackagingRequirement.packagingMaterialId
  specific ++ requirements.filter fun r =>
    r.variantId = none ∧ r.packagingMaterialId ∉ overridden

variable (line : OrderLine)

/-- The inventory items an order line consumes: the product (or a bundle's components), its gift and
its packaging, scaled by the quantity. Unmatched lines consume nothing. -/
def expandOrderLine : List StockUnit :=
  match line.warehouseVariant with
  | none => []
  | some variant =>
    if line.quantity ≤ 0 then []
    else
      let units := addPhysical [] variant.toPhysicalVariant line.quantity .product
      let units :=
        match variant.gift with
        | none => units
        | some gift => addPhysical units gift.giftVariant (gift.quantity * line.quantity) .gift
      (packagingFor variant.id variant.packagingRequirements).foldl
        (fun units requirement =>
          addUnit units requirement.inventoryItem (requirement.quantityPerUnit * line.quantity)
            .packaging)
        units

def physicalUnits : List StockUnit :=
  (expandOrderLine line).filter fun unit => unit.role ≠ .packaging

/-! ### Well-formed lists of units -/

/-- Units as `expandOrderLine` builds them: every quantity is positive, and an item occurs at most
once in each role. -/
structure UnitsWF (units : List StockUnit) : Prop where
  pos : ∀ unit ∈ units, 0 < unit.quantity
  nodup : (units.map fun unit => (unit.inventoryItemId, unit.role)).Nodup

theorem UnitsWF.nil : UnitsWF [] := ⟨by simp, by simp⟩

variable {units : List StockUnit}

theorem UnitsWF.filter (h : UnitsWF units) (p : StockUnit → Bool) : UnitsWF (units.filter p) :=
  ⟨fun unit hu => h.pos unit (List.mem_of_mem_filter hu),
    (List.filter_sublist.map _).nodup h.nodup⟩

theorem UnitsWF.tail {unit : StockUnit} (h : UnitsWF (unit :: units)) : UnitsWF units :=
  ⟨fun u hu => h.pos u (List.mem_cons_of_mem _ hu), (List.nodup_cons.1 h.nodup).2⟩

variable {item : String}

theorem mem_mergeUnit_keys {quantity : ℤ} {role : StockRole} {key : String × StockRole} :
    key ∈ (mergeUnit item quantity role units).map (fun u => (u.inventoryItemId, u.role)) ↔
      key = (item, role) ∨ key ∈ units.map fun u => (u.inventoryItemId, u.role) := by
  induction units with
  | nil => simp [mergeUnit]
  | cons unit units ih =>
    by_cases h : unit.inventoryItemId = item ∧ unit.role = role
    · rw [mergeUnit, if_pos h]
      obtain ⟨rfl, rfl⟩ := h
      simp
    · rw [mergeUnit, if_neg h, List.map_cons, List.mem_cons, ih, List.map_cons, List.mem_cons]
      tauto

theorem UnitsWF.mergeUnit {quantity : ℤ} {role : StockRole} (h : UnitsWF units)
    (hq : 0 < quantity) : UnitsWF (mergeUnit item quantity role units) := by
  induction units with
  | nil => exact ⟨by simp [Zomaal.mergeUnit, hq], by simp [Zomaal.mergeUnit]⟩
  | cons unit units ih =>
    have hu : 0 < unit.quantity := h.pos unit (List.mem_cons_self ..)
    obtain ⟨hhead, hnodup⟩ := List.nodup_cons.1 h.nodup
    by_cases hkey : unit.inventoryItemId = item ∧ unit.role = role
    · rw [Zomaal.mergeUnit, if_pos hkey]
      refine ⟨?_, List.nodup_cons.2 ⟨hhead, hnodup⟩⟩
      intro x hx
      rcases List.mem_cons.1 hx with rfl | hx
      · exact add_pos hu hq
      · exact h.tail.pos x hx
    · rw [Zomaal.mergeUnit, if_neg hkey]
      refine ⟨?_, ?_⟩
      · intro x hx
        rcases List.mem_cons.1 hx with rfl | hx
        · exact hu
        · exact (ih h.tail).pos x hx
      · rw [List.map_cons, List.nodup_cons, mem_mergeUnit_keys]
        refine ⟨?_, (ih h.tail).nodup⟩
        rintro (heq | hmem)
        · exact hkey (by simpa using heq)
        · exact hhead hmem

theorem UnitsWF.addUnit (h : UnitsWF units) (item : Option String) (quantity : ℤ)
    (role : StockRole) : UnitsWF (addUnit units item quantity role) := by
  cases item with
  | none => exact h
  | some item =>
    rw [Zomaal.addUnit]
    split
    · exact h
    · exact h.mergeUnit (by omega)

theorem UnitsWF.foldl {α : Type} {add : List StockUnit → α → List StockUnit}
    (hadd : ∀ units x, UnitsWF units → UnitsWF (add units x)) (h : UnitsWF units) (xs : List α) :
    UnitsWF (xs.foldl add units) := by
  induction xs generalizing units with
  | nil => exact h
  | cons x xs ih => exact ih (hadd units x h)

theorem UnitsWF.addPhysical (h : UnitsWF units) (physical : PhysicalVariant) (quantity : ℤ)
    (role : StockRole) : UnitsWF (addPhysical units physical quantity role) := by
  rw [Zomaal.addPhysical]
  split
  · exact UnitsWF.foldl (fun _ _ hu => hu.addUnit _ _ _) h _
  · exact h.addUnit _ _ _

theorem expandOrderLine_wf : UnitsWF (expandOrderLine line) := by
  unfold expandOrderLine
  split
  · exact UnitsWF.nil
  · split
    · exact UnitsWF.nil
    · refine UnitsWF.foldl (fun _ _ hu => hu.addUnit _ _ _) ?_ _
      split
      · exact UnitsWF.nil.addPhysical _ _ _
      · exact (UnitsWF.nil.addPhysical _ _ _).addPhysical _ _ _

theorem physicalUnits_wf : UnitsWF (physicalUnits line) :=
  (expandOrderLine_wf line).filter _

/-! ### How much of an item the units ask for -/

def unitsTotal (units : List StockUnit) (item : String) : ℤ :=
  Ledger.total StockUnit.quantity (fun unit => unit.inventoryItemId = item) units

def firstQuantity : List StockUnit → String → ℤ
  | [], _ => 0
  | unit :: units, item =>
    if unit.inventoryItemId = item then unit.quantity else firstQuantity units item

@[simp] theorem unitsTotal_nil (item : String) : unitsTotal [] item = 0 := rfl

theorem unitsTotal_cons (unit : StockUnit) (units : List StockUnit) (item : String) :
    unitsTotal (unit :: units) item =
      (if unit.inventoryItemId = item then unit.quantity else 0) + unitsTotal units item := by
  rw [unitsTotal, Ledger.total_cons]
  simp [unitsTotal]

theorem unitsTotal_nonneg (h : ∀ unit ∈ units, 0 < unit.quantity) (item : String) :
    0 ≤ unitsTotal units item :=
  Ledger.total_nonneg fun unit hu _ => (h unit hu).le

theorem unitsTotal_eq_zero (h : ∀ unit ∈ units, unit.inventoryItemId ≠ item) :
    unitsTotal units item = 0 :=
  Ledger.total_eq_zero fun unit hu => by simpa using h unit hu

theorem firstQuantity_eq_zero (h : ∀ unit ∈ units, unit.inventoryItemId ≠ item) :
    firstQuantity units item = 0 := by
  induction units with
  | nil => rfl
  | cons unit units ih =>
    rw [firstQuantity, if_neg (h unit (List.mem_cons_self ..)),
      ih fun u hu => h u (List.mem_cons_of_mem _ hu)]

theorem firstQuantity_bounds (h : ∀ unit ∈ units, 0 < unit.quantity) (item : String) :
    0 ≤ firstQuantity units item ∧ firstQuantity units item ≤ unitsTotal units item ∧
      ((∃ unit ∈ units, unit.inventoryItemId = item) → 0 < firstQuantity units item) := by
  induction units with
  | nil => simp [firstQuantity]
  | cons unit units ih =>
    have hu := h unit (List.mem_cons_self ..)
    have htail : ∀ u ∈ units, 0 < u.quantity := fun u hu => h u (List.mem_cons_of_mem _ hu)
    obtain ⟨ih₁, ih₂, ih₃⟩ := ih htail
    have hrest := unitsTotal_nonneg htail item
    rw [firstQuantity, unitsTotal_cons]
    split
    · exact ⟨hu.le, by omega, fun _ => hu⟩
    · rename_i hne
      refine ⟨ih₁, by omega, ?_⟩
      rintro ⟨u, hmem, hitem⟩
      rcases List.mem_cons.1 hmem with rfl | hmem
      · exact absurd hitem hne
      · exact ih₃ ⟨u, hmem, hitem⟩

theorem firstQuantity_append (units units' : List StockUnit) (item : String) :
    firstQuantity (units ++ units') item =
      if item ∈ units.map StockUnit.inventoryItemId then firstQuantity units item
      else firstQuantity units' item := by
  induction units with
  | nil => simp
  | cons u units ih =>
    rw [List.cons_append, firstQuantity, ih, firstQuantity]
    by_cases hu : u.inventoryItemId = item
    · simp [hu]
    · simp [hu, Ne.symm hu]

theorem firstQuantity_concat (units : List StockUnit) (unit : StockUnit) (item : String) :
    firstQuantity (units ++ [unit]) item =
      if item ∈ units.map StockUnit.inventoryItemId then firstQuantity units item
      else if unit.inventoryItemId = item then unit.quantity else 0 := by
  rw [firstQuantity_append]
  rfl

/-- **The first unit of an item is all there is of it** exactly when at most one unit is about
it. -/
theorem firstQuantity_eq_unitsTotal_iff (h : ∀ unit ∈ units, 0 < unit.quantity) (item : String) :
    firstQuantity units item = unitsTotal units item ↔
      (units.filter fun unit => unit.inventoryItemId = item).length ≤ 1 := by
  induction units with
  | nil => simp [firstQuantity]
  | cons unit units ih =>
    have htail : ∀ u ∈ units, 0 < u.quantity := fun u hu => h u (List.mem_cons_of_mem _ hu)
    rw [firstQuantity, unitsTotal_cons]
    by_cases hitem : unit.inventoryItemId = item
    · rw [if_pos hitem, if_pos hitem, List.filter_cons_of_pos (by simpa using hitem),
        List.length_cons]
      constructor
      · intro heq
        have hzero : unitsTotal units item = 0 := by omega
        have hnone : units.filter (fun u => u.inventoryItemId = item) = [] := by
          refine List.filter_eq_nil_iff.2 fun u hu hui => ?_
          obtain ⟨-, hle, hpos⟩ := firstQuantity_bounds htail item
          have := hpos ⟨u, hu, by simpa using hui⟩
          omega
        simp [hnone]
      · intro hlen
        have hnone : units.filter (fun u => u.inventoryItemId = item) = [] :=
          List.length_eq_zero_iff.1 (by omega)
        have hzero : unitsTotal units item = 0 :=
          unitsTotal_eq_zero fun u hu => by simpa using List.filter_eq_nil_iff.1 hnone u hu
        omega
    · rw [if_neg hitem, if_neg hitem, List.filter_cons_of_neg (by simpa using hitem), zero_add]
      exact ih htail

/-! ### The stock effect of a return condition -/

structure ConditionEffect where
  type : InventoryMovementType
  bucket : InventoryBucket
  sign : ℤ

/-- Stock effect of a returned unit's condition. A delivered unit comes back into stock; an
undelivered one never left the books, so only damage or loss changes anything. -/
def conditionEffects (condition : ProductCondition) (delivered : Bool) : List ConditionEffect :=
  let good : ConditionEffect := { type := .returnGood, bucket := .onHand, sign := 1 }
  let damaged : ConditionEffect := { type := .returnDamaged, bucket := .damaged, sign := 1 }
  match condition with
  | .good | .returned => if delivered then [good] else []
  | .damaged => if delivered then [{ good with type := .returnDamaged }, damaged] else [damaged]
  | .lost | .missing =>
    if delivered then [] else [{ type := .returnLost, bucket := .onHand, sign := -1 }]

end Zomaal
