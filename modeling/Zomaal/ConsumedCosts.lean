/-
**What is charged, and what is taken from the stock.**

The cost of a line is found from the prices of the product, of its gift and of the packaging, and
the units from the inventory items that these stand for.

Main results:

* `costsConsumed` — **the cost of a line is the cost of its units**.
-/

import Mathlib.Algebra.BigOperators.Ring.List
import Zomaal.OrderCosts

set_option autoImplicit false

namespace Zomaal

def unitsCost (cost : String → Decimal) (role : StockRole) (units : List StockUnit) : Decimal :=
  Ledger.total (fun unit => cost unit.inventoryItemId * unit.quantity) (fun unit => unit.role = role)
    units

def ItemCosts (cost : String → Decimal) (inventoryItem : Option String) (price : Decimal) : Prop :=
  ∃ item, inventoryItem = some item ∧ cost item = price

/-- **The price of a variant** is the one of its item; a bundle costs what its components do. -/
def PhysicalVariant.PricedBy (cost : String → Decimal) (physical : PhysicalVariant) : Prop :=
  match physical.kind with
  | .standard => ItemCosts cost physical.inventoryItem physical.costPrice
  | .bundle =>
    (∀ c ∈ physical.bundleComponents,
      ItemCosts cost c.componentVariant.inventoryItem c.componentVariant.costPrice) ∧
    physical.costPrice = (physical.bundleComponents.map fun c =>
      c.componentVariant.costPrice * (c.quantity : ℚ)).sum

/-- All prices of a line's variant are those of the items. -/
structure PricedBy (cost : String → Decimal) (packagingUnitCosts : List (String × Decimal))
    (variant : WarehouseVariant) : Prop where
  product : variant.toPhysicalVariant.PricedBy cost
  gift : ∀ gift ∈ variant.gift, gift.giftVariant.PricedBy cost
  packaging : ∀ requirement ∈ variant.packagingRequirements,
    ItemCosts cost requirement.inventoryItem
      (unitCostOf packagingUnitCosts requirement.packagingMaterialId)

section Units

variable {cost : String → Decimal} {role : StockRole}

theorem unitsCost_cons (unit : StockUnit) (units : List StockUnit) :
    unitsCost cost role (unit :: units) =
      (if unit.role = role then cost unit.inventoryItemId * unit.quantity else 0) +
        unitsCost cost role units := by
  rw [unitsCost, Ledger.total_cons]
  simp [unitsCost]

theorem unitsCost_mergeUnit (item : String) (quantity : ℤ) (asked : StockRole)
    (units : List StockUnit) :
    unitsCost cost role (mergeUnit item quantity asked units) =
      unitsCost cost role units + if asked = role then cost item * quantity else 0 := by
  induction units with
  | nil =>
    rw [mergeUnit, unitsCost_cons, add_comm]
  | cons unit units ih =>
    rw [mergeUnit]
    split
    · -- the unit of this item and role grows
      rename_i h
      rw [unitsCost_cons, unitsCost_cons, ← h.1, ← h.2]
      split
      · push_cast
        ring
      · rw [add_zero]
    · rw [unitsCost_cons, unitsCost_cons, ih, add_assoc]

theorem unitsCost_foldl {α : Type} {inventoryItem : α → Option String} {quantity : α → ℤ}
    {price : α → Decimal} {xs : List α} (hpos : ∀ x ∈ xs, 0 < quantity x)
    (hitem : ∀ x ∈ xs, ItemCosts cost (inventoryItem x) (price x)) (asked : StockRole)
    (units : List StockUnit) :
    unitsCost cost role
        (xs.foldl (fun units x => addUnit units (inventoryItem x) (quantity x) asked) units) =
      unitsCost cost role units +
        if asked = role then (xs.map fun x => price x * (quantity x : ℚ)).sum else 0 := by
  induction xs generalizing units with
  | nil => simp
  | cons x xs ih =>
    rw [List.forall_mem_cons] at hpos hitem
    obtain ⟨item, hsome, hcost⟩ := hitem.1
    rw [List.foldl_cons, ih hpos.2 hitem.2, hsome, addUnit, if_neg (not_le.2 hpos.1),
      unitsCost_mergeUnit, hcost, List.map_cons, List.sum_cons, add_assoc]
    split
    · rfl
    · rw [add_zero]

theorem unitsCost_addPhysical {physical : PhysicalVariant} (h : physical.PricedBy cost)
    {quantity : ℤ} (hpos : 0 < quantity) (asked : StockRole) (units : List StockUnit) :
    unitsCost cost role (addPhysical units physical quantity asked) =
      unitsCost cost role units +
        if asked = role then physical.costPrice * (quantity : ℚ) else 0 := by
  rw [PhysicalVariant.PricedBy] at h
  rw [addPhysical]
  cases hkind : physical.kind with
  | standard =>
    rw [hkind] at h
    obtain ⟨item, hsome, hcost⟩ := h
    dsimp only
    rw [hsome, addUnit, if_neg (not_le.2 hpos), unitsCost_mergeUnit, hcost]
  | bundle =>
    rw [hkind] at h
    obtain ⟨hitems, hprice⟩ := h
    have hquantities : ∀ c ∈ physical.bundleComponents, 0 < c.quantity * quantity :=
      fun c _ => mul_pos c.quantity_pos hpos
    have hscaled : (physical.bundleComponents.map fun c =>
        c.componentVariant.costPrice * ((c.quantity * quantity : ℤ) : ℚ)).sum =
          physical.costPrice * (quantity : ℚ) := by
      rw [hprice, ← List.sum_map_mul_right]
      refine congrArg List.sum (List.map_congr_left fun c _ => ?_)
      push_cast
      ring
    dsimp only
    rw [unitsCost_foldl hquantities hitems, hscaled]

end Units

/-- **The cost of a line is the cost of its units**, role by role. -/
theorem costsConsumed (line : OrderLine) (packagingUnitCosts : List (String × Decimal))
    (cost : String → Decimal)
    (h : ∀ variant ∈ line.warehouseVariant, PricedBy cost packagingUnitCosts variant) :
    orderLineCosts line packagingUnitCosts =
      { productCost := unitsCost cost .product (expandOrderLine line)
        giftCost := unitsCost cost .gift (expandOrderLine line)
        packagingCost := unitsCost cost .packaging (expandOrderLine line) } := by
  rw [orderLineCosts, expandOrderLine]
  cases hvariant : line.warehouseVariant with
  | none => rfl
  | some variant =>
    obtain ⟨hproduct, hgift, hpackaging⟩ := h variant hvariant
    have hpos := line.quantity_pos
    have hrules : ∀ requirement ∈ packagingFor variant.id variant.packagingRequirements,
        requirement ∈ variant.packagingRequirements := by
      intro requirement hmem
      rcases List.mem_append.1 hmem with hmem | hmem
      · exact List.mem_of_mem_filter hmem
      · exact List.mem_of_mem_filter hmem
    have hquantities : ∀ requirement ∈ packagingFor variant.id variant.packagingRequirements,
        0 < requirement.quantityPerUnit * line.quantity :=
      fun requirement _ => mul_pos requirement.quantityPerUnit_pos hpos
    have hitems : ∀ requirement ∈ packagingFor variant.id variant.packagingRequirements,
        ItemCosts cost requirement.inventoryItem
          (unitCostOf packagingUnitCosts requirement.packagingMaterialId) :=
      fun requirement hmem => hpackaging requirement (hrules requirement hmem)
    dsimp only
    rw [if_neg (not_le.2 hpos), if_neg (not_le.2 hpos)]
    have hempty : ∀ role, unitsCost cost role [] = 0 := fun _ => rfl
    have hsum : ∀ requirements : List PackagingRequirement, ∀ start : Decimal,
        requirements.foldl (fun sum requirement =>
          sum + unitCostOf packagingUnitCosts requirement.packagingMaterialId *
            (requirement.quantityPerUnit * line.quantity : ℤ)) start =
          start + (requirements.map fun requirement =>
            unitCostOf packagingUnitCosts requirement.packagingMaterialId *
              ((requirement.quantityPerUnit * line.quantity : ℤ) : ℚ)).sum := by
      intro requirements
      induction requirements with
      | nil => simp
      | cons requirement requirements ih =>
        intro start
        rw [List.foldl_cons, ih, List.map_cons, List.sum_cons, add_assoc]
    cases hsome : variant.gift with
    | none =>
      dsimp only
      simp only [unitsCost_foldl hquantities hitems, unitsCost_addPhysical hproduct hpos,
        hempty, hsum]
      simp
    | some gift =>
      have hgifts := mul_pos gift.quantity_pos hpos
      dsimp only
      simp only [unitsCost_foldl hquantities hitems, unitsCost_addPhysical hproduct hpos,
        unitsCost_addPhysical (hgift gift hsome) hgifts, hempty, hsum]
      simp

def boxItem (item : String) : Decimal :=
  if item = "soap" then 10 else if item = "towel" then 25 else if item = "carton" then 3 else 0

/-- A pack of two soaps and a towel, with a soap as its gift, in the carton of its variant. -/
def giftPack : WarehouseVariant where
  id := "pack"
  storeId := "s"
  costPrice := 45
  inventoryItem := some "pack"
  kind := .bundle
  bundleComponents :=
    [⟨2, pair_pos, { id := "c1", storeId := "s", costPrice := 10, inventoryItem := some "soap" }⟩,
      ⟨1, Int.one_pos,
        { id := "c2", storeId := "s", costPrice := 25, inventoryItem := some "towel" }⟩]
  gift := some ⟨1, Int.one_pos,
    { id := "c1", storeId := "s", costPrice := 10, inventoryItem := some "soap" }⟩
  packagingRequirements := [⟨some "pack", 1, Int.one_pos, "m", some "carton"⟩]

def packLine : OrderLine where
  id := "l"
  quantity := 3
  quantity_pos := triple_pos
  warehouseVariant := some giftPack

theorem costsConsumed_giftPack :
    orderLineCosts packLine [("m", 3)] =
      { productCost := unitsCost boxItem .product (expandOrderLine packLine)
        giftCost := unitsCost boxItem .gift (expandOrderLine packLine)
        packagingCost := unitsCost boxItem .packaging (expandOrderLine packLine) } :=
  costsConsumed _ _ boxItem fun variant hvariant => by
    obtain rfl := Option.some.inj hvariant
    refine ⟨⟨fun c hc => ?_, by decide +kernel⟩, fun gift hgift => ?_, fun requirement hmem => ?_⟩
    · rcases List.mem_cons.1 hc with rfl | hc
      · exact ⟨"soap", rfl, by decide +kernel⟩
      · obtain rfl := List.mem_singleton.1 hc
        exact ⟨"towel", rfl, by decide +kernel⟩
    · obtain rfl := Option.some.inj hgift
      exact ⟨"soap", rfl, by decide +kernel⟩
    · obtain rfl := List.mem_singleton.1 hmem
      exact ⟨"carton", rfl, by decide +kernel⟩

end Zomaal
