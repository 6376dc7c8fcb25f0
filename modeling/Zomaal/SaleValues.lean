/-
**What the components of a pack sold for.**

The price of a pack's line is shared out among its components by what they cost, or by their number
when nothing has a cost, and each share is rounded to four decimals by itself.

Main results:

* `sum_saleShare` — **the exact shares of all pieces are the price**;
* `packSaleValues` — **when the saved amounts are the price**.
-/

import Mathlib.Algebra.BigOperators.Ring.Finset
import Zomaal.ReturnRequests
import Zomaal.SavedAllocations

set_option autoImplicit false

namespace Zomaal

open Command

/-! ### Rounding amounts one by one -/

def roundsUp (units : ℚ) : Bool :=
  if 0 ≤ units then decide (1 / 2 ≤ Int.fract units) else decide (1 / 2 < Int.fract units)

theorem toFixed4_units (units : ℚ) :
    toFixed4 (units / 10000) = (⌊units⌋ + if roundsUp units then 1 else 0 : ℤ) / 10000 := by
  have hfloor := Int.floor_add_fract units
  have habove := Int.fract_nonneg units
  have hbelow := Int.fract_lt_one units
  have hscale : units / 10000 * 10000 = units := div_mul_cancel₀ _ (by norm_num)
  rw [toFixed4, hscale, roundsUp]
  by_cases hsign : 0 ≤ units
  · rw [if_pos (by positivity), if_pos hsign]
    have hround : ⌊units + 1 / 2⌋ =
        ⌊units⌋ + if decide (1 / 2 ≤ Int.fract units) = true then 1 else 0 := by
      rw [Int.floor_eq_iff]
      by_cases hup : 1 / 2 ≤ Int.fract units
      · rw [if_pos (decide_eq_true hup)]
        push_cast
        constructor <;> linarith
      · rw [if_neg (by rwa [decide_eq_true_eq])]
        push_cast
        constructor <;> linarith
    rw [hround]
  · rw [if_neg (fun h => hsign (by linarith)), if_neg hsign]
    have hround : ⌈units - 1 / 2⌉ =
        ⌊units⌋ + if decide (1 / 2 < Int.fract units) = true then 1 else 0 := by
      rw [Int.ceil_eq_iff]
      by_cases hup : 1 / 2 < Int.fract units
      · rw [if_pos (decide_eq_true hup)]
        push_cast
        constructor <;> linarith
      · rw [if_neg (by rwa [decide_eq_true_eq])]
        push_cast
        constructor <;> linarith
    rw [hround]

theorem sum_toFixed4_eq (shares : List ℚ) :
    (shares.map fun units => toFixed4 (units / 10000)).sum =
      (shares.sum - (shares.map Int.fract).sum + shares.countP roundsUp) / 10000 := by
  induction shares with
  | nil => simp
  | cons units shares ih =>
    have hfloor := Int.floor_add_fract units
    rw [List.map_cons, List.sum_cons, ih, toFixed4_units, List.map_cons, List.sum_cons,
      List.sum_cons, List.countP_cons]
    push_cast
    split <;> linarith

/-- **What is rounded up is no more than what is cut off**, and the price of the pieces that are not
recorded; when all are, it is exactly that. -/
def RoundingFits (price : Decimal) (completed : Bool) (shares : List ℚ) : Prop :=
  if completed then (shares.countP roundsUp : ℚ) = (shares.map Int.fract).sum
  else (shares.countP roundsUp : ℚ) ≤ (shares.map Int.fract).sum + (price * 10000 - shares.sum)

/-- Amounts that are the price when all pieces are recorded, and no more than that otherwise. -/
def SaleValuesFit (price : Decimal) (completed : Bool) (saleValues : List Decimal) : Prop :=
  if completed then saleValues.sum = price else saleValues.sum ≤ price

theorem saleValuesFit_iff {price : Decimal} {completed : Bool} {shares : List ℚ}
    (hcompleted : completed = true → shares.sum = price * 10000) :
    SaleValuesFit price completed (shares.map fun units => toFixed4 (units / 10000)) ↔
      RoundingFits price completed shares := by
  rw [SaleValuesFit, RoundingFits, sum_toFixed4_eq]
  cases completed with
  | true =>
    rw [if_pos rfl, if_pos rfl, hcompleted rfl]
    constructor <;> intro h <;> linarith
  | false =>
    rw [if_neg Bool.false_ne_true, if_neg Bool.false_ne_true]
    constructor <;> intro h <;> linarith

/-! ### The shares of a pack -/

section Pack

variable (costRate : Decimal) (line : OrderLine)

def packCost : ℚ :=
  (line.components.map fun c =>
    c.componentVariant.costPrice * costRate * (c.quantity * line.quantity : ℤ)).sum

variable (component : BundleComponent)

/-- What the share of a piece is taken by: its cost, or nothing but its number. -/
def packWeight : ℚ :=
  if 0 < packCost costRate line then component.componentVariant.costPrice * costRate else 1

def packTotal : ℚ :=
  (line.components.map fun c =>
    packWeight costRate line c * (c.quantity * line.quantity : ℤ)).sum

/-- **The exact share of some pieces of a component**, in units of 0.0001. -/
def saleShare (quantity : ℤ) : ℚ :=
  line.totalPrice * packWeight costRate line component * quantity / packTotal costRate line * 10000

def rowQuantity (row : ConditionInput) : Option ℤ :=
  (row.quantity.getD (.finite line.quantity)).safeInteger

def rowShare (row : ConditionInput) : ℚ :=
  match rowComponent line true row, rowQuantity line row with
  | some component, some quantity => saleShare costRate line component quantity
  | _, _ => 0

def rowsComplete (rows : List ConditionInput) : Bool :=
  line.components.all fun c =>
    decide (((rows.filter fun row => row.componentVariantId = some c.componentVariant.id).map
      fun row => (rowQuantity line row).getD 0).sum = c.quantity * line.quantity)

variable {costRate line}

theorem packTotal_pos (hcomponents : line.components ≠ []) : 0 < packTotal costRate line := by
  by_cases hcost : 0 < packCost costRate line
  · have hsame : packTotal costRate line = packCost costRate line := by
      rw [packTotal, packCost]
      refine congrArg List.sum (List.map_congr_left fun c _ => ?_)
      rw [packWeight, if_pos hcost]
    rwa [hsame]
  · have hpieces : packTotal costRate line =
        (line.components.map fun c => ((c.quantity * line.quantity : ℤ) : ℚ)).sum := by
      rw [packTotal]
      refine congrArg List.sum (List.map_congr_left fun c _ => ?_)
      rw [packWeight, if_neg hcost, one_mul]
    rw [hpieces]
    refine List.sum_pos _ (fun n hn => ?_) (by simpa using hcomponents)
    obtain ⟨c, -, rfl⟩ := List.mem_map.1 hn
    exact_mod_cast mul_pos c.quantity_pos line.quantity_pos

theorem saleValue_eq (quantity : ℤ) :
    saleValue costRate line (some component) (component.componentVariant.costPrice * costRate)
      quantity = toFixed4 (saleShare costRate line component quantity / 10000) := by
  have hscale : saleShare costRate line component quantity / 10000 =
      line.totalPrice * packWeight costRate line component * quantity / packTotal costRate line :=
    mul_div_cancel_right₀ _ (by norm_num)
  rw [hscale, saleValue, ← packCost.eq_def]
  by_cases hcost : 0 < packCost costRate line
  · have htotal : packTotal costRate line = packCost costRate line := by
      rw [packTotal, packCost]
      refine congrArg List.sum (List.map_congr_left fun c _ => ?_)
      rw [packWeight, if_pos hcost]
    rw [if_pos hcost, htotal, packWeight, if_pos hcost]
  · have htotal : packTotal costRate line = line.pieces := by
      rw [packTotal, OrderLine.pieces, Int.cast_list_sum, List.map_map]
      refine congrArg List.sum (List.map_congr_left fun c _ => ?_)
      rw [packWeight, if_neg hcost, one_mul]
      rfl
    rw [if_neg hcost, htotal, packWeight, if_neg hcost, mul_one]

theorem readRow_component {row : ConditionInput} {entry : StoredConditionEntry}
    (h : readRow costRate line true row = .ok entry) :
    ∃ component ∈ line.components, rowComponent line true row = some component ∧
      row.componentVariantId = some component.componentVariant.id ∧
      entry.key = component.componentVariant.id ∧ rowQuantity line row = some entry.quantity ∧
      entry.saleValue = toFixed4 (saleShare costRate line component entry.quantity / 10000) := by
  obtain ⟨hfound, condition, quantity, -, -, hquantity, rfl⟩ := readRow_ok h
  cases hcomponent : rowComponent line true row with
  | none => exact absurd ⟨rfl, by rw [hcomponent]; rfl⟩ hfound
  | some component =>
    have hfind := hcomponent
    rw [rowComponent, if_pos rfl] at hfind
    have hid : some component.componentVariant.id = row.componentVariantId := by
      simpa using List.find?_some hfind
    exact ⟨component, List.mem_of_find?_eq_some hfind, rfl, hid.symm, rfl, hquantity,
      saleValue_eq component quantity⟩

variable {rows : List ConditionInput} {entries : List StoredConditionEntry}

theorem Reads.saleValues (h : Reads costRate line true rows entries) :
    entries.map StoredConditionEntry.saleValue =
      (rows.map (rowShare costRate line)).map fun units => toFixed4 (units / 10000) := by
  induction h with
  | nil => rfl
  | cons hread _ ih =>
    obtain ⟨component, -, hcomponent, -, -, hquantity, hvalue⟩ := readRow_component hread
    rw [List.map_cons, List.map_cons, List.map_cons, ih, hvalue, rowShare, hcomponent, hquantity]

theorem Reads.keyTotal (h : Reads costRate line true rows entries) (key : String) :
    keyTotal key entries = ((rows.filter fun row => row.componentVariantId = some key).map
      fun row => (rowQuantity line row).getD 0).sum := by
  induction h with
  | nil => rfl
  | @cons row entry rows entries hread _ ih =>
    obtain ⟨component, -, -, hid, hkey, hquantity, -⟩ := readRow_component hread
    rw [Zomaal.keyTotal, Ledger.total_cons, ← Zomaal.keyTotal, ih, hkey]
    by_cases hsame : component.componentVariant.id = key
    · rw [if_pos (decide_eq_true hsame), List.filter_cons_of_pos (by rw [hid, hsame]; simp),
        List.map_cons, List.sum_cons, hquantity, Option.getD_some]
    · rw [if_neg (by rwa [decide_eq_true_eq]), zero_add,
        List.filter_cons_of_neg (by rw [hid]; simpa using hsame)]

theorem Reads.weights (h : Reads costRate line true rows entries)
    (hunique : (line.components.map fun c => c.componentVariant.id).Nodup) :
    (rows.map (rowShare costRate line)).sum = line.totalPrice * 10000 / packTotal costRate line *
      (line.components.map fun c =>
        packWeight costRate line c * Zomaal.keyTotal c.componentVariant.id entries).sum := by
  have hcomponents : line.components.Nodup := hunique.of_map _
  induction h with
  | nil => simp [Zomaal.keyTotal]
  | @cons row entry rows entries hread _ ih =>
    obtain ⟨component, hmem, hcomponent, -, hkey, hquantity, -⟩ := readRow_component hread
    have hshare : rowShare costRate line row =
        line.totalPrice * 10000 / packTotal costRate line *
          (packWeight costRate line component * entry.quantity) := by
      rw [rowShare, hcomponent, hquantity]
      dsimp only
      rw [saleShare]
      ring
    -- the entry counts for its own component only
    have hsplit : (line.components.map fun c =>
        packWeight costRate line c *
          (Zomaal.keyTotal c.componentVariant.id (entry :: entries) : ℚ)) =
        line.components.map fun c =>
          (if component = c then packWeight costRate line component * entry.quantity else 0) +
            packWeight costRate line c * Zomaal.keyTotal c.componentVariant.id entries := by
      refine List.map_congr_left fun c hc => ?_
      rw [Zomaal.keyTotal, Ledger.total_cons, ← Zomaal.keyTotal, hkey]
      by_cases hsame : component = c
      · rw [if_pos hsame, hsame, if_pos (decide_eq_true rfl)]
        push_cast
        ring
      · have hid : component.componentVariant.id ≠ c.componentVariant.id := fun heq =>
          hsame (List.inj_on_of_nodup_map hunique hmem hc heq)
        rw [if_neg hsame, if_neg (by rwa [decide_eq_true_eq]), zero_add, zero_add]
    rw [List.map_cons, List.sum_cons, ih, hshare, hsplit, List.sum_map_add,
      Ledger.sum_map_single hcomponents hmem, mul_add]

/-- **The exact shares of all pieces are the price.** -/
theorem sum_saleShare (h : Reads costRate line true rows entries)
    (hunique : (line.components.map fun c => c.componentVariant.id).Nodup)
    (hcomponents : line.components ≠ []) (hcomplete : rowsComplete line rows = true) :
    (rows.map (rowShare costRate line)).sum = line.totalPrice * 10000 := by
  have hpieces : ∀ c ∈ line.components,
      Zomaal.keyTotal c.componentVariant.id entries = c.quantity * line.quantity := by
    intro c hc
    rw [h.keyTotal]
    exact of_decide_eq_true (List.all_eq_true.1 hcomplete c hc)
  have htotal : (line.components.map fun c =>
      packWeight costRate line c * Zomaal.keyTotal c.componentVariant.id entries).sum =
        packTotal costRate line := by
    rw [packTotal]
    exact congrArg List.sum (List.map_congr_left fun c hc => by rw [hpieces c hc])
  rw [h.weights hunique, htotal, div_mul_cancel₀ _ (packTotal_pos hcomponents).ne']

end Pack

/-! ### What is saved for a pack -/

section Saved

variable {locale : Locale} {costRate : Decimal} {storeId : String} {line : OrderLine}
  {rows : List ConditionInput}

def requestedEntries (locale : Locale) (costRate : Decimal) (line : OrderLine)
    (rows : List ConditionInput) : List StoredConditionEntry :=
  (rows.filterMap fun row =>
    (readRow costRate line (inComponentMode rows) row).toOption).mergeSort
      (keyLE locale.localeCompare entrySortKey)

def savedBefore (locale : Locale) (costRate : Decimal) (line : OrderLine)
    (rows : List ConditionInput) : Option ConditionSnapshot :=
  line.conditionAllocations.filter fun previous =>
    previous.entries.map requestFields =
      (requestedEntries locale costRate line rows).map requestFields

theorem Reads.filterMap {componentMode : Bool} {entries : List StoredConditionEntry}
    (h : Reads costRate line componentMode rows entries) :
    (rows.filterMap fun row => (readRow costRate line componentMode row).toOption) = entries := by
  induction h with
  | nil => rfl
  | cons hread _ ih => rw [List.filterMap_cons_some (by rw [hread]; rfl), ih]

theorem prepareLine_saleValues {prepared : PreparedLine}
    (h : prepareLine locale costRate storeId line rows = .ok prepared) :
    refuseRows storeId line rows = false ∧ ∃ entries,
      Reads costRate line (inComponentMode rows) rows entries ∧
      match savedBefore locale costRate line rows with
      | some previous => prepared.snapshot = previous
      | none => (prepared.snapshot.entries).Perm entries := by
  obtain ⟨hrefuse, allocation, hfold, hconclude⟩ := prepareLine_eq_ok.1 h
  obtain ⟨hreads, -, -⟩ := foldlM_allocate_ok hfold
  have hsaved : savedBefore locale costRate line rows = repeated locale line allocation := by
    rw [savedBefore, requestedEntries, hreads.filterMap]
    rfl
  refine ⟨hrefuse, allocation.entries, hreads, ?_⟩
  rw [hsaved]
  rcases concludeLine_eq_ok.1 hconclude with ⟨previous, hprevious, rfl⟩ | ⟨hnone, -, -, rfl⟩
  · rw [hprevious]
  · rw [hnone]
    exact List.mergeSort_perm _ _

/-- **When the saved amounts fit the price of the line.**  A new allocation must round up as much as
it cuts off; an allocation that is asked for once more keeps the amounts that it has. -/
def SavedFit (locale : Locale) (costRate : Decimal) (line : OrderLine)
    (rows : List ConditionInput) : Prop :=
  match savedBefore locale costRate line rows with
  | some previous =>
    SaleValuesFit line.totalPrice (rowsComplete line rows)
      (previous.entries.map StoredConditionEntry.saleValue)
  | none =>
    RoundingFits line.totalPrice (rowsComplete line rows) (rows.map (rowShare costRate line))

theorem prepareLine_saleFit {prepared : PreparedLine}
    (h : prepareLine locale costRate storeId line rows = .ok prepared)
    (hmode : inComponentMode rows = true)
    (hunique : (line.components.map fun c => c.componentVariant.id).Nodup) :
    SaleValuesFit line.totalPrice (rowsComplete line rows)
        (prepared.snapshot.entries.map StoredConditionEntry.saleValue) ↔
      SavedFit locale costRate line rows := by
  obtain ⟨hrefuse, entries, hreads, hsaved⟩ := prepareLine_saleValues h
  rw [hmode] at hreads
  rw [SavedFit]
  cases hbefore : savedBefore locale costRate line rows with
  | some previous =>
    rw [hbefore] at hsaved
    rw [hsaved]
  | none =>
    rw [hbefore] at hsaved
    -- rows about components are refused for a line without any
    have hcomponents : line.components ≠ [] := by
      rintro hnil
      rw [refuseRows, hmode, hnil] at hrefuse
      simp at hrefuse
    have hsum : (prepared.snapshot.entries.map StoredConditionEntry.saleValue).sum =
        ((rows.map (rowShare costRate line)).map fun units => toFixed4 (units / 10000)).sum := by
      rw [(hsaved.map _).sum_eq, hreads.saleValues]
    rw [SaleValuesFit, hsum, ← SaleValuesFit]
    exact saleValuesFit_iff fun hcomplete => sum_saleShare hreads hunique hcomponents hcomplete

end Saved

def shirtPack : OrderLine where
  id := "line"
  quantity := 1
  quantity_pos := Int.one_pos
  totalPrice := 200
  warehouseVariant := some
    { id := "pack", storeId := "store", inventoryItem := none, kind := .bundle
      bundleComponents :=
        [{ quantity := 3, quantity_pos := triple_pos
           componentVariant := { id := "shirt", storeId := "store", inventoryItem := none } }] }

def shirtOrder : EcommerceOrder := { id := "order", storeId := "store", lines := [shirtPack] }

def shirtStore : Store := { orders := [shirtOrder] }

def shirtRows : List ConditionInput :=
  ["DAMAGED", "GOOD", "LOST"].map fun condition =>
    { orderLineId := "line", componentVariantId := some "shirt", quantity := some (.finite 1)
      condition }

def shirtEntries : List StoredConditionEntry :=
  [ProductCondition.damaged, .good, .lost].map fun condition =>
    { componentVariantId := some "shirt", quantity := 1, condition, damageCost := none
      unitCost := 0, saleValue := 666667 / 10000, physicalQuantity := 1, units := [] }

def shirtSnapshot : ConditionSnapshot :=
  { completed := true, expectedQuantity := 3, loss := 0, entries := shirtEntries }

def shirtsPrepared : PreparedLine where
  line := shirtPack
  snapshot := shirtSnapshot
  unchanged := false
  notes := none

theorem shirts_read : Reads 1 shirtPack true shirtRows shirtEntries := by
  refine .cons ?_ (.cons ?_ (.cons ?_ .nil)) <;> decide +kernel

theorem shirts_counts : Counts shirtPack true shirtEntries := by
  constructor <;> decide +kernel

theorem shirts_prepared :
    prepareLine noRates.locale 1 "store" shirtPack shirtRows = .ok shirtsPrepared := by
  obtain ⟨allocation, hfold, hentries, hcounted⟩ := foldlM_allocate_of shirts_read shirts_counts
  -- the entries are sorted already
  have hsorted : sortedEntries noRates.locale allocation = shirtEntries := by
    rw [sortedEntries, hentries]
    exact List.mergeSort_of_pairwise (by decide +kernel)
  have hcompleted : allocationCompleted shirtPack true allocation = true := by
    rw [allocationCompleted_iff hcounted, if_pos rfl, hentries]
    decide +kernel
  have hsnapshot : newSnapshot noRates.locale shirtPack (inComponentMode shirtRows) allocation =
      shirtSnapshot := by
    rw [newSnapshot, hsorted, show inComponentMode shirtRows = true from rfl, hcompleted]
    decide +kernel
  refine prepareLine_eq_ok.2 ⟨by decide +kernel, allocation, hfold, ?_⟩
  refine concludeLine_eq_ok.2 (.inr ⟨rfl, rfl, ?_, ?_⟩)
  · rw [hsorted]
    decide +kernel
  · rw [hsnapshot]
    rfl

theorem shirts_recorded :
    ∃ updates t, record noRates 0 "store" "order" shirtRows none shirtStore = (.ok updates, t) := by
  have hprepare : prepareRecord noRates.locale 1 "store" shirtOrder shirtRows =
      .ok [shirtsPrepared] :=
    prepareRecord_eq_ok.2 ⟨by decide, .cons shirts_prepared .nil⟩
  have hlocked : ∃ updates t,
      recordLocked noRates 0 1 "store" "order" shirtRows none shirtStore = (.ok updates, t) := by
    rw [recordLocked, ask_bind_apply]
    change ∃ updates t, (Command.lift (prepareRecord noRates.locale 1 "store" shirtOrder shirtRows)
      >>= _ : Service _) shirtStore = (.ok updates, t)
    rw [hprepare]
    refine ⟨[("line", false)], _, Prod.ext ?_ rfl⟩
    decide +kernel
  obtain ⟨updates, t, h⟩ := hlocked
  exact ⟨updates, t, transaction_of_ok h⟩

end Zomaal
