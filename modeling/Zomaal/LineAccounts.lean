/-
**What a line's turn does to the accounts.**

Reserving adds the *first* unit of an item to what is reserved; delivering takes what is reserved
back and deducts the first unit that is not packaging and the first that is, because the movements
of a line are keyed by the line and not by the role of the unit.

Main results:

* `reserveLine_exact`, `deliverLine_exact` — **what a line's turn does to every account**;
* `shipped_eq_unitsTotal_iff` — all that ships is deducted exactly when no item clashes.
-/

import Zomaal.Reservations

set_option autoImplicit false

namespace Zomaal

/-! ### What a delivery deducts -/

def shippedUnits (units : List StockUnit) : List StockUnit :=
  units.filter fun unit => unit.role ≠ .packaging

def packedUnits (units : List StockUnit) : List StockUnit :=
  units.filter fun unit => unit.role = .packaging

/-- What a delivery of the units deducts of an item, packaging aside. -/
def shipped (units : List StockUnit) (item : String) : ℤ := firstQuantity (shippedUnits units) item

def packed (units : List StockUnit) (item : String) : ℤ := firstQuantity (packedUnits units) item

def shippedItems (units : List StockUnit) : List String :=
  (shippedUnits units).map StockUnit.inventoryItemId

def packedItems (units : List StockUnit) : List String :=
  (packedUnits units).map StockUnit.inventoryItemId

section Units

variable (units : List StockUnit) (unit : StockUnit) (item : String)

variable {units item}

theorem shipped_eq_zero (h : item ∉ shippedItems units) : shipped units item = 0 :=
  firstQuantity_eq_zero fun u hu heq => h (List.mem_map.2 ⟨u, hu, heq⟩)

theorem packed_eq_zero (h : item ∉ packedItems units) : packed units item = 0 :=
  firstQuantity_eq_zero fun u hu heq => h (List.mem_map.2 ⟨u, hu, heq⟩)

variable (units item)

theorem shipped_concat : shipped (units ++ [unit]) item = shipped units item +
    if unit.role ≠ .packaging ∧ unit.inventoryItemId = item ∧ item ∉ shippedItems units
    then unit.quantity else 0 := by
  have hzero : item ∉ shippedItems units → shipped units item = 0 := shipped_eq_zero
  rw [shipped, shippedUnits, List.filter_append]
  by_cases hrole : unit.role = .packaging
  · rw [List.filter_cons_of_neg (by simpa using hrole), List.filter_nil, List.append_nil,
      if_neg fun hand => hand.1 hrole, add_zero]
    rfl
  · rw [List.filter_cons_of_pos (by simpa using hrole), List.filter_nil, firstQuantity_concat]
    change (if item ∈ shippedItems units then shipped units item else _) = _
    by_cases hmem : item ∈ shippedItems units
    · simp [hmem]
    · simp [hmem, hrole, hzero hmem]

theorem packed_concat : packed (units ++ [unit]) item = packed units item +
    if unit.role = .packaging ∧ unit.inventoryItemId = item ∧ item ∉ packedItems units
    then unit.quantity else 0 := by
  have hzero : item ∉ packedItems units → packed units item = 0 := packed_eq_zero
  rw [packed, packedUnits, List.filter_append]
  by_cases hrole : unit.role = .packaging
  · rw [List.filter_cons_of_pos (by simpa using hrole), List.filter_nil, firstQuantity_concat]
    change (if item ∈ packedItems units then packed units item else _) = _
    by_cases hmem : item ∈ packedItems units
    · simp [hmem]
    · simp [hmem, hrole, hzero hmem]
  · rw [List.filter_cons_of_neg (by simpa using hrole), List.filter_nil, List.append_nil,
      if_neg fun hand => hrole hand.1, add_zero]
    rfl

theorem mem_shippedItems_concat : item ∈ shippedItems (units ++ [unit]) ↔
    item ∈ shippedItems units ∨ (unit.role ≠ .packaging ∧ unit.inventoryItemId = item) := by
  by_cases hrole : unit.role = .packaging <;>
    simp [shippedItems, shippedUnits, hrole, @eq_comm _ item unit.inventoryItemId]

theorem mem_packedItems_concat : item ∈ packedItems (units ++ [unit]) ↔
    item ∈ packedItems units ∨ (unit.role = .packaging ∧ unit.inventoryItemId = item) := by
  by_cases hrole : unit.role = .packaging <;>
    simp [packedItems, packedUnits, hrole, @eq_comm _ item unit.inventoryItemId]

end Units

/-! ### Accounts -/

variable (balance : BalanceQuantities)

def BalanceQuantities.less (onHand reserved : ℤ) : BalanceQuantities :=
  { balance with onHand := balance.onHand - onHand, reserved := balance.reserved - reserved }

structure Untouched (line : OrderLine) (s : Store) : Prop where
  deliver : ∀ item, s.findMovement item ("order-deliver:" ++ line.id) = none
  settle : ∀ item, s.findMovement item ("order-deliver-release:" ++ line.id) = none
  packaging : ∀ item, s.findMovement item ("order-packaging:" ++ line.id) = none

/-- **The accounts in the middle of a delivery** that began in `s` and has gone through the units
`done`. -/
structure Delivering (line : OrderLine) (s : Store) (done : List StockUnit) (t : Store) : Prop where
  sameBut : s.SameBut t
  valid : ∀ item, ValidBalance (t.balanceOf item)
  balanceOf : ∀ item, t.balanceOf item = (s.balanceOf item).less
    (shipped done item + packed done item)
    (if item ∈ shippedItems done then s.netReserved line.id item else 0)
  netReserved : ∀ item, t.netReserved line.id item =
    if item ∈ shippedItems done then 0 else s.netReserved line.id item
  deliver : ∀ item, t.findMovement item ("order-deliver:" ++ line.id) = none ↔
    item ∉ shippedItems done
  settle : ∀ item, item ∉ shippedItems done →
    t.findMovement item ("order-deliver-release:" ++ line.id) = none
  packaging : ∀ item, t.findMovement item ("order-packaging:" ++ line.id) = none ↔
    item ∉ packedItems done

theorem Delivering.start {line : OrderLine} {s : Store} (h : Untouched line s)
    (hvalid : ∀ item, ValidBalance (s.balanceOf item)) : Delivering line s [] s where
  sameBut := Store.SameBut.refl s
  valid := hvalid
  balanceOf item := by simp [shipped, packed, shippedItems, shippedUnits, packedUnits,
    firstQuantity, BalanceQuantities.less]
  netReserved item := by simp [shippedItems, shippedUnits]
  deliver item := by simp [h.deliver item, shippedItems, shippedUnits]
  settle item _ := h.settle item
  packaging item := by simp [h.packaging item, packedItems, packedUnits]

variable {item : String} {input : MoveInput} {q : ℤ}

theorem Store.Moved.balanceOf_onHand {s t : Store} (h : s.Moved t item input (-q))
    (hbucket : input.bucket = .onHand) (other : String) :
    t.balanceOf other =
      (s.balanceOf other).less (if other = item then q else 0) 0 := by
  rw [h.balanceOf, hbucket]
  split
  · rename_i hother
    rw [hother]
    simp [setBucketField, bucketField, BalanceQuantities.less, sub_eq_add_neg]
  · simp [BalanceQuantities.less]

theorem Store.Moved.balanceOf_reserved {s t : Store} (h : s.Moved t item input (-q))
    (hbucket : input.bucket = .reserved) (other : String) :
    t.balanceOf other =
      (s.balanceOf other).less 0 (if other = item then q else 0) := by
  rw [h.balanceOf, hbucket]
  split
  · rename_i hother
    rw [hother]
    simp [setBucketField, bucketField, BalanceQuantities.less, sub_eq_add_neg]
  · simp [BalanceQuantities.less]

theorem Store.Moved.valid {s t : Store} {applied : ℤ} (h : s.Moved t item input applied)
    (hvalid : ∀ i, ValidBalance (s.balanceOf i)) (i : String) : ValidBalance (t.balanceOf i) := by
  rw [h.balanceOf]
  split
  · have hclamped := h.clamped
    subst hclamped
    exact (hvalid item).clamped input.bucket input.delta h.fits
  · exact hvalid i

theorem deduct_exact {s : Store} (hvalid : ∀ i, ValidBalance (s.balanceOf i))
    (hbucket : input.bucket = .onHand) (hdelta : input.delta = -q) (hpos : 0 < q)
    (havail : q ≤ availableQuantity (s.balanceOf item))
    (hfresh : s.findMovement item input.idempotencyKey = none) :
    ∃ t, move item input s = (.ok (-q), t) ∧ s.Moved t item input (-q) := by
  have hclamp : clampDelta (s.balanceOf item) input.bucket input.delta = input.delta := by
    refine clampDelta_eq_self (fun hup => by omega) (fun _ _ => by omega) fun _ hne => ?_
    exact absurd hbucket hne
  obtain ⟨t, hmove, hm⟩ := move_of_covered (hvalid item) hfresh hclamp (by omega)
    (Or.inl (by omega))
  rw [hdelta] at hmove hm
  exact ⟨t, hmove, hm⟩

/-- The reservation of an item for a line is gone, and nothing else has changed. -/
structure TakenBack (settlement : Settlement) (lineId item : String) (s t : Store) : Prop where
  sameBut : s.SameBut t
  valid : ∀ i, ValidBalance (t.balanceOf i)
  balanceOf : ∀ i, t.balanceOf i =
    (s.balanceOf i).less 0 (if i = item then s.netReserved lineId item else 0)
  netReserved : ∀ i, t.netReserved lineId i = if i = item then 0 else s.netReserved lineId i
  unused : ∀ i key, i ≠ item ∨ key ≠ settlement.key ++ lineId →
    (t.findMovement i key = none ↔ s.findMovement i key = none)

theorem settleReserved_exact {settlement : Settlement} {lineId : String} {s : Store}
    (hvalid : ∀ i, ValidBalance (s.balanceOf i)) (hnonneg : 0 ≤ s.netReserved lineId item)
    (hcover : s.netReserved lineId item ≤ (s.balanceOf item).reserved)
    (hfresh : s.findMovement item (settlement.key ++ lineId) = none) :
    ∃ t, settleReserved settlement lineId item s = (.ok (), t) ∧
      TakenBack settlement lineId item s t := by
  have hunfold : settleReserved settlement lineId item s =
      (if 0 < s.netReserved lineId item then (do
          let _ ← move item (settlement.input lineId (s.netReserved lineId item)))
        else pure ()) s := rfl
  rw [hunfold]
  by_cases hpos : 0 < s.netReserved lineId item
  · set input := settlement.input lineId (s.netReserved lineId item) with hinput
    have hdelta : input.delta = -s.netReserved lineId item := rfl
    have hclamp : clampDelta (s.balanceOf item) input.bucket input.delta = input.delta := by
      refine clampDelta_eq_self (fun hup => by omega) (fun _ hb => nomatch hb) fun _ _ => ?_
      rw [hdelta, neg_neg]
      exact hcover
    obtain ⟨t, hmove, hm⟩ := move_of_covered (hvalid item) hfresh hclamp (by omega)
      (Or.inl (by omega))
    rw [hdelta] at hm
    refine ⟨t, ?_, hm.sameBut, hm.valid hvalid, hm.balanceOf_reserved rfl, fun i => ?_,
      fun i key hne => ?_⟩
    · rw [if_pos hpos, Command.bind_of_ok hmove]
      rfl
    · rw [hm.netReserved]
      by_cases hi : i = item
      · rw [if_pos ⟨rfl, hi.symm, rfl⟩, if_pos hi, hi]
        omega
      · rw [if_neg fun hand => hi hand.2.1.symm, if_neg hi, add_zero]
    · rw [hm.findMovement_eq_none]
      exact and_iff_left fun hand => hne.elim (fun h => h hand.1) fun h => h hand.2
  · have hzero : s.netReserved lineId item = 0 := by omega
    refine ⟨s, by rw [if_neg hpos]; rfl, Store.SameBut.refl s, hvalid, fun i => ?_, fun i => ?_,
      fun _ _ _ => Iff.rfl⟩
    · simp [hzero, BalanceQuantities.less]
    · split
      · rename_i hi
        rw [hi, hzero]
      · rfl

/-! ### Delivering one unit -/

theorem BalanceQuantities.less_less (a b c d : ℤ) :
    (balance.less a b).less c d = balance.less (a + c) (b + d) := by
  simp only [BalanceQuantities.less, BalanceQuantities.mk.injEq, and_true]
  constructor <;> omega

@[simp] theorem availableQuantity_less (a b : ℤ) :
    availableQuantity (balance.less a b) = availableQuantity balance - a + b := by
  simp only [availableQuantity, BalanceQuantities.less]
  omega

theorem deliveryKeys_ne (lineId : String) :
    "order-deliver:" ++ lineId ≠ "order-deliver-release:" ++ lineId ∧
      "order-deliver:" ++ lineId ≠ "order-packaging:" ++ lineId ∧
      "order-deliver-release:" ++ lineId ≠ "order-packaging:" ++ lineId := by
  refine ⟨?_, ?_, ?_⟩
  · exact Key.Apart.append_ne (by decide) lineId lineId
  · exact Key.Apart.append_ne (by decide) lineId lineId
  · exact Key.Apart.append_ne (by decide) lineId lineId

section Step

variable {line : OrderLine} {s t : Store} {done : List StockUnit} {unit : StockUnit}
  {label : String}

theorem Delivering.congr {done' : List StockUnit} (h : Delivering line s done t)
    (hship : ∀ i, shipped done' i = shipped done i) (hpacked : ∀ i, packed done' i = packed done i)
    (hmem : ∀ i, i ∈ shippedItems done' ↔ i ∈ shippedItems done)
    (hpackmem : ∀ i, i ∈ packedItems done' ↔ i ∈ packedItems done) : Delivering line s done' t := by
  refine ⟨h.sameBut, h.valid, fun i => ?_, fun i => ?_, fun i => ?_, fun i hi => ?_, fun i => ?_⟩
  · simp only [hship, hpacked, hmem]
    exact h.balanceOf i
  · simp only [hmem]
    exact h.netReserved i
  · rw [hmem]
    exact h.deliver i
  · exact h.settle i (fun hi' => hi ((hmem i).2 hi'))
  · rw [hpackmem]
    exact h.packaging i

theorem Delivering.pack (h : Delivering line s done t) (hpos : 0 < unit.quantity)
    (hrole : unit.role = .packaging)
    (hcover : shipped (done ++ [unit]) unit.inventoryItemId +
        packed (done ++ [unit]) unit.inventoryItemId ≤
      availableQuantity (s.balanceOf unit.inventoryItemId) +
        if unit.inventoryItemId ∈ shippedItems (done ++ [unit]) then
          s.netReserved line.id unit.inventoryItemId else 0) :
    ∃ u, deliverUnit label line.id unit t = (.ok (), u) ∧
      Delivering line s (done ++ [unit]) u := by
  have hship : ∀ i, shipped (done ++ [unit]) i = shipped done i := fun i => by
    rw [shipped_concat, if_neg fun hand => hand.1 hrole, add_zero]
  have hmem : ∀ i, i ∈ shippedItems (done ++ [unit]) ↔ i ∈ shippedItems done := fun i => by
    rw [mem_shippedItems_concat]
    simp [hrole]
  have hunfold : deliverUnit label line.id unit t = (do
      let _ ← move unit.inventoryItemId (packagingInput label line.id unit.quantity) :
        Service Unit) t := by
    rw [deliverUnit, if_pos hrole]
  rw [hunfold]
  by_cases hused : unit.inventoryItemId ∈ packedItems done
  · -- the key of the packaging has been used for the item
    have hpacked : ∀ i, packed (done ++ [unit]) i = packed done i := fun i => by
      rw [packed_concat, if_neg, add_zero]
      rintro ⟨-, rfl, hnot⟩
      exact hnot hused
    have hkey : t.findMovement unit.inventoryItemId
        (packagingInput label line.id unit.quantity).idempotencyKey ≠ none :=
      fun hnone => (h.packaging unit.inventoryItemId).1 hnone hused
    obtain ⟨a, hmove⟩ := move_of_used hkey
    refine ⟨t, by rw [Command.bind_of_ok hmove]; rfl, h.congr hship hpacked hmem fun i => ?_⟩
    rw [mem_packedItems_concat]
    have : unit.inventoryItemId = i → i ∈ packedItems done := fun heq => heq ▸ hused
    tauto
  · -- the packaging is deducted, and all of it
    have hpacked : ∀ i, packed (done ++ [unit]) i =
        packed done i + if i = unit.inventoryItemId then unit.quantity else 0 := fun i => by
      rw [packed_concat]
      by_cases hi : i = unit.inventoryItemId
      · simp [hi, hrole, hused]
      · simp [hi, Ne.symm hi]
    have havail : unit.quantity ≤ availableQuantity (t.balanceOf unit.inventoryItemId) := by
      rw [hship, hpacked, if_pos rfl] at hcover
      simp only [hmem] at hcover
      rw [h.balanceOf, availableQuantity_less]
      omega
    have hfresh : t.findMovement unit.inventoryItemId
        (packagingInput label line.id unit.quantity).idempotencyKey = none :=
      (h.packaging _).2 hused
    obtain ⟨u, hmove, hm⟩ := deduct_exact h.valid rfl rfl hpos havail hfresh
    obtain ⟨-, hdp, hsp⟩ := deliveryKeys_ne line.id
    refine ⟨u, by rw [Command.bind_of_ok hmove]; rfl, ?_⟩
    refine ⟨h.sameBut.trans hm.sameBut, hm.valid h.valid, fun i => ?_, fun i => ?_, fun i => ?_,
      fun i hi => ?_, fun i => ?_⟩
    · rw [hm.balanceOf_onHand rfl, h.balanceOf, BalanceQuantities.less_less, hship, hpacked]
      simp only [hmem, add_zero, add_assoc]
    · have hkeep : u.netReserved line.id i = t.netReserved line.id i := by
        rw [hm.netReserved]
        simp [packagingInput]
      rw [hkeep, h.netReserved]
      simp only [hmem]
    · rw [hm.findMovement_eq_none, h.deliver, hmem]
      exact and_iff_left fun hand => hdp hand.2
    · rw [hm.findMovement_eq_none]
      exact ⟨h.settle i fun hi' => hi ((hmem i).2 hi'), fun hand => hsp hand.2⟩
    · rw [hm.findMovement_eq_none, h.packaging, mem_packedItems_concat]
      simp only [hrole, true_and, packagingInput, and_true, not_or, eq_comm]

theorem Delivering.ship (h : Delivering line s done t) (hpos : 0 < unit.quantity)
    (hrole : unit.role ≠ .packaging)
    (hreserved : 0 ≤ s.netReserved line.id unit.inventoryItemId ∧
      s.netReserved line.id unit.inventoryItemId ≤ (s.balanceOf unit.inventoryItemId).reserved)
    (hcover : shipped (done ++ [unit]) unit.inventoryItemId +
        packed (done ++ [unit]) unit.inventoryItemId ≤
      availableQuantity (s.balanceOf unit.inventoryItemId) +
        if unit.inventoryItemId ∈ shippedItems (done ++ [unit]) then
          s.netReserved line.id unit.inventoryItemId else 0) :
    ∃ u, deliverUnit label line.id unit t = (.ok (), u) ∧
      Delivering line s (done ++ [unit]) u := by
  have hpack : ∀ i, packed (done ++ [unit]) i = packed done i := fun i => by
    rw [packed_concat, if_neg fun hand => hrole hand.1, add_zero]
  have hpackmem : ∀ i, i ∈ packedItems (done ++ [unit]) ↔ i ∈ packedItems done := fun i => by
    rw [mem_packedItems_concat]
    simp [hrole]
  have hunfold : deliverUnit label line.id unit t = (do
      settleReserved (deliverySettlement label) line.id unit.inventoryItemId
      let _ ← move unit.inventoryItemId (deliverInput label line.id unit.quantity) :
        Service Unit) t := by
    rw [deliverUnit, if_neg hrole]
  rw [hunfold]
  by_cases hused : unit.inventoryItemId ∈ shippedItems done
  · -- nothing is reserved any more, and the key of the delivery has been used for the item
    have hship : ∀ i, shipped (done ++ [unit]) i = shipped done i := fun i => by
      rw [shipped_concat, if_neg, add_zero]
      rintro ⟨-, rfl, hnot⟩
      exact hnot hused
    have hmem : ∀ i, i ∈ shippedItems (done ++ [unit]) ↔ i ∈ shippedItems done := fun i => by
      rw [mem_shippedItems_concat]
      have : unit.inventoryItemId = i → i ∈ shippedItems done := fun heq => heq ▸ hused
      tauto
    have hsettle : settleReserved (deliverySettlement label) line.id unit.inventoryItemId t =
        (.ok (), t) := by
      have hzero : t.netReserved line.id unit.inventoryItemId = 0 := by
        rw [h.netReserved, if_pos hused]
      change (if 0 < t.netReserved line.id unit.inventoryItemId then _ else pure () :
        Service Unit) t = _
      rw [hzero]
      rfl
    have hkey : t.findMovement unit.inventoryItemId
        (deliverInput label line.id unit.quantity).idempotencyKey ≠ none :=
      fun hnone => (h.deliver unit.inventoryItemId).1 hnone hused
    obtain ⟨a, hmove⟩ := move_of_used hkey
    exact ⟨t, by rw [Command.bind_of_ok hsettle, Command.bind_of_ok hmove]; rfl,
      h.congr hship hpack hmem hpackmem⟩
  · -- what is reserved is taken back, and the unit is deducted, all of it
    set item := unit.inventoryItemId with hitem
    have hship : ∀ i, shipped (done ++ [unit]) i =
        shipped done i + if i = item then unit.quantity else 0 := fun i => by
      rw [shipped_concat]
      by_cases hi : i = item
      · simp [hi, hrole, hused, ← hitem]
      · simp [hi, Ne.symm hi, ← hitem]
    have hmem : ∀ i, i ∈ shippedItems (done ++ [unit]) ↔ i ∈ shippedItems done ∨ i = item := by
      intro i
      rw [mem_shippedItems_concat]
      simp [hrole, ← hitem, eq_comm]
    have hnet : t.netReserved line.id item = s.netReserved line.id item := by
      rw [h.netReserved, if_neg hused]
    have hreservedt : (t.balanceOf item).reserved = (s.balanceOf item).reserved := by
      rw [h.balanceOf, if_neg hused]
      simp [BalanceQuantities.less]
    have hsettlekey : t.findMovement item ((deliverySettlement label).key ++ line.id) = none :=
      h.settle item hused
    obtain ⟨v, hsettle, hv⟩ := settleReserved_exact h.valid (hnet ▸ hreserved.1)
      (hreservedt ▸ hnet ▸ hreserved.2) hsettlekey
    have havail : unit.quantity ≤ availableQuantity (v.balanceOf item) := by
      rw [hship, hpack, if_pos rfl, if_pos ((hmem item).2 (Or.inr rfl))] at hcover
      rw [hv.balanceOf, if_pos rfl, availableQuantity_less, h.balanceOf, availableQuantity_less,
        if_neg hused, hnet]
      have := shipped_eq_zero hused
      omega
    obtain ⟨hds, hdp, hsp⟩ := deliveryKeys_ne line.id
    have hfresh : v.findMovement item (deliverInput label line.id unit.quantity).idempotencyKey =
        none := (hv.unused item _ (Or.inr hds)).2 ((h.deliver item).2 hused)
    obtain ⟨u, hmove, hm⟩ := deduct_exact hv.valid rfl rfl hpos havail hfresh
    refine ⟨u, by rw [Command.bind_of_ok hsettle, Command.bind_of_ok hmove]; rfl, ?_⟩
    refine ⟨(h.sameBut.trans hv.sameBut).trans hm.sameBut, hm.valid hv.valid, fun i => ?_,
      fun i => ?_, fun i => ?_, fun i hi => ?_, fun i => ?_⟩
    · rw [hm.balanceOf_onHand rfl, hv.balanceOf, h.balanceOf, BalanceQuantities.less_less,
        BalanceQuantities.less_less, hship, hpack]
      by_cases hi : i = item
      · have := shipped_eq_zero hused
        simp only [hi, hmem, or_true, if_true, if_neg hused, hnet]
        congr 1 <;> omega
      · simp only [hi, hmem, or_false, if_false]
        congr 1 <;> omega
    · have hkeep : u.netReserved line.id i = v.netReserved line.id i := by
        rw [hm.netReserved]
        simp [deliverInput]
      rw [hkeep, hv.netReserved, h.netReserved]
      by_cases hi : i = item <;> simp [hi, hmem]
    · rw [hm.findMovement_eq_none, hv.unused i _ (Or.inr hds), h.deliver, hmem]
      simp [deliverInput]
    · have hi' : i ∉ shippedItems done ∧ i ≠ item := by
        rw [hmem] at hi
        exact not_or.1 hi
      rw [hm.findMovement_eq_none, hv.unused i _ (Or.inl hi'.2)]
      exact ⟨h.settle i hi'.1, fun hand => hi'.2 hand.1⟩
    · rw [hm.findMovement_eq_none, hv.unused i _ (Or.inr hsp.symm), hpackmem, h.packaging]
      exact and_iff_left fun hand => hdp hand.2.symm

end Step

/-! ### Delivering a line -/

section Line

variable {line : OrderLine} {s t : Store} {label : String}

theorem shipped_append (units units' : List StockUnit) (item : String) :
    shipped (units ++ units') item =
      if item ∈ shippedItems units then shipped units item else shipped units' item := by
  rw [shipped, shippedUnits, List.filter_append, firstQuantity_append]
  rfl

theorem packed_append (units units' : List StockUnit) (item : String) :
    packed (units ++ units') item =
      if item ∈ packedItems units then packed units item else packed units' item := by
  rw [packed, packedUnits, List.filter_append, firstQuantity_append]
  rfl

variable {units : List StockUnit}

theorem shipped_nonneg (h : ∀ unit ∈ units, 0 < unit.quantity) (item : String) :
    0 ≤ shipped units item :=
  (firstQuantity_bounds (fun unit hu => h unit (List.mem_of_mem_filter hu)) item).1

theorem packed_nonneg (h : ∀ unit ∈ units, 0 < unit.quantity) (item : String) :
    0 ≤ packed units item :=
  (firstQuantity_bounds (fun unit hu => h unit (List.mem_of_mem_filter hu)) item).1

/-- **The stock covers the delivery of a line**: what is reserved for it is reserved, and with it
there is enough for the units that ship and for the packaging. -/
structure Covered (line : OrderLine) (s : Store) : Prop where
  reserved : ∀ item, 0 ≤ s.netReserved line.id item ∧
    s.netReserved line.id item ≤ (s.balanceOf item).reserved
  packed : ∀ item, packed (expandOrderLine line) item ≤ availableQuantity (s.balanceOf item)
  shipped : ∀ item, shipped (expandOrderLine line) item + Zomaal.packed (expandOrderLine line) item ≤
    availableQuantity (s.balanceOf item) + s.netReserved line.id item

theorem Delivering.unit {done rest : List StockUnit} {unit : StockUnit}
    (h : Delivering line s done t) (hcovered : Covered line s)
    (hsplit : expandOrderLine line = done ++ unit :: rest) :
    ∃ u, deliverUnit label line.id unit t = (.ok (), u) ∧
      Delivering line s (done ++ [unit]) u := by
  set item := unit.inventoryItemId with hitem
  have hpos : ∀ u ∈ expandOrderLine line, 0 < u.quantity := (expandOrderLine_wf line).pos
  have hmem : unit ∈ expandOrderLine line := hsplit ▸ List.mem_append_right _ (List.mem_cons_self ..)
  have hsplit' : expandOrderLine line = (done ++ [unit]) ++ rest := by
    rw [hsplit, List.append_assoc]
    rfl
  have hrest : ∀ u ∈ rest, 0 < u.quantity := fun u hu =>
    hpos u (hsplit' ▸ List.mem_append_right _ hu)
  have hship := hcovered.shipped item
  have hpack := hcovered.packed item
  rw [hsplit', shipped_append, packed_append] at hship
  rw [hsplit', packed_append] at hpack
  have hship₀ := shipped_nonneg hrest item
  have hpack₀ := packed_nonneg hrest item
  have hcover : shipped (done ++ [unit]) item + packed (done ++ [unit]) item ≤
      availableQuantity (s.balanceOf item) +
        if item ∈ shippedItems (done ++ [unit]) then s.netReserved line.id item else 0 := by
    have hzero : item ∉ packedItems (done ++ [unit]) → packed (done ++ [unit]) item = 0 :=
      packed_eq_zero
    by_cases hin : item ∈ shippedItems (done ++ [unit])
    · rw [if_pos hin] at hship ⊢
      split at hship
      · omega
      · rename_i hnot
        rw [hzero hnot]
        omega
    · rw [if_neg hin, shipped_eq_zero hin]
      split at hpack
      · omega
      · rename_i hnot
        rw [hzero hnot]
        omega
  by_cases hrole : unit.role = .packaging
  · exact h.pack (hpos unit hmem) hrole hcover
  · exact h.ship (hpos unit hmem) hrole (hcovered.reserved item) hcover

def orphanUnit (orphan : String × ℤ) : StockUnit where
  inventoryItemId := orphan.1
  quantity := orphan.2
  role := .product

theorem mem_shippedItems_append {units' : List StockUnit} :
    item ∈ shippedItems (units ++ units') ↔
      item ∈ shippedItems units ∨ item ∈ shippedItems units' := by
  simp [shippedItems, shippedUnits, List.filter_append, List.map_append]

section Orphans

variable (orphans : List (String × ℤ))

theorem shippedUnits_orphans : shippedUnits (orphans.map orphanUnit) = orphans.map orphanUnit := by
  refine List.filter_eq_self.2 fun u hu => ?_
  obtain ⟨o, -, rfl⟩ := List.mem_map.1 hu
  rfl

theorem shippedItems_orphans : shippedItems (orphans.map orphanUnit) = orphans.map Prod.fst := by
  rw [shippedItems, shippedUnits_orphans, List.map_map]
  rfl

theorem packed_orphans (item : String) : packed (orphans.map orphanUnit) item = 0 := by
  refine packed_eq_zero fun hmem => ?_
  obtain ⟨u, hu, -⟩ := List.mem_map.1 hmem
  obtain ⟨hmem', hrole⟩ := List.mem_filter.1 hu
  obtain ⟨o, -, rfl⟩ := List.mem_map.1 hmem'
  simp [orphanUnit] at hrole

variable {orphans}

theorem shipped_orphans {amount : String → ℤ} (h : ∀ o ∈ orphans, amount o.1 = o.2)
    (item : String) : shipped (orphans.map orphanUnit) item =
      if item ∈ orphans.map Prod.fst then amount item else 0 := by
  rw [shipped, shippedUnits_orphans]
  induction orphans with
  | nil => rfl
  | cons o orphans ih =>
    rw [List.map_cons, firstQuantity, ih fun o' ho' => h o' (List.mem_cons_of_mem _ ho')]
    by_cases ho : o.1 = item
    · have hamount := h o (List.mem_cons_self ..)
      rw [ho] at hamount
      simp [orphanUnit, ho, hamount]
    · have ho' : ¬ item = o.1 := fun heq => ho heq.symm
      simp only [orphanUnit, ho, if_false, List.map_cons, List.mem_cons, ho', false_or]

end Orphans

theorem deliverOrphan_eq {orphan : String × ℤ} (hpos : 0 < orphan.2)
    (hamount : t.netReserved line.id orphan.1 = orphan.2) :
    deliverOrphan label line.id orphan t = deliverUnit label line.id (orphanUnit orphan) t := by
  have hsettle : settleReserved (deliverySettlement label) line.id orphan.1 t = (do
      let _ ← move orphan.1 ((deliverySettlement label).input line.id orphan.2) :
        Service Unit) t := by
    change (if 0 < t.netReserved line.id orphan.1 then (do
      let _ ← move orphan.1 ((deliverySettlement label).input line.id
        (t.netReserved line.id orphan.1))) else pure () : Service Unit) t = _
    rw [if_pos (hamount ▸ hpos), hamount]
  have hunfold : deliverUnit label line.id (orphanUnit orphan) t = (do
      settleReserved (deliverySettlement label) line.id orphan.1
      let _ ← move orphan.1 (deliverInput label line.id orphan.2) : Service Unit) t := by
    rw [deliverUnit, if_neg (by simp [orphanUnit])]
    rfl
  rw [hunfold, deliverOrphan]
  rcases hmove : move orphan.1 ((deliverySettlement label).input line.id orphan.2) t with
    ⟨e | a, u⟩
  · rw [Command.bind_of_error hmove] at hsettle
    rw [Command.bind_of_error hmove, Command.bind_of_error hsettle]
  · rw [Command.bind_of_ok hmove] at hsettle
    rw [Command.bind_of_ok hmove, Command.bind_of_ok hsettle]

def takenBack (line : OrderLine) (s : Store) (item : String) : ℤ :=
  if item ∈ shippedItems (expandOrderLine line) ∨ line.stockStatus = some .reserved then
    s.netReserved line.id item else 0

/-- What a delivery of the line deducts of items that are reserved for it and no longer part of its
product. -/
def orphaned (line : OrderLine) (s : Store) (item : String) : ℤ :=
  if item ∉ shippedItems (expandOrderLine line) ∧ line.stockStatus = some .reserved then
    s.netReserved line.id item else 0

theorem Delivering.orphan {orphans done rest : List (String × ℤ)} {orphan : String × ℤ}
    (h : Delivering line s (expandOrderLine line ++ done.map orphanUnit) t)
    (hcovered : Covered line s)
    (horphans : ∀ o ∈ orphans, 0 < o.2 ∧ s.netReserved line.id o.1 = o.2 ∧
      o.1 ∉ shippedItems (expandOrderLine line))
    (hnodup : (orphans.map Prod.fst).Nodup) (hsplit : orphans = done ++ orphan :: rest) :
    ∃ u, deliverOrphan label line.id orphan t = (.ok (), u) ∧
      Delivering line s (expandOrderLine line ++ (done ++ [orphan]).map orphanUnit) u := by
  obtain ⟨hpos, hamount, hnot⟩ := horphans orphan
    (hsplit ▸ List.mem_append_right _ (List.mem_cons_self ..))
  have hfresh : orphan.1 ∉ done.map Prod.fst := by
    rw [hsplit, List.map_append, List.map_cons, List.nodup_append] at hnodup
    exact fun hmem => hnodup.2.2 _ hmem _ (List.mem_cons_self ..) rfl
  have happend : expandOrderLine line ++ (done ++ [orphan]).map orphanUnit =
      (expandOrderLine line ++ done.map orphanUnit) ++ [orphanUnit orphan] := by
    rw [List.map_append, ← List.append_assoc]
    rfl
  -- what is reserved for the orphan is still reserved
  have hstill : t.netReserved line.id orphan.1 = orphan.2 := by
    rw [h.netReserved, if_neg, hamount]
    rw [mem_shippedItems_append, shippedItems_orphans, not_or]
    exact ⟨hnot, hfresh⟩
  have hships : orphan.1 ∈ shippedItems
      ((expandOrderLine line ++ done.map orphanUnit) ++ [orphanUnit orphan]) :=
    (mem_shippedItems_concat _ _ _).2 (Or.inr ⟨by simp [orphanUnit], rfl⟩)
  have hcover : shipped ((expandOrderLine line ++ done.map orphanUnit) ++ [orphanUnit orphan])
        orphan.1 + packed ((expandOrderLine line ++ done.map orphanUnit) ++ [orphanUnit orphan])
        orphan.1 ≤ availableQuantity (s.balanceOf orphan.1) +
      if orphan.1 ∈ shippedItems ((expandOrderLine line ++ done.map orphanUnit) ++
        [orphanUnit orphan]) then s.netReserved line.id orphan.1 else 0 := by
    have hpack := hcovered.packed orphan.1
    have hzero : orphan.1 ∉ packedItems (expandOrderLine line) →
        packed (expandOrderLine line) orphan.1 = 0 := packed_eq_zero
    have hmem : orphan.1 ∈ (done ++ [orphan]).map Prod.fst := by simp
    have hamounts : ∀ o ∈ done ++ [orphan], s.netReserved line.id o.1 = o.2 := fun o ho =>
      (horphans o (hsplit ▸ by
        rw [List.append_cons]
        exact List.mem_append_left _ ho)).2.1
    rw [if_pos hships, ← happend, shipped_append, if_neg hnot, shipped_orphans hamounts,
      if_pos hmem, packed_append, packed_orphans]
    split
    · omega
    · rename_i hnot
      have := hzero hnot
      omega
  rw [deliverOrphan_eq hpos hstill, happend]
  exact h.ship hpos (by simp [orphanUnit]) (hcovered.reserved orphan.1) hcover

open Command in
/-- **What the delivery of a line does to every account.** -/
theorem deliverLine_exact {deliveredAt : Option ℤ} (hvalid : ∀ i, ValidBalance (s.balanceOf i))
    (huntouched : Untouched line s) (hcovered : Covered line s)
    (hdeliverable : line.deliverable deliveredAt = true) :
    ∃ t, deliverLine label deliveredAt line s = (.ok (), t) ∧
      t.orders = (s.updateLine line.id fun line =>
        { line with stockStatus := some .delivered }).orders ∧
      (∀ i, ValidBalance (t.balanceOf i)) ∧
      ∀ i, t.balanceOf i = (s.balanceOf i).less
        (shipped (expandOrderLine line) i + packed (expandOrderLine line) i + orphaned line s i)
        (takenBack line s i) := by
  -- the units
  obtain ⟨t, hloop, ht⟩ := Command.forEach_of_turns (I := fun done _ t => Delivering line s done t)
    (f := deliverUnit label line.id) (Delivering.start huntouched hvalid)
    fun done unit rest t hsplit ht => ht.unit hcovered hsplit
  -- the orphans
  set orphans := t.orphanReservations line with horphans
  have hnodup := t.orphanReservations_nodup line
  have hfacts : ∀ o ∈ orphans, line.stockStatus = some .reserved ∧ 0 < o.2 ∧
      s.netReserved line.id o.1 = o.2 ∧ o.1 ∉ shippedItems (expandOrderLine line) := by
    intro o ho
    obtain ⟨hstatus, hpos, hamount, hnot⟩ := Store.mem_orphanReservations.1 ho
    have hnot' : o.1 ∉ shippedItems (expandOrderLine line) := hnot
    rw [ht.netReserved, if_neg hnot'] at hamount
    exact ⟨hstatus, hpos, hamount, hnot'⟩
  obtain ⟨u, hloop', hu⟩ := Command.forEach_of_turns
    (I := fun done _ u => Delivering line s (expandOrderLine line ++ done.map orphanUnit) u)
    (f := deliverOrphan label line.id) (by simpa using ht)
    fun done o rest u (hsplit : orphans = done ++ o :: rest) hu =>
      hu.orphan hcovered (fun o ho => (hfacts o ho).2) hnodup hsplit
  -- the accounts
  have hmem : ∀ i, i ∈ orphans.map Prod.fst ↔ i ∉ shippedItems (expandOrderLine line) ∧
      line.stockStatus = some .reserved ∧ 0 < s.netReserved line.id i := by
    intro i
    constructor
    · intro hi
      obtain ⟨o, ho, rfl⟩ := List.mem_map.1 hi
      obtain ⟨hstatus, hpos, hamount, hnot⟩ := hfacts o ho
      exact ⟨hnot, hstatus, hamount ▸ hpos⟩
    · rintro ⟨hnot, hstatus, hpos⟩
      have hnet : t.netReserved line.id i = s.netReserved line.id i := by
        rw [ht.netReserved, if_neg hnot]
      exact List.mem_map.2 ⟨(i, t.netReserved line.id i),
        Store.mem_orphanReservations.2 ⟨hstatus, hnet ▸ hpos, rfl, hnot⟩, rfl⟩
  refine ⟨u.updateLine line.id fun line => { line with stockStatus := some .delivered }, ?_, ?_,
    hu.valid, fun i => ?_⟩
  · rw [deliverLine, if_pos hdeliverable, Command.bind_of_ok hloop, Command.ask_bind_apply,
      Command.bind_of_ok hloop']
    rfl
  · rw [Store.updateLine, Store.updateLine, hu.sameBut.orders]
  · have hnonneg := (hcovered.reserved i).1
    have hpacked : packed (expandOrderLine line ++ orphans.map orphanUnit) i =
        packed (expandOrderLine line) i := by
      rw [packed_append, packed_orphans]
      split
      · rfl
      · exact (packed_eq_zero (by assumption)).symm
    rw [Store.balanceOf_updateLine, hu.balanceOf, hpacked, shipped_append,
      shipped_orphans fun o ho => (hfacts o ho).2.2.1, orphaned, takenBack]
    simp only [mem_shippedItems_append, shippedItems_orphans]
    by_cases hin : i ∈ shippedItems (expandOrderLine line)
    · simp [hin]
    · have hzero := shipped_eq_zero hin
      by_cases hstatus : line.stockStatus = some .reserved
      · by_cases hpos : 0 < s.netReserved line.id i
        · have hin' := (hmem i).2 ⟨hin, hstatus, hpos⟩
          rw [if_neg hin, if_pos hin', if_pos (Or.inr hin'), if_pos ⟨hin, hstatus⟩,
            if_pos (Or.inr hstatus), hzero]
          congr 1
          omega
        · have hin' : i ∉ orphans.map Prod.fst := fun h => hpos ((hmem i).1 h).2.2
          have hnone : s.netReserved line.id i = 0 := by omega
          rw [if_neg hin, if_neg hin', if_neg (not_or.2 ⟨hin, hin'⟩), if_pos ⟨hin, hstatus⟩,
            if_pos (Or.inr hstatus), hzero, hnone]
          congr 1
          omega
      · have hin' : i ∉ orphans.map Prod.fst := fun h => hstatus ((hmem i).1 h).2.1
        rw [if_neg hin, if_neg hin', if_neg (not_or.2 ⟨hin, hin'⟩),
          if_neg fun hand => hstatus hand.2, if_neg (not_or.2 ⟨hin, hstatus⟩), hzero]
        congr 1
        omega

/-! ### Reserving a line -/

/-- What the units add to what is reserved of an item for a line, unless the item has been reserved
for the line already. -/
def held (line : OrderLine) (s : Store) (units : List StockUnit) (item : String) : ℤ :=
  if s.findMovement item ("order-reserve:" ++ line.id) = none then firstQuantity units item else 0

/-- **The accounts in the middle of a reservation** that began in `s` and has gone through the units
`done`. -/
structure Holding (line : OrderLine) (s : Store) (done : List StockUnit) (t : Store) : Prop where
  sameBut : s.SameBut t
  valid : ∀ item, ValidBalance (t.balanceOf item)
  balanceOf : ∀ item, t.balanceOf item = (s.balanceOf item).less 0 (-held line s done item)
  netReserved : ∀ item, t.netReserved line.id item =
    s.netReserved line.id item + held line s done item
  unused : ∀ item, t.findMovement item ("order-reserve:" ++ line.id) = none ↔
    s.findMovement item ("order-reserve:" ++ line.id) = none ∧
      item ∉ done.map StockUnit.inventoryItemId
  other : ∀ item key, key ≠ "order-reserve:" ++ line.id →
    (t.findMovement item key = none ↔ s.findMovement item key = none)

theorem Holding.start (hvalid : ∀ item, ValidBalance (s.balanceOf item)) :
    Holding line s [] s := by
  have hzero : ∀ item, held line s [] item = 0 := fun item => by
    rw [held, firstQuantity, ite_self]
  refine ⟨Store.SameBut.refl s, hvalid, fun item => ?_, fun item => ?_, fun item => ?_,
    fun _ _ _ => Iff.rfl⟩
  · simp [hzero, BalanceQuantities.less]
  · rw [hzero, add_zero]
  · simp

theorem Holding.unit {done rest : List StockUnit} {unit : StockUnit}
    (h : Holding line s done t)
    (hcover : ∀ item, firstQuantity (physicalUnits line) item ≤
      availableQuantity (s.balanceOf item))
    (hsplit : physicalUnits line = done ++ unit :: rest) :
    ∃ u, reserveUnit label line.id unit t = (.ok (), u) ∧ Holding line s (done ++ [unit]) u := by
  set item := unit.inventoryItemId with hitem
  have hpos : 0 < unit.quantity :=
    (physicalUnits_wf line).pos unit (hsplit ▸ List.mem_append_right _ (List.mem_cons_self ..))
  have hmem : ∀ i, i ∈ (done ++ [unit]).map StockUnit.inventoryItemId ↔
      i ∈ done.map StockUnit.inventoryItemId ∨ i = item := fun i => by
    rw [List.map_append, List.mem_append, List.map_cons, List.map_nil, List.mem_singleton]
  by_cases hfresh : t.findMovement item ("order-reserve:" ++ line.id) = none
  · -- the unit is the first of its item
    obtain ⟨hunused, hnew⟩ := (h.unused item).1 hfresh
    have hzero : firstQuantity done item = 0 :=
      firstQuantity_eq_zero fun u hu heq => hnew (List.mem_map.2 ⟨u, hu, heq⟩)
    have hheld : ∀ i, held line s (done ++ [unit]) i =
        held line s done i + if i = item then unit.quantity else 0 := fun i => by
      rw [held, held, firstQuantity_concat]
      by_cases hi : i = item
      · simp [hi, hunused, hnew, hzero, ← hitem]
      · by_cases hin : i ∈ done.map StockUnit.inventoryItemId
        · simp [hin, hi]
        · have : firstQuantity done i = 0 :=
            firstQuantity_eq_zero fun u hu heq => hin (List.mem_map.2 ⟨u, hu, heq⟩)
          simp only [hin, if_false, ← hitem, Ne.symm hi, hi, this, add_zero]
    have havail : unit.quantity ≤ availableQuantity (t.balanceOf item) := by
      have hfirst := hcover item
      rw [hsplit, firstQuantity_append, if_neg hnew, firstQuantity, if_pos hitem.symm] at hfirst
      rw [h.balanceOf, availableQuantity_less, held, if_pos hunused, hzero]
      omega
    have hclamp : clampDelta (t.balanceOf item) (reserveInput label line.id unit).bucket
        (reserveInput label line.id unit).delta = (reserveInput label line.id unit).delta :=
      clampDelta_eq_self (fun _ _ => havail) (fun hdown => absurd hdown (not_lt.2 hpos.le))
        fun hdown => absurd hdown (not_lt.2 hpos.le)
    obtain ⟨u, hmove, hm⟩ := move_of_covered (h.valid item) hfresh hclamp hpos.ne'
      (Or.inr (Or.inl rfl))
    have hm' : t.Moved u item (reserveInput label line.id unit) (- -unit.quantity) := by
      rw [neg_neg]
      exact hm
    refine ⟨u, by rw [reserveUnit, Command.bind_of_ok hmove]; rfl,
      h.sameBut.trans hm.sameBut, hm.valid h.valid, fun i => ?_, fun i => ?_, fun i => ?_,
      fun i key hne => ?_⟩
    · rw [hm'.balanceOf_reserved rfl, h.balanceOf, BalanceQuantities.less_less, hheld]
      by_cases hi : i = item
      · rw [if_pos hi, if_pos hi]
        congr 1
        omega
      · rw [if_neg hi, if_neg hi]
        congr 1
        omega
    · rw [hm.netReserved, h.netReserved, hheld, add_assoc]
      congr 2
      by_cases hi : i = item
      · rw [if_pos ⟨rfl, hi.symm, rfl⟩, if_pos hi]
        rfl
      · rw [if_neg fun hand => hi hand.2.1.symm, if_neg hi]
    · rw [hm.findMovement_eq_none, h.unused, hmem, not_or, and_assoc]
      simp [reserveInput]
    · rw [hm.findMovement_eq_none, h.other i key hne]
      exact and_iff_left fun hand => hne hand.2
  · -- the key of the reservation has been used for the item
    have hused : (∃ duplicate, s.findMovement item ("order-reserve:" ++ line.id) = some duplicate) ∨
        item ∈ done.map StockUnit.inventoryItemId := by
      rw [h.unused, not_and_or, not_not] at hfresh
      exact hfresh.imp Option.ne_none_iff_exists'.1 id
    have hheld : ∀ i, held line s (done ++ [unit]) i = held line s done i := fun i => by
      rw [held, held, firstQuantity_concat]
      by_cases hin : i ∈ done.map StockUnit.inventoryItemId
      · rw [if_pos hin]
      · have hzero : firstQuantity done i = 0 :=
          firstQuantity_eq_zero fun u hu heq => hin (List.mem_map.2 ⟨u, hu, heq⟩)
        by_cases hi : item = i
        · rcases hused with ⟨duplicate, hdup⟩ | hin'
          · rw [← hi, hdup]
            simp
          · exact absurd (hi ▸ hin') hin
        · rw [if_neg hin, ← hitem, if_neg hi, hzero]
    have hkey : t.findMovement item (reserveInput label line.id unit).idempotencyKey ≠ none := hfresh
    obtain ⟨a, hmove⟩ := move_of_used hkey
    refine ⟨t, by rw [reserveUnit, Command.bind_of_ok hmove]; rfl, h.sameBut, h.valid,
      fun i => ?_, fun i => ?_, fun i => ?_, h.other⟩
    · rw [hheld]
      exact h.balanceOf i
    · rw [hheld]
      exact h.netReserved i
    · rw [h.unused, hmem]
      constructor
      · rintro ⟨hnone, hnot⟩
        refine ⟨hnone, fun hor => hor.elim hnot fun hi => ?_⟩
        exact hfresh ((h.unused item).2 ⟨hi ▸ hnone, hi ▸ hnot⟩)
      · rintro ⟨hnone, hnot⟩
        exact ⟨hnone, fun hin => hnot (Or.inl hin)⟩

open Command in
/-- **What the reservation of a line does to every account.** -/
theorem reserveLine_exact (hvalid : ∀ i, ValidBalance (s.balanceOf i))
    (hcover : ∀ item, firstQuantity (physicalUnits line) item ≤
      availableQuantity (s.balanceOf item)) (hreservable : line.reservable = true) :
    ∃ t, reserveLine label line s = (.ok (), t) ∧
      t.orders = (s.updateLine line.id fun line =>
        { line with stockStatus := some .reserved }).orders ∧
      (∀ i, ValidBalance (t.balanceOf i)) ∧
      (∀ i, t.balanceOf i =
        (s.balanceOf i).less 0 (-held line s (physicalUnits line) i)) ∧
      (∀ i, t.netReserved line.id i =
        s.netReserved line.id i + held line s (physicalUnits line) i) ∧
      (Untouched line s → Untouched line t) := by
  obtain ⟨t, hloop, ht⟩ := Command.forEach_of_turns (I := fun done _ t => Holding line s done t)
    (f := reserveUnit label line.id) (Holding.start hvalid)
    fun done unit rest t hsplit ht => ht.unit hcover hsplit
  refine ⟨t.updateLine line.id fun line => { line with stockStatus := some .reserved }, ?_, ?_,
    ht.valid, ht.balanceOf, ht.netReserved, fun huntouched => ⟨fun i => ?_, fun i => ?_, fun i => ?_⟩⟩
  · rw [reserveLine, if_pos hreservable, Command.bind_of_ok hloop]
    rfl
  · rw [Store.updateLine, Store.updateLine, ht.sameBut.orders]
  · exact (ht.other i _ (Key.Apart.append_ne (by decide) _ _)).2 (huntouched.deliver i)
  · exact (ht.other i _ (Key.Apart.append_ne (by decide) _ _)).2 (huntouched.settle i)
  · exact (ht.other i _ (Key.Apart.append_ne (by decide) _ _)).2 (huntouched.packaging i)

end Line

/-! ### Units that clash -/

variable (line : OrderLine)

def NoClash : Prop :=
  ∀ u ∈ expandOrderLine line, ∀ v ∈ expandOrderLine line, u.role = .product → v.role = .gift →
    u.inventoryItemId ≠ v.inventoryItemId

theorem unitsTotal_eq_add (units : List StockUnit) (item : String) :
    unitsTotal units item = unitsTotal (shippedUnits units) item +
      unitsTotal (packedUnits units) item := by
  induction units with
  | nil => rfl
  | cons u units ih =>
    have hship : shippedUnits (u :: units) =
        if u.role = .packaging then shippedUnits units else u :: shippedUnits units := by
      by_cases h : u.role = .packaging <;> simp [shippedUnits, h]
    have hpack : packedUnits (u :: units) =
        if u.role = .packaging then u :: packedUnits units else packedUnits units := by
      by_cases h : u.role = .packaging <;> simp [packedUnits, h]
    rw [unitsTotal_cons, ih, hship, hpack]
    by_cases h : u.role = .packaging
    · rw [if_pos h, if_pos h, unitsTotal_cons]
      omega
    · rw [if_neg h, if_neg h, unitsTotal_cons]
      omega

theorem UnitsWF.role_ne {units : List StockUnit} (h : UnitsWF units) {u v : StockUnit}
    {rest : List StockUnit}
    (hsplit : units.filter (fun unit => unit.inventoryItemId = item) = u :: v :: rest) :
    u.role ≠ v.role := by
  intro hrole
  have hnodup := (h.filter fun unit => unit.inventoryItemId = item).nodup
  have hu : u ∈ units.filter fun unit => unit.inventoryItemId = item := by simp [hsplit]
  have hv : v ∈ units.filter fun unit => unit.inventoryItemId = item := by simp [hsplit]
  have hui : u.inventoryItemId = item := by simpa using List.of_mem_filter hu
  have hvi : v.inventoryItemId = item := by simpa using List.of_mem_filter hv
  rw [hsplit, List.map_cons, List.map_cons, List.nodup_cons] at hnodup
  exact hnodup.1 (by simp [hui, hvi, hrole])

theorem length_le_one_or {α : Type} (xs : List α) :
    xs.length ≤ 1 ∨ ∃ a b rest, xs = a :: b :: rest := by
  match xs with
  | [] => exact Or.inl (by simp)
  | [a] => exact Or.inl (by simp)
  | a :: b :: rest => exact Or.inr ⟨a, b, rest, rfl⟩

theorem packed_eq_unitsTotal {units : List StockUnit} (h : UnitsWF units) (item : String) :
    packed units item = unitsTotal (packedUnits units) item := by
  have hwf : UnitsWF (packedUnits units) := h.filter _
  rw [packed, firstQuantity_eq_unitsTotal_iff hwf.pos]
  rcases length_le_one_or ((packedUnits units).filter fun unit => unit.inventoryItemId = item) with
    hle | ⟨u, v, rest, hsplit⟩
  · exact hle
  · have hrole : ∀ w ∈ packedUnits units, w.role = .packaging := fun w hw => by
      simpa using List.of_mem_filter hw
    have hmem : ∀ w ∈ u :: v :: rest, w ∈ packedUnits units := fun w hw =>
      List.mem_of_mem_filter (hsplit ▸ hw)
    exact absurd ((hrole u (hmem u (by simp))).trans (hrole v (hmem v (by simp))).symm)
      (hwf.role_ne hsplit)

/-- **What ships is all there is of every item** exactly when no item clashes. -/
theorem shipped_eq_unitsTotal_iff :
    (∀ item, shipped (expandOrderLine line) item =
      unitsTotal (shippedUnits (expandOrderLine line)) item) ↔ NoClash line := by
  have hwf : UnitsWF (shippedUnits (expandOrderLine line)) := (expandOrderLine_wf line).filter _
  have hships : ∀ w ∈ shippedUnits (expandOrderLine line),
      w ∈ expandOrderLine line ∧ w.role ≠ .packaging := fun w hw => by
    obtain ⟨hmem, hrole⟩ := List.mem_filter.1 hw
    exact ⟨hmem, by simpa using hrole⟩
  constructor
  · intro h u hu v hv hurole hvrole heq
    have hlen := (firstQuantity_eq_unitsTotal_iff hwf.pos u.inventoryItemId).1
      (h u.inventoryItemId)
    have hu' : u ∈ (shippedUnits (expandOrderLine line)).filter fun unit =>
        unit.inventoryItemId = u.inventoryItemId := by
      simp [shippedUnits, hu, hurole]
    have hv' : v ∈ (shippedUnits (expandOrderLine line)).filter fun unit =>
        unit.inventoryItemId = u.inventoryItemId := by
      simp [shippedUnits, hv, hvrole, heq]
    -- a list of at most one unit cannot hold a part of the product and a gift
    rcases hxs : (shippedUnits (expandOrderLine line)).filter fun unit =>
        unit.inventoryItemId = u.inventoryItemId with _ | ⟨w, _ | ⟨w', rest⟩⟩
    · rw [hxs] at hu'
      simp at hu'
    · rw [hxs, List.mem_singleton] at hu' hv'
      rw [hu', ← hv', hvrole] at hurole
      exact absurd hurole (by decide)
    · rw [hxs] at hlen
      simp at hlen
  · intro h item
    rw [shipped, firstQuantity_eq_unitsTotal_iff hwf.pos]
    rcases length_le_one_or ((shippedUnits (expandOrderLine line)).filter fun unit =>
      unit.inventoryItemId = item) with hle | ⟨u, v, rest, hsplit⟩
    · exact hle
    · have hne := hwf.role_ne hsplit
      have hmem : ∀ w ∈ u :: v :: rest, w ∈ shippedUnits (expandOrderLine line) ∧
          w.inventoryItemId = item := fun w hw => by
        rw [← hsplit] at hw
        exact ⟨List.mem_of_mem_filter hw, by simpa using List.of_mem_filter hw⟩
      obtain ⟨hu, hui⟩ := hmem u (by simp)
      obtain ⟨hv, hvi⟩ := hmem v (by simp)
      obtain ⟨hu, hurole⟩ := hships u hu
      obtain ⟨hv, hvrole⟩ := hships v hv
      exfalso
      cases hur : u.role with
      | product =>
        cases hvr : v.role with
        | product => exact hne (hur.trans hvr.symm)
        | gift => exact h u hu v hv hur hvr (hui.trans hvi.symm)
        | packaging => exact hvrole hvr
      | gift =>
        cases hvr : v.role with
        | product => exact h v hv u hu hvr hur (hvi.trans hui.symm)
        | gift => exact hne (hur.trans hvr.symm)
        | packaging => exact hvrole hvr
      | packaging => exact hurole hur

theorem shipped_le_unitsTotal (item : String) :
    shipped (expandOrderLine line) item ≤
      unitsTotal (shippedUnits (expandOrderLine line)) item :=
  (firstQuantity_bounds ((expandOrderLine_wf line).filter _).pos item).2.1

end Zomaal
