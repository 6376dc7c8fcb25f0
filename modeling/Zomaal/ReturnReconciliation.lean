/-
**Bringing the return movements of a line to their targets.**

For every item and bucket, what the return movements of the line add up to is compared with the
target and the difference is moved, whatever the stock: a movement may be clamped.

Main results:

* `reconcileItem_returns` — **what reconciling an item does**.
-/

import Zomaal.Reservations
import Zomaal.ReturnAllocations

set_option autoImplicit false

namespace Zomaal

/-! ### The row of a line -/

namespace Store

def lineOf (s : Store) (orderId lineId : String) : Option OrderLine :=
  (s.findOrder orderId).bind fun order => order.lines.find? fun line => line.id = lineId

theorem SameBut.lineOf {s t : Store} (h : s.SameBut t) (orderId lineId : String) :
    t.lineOf orderId lineId = s.lineOf orderId lineId := by
  rw [Store.lineOf, Store.findOrder, h.orders]
  rfl

theorem lineOf_updateLine (s : Store) (orderId : String) {lineId other : String}
    {change : OrderLine → OrderLine} (hid : ∀ line, (change line).id = line.id) :
    (s.updateLine other change).lineOf orderId lineId =
      (s.lineOf orderId lineId).map fun line => if line.id = other then change line else line := by
  rw [lineOf, findOrder_updateLine, lineOf]
  cases s.findOrder orderId with
  | none => rfl
  | some order =>
    simp only [Option.map_some, Option.bind_some, List.find?_map]
    congr 2
    funext line
    simp only [Function.comp_apply]
    split
    · rw [hid]
    · rfl

theorem lineOf_id {s : Store} {orderId lineId : String} {line : OrderLine}
    (h : s.lineOf orderId lineId = some line) : line.id = lineId := by
  obtain ⟨order, -, hline⟩ := Option.bind_eq_some_iff.1 h
  simpa using List.find?_some hline

end Store

/-! ### What the returns of a line add up to -/

def InventoryMovement.legacyReturn (orderId : String) (movement : InventoryMovement) : Bool :=
  decide (movement.type ∈ returnMovementTypes) &&
    ((movement.referenceType.any fun type => decide (type ∈ legacyReturnReferences)) &&
      movement.referenceId = some orderId)

/-- Whether a movement is one of those `returned` sums. -/
def InventoryMovement.returns (lineId item : String) (bucket : InventoryBucket)
    (movement : InventoryMovement) : Bool :=
  movement.refersTo lineId && (movement.inventoryItemId = item &&
    (movement.bucket = bucket && decide (movement.type ∈ returnMovementTypes)))

namespace Store

def returned (s : Store) (lineId item : String) (bucket : InventoryBucket) : ℤ :=
  s.sumMovements (InventoryMovement.returns lineId item bucket)

def NoLegacyReturns (s : Store) (orderId : String) : Prop :=
  ∀ movement ∈ s.movements, movement.legacyReturn orderId = false

theorem netReturned_eq {s : Store} {orderId : String} (h : s.NoLegacyReturns orderId)
    (lineId item : String) (bucket : InventoryBucket) :
    s.netReturned orderId lineId item bucket = s.returned lineId item bucket := by
  refine Ledger.total_congr fun movement hm => ?_
  have hlegacy := h movement hm
  rw [InventoryMovement.legacyReturn] at hlegacy
  rw [InventoryMovement.returns]
  cases htype : decide (movement.type ∈ returnMovementTypes) with
  | false => simp
  | true =>
    rw [htype, Bool.true_and] at hlegacy
    rw [hlegacy]
    cases movement.refersTo lineId <;> simp

theorem Moved.returned {s t : Store} {item : String} {input : MoveInput} {applied : ℤ}
    (h : s.Moved t item input applied) (lineId other : String) (bucket : InventoryBucket) :
    t.returned lineId other bucket = s.returned lineId other bucket +
      if input.lineId = lineId ∧ item = other ∧ input.bucket = bucket ∧
        input.type ∈ returnMovementTypes then applied else 0 := by
  rw [Store.returned, h.sumMovements]
  refine congrArg _ (if_congr ?_ rfl rfl)
  simp [InventoryMovement.returns, InventoryMovement.refersTo, MoveInput.movement]

theorem Moved.noLegacyReturns {s t : Store} {item : String} {input : MoveInput} {applied : ℤ}
    (h : s.Moved t item input applied) {orderId : String} (hs : s.NoLegacyReturns orderId) :
    t.NoLegacyReturns orderId := by
  intro movement hm
  rw [h.movements] at hm
  rcases Ledger.mem_concat.1 hm with hm | rfl
  · exact hs movement hm
  · have htype : orderLineReference ∉ legacyReturnReferences := by decide
    simp [InventoryMovement.legacyReturn, MoveInput.movement, htype]

end Store

/-! ### The keys of allocations -/

theorem returnAllocationKey_inj {lineId lineId' item : String} {revision revision' : ℕ}
    {index index' : ℕ}
    (h : returnAllocationKey lineId revision item index =
      returnAllocationKey lineId' revision' item index') :
    lineId = lineId' ∧ revision = revision' ∧ index = index' := by
  obtain ⟨hfamily, hindex⟩ := Key.append_number_inj h
  have hinner : "return-allocation:" ++ lineId ++ ":" ++ toString revision =
      "return-allocation:" ++ lineId' ++ ":" ++ toString revision' :=
    (String.append_left_inj (":" ++ item)).1 (by
      rw [← String.append_assoc, ← String.append_assoc]
      exact hfamily)
  obtain ⟨hline, hrevision⟩ := Key.append_number_inj hinner
  exact ⟨(String.append_right_inj _).1 hline, hrevision, hindex⟩

theorem returnAllocationKey_inFamily (lineId : String) (revision : ℕ) (item : String)
    (index : ℕ) :
    Key.InFamily "return-allocation:" (returnAllocationKey lineId revision item index) :=
  ((((((Key.InFamily.intro _ _).append _).append _).append _).append _).append _).append _

theorem LineInput.allocation {lineId item : String} {input : MoveInput}
    (h : LineInput lineId item input)
    (hkey : Key.InFamily "return-allocation:" input.idempotencyKey) :
    ∃ (allocation : ReconcileInput) (change : (InventoryBucket × ℤ) × ℕ),
      allocation.lineId = lineId ∧ input = returnDeltaInput allocation item change := by
  have hapart : ∀ p ∈ lineFamilies ++ ["return-reverse:", "return:"],
      Key.Apart p "return-allocation:" := by decide
  have hother : ∀ p ∈ lineFamilies ++ ["return-reverse:", "return:"],
      ¬ Key.InFamily p input.idempotencyKey := fun p hp hin => (hapart p hp).not_both hin hkey
  cases h with
  | reserve label unit => exact (hother "order-reserve:" (by decide) ⟨lineId, rfl⟩).elim
  | settleDelivery label reserved =>
    exact (hother "order-deliver-release:" (by decide) ⟨lineId, rfl⟩).elim
  | settleRelease label reserved => exact (hother "order-release:" (by decide) ⟨lineId, rfl⟩).elim
  | deliver label quantity => exact (hother "order-deliver:" (by decide) ⟨lineId, rfl⟩).elim
  | packaging label quantity => exact (hother "order-packaging:" (by decide) ⟨lineId, rfl⟩).elim
  | reverse input hline bucket hb applied =>
    have hin : Key.InFamily "return-reverse:" (reverseInput input bucket applied).idempotencyKey :=
      ((((Key.InFamily.intro _ _).append _).append _).append _).append _
    exact (hother "return-reverse:" (by decide) hin).elim
  | effect input hline quantity effect hb =>
    have hin : Key.InFamily "return:" (effectInput input quantity effect).idempotencyKey := by
      have hfamily : Key.InFamily "return:"
          ("return:" ++ input.lineId ++ ":" ++ input.condition.text) :=
        ((Key.InFamily.intro _ _).append _).append _
      simp only [effectInput]
      split
      · exact (((hfamily.append _).append _).append _).append _
      · split
        · exact hfamily
        · exact (hfamily.append _).append _
    exact (hother "return:" (by decide) hin).elim
  | returnDelta allocation hline change hb => exact ⟨allocation, change, hline, rfl⟩

/-! ### What leaves the returns of a line alone -/

/-- **Nothing about the returns of a line has changed**: what they add up to, and which keys of
allocations are unused. -/
structure SameReturns (lineId : String) (s t : Store) : Prop where
  returned : ∀ item bucket, t.returned lineId item bucket = s.returned lineId item bucket
  noLegacy : ∀ orderId, s.NoLegacyReturns orderId → t.NoLegacyReturns orderId
  unused : ∀ item revision index,
    s.findMovement item (returnAllocationKey lineId revision item index) = none →
    t.findMovement item (returnAllocationKey lineId revision item index) = none

theorem SameReturns.refl (lineId : String) (s : Store) : SameReturns lineId s s :=
  ⟨fun _ _ => rfl, fun _ h => h, fun _ _ _ h => h⟩

theorem SameReturns.trans {lineId : String} {s t u : Store} (h : SameReturns lineId s t)
    (h' : SameReturns lineId t u) : SameReturns lineId s u :=
  ⟨fun item bucket => (h'.returned item bucket).trans (h.returned item bucket),
    fun orderId hs => h'.noLegacy orderId (h.noLegacy orderId hs),
    fun item revision index hs => h'.unused item revision index (h.unused item revision index hs)⟩

theorem SameReturns.of_movements {lineId : String} {s t : Store} (h : t.movements = s.movements) :
    SameReturns lineId s t := by
  refine ⟨fun item bucket => ?_, fun orderId hs => ?_, fun item revision index hs => ?_⟩
  · rw [Store.returned, Store.sumMovements, h]
    rfl
  · rwa [Store.NoLegacyReturns, h]
  · rwa [Store.findMovement, h]

theorem SameReturns.moved {lineId other item : String} {s t u : Store} {input : MoveInput}
    {applied : ℤ} (h : SameReturns lineId s t) (hinput : LineInput other item input)
    (hcase : lineId ≠ other ∨ input.type ∉ returnMovementTypes)
    (hm : t.Moved u item input applied) : SameReturns lineId s u := by
  refine h.trans ⟨fun i bucket => ?_, fun orderId => hm.noLegacyReturns,
    fun i revision index hs => ?_⟩
  · rw [hm.returned, if_neg, add_zero]
    rintro ⟨hline, -, -, htype⟩
    rcases hcase with hne | hno
    · exact hne (hline.symm.trans hinput.lineId_eq)
    · exact hno htype
  · rw [hm.findMovement_eq_none]
    refine ⟨hs, fun hand => ?_⟩
    obtain ⟨allocation, change, hline, rfl⟩ :=
      hinput.allocation (hand.2 ▸ returnAllocationKey_inFamily lineId revision i index)
    rcases hcase with hne | hno
    · exact hne ((returnAllocationKey_inj (hand.1 ▸ hand.2)).1.trans hline)
    · refine hno ?_
      simp only [returnDeltaInput]
      split
      · decide
      · split <;> decide

section Turns

variable {lineId : String} {s : Store} (label : String) (line : OrderLine)

end Turns

/-! ### Reconciling an item -/

def ReconcileInput.key (input : ReconcileInput) (item : String) (index : ℕ) : String :=
  returnAllocationKey input.lineId input.revision item index

theorem returnDeltaInput_type (input : ReconcileInput) (item : String)
    (change : (InventoryBucket × ℤ) × ℕ) :
    (returnDeltaInput input item change).type ∈ returnMovementTypes := by
  simp only [returnDeltaInput]
  split
  · decide
  · split <;> decide

/-! ### Reconciling a line -/

/-- The row of a line after a release: marked, if it was reserved. -/
inductive Released (line : OrderLine) : OrderLine → Prop
  | same : Released line line
  | marked (h : line.stockStatus = some .reserved) :
      Released line { line with stockStatus := some .released }

theorem Released.id_eq {line line' : OrderLine} (h : Released line line') : line'.id = line.id := by
  cases h <;> rfl

theorem Released.delivered_iff {line line' : OrderLine} (h : Released line line') :
    line'.stockStatus = some .delivered ↔ line.stockStatus = some .delivered := by
  cases h with
  | same => exact Iff.rfl
  | marked h => simp [h]

theorem lineOf_setStatus {s : Store} {orderId : String} {line : OrderLine}
    (hrow : s.lineOf orderId line.id = some line) (status : OrderLineStockStatus) :
    (s.updateLine line.id fun line => { line with stockStatus := some status }).lineOf orderId
      line.id = some { line with stockStatus := some status } := by
  have hid : ∀ l : OrderLine, ({ l with stockStatus := some status } : OrderLine).id = l.id :=
    fun _ => rfl
  rw [s.lineOf_updateLine orderId hid, hrow, Option.map_some, if_pos rfl]

theorem releaseIfReserved_row (label orderId : String) (line : OrderLine) :
    Command.Keeps (fun t => ∃ line', Released line line' ∧ t.lineOf orderId line.id = some line')
      (releaseIfReserved label line) := by
  by_cases hreserved : line.stockStatus = some .reserved
  · refine releaseIfReserved_keeps (fun item _ _ => move_keeps ?_ ?_) (Command.Keeps.modify ?_)
    · rintro s t hq ⟨line', h, hrow⟩
      exact ⟨line', h, (hq.sameBut.lineOf orderId line.id).trans hrow⟩
    · rintro s t applied hm ⟨line', h, hrow⟩
      exact ⟨line', h, (hm.sameBut.lineOf orderId line.id).trans hrow⟩
    · rintro s ⟨line', h, hrow⟩
      refine ⟨_, .marked hreserved, ?_⟩
      rw [← h.id_eq] at hrow ⊢
      rw [lineOf_setStatus hrow]
      cases h <;> rfl
  · rw [releaseIfReserved, if_neg hreserved]
    exact Command.Keeps.pure ()

end Zomaal