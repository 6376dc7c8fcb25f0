/-
**Rules for the order flow.**

A movement does one of four things (`move_cases`), of which only one changes stock (`Store.Moved`);
a method makes movements that reference the line it works on and sets the status of that line.  What
survives both survives the method (`StockStable`).

Main results:

* `move_cases` — **everything a single `move` can do**;
* `MoveStable.deliverLine` and its siblings — what no `move` breaks, no method breaks;
* `forOrderLines_ensures` — the loop over the lines of an order.
-/

import Zomaal.KeyFamilies
import Zomaal.OrderStock

set_option autoImplicit false

namespace Zomaal

/-! ### What a single movement can do -/

namespace Store

/-- Nothing but stock (balances, movements) and warnings differs. -/
def SameBut (s t : Store) : Prop :=
  t = { s with balances := t.balances, movements := t.movements, warnings := t.warnings }

structure Quiet (s t : Store) : Prop where
  sameBut : s.SameBut t
  balanceOf : ∀ item, t.balanceOf item = s.balanceOf item
  movements : t.movements = s.movements

/-- A movement of `applied` units of `input` was written for the item, and nothing else. -/
structure Moved (s t : Store) (item : String) (input : MoveInput) (applied : ℤ) : Prop where
  sameBut : s.SameBut t
  fresh : s.findMovement item input.idempotencyKey = none
  clamped : applied = clampDelta (s.balanceOf item) input.bucket input.delta
  ne_zero : applied ≠ 0
  fits : bucketField input.bucket (s.balanceOf item) + applied ≤ maxQuantity
  balanceOf : ∀ other, t.balanceOf other =
    if other = item then
      setBucketField (bucketField input.bucket (s.balanceOf item) + applied) input.bucket
        (s.balanceOf item)
    else s.balanceOf other
  movements : t.movements = s.movements ++
    [input.movement item applied (bucketField input.bucket (s.balanceOf item) + applied)]
  warnings : t.warnings =
    if applied = input.delta then s.warnings
    else s.warnings ++ [shortageWarning item input applied]

theorem SameBut.refl (s : Store) : s.SameBut s := rfl

theorem SameBut.trans {s t u : Store} (h : s.SameBut t) (h' : t.SameBut u) : s.SameBut u := by
  unfold SameBut at h h' ⊢
  rw [h'] at ⊢
  rw [h]

theorem SameBut.orders {s t : Store} (h : s.SameBut t) : t.orders = s.orders := by rw [h]

end Store

/-- **Everything a single `move` can do**: find its key used, find nothing to move, move something,
or be refused by the database. -/
theorem move_cases (item : String) (input : MoveInput) (s : Store) :
    (∃ duplicate, s.findMovement item input.idempotencyKey = some duplicate ∧
      move item input s = (.ok duplicate.quantityDelta, s)) ∨
    (∃ t, s.findMovement item input.idempotencyKey = none ∧
      clampDelta (s.balanceOf item) input.bucket input.delta = 0 ∧ s.Quiet t ∧
      (t.warnings = s.warnings → input.delta = 0) ∧ move item input s = (.ok 0, t)) ∨
    (∃ applied t, s.Moved t item input applied ∧ move item input s = (.ok applied, t)) ∨
    (∃ t, maxQuantity < bucketField input.bucket (s.balanceOf item) +
        clampDelta (s.balanceOf item) input.bucket input.delta ∧ s.Quiet t ∧
      move item input s = (.error .integerOutOfRange, t)) := by
  unfold move
  cases hfind : s.findMovement item input.idempotencyKey with
  | some duplicate => exact Or.inl ⟨duplicate, rfl, rfl⟩
  | none =>
    right
    simp only
    set applied := clampDelta (s.balanceOf item) input.bucket input.delta with happlied
    set warned := if applied = input.delta then s
      else s.warn (shortageWarning item input applied) with hwarned
    have hsame : s.SameBut warned := by
      rw [hwarned]
      split <;> rfl
    have hbalance : ∀ other, warned.balanceOf other = s.balanceOf other := by
      intro other
      rw [hwarned]
      split <;> rfl
    have hmovements : warned.movements = s.movements := by
      rw [hwarned]
      split <;> rfl
    have hwarnings : warned.warnings = if applied = input.delta then s.warnings
        else s.warnings ++ [shortageWarning item input applied] := by
      rw [hwarned]
      split <;> rfl
    by_cases hzero : applied = 0
    · -- nothing to move: the balance row is created, and the shortage logged
      left
      rw [if_pos hzero]
      have hcreated : warned.SameBut (warned.ensureDefaultBalance item) := rfl
      refine ⟨warned.ensureDefaultBalance item, trivial, hzero,
        ⟨hsame.trans hcreated, ?_, hmovements⟩, ?_, rfl⟩
      · intro other
        rw [Store.balanceOf_ensureDefaultBalance, hbalance]
      · intro hquiet
        rw [Store.warnings_ensureDefaultBalance, hwarnings] at hquiet
        by_contra hne
        rw [if_neg (by omega)] at hquiet
        simp at hquiet
    · right
      rw [if_neg hzero]
      by_cases hfit : bucketField input.bucket (s.balanceOf item) + applied ≤ maxQuantity
      · left
        rw [if_pos hfit]
        have hposted : ∀ balance movement, warned.SameBut (warned.post balance movement) :=
          fun _ _ => rfl
        refine ⟨applied, _, ⟨hsame.trans (hposted _ _), hfind, happlied, hzero, hfit, ?_, ?_, ?_⟩,
          rfl⟩
        · intro other
          rw [Store.balanceOf_post, hbalance]
          rfl
        · rw [Store.movements_post, hmovements]
        · rw [Store.warnings_post, hwarnings]
      · right
        rw [if_neg hfit]
        exact ⟨warned, by omega, ⟨hsame, hbalance, hmovements⟩, rfl⟩

namespace Store

theorem Moved.sumMovements {s t : Store} {item : String} {input : MoveInput} {applied : ℤ}
    (h : s.Moved t item input applied) (sel : InventoryMovement → Bool) :
    t.sumMovements sel = s.sumMovements sel +
      if sel (input.movement item applied
        (bucketField input.bucket (s.balanceOf item) + applied)) then applied else 0 := by
  rw [Store.sumMovements, h.movements, Ledger.total_concat]
  rfl

theorem Quiet.sumMovements {s t : Store} (h : s.Quiet t) (sel : InventoryMovement → Bool) :
    t.sumMovements sel = s.sumMovements sel := by
  rw [Store.sumMovements, h.movements]
  rfl

end Store

variable {item : String}

theorem move_of_used {input : MoveInput} {s : Store}
    (h : s.findMovement item input.idempotencyKey ≠ none) :
    ∃ a, move item input s = (.ok a, s) := by
  obtain ⟨duplicate, hused⟩ := Option.ne_none_iff_exists'.1 h
  exact ⟨duplicate.quantityDelta, by simp only [move, hused]⟩

theorem move_of_covered {input : MoveInput} {s : Store} (hvalid : ValidBalance (s.balanceOf item))
    (hfresh : s.findMovement item input.idempotencyKey = none)
    (hclamp : clampDelta (s.balanceOf item) input.bucket input.delta = input.delta)
    (hne : input.delta ≠ 0)
    (hsafe : input.delta ≤ 0 ∨ input.bucket = .reserved ∨ input.bucket = .damaged) :
    ∃ t, move item input s = (.ok input.delta, t) ∧ s.Moved t item input input.delta := by
  rcases move_cases item input s with ⟨duplicate, hused, -⟩ | ⟨t, -, hzero, -, -, -⟩ |
    ⟨applied, t, hm, hmove⟩ | ⟨t, hlarge, -, -⟩
  · rw [hfresh] at hused
    exact absurd hused (by simp)
  · exact absurd (hclamp.symm.trans hzero) hne
  · obtain rfl : applied = input.delta := hm.clamped.trans hclamp
    exact ⟨t, hmove, hm⟩
  · exact absurd hlarge (not_lt.2 (clampDelta_fits hvalid hsafe))

/-! ### The lines of the store -/

namespace Store

theorem SameBut.lines {s t : Store} (h : s.SameBut t) : t.lines = s.lines := by
  rw [Store.lines, h.orders]
  rfl

variable (s : Store)

theorem lines_updateLine (lineId : String) (change : OrderLine → OrderLine) :
    (s.updateLine lineId change).lines =
      s.lines.map fun line => if line.id = lineId then change line else line := by
  rw [lines, updateLine, lines, List.flatMap_map, List.map_flatMap]

theorem findOrder_updateLine (lineId : String) (change : OrderLine → OrderLine) (orderId : String)
    : (s.updateLine lineId change).findOrder orderId =
      (s.findOrder orderId).map fun order =>
        { order with
          lines := order.lines.map fun line => if line.id = lineId then change line else line } := by
  rw [findOrder, updateLine, List.find?_map]
  rfl

theorem mem_lines_updateLine_of_ne {s : Store} {line : OrderLine} {lineId : String}
    (h : line ∈ s.lines) (hne : line.id ≠ lineId) (change : OrderLine → OrderLine) :
    line ∈ (s.updateLine lineId change).lines := by
  rw [lines_updateLine]
  exact List.mem_map.2 ⟨line, h, if_neg hne⟩

theorem lines_sublist_of_findOrder {s : Store} {orderId : String} {order : EcommerceOrder}
    (h : s.findOrder orderId = some order) : order.lines.Sublist s.lines := by
  rw [lines, List.flatMap_def]
  exact List.sublist_flatten_of_mem (List.mem_map_of_mem (List.mem_of_find?_eq_some h))

@[simp] theorem balanceOf_updateLine (lineId : String) (change : OrderLine → OrderLine)
    (item : String) :
    (s.updateLine lineId change).balanceOf item = s.balanceOf item := rfl

end Store

/-! ### Orphans -/

namespace Store

/-- Whether a movement is one of those `netReserved` sums. -/
def reservedFor (lineId item : String) (movement : InventoryMovement) : Bool :=
  movement.refersTo lineId && (movement.inventoryItemId = item && movement.bucket = .reserved)

variable {s : Store} {line : OrderLine}

theorem exists_movement_of_netReserved_ne_zero {lineId : String}
    (h : s.netReserved lineId item ≠ 0) :
    ∃ movement ∈ s.movements, reservedFor lineId item movement = true := by
  by_contra hnone
  push Not at hnone
  exact h (Ledger.total_eq_zero fun m hm => Bool.eq_false_iff.2 (hnone m hm))

theorem mem_orphanReservations {orphan : String × ℤ} :
    orphan ∈ s.orphanReservations line ↔ line.stockStatus = some .reserved ∧ 0 < orphan.2 ∧
      s.netReserved line.id orphan.1 = orphan.2 ∧
      orphan.1 ∉ (physicalUnits line).map StockUnit.inventoryItemId := by
  by_cases hstatus : line.stockStatus = some .reserved
  · rw [orphanReservations, if_neg (not_not.2 hstatus)]
    simp only [List.mem_filter, List.mem_map, decide_eq_true_eq, hstatus, true_and]
    constructor
    · rintro ⟨⟨item, -, rfl⟩, hpos, hnot⟩
      exact ⟨hpos, rfl, by simpa using hnot⟩
    · rintro ⟨hpos, hamount, hnot⟩
      refine ⟨⟨orphan.1, ?_, Prod.ext rfl hamount⟩, hpos, by simpa using hnot⟩
      have hne : s.netReserved line.id orphan.1 ≠ 0 := by omega
      obtain ⟨movement, hm, hfor⟩ := exists_movement_of_netReserved_ne_zero hne
      simp only [reservedFor, Bool.and_eq_true, decide_eq_true_eq] at hfor
      refine List.mem_dedup.2 (List.mem_map.2 ⟨movement, List.mem_filter.2 ⟨hm, ?_⟩, hfor.2.1⟩)
      simp [hfor.1, hfor.2.2]
  · rw [orphanReservations, if_pos hstatus]
    simp [hstatus]

theorem orphanReservations_nodup (s : Store) (line : OrderLine) :
    ((s.orphanReservations line).map Prod.fst).Nodup := by
  rw [orphanReservations]
  split
  · exact List.nodup_nil
  · refine (List.filter_sublist.map _).nodup ?_
    rw [List.map_map]
    exact (List.map_id _).symm ▸ List.nodup_dedup _

end Store

/-! ### The movements about a line -/

/-- **Every movement of an item the order flow asks for** when it works on a line. -/
inductive LineInput (lineId item : String) : MoveInput → Prop
  | reserve (label : String) (unit : StockUnit) : LineInput lineId item (reserveInput label lineId unit)
  | settleDelivery (label : String) (reserved : ℤ) :
      LineInput lineId item ((deliverySettlement label).input lineId reserved)
  | settleRelease (label : String) (reserved : ℤ) :
      LineInput lineId item ((releaseSettlement label).input lineId reserved)
  | deliver (label : String) (quantity : ℤ) :
      LineInput lineId item (deliverInput label lineId quantity)
  | packaging (label : String) (quantity : ℤ) :
      LineInput lineId item (packagingInput label lineId quantity)
  | reverse (input : ReturnConditionInput) (hline : input.lineId = lineId)
      (bucket : InventoryBucket) (hbucket : bucket = .damaged ∨ bucket = .onHand) (applied : ℤ) :
      LineInput lineId item (reverseInput input bucket applied)
  | effect (input : ReturnConditionInput) (hline : input.lineId = lineId) (quantity : ℤ)
      (effect : ConditionEffect × ℕ)
      (hbucket : effect.1.bucket = .damaged ∨ effect.1.bucket = .onHand) :
      LineInput lineId item (effectInput input quantity effect)
  | returnDelta (input : ReconcileInput) (hline : input.lineId = lineId)
      (change : (InventoryBucket × ℤ) × ℕ)
      (hbucket : change.1.1 = .damaged ∨ change.1.1 = .onHand) :
      LineInput lineId item (returnDeltaInput input item change)

variable {lineId : String}

theorem LineInput.lineId_eq {input : MoveInput} (h : LineInput lineId item input) :
    input.lineId = lineId := by
  cases h with
  | reverse input hline => exact hline
  | effect input hline => exact hline
  | returnDelta input hline => exact hline
  | _ => rfl

def Settlement.Known (settlement : Settlement) : Prop :=
  ∃ label, settlement = deliverySettlement label ∨ settlement = releaseSettlement label

theorem Settlement.Known.input {settlement : Settlement} (h : settlement.Known)
    (lineId item : String) (reserved : ℤ) :
    LineInput lineId item (settlement.input lineId reserved) := by
  obtain ⟨label, rfl | rfl⟩ := h
  · exact .settleDelivery label reserved
  · exact .settleRelease label reserved

def returnFamilies : List String := ["return-reverse:", "return:", "return-allocation:"]

theorem LineInput.key_cases {input : MoveInput} (h : LineInput lineId item input) :
    (∃ settlement : Settlement, settlement.Known ∧
      ∃ reserved, input = settlement.input lineId reserved) ∨
    (∃ p ∈ ["order-reserve:", "order-deliver:", "order-packaging:"],
      input.idempotencyKey = p ++ lineId) ∨
    ∃ p ∈ returnFamilies, Key.InFamily p input.idempotencyKey := by
  cases h with
  | reserve label unit => exact Or.inr (Or.inl ⟨"order-reserve:", by decide, rfl⟩)
  | settleDelivery label reserved => exact Or.inl ⟨_, ⟨label, Or.inl rfl⟩, reserved, rfl⟩
  | settleRelease label reserved => exact Or.inl ⟨_, ⟨label, Or.inr rfl⟩, reserved, rfl⟩
  | deliver label quantity => exact Or.inr (Or.inl ⟨"order-deliver:", by decide, rfl⟩)
  | packaging label quantity => exact Or.inr (Or.inl ⟨"order-packaging:", by decide, rfl⟩)
  | reverse input hline bucket hb applied =>
    refine Or.inr (Or.inr ⟨"return-reverse:", by decide, ?_⟩)
    exact ((((Key.InFamily.intro _ _).append _).append _).append _).append _
  | effect input hline quantity effect hb =>
    refine Or.inr (Or.inr ⟨"return:", by decide, ?_⟩)
    have hkey : Key.InFamily "return:" ("return:" ++ input.lineId ++ ":" ++ input.condition.text) :=
      ((Key.InFamily.intro _ _).append _).append _
    simp only [effectInput]
    split
    · exact (((hkey.append _).append _).append _).append _
    · split
      · exact hkey
      · exact (hkey.append _).append _
  | returnDelta input hline change hb =>
    refine Or.inr (Or.inr ⟨"return-allocation:", by decide, ?_⟩)
    exact ((((((Key.InFamily.intro _ _).append _).append _).append _).append _).append _).append _

theorem conditionEffects_bucket {condition : ProductCondition} {delivered : Bool}
    {effect : ConditionEffect} (h : effect ∈ conditionEffects condition delivered) :
    effect.bucket = .damaged ∨ effect.bucket = .onHand := by
  cases condition <;> cases delivered <;> simp [conditionEffects] at h <;> grind

theorem returnDeltas_bucket {target : ReturnTarget} {onHand damaged : ℤ}
    {change : InventoryBucket × ℤ} (h : change ∈ returnDeltas target onHand damaged) :
    change.1 = .damaged ∨ change.1 = .onHand := by
  unfold returnDeltas at h
  grind

/-! ### What no movement breaks -/

/-- A property of the store that the order flow cannot break by movements about certain lines and by
setting their status. -/
structure StockStable (about : String → Prop) (I : Store → Prop) : Prop where
  quiet : ∀ {s t : Store}, s.Quiet t → I s → I t
  moved : ∀ {s t : Store} {lineId item : String} {input : MoveInput} {applied : ℤ},
    about lineId → LineInput lineId item input → s.Moved t item input applied → I s → I t
  status : ∀ {s : Store} {lineId : String} (status : OrderLineStockStatus), about lineId → I s →
    I (s.updateLine lineId fun line => { line with stockStatus := some status })

/-- A property of the store that no `move` about certain lines breaks, nor setting their status. -/
structure MoveStable (about : String → Prop) (I : Store → Prop) : Prop where
  move : ∀ {lineId : String} {input : MoveInput} (item : String), about lineId →
    LineInput lineId item input → Command.Keeps I (Zomaal.move item input)
  status : ∀ {s : Store} {lineId : String} (status : OrderLineStockStatus), about lineId → I s →
    I (s.updateLine lineId fun line => { line with stockStatus := some status })

theorem quiet_rollback (s t : Store) : s.Quiet (s.rollback t) := ⟨rfl, fun _ => rfl, rfl⟩

/-! ### The turns of a line, move by move -/

section Turns

open Command

variable {I : Store → Prop} {line : OrderLine} {label : String}

theorem move_keeps {input : MoveInput} (hquiet : ∀ {s t : Store}, s.Quiet t → I s → I t)
    (hmoved : ∀ {s t : Store} {applied : ℤ}, s.Moved t item input applied → I s → I t) :
    Keeps I (move item input) := by
  intro s hs
  rcases move_cases item input s with ⟨duplicate, -, h⟩ | ⟨t, -, -, hq, -, h⟩ |
    ⟨applied, t, hm, h⟩ | ⟨t, -, hq, h⟩
  · rw [Command.final, h]
    exact hs
  · rw [Command.final, h]
    exact hquiet hq hs
  · rw [Command.final, h]
    exact hmoved hm hs
  · rw [Command.final, h]
    exact hquiet hq hs

theorem keeps_discard {α : Type} {c : Service α} (h : Keeps I c) :
    Keeps I (do let _ ← c : Service Unit) := h.bind fun _ => Keeps.pure _

theorem settleReserved_keeps {settlement : Settlement}
    (h : ∀ reserved, 0 < reserved → Keeps I (move item (settlement.input lineId reserved))) :
    Keeps I (settleReserved settlement lineId item) := by
  intro s hs
  change I (Command.final (if 0 < s.netReserved lineId item then
    (do let _ ← move item (settlement.input lineId (s.netReserved lineId item)))
    else pure ()) s)
  split
  · rename_i hpos
    exact keeps_discard (h _ hpos) s hs
  · exact hs

theorem reserveLine_keeps
    (hmove : ∀ unit ∈ physicalUnits line,
      Keeps I (move unit.inventoryItemId (reserveInput label line.id unit)))
    (hstatus : Keeps I (setStatus line.id .reserved)) : Keeps I (reserveLine label line) :=
  Keeps.ite ((Keeps.forEach fun unit hunit => keeps_discard (hmove unit hunit)).bind
    fun _ => hstatus) (Keeps.pure ())

theorem deliverUnit_keeps {unit : StockUnit} (hpackaging : Keeps I (move unit.inventoryItemId
      (packagingInput label lineId unit.quantity)))
    (hsettle : ∀ reserved, 0 < reserved → Keeps I (move unit.inventoryItemId
      ((deliverySettlement label).input lineId reserved)))
    (hdeliver : Keeps I (move unit.inventoryItemId
      (deliverInput label lineId unit.quantity))) : Keeps I (deliverUnit label lineId unit) :=
  Keeps.ite (keeps_discard hpackaging)
    ((settleReserved_keeps hsettle).bind fun _ => keeps_discard hdeliver)

theorem forEach_orphans_keeps {work : String × ℤ → Service Unit}
    (h : ∀ orphan, 0 < orphan.2 → Keeps I (work orphan)) {next : Service Unit}
    (hnext : Keeps I next) :
    Keeps I (do
      let orphans ← Command.ask fun s => s.orphanReservations line
      Command.forEach orphans work
      next) := by
  intro s hs
  refine (Keeps.bind (Keeps.forEach fun orphan horphan => h orphan ?_) fun _ => hnext) s hs
  exact (Store.mem_orphanReservations.1 horphan).2.1

/-- **Delivering a line** settles its reservation, deducts its units and its packaging, and sets its
status. -/
theorem deliverLine_keeps {deliveredAt : Option ℤ}
    (hpackaging : ∀ item quantity, 0 < quantity →
      Keeps I (move item (packagingInput label line.id quantity)))
    (hsettle : ∀ item reserved, 0 < reserved →
      Keeps I (move item ((deliverySettlement label).input line.id reserved)))
    (hdeliver : ∀ item quantity, 0 < quantity →
      Keeps I (move item (deliverInput label line.id quantity)))
    (hstatus : Keeps I (setStatus line.id .delivered)) :
    Keeps I (deliverLine label deliveredAt line) := by
  refine Keeps.ite ?_ (Keeps.pure ())
  refine (Keeps.forEach fun unit hunit => ?_).bind fun _ =>
    forEach_orphans_keeps (fun orphan hpos => ?_) hstatus
  · have hpos := (expandOrderLine_wf line).pos unit hunit
    exact deliverUnit_keeps (hpackaging _ _ hpos) (hsettle _) (hdeliver _ _ hpos)
  · exact (hsettle _ _ hpos).bind fun _ => keeps_discard (hdeliver _ _ hpos)

theorem releaseIfReserved_keeps
    (hsettle : ∀ item reserved, 0 < reserved →
      Keeps I (move item ((releaseSettlement label).input line.id reserved)))
    (hstatus : Keeps I (setStatus line.id .released)) :
    Keeps I (releaseIfReserved label line) := by
  refine Keeps.ite ?_ (Keeps.pure ())
  exact (Keeps.forEach fun unit _ => settleReserved_keeps (hsettle _)).bind fun _ =>
    forEach_orphans_keeps (fun orphan hpos => keeps_discard (hsettle _ _ hpos)) hstatus

end Turns

theorem StockStable.moves {about : String → Prop} {I : Store → Prop} (hI : StockStable about I) :
    MoveStable about I where
  move _ ha hinput := move_keeps hI.quiet (hI.moved ha hinput)
  status := hI.status

open Command in
theorem StockStable.withOrderTransaction {about : String → Prop} {I : Store → Prop}
    (hI : StockStable about I) {α : Type} {work : Service α} (h : Keeps I work) :
    Keeps I (Zomaal.withOrderTransaction work) :=
  h.transaction fun s t hs => hI.quiet (quiet_rollback s t) hs

namespace MoveStable

open Command

variable {about : String → Prop} {I : Store → Prop}

theorem setStatus (hI : MoveStable about I) (ha : about lineId) (status : OrderLineStockStatus) :
    Keeps I (Zomaal.setStatus lineId status) :=
  Keeps.modify fun _ hs => hI.status status ha hs

variable {line : OrderLine}

theorem reserveLine (hI : MoveStable about I) (ha : about line.id) (label : String) :
    Keeps I (Zomaal.reserveLine label line) :=
  reserveLine_keeps (fun unit _ => hI.move _ ha (.reserve label unit)) (hI.setStatus ha _)

theorem deliverLine (hI : MoveStable about I) (ha : about line.id) (label : String)
    (deliveredAt : Option ℤ) : Keeps I (Zomaal.deliverLine label deliveredAt line) :=
  deliverLine_keeps (fun item _ _ => hI.move item ha (.packaging label _))
    (fun item _ _ => hI.move item ha (.settleDelivery label _))
    (fun item _ _ => hI.move item ha (.deliver label _)) (hI.setStatus ha _)

theorem releaseIfReserved (hI : MoveStable about I) (ha : about line.id) (label : String) :
    Keeps I (Zomaal.releaseIfReserved label line) :=
  releaseIfReserved_keeps (fun item _ _ => hI.move item ha (.settleRelease label _))
    (hI.setStatus ha _)

theorem reconcileItem (hI : MoveStable about I) {input : ReconcileInput}
    (ha : about input.lineId) (entry : String × ReturnTarget) :
    Keeps I (Zomaal.reconcileItem input entry) := by
  refine (Keeps.ask _).bind fun onHand => (Keeps.ask _).bind fun damaged => ?_
  refine Keeps.anyEach fun change hchange => Keeps.ite (Keeps.pure false) ?_
  have hbucket := returnDeltas_bucket (List.fst_mem_of_mem_zipIdx hchange)
  exact (hI.move _ ha (.returnDelta input rfl change hbucket)).bind fun _ => Keeps.pure _

theorem reconcileReturnTargets (hI : MoveStable about I) {input : ReconcileInput}
    (ha : about input.lineId) : Keeps I (Zomaal.reconcileReturnTargets input) := by
  refine (Keeps.ask _).bind fun loaded => ?_
  cases loaded with
  | none => exact Keeps.pure false
  | some order =>
    simp only
    cases hfound : order.lines.find? fun line => line.id = input.lineId with
    | none => exact Keeps.pure false
    | some line =>
      have hid : line.id = input.lineId := by simpa using List.find?_some hfound
      exact (hI.releaseIfReserved (hid ▸ ha) _).bind fun _ => (Keeps.ask _).bind fun _ =>
        Keeps.anyEach fun entry _ => hI.reconcileItem ha entry

variable (orderId : String)

theorem forOrderLines {work : LoadedOrder → OrderLine → Service Unit}
    (h : ∀ order line, Keeps I (work order line)) :
    Keeps I (do
      match ← loadOrder orderId with
      | none => Pure.pure ()
      | some order => Command.forEach order.lines (work order)) := by
  refine (Keeps.ask _).bind fun loaded => ?_
  cases loaded with
  | none => exact Keeps.pure ()
  | some order => exact Keeps.forEach fun line _ => h order line

section Everything

variable (hI : MoveStable (fun _ => True) I)
include hI

theorem reserveOrder : Keeps I (Zomaal.reserveOrder orderId) :=
  forOrderLines orderId fun order _ => hI.reserveLine trivial order.label

theorem deliverOrder (deliveredAt : Option ℤ) : Keeps I (Zomaal.deliverOrder orderId deliveredAt) :=
  forOrderLines orderId fun order _ => hI.deliverLine trivial order.label deliveredAt

theorem releaseOrder : Keeps I (Zomaal.releaseOrder orderId) :=
  forOrderLines orderId fun order _ => hI.releaseIfReserved trivial order.label

theorem applyReturnCondition (input : ReturnConditionInput) :
    Keeps I (Zomaal.applyReturnCondition input) := by
  refine (Keeps.ask _).bind fun found => ?_
  cases found with
  | none => exact Keeps.pure false
  | some line =>
    refine Keeps.ite (Keeps.pure false) ((hI.releaseIfReserved trivial _).bind fun _ => ?_)
    refine Keeps.anyEach fun unit _ => ?_
    refine Keeps.bind (Keeps.ite (Keeps.forEach fun bucket hbucket => ?_) (Keeps.pure ()))
      fun _ => Keeps.anyEach fun effect heffect => ?_
    · have hbucket : bucket = .damaged ∨ bucket = .onHand := by simpa using hbucket
      exact (Keeps.ask _).bind fun applied => Keeps.ite (Keeps.pure ())
        (keeps_discard (hI.move _ trivial (.reverse input rfl bucket hbucket applied)))
    · have hbucket := conditionEffects_bucket (List.fst_mem_of_mem_zipIdx heffect)
      exact (hI.move _ trivial (.effect input rfl unit.quantity effect hbucket)).bind fun _ =>
        Keeps.pure _

end Everything

end MoveStable

theorem mem_lines_stable (line : OrderLine) :
    StockStable (fun lineId => line.id ≠ lineId) (fun s => line ∈ s.lines) where
  quiet hq hs := by rwa [hq.sameBut.lines]
  moved _ _ hm hs := by rwa [hm.sameBut.lines]
  status _ hne hs := Store.mem_lines_updateLine_of_ne hs hne _

/-! ### The loop over the lines of an order -/

open Command in
/-- **What one line's turn ensures, a whole order ensures.** A turn may rely on its line being as
loaded: the other turns leave it alone. -/
theorem forOrderLines_ensures {I : Store → Prop} (orderId : String)
    {work : LoadedOrder → OrderLine → Service Unit}
    (hnodup : ∀ s, I s → (s.lines.map OrderLine.id).Nodup)
    (hwork : ∀ order line, Ensures (fun s => I s ∧ line ∈ s.lines) (work order line) (fun _ => I))
    (hother : ∀ order line other, other.id ≠ line.id →
      Keeps (fun s => other ∈ s.lines) (work order line)) :
    Ensures I (do
      match ← loadOrder orderId with
      | none => Pure.pure ()
      | some order => Command.forEach order.lines (work order)) (fun _ => I) := by
  refine Ensures.ask_bind fun loaded => ?_
  cases loaded with
  | none => exact Ensures.pure fun s hs => hs.1
  | some order =>
    -- the lines still to come are as they were loaded, and no two of them are the same
    let J : List OrderLine → Store → Prop := fun lines s =>
      I s ∧ (lines.map OrderLine.id).Nodup ∧ ∀ line ∈ lines, line ∈ s.lines
    refine Ensures.conseq (P := J order.lines) (Q := fun _ => J []) ?_ ?_ fun _ s hs => hs.1
    · refine Ensures.forEach fun line lines _ => ?_
      intro s hs
      obtain ⟨hI, hnd, hmem⟩ := hs
      rw [List.map_cons, List.nodup_cons] at hnd
      obtain ⟨a, t, hstep, ht⟩ :=
        hwork order line s ⟨hI, hmem line (List.mem_cons_self ..)⟩
      refine ⟨a, t, hstep, ht, hnd.2, fun other hother' => ?_⟩
      have hne : other.id ≠ line.id := fun heq =>
        hnd.1 (heq ▸ List.mem_map_of_mem hother')
      have hkept := hother order line other hne s (hmem other (List.mem_cons_of_mem _ hother'))
      rwa [Command.final, hstep] at hkept
    · rintro s ⟨hI, hload⟩
      obtain ⟨found, hfind, rfl⟩ := Option.map_eq_some_iff.1 hload
      have hsub := Store.lines_sublist_of_findOrder hfind
      exact ⟨hI, (hsub.map OrderLine.id).nodup (hnodup s hI), fun line hline =>
        hsub.subset hline⟩

end Zomaal
