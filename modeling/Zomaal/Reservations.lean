/-
**Reservation accounting: what is reserved belongs to a line that is waiting.**

An order line is reserved once, in possibly several movements, and its reservation is settled once,
when it is delivered or released; what was reserved of items the product no longer has is settled as
an orphan.  While a line is worked on, the invariant holds for all other lines (`ReservationInv`
with a busy line); and a settlement finds its key unused wherever something is still reserved
(`Settling.fresh`).

Main results:

* `reservations_run` — **reservations are accounted for after every run**, whatever the edits of the
  products in between;
* `reservations_swallowed` — an adjustment under the key of a settlement swallows it.
-/

import Zomaal.StockLedger

set_option autoImplicit false

namespace Zomaal

/-! ### Keys of settlements -/

def settlementKeys (lineId : String) : List String :=
  ["order-deliver-release:" ++ lineId, "order-release:" ++ lineId]

theorem Settlement.Known.key_mem {settlement : Settlement} (h : settlement.Known)
    (lineId : String) : settlement.key ++ lineId ∈ settlementKeys lineId := by
  obtain ⟨label, rfl | rfl⟩ := h
  · exact List.mem_cons_self ..
  · exact List.mem_cons_of_mem _ (List.mem_cons_self ..)

variable {input : MoveInput} {item : String}

variable {lineId : String}

theorem LineInput.settles {other : String} (h : LineInput lineId item input)
    (hkey : input.idempotencyKey ∈ settlementKeys other) :
    other = lineId ∧ ∃ settlement : Settlement, settlement.Known ∧
      ∃ reserved, input = settlement.input lineId reserved := by
  have hcross : Key.Apart "order-deliver-release:" "order-release:" := by decide
  have hapart : ∀ p ∈ ["order-reserve:", "order-deliver:", "order-packaging:"] ++ returnFamilies,
      Key.Apart "order-deliver-release:" p ∧ Key.Apart "order-release:" p := by decide
  have hother : ∀ p ∈ ["order-reserve:", "order-deliver:", "order-packaging:"] ++ returnFamilies,
      ¬ Key.InFamily p input.idempotencyKey := by
    intro p hp hin
    obtain ⟨hdeliver, hrelease⟩ := hapart p hp
    rw [settlementKeys, List.mem_cons, List.mem_singleton] at hkey
    rcases hkey with hkey | hkey
    · exact hdeliver.not_both ⟨other, hkey⟩ hin
    · exact hrelease.not_both ⟨other, hkey⟩ hin
  rcases h.key_cases with ⟨settlement, hknown, reserved, rfl⟩ | ⟨p, hp, hin⟩ | ⟨p, hp, hin⟩
  · refine ⟨?_, settlement, hknown, reserved, rfl⟩
    rw [settlementKeys, List.mem_cons, List.mem_singleton] at hkey
    obtain ⟨label, rfl | rfl⟩ := hknown
    · rcases hkey with hkey | hkey
      · exact ((String.append_right_inj _).1 hkey).symm
      · exact absurd hkey (hcross.append_ne lineId other)
    · rcases hkey with hkey | hkey
      · exact absurd hkey.symm (hcross.append_ne other lineId)
      · exact ((String.append_right_inj _).1 hkey).symm
  · exact absurd ⟨lineId, hin⟩ (hother p (List.mem_append_left _ hp))
  · exact absurd hin (hother p (List.mem_append_right _ hp))

/-! ### Questions after one movement -/

namespace Store

variable {movement : InventoryMovement}

theorem Wrote.sumMovements {s t : Store} (h : s.Wrote t movement) (sel : InventoryMovement → Bool) :
    t.sumMovements sel = s.sumMovements sel + if sel movement then movement.quantityDelta else 0 := by
  rw [Store.sumMovements, h.movements, Ledger.total_concat]
  rfl

theorem Wrote.netReserved {s t : Store} (h : s.Wrote t movement) (lineId item : String) :
    t.netReserved lineId item = s.netReserved lineId item +
      if reservedFor lineId item movement then movement.quantityDelta else 0 :=
  h.sumMovements _

theorem reservedFor_eq_false (h : movement.bucket ≠ .reserved) (lineId item : String) :
    reservedFor lineId item movement = false := by
  simp [reservedFor, h]

theorem reservedFor_movement (lineId item : String) (input : MoveInput) (other : String)
    (applied resulting : ℤ) :
    reservedFor lineId item (input.movement other applied resulting) =
      decide (input.lineId = lineId ∧ other = item ∧ input.bucket = .reserved) := by
  simp [reservedFor, InventoryMovement.refersTo, MoveInput.movement, Bool.decide_and]

theorem Wrote.findMovement_eq_none {s t : Store} (h : s.Wrote t movement) {key : String} :
    t.findMovement item key = none ↔ s.findMovement item key = none ∧
      (movement.inventoryItemId = item → movement.idempotencyKey ≠ some key) := by
  rw [findMovement_eq_none_iff, findMovement_eq_none_iff, h.movements]
  constructor
  · intro hnone
    exact ⟨fun m hm => hnone m (List.mem_append_left _ hm),
      hnone movement (List.mem_append_right _ (List.mem_singleton.2 rfl))⟩
  · rintro ⟨hold, hnew⟩ m hm
    rcases Ledger.mem_concat.1 hm with hm | rfl
    · exact hold m hm
    · exact hnew

theorem Quiet.netReserved {s t : Store} (h : s.Quiet t) (lineId item : String) :
    t.netReserved lineId item = s.netReserved lineId item := h.sumMovements _

theorem Quiet.findMovement {s t : Store} (h : s.Quiet t) (item key : String) :
    t.findMovement item key = s.findMovement item key := by
  rw [Store.findMovement, h.movements]
  rfl

end Store

/-! ### The invariant -/

/-- **The invariant of the reservations**, with the lines that are busy left out of what it says
about single lines. -/
structure ReservationInv (busy : String → Prop) (s : Store) : Prop where
  ledger : LedgerInv s
  nodup : (s.lines.map OrderLine.id).Nodup
  owned : ∀ movement ∈ s.movements, movement.bucket = .reserved →
    movement.referenceType = some orderLineReference ∧
      ∃ line ∈ s.lines, movement.referenceId = some line.id
  nonneg : ∀ lineId item, 0 ≤ s.netReserved lineId item
  settled : ∀ line ∈ s.lines, ¬ busy line.id → line.stockStatus ≠ some .reserved →
    ∀ item, s.netReserved line.id item = 0
  unsettled : ∀ line ∈ s.lines, ¬ busy line.id →
    line.stockStatus = none ∨ line.stockStatus = some .reserved →
    ∀ item, ∀ key ∈ settlementKeys line.id, s.findMovement item key = none

def noLine (_ : String) : Prop := False

def withLine (busy : String → Prop) (lineId : String) (other : String) : Prop :=
  busy other ∨ other = lineId

namespace ReservationInv

variable {busy : String → Prop} {s t : Store}

theorem total (h : ReservationInv busy s) (item : String) :
    (s.balanceOf item).reserved =
      (s.lines.map fun line => s.netReserved line.id item).sum := by
  have hbucket := h.ledger.explained item .reserved
  rw [bucketField] at hbucket
  rw [hbucket, Store.sumMovements,
    Ledger.total_eq_sum_owners (fun movement => movement.referenceId.getD "") h.nodup,
    List.map_map]
  · congr 1
    refine List.map_congr_left fun line _ => ?_
    refine Ledger.total_congr fun movement hm => ?_
    -- a movement of the bucket references one line, so its owner is that line
    by_cases hreserved : movement.bucket = .reserved
    · obtain ⟨htype, owner, -, hid⟩ := h.owned movement hm hreserved
      rw [Bool.eq_iff_iff]
      simp only [InventoryMovement.account, InventoryMovement.refersTo, hreserved, htype, hid,
        Bool.and_eq_true, decide_eq_true_eq, Option.getD_some, beq_iff_eq, Prod.mk.injEq,
        Option.some.injEq]
      tauto
    · simp [InventoryMovement.account, hreserved]
  · intro movement hm hsel
    have haccount : movement.account = (item, InventoryBucket.reserved) := by simpa using hsel
    obtain ⟨-, owner, howner, hid⟩ := h.owned movement hm (congrArg Prod.snd haccount)
    rw [hid]
    exact List.mem_map_of_mem howner

theorem netReserved_le (h : ReservationInv busy s) {line : OrderLine} (hline : line ∈ s.lines)
    (item : String) : s.netReserved line.id item ≤ (s.balanceOf item).reserved := by
  rw [h.total]
  refine List.single_le_sum (fun x hx => ?_) _ (List.mem_map_of_mem hline)
  obtain ⟨other, -, rfl⟩ := List.mem_map.1 hx
  exact h.nonneg other.id item

theorem weaken {busy' : String → Prop} (h : ReservationInv busy s)
    (hbusy : ∀ lineId, busy lineId → busy' lineId) : ReservationInv busy' s :=
  ⟨h.ledger, h.nodup, h.owned, h.nonneg,
    fun line hl hb => h.settled line hl fun hbusy' => hb (hbusy line.id hbusy'),
    fun line hl hb => h.unsettled line hl fun hbusy' => hb (hbusy line.id hbusy')⟩

theorem quiet (h : ReservationInv busy s) (hq : s.Quiet t) : ReservationInv busy t := by
  have hlines := hq.sameBut.lines
  refine ⟨h.ledger.of_quiet hq.balanceOf hq.movements, ?_, ?_, fun lineId item => ?_, ?_, ?_⟩
  · rw [hlines]
    exact h.nodup
  · rw [hlines, hq.movements]
    exact h.owned
  · rw [hq.netReserved]
    exact h.nonneg lineId item
  · intro line hl hb hs item
    rw [hq.netReserved]
    exact h.settled line (hlines ▸ hl) hb hs item
  · intro line hl hb hs item key hkey
    rw [hq.findMovement]
    exact h.unsettled line (hlines ▸ hl) hb hs item key hkey

/-- **One movement keeps the invariant** when, if it touches the reserved bucket, its line is busy
and keeps a nonnegative reservation, and it uses no settlement key of a line that is not busy. -/
theorem wrote {movement : InventoryMovement} (h : ReservationInv busy s)
    (hw : s.Wrote t movement) (hlines : t.lines = s.lines)
    (hvalid : ValidBalance (t.balanceOf movement.inventoryItemId))
    (howner : movement.bucket = .reserved → movement.referenceType = some orderLineReference ∧
      ∃ line ∈ s.lines, busy line.id ∧ movement.referenceId = some line.id)
    (hnonneg : movement.bucket = .reserved →
      ∀ lineId item, busy lineId → 0 ≤ t.netReserved lineId item)
    (hkey : ∀ line ∈ s.lines, ¬ busy line.id → ∀ key ∈ settlementKeys line.id,
      movement.idempotencyKey ≠ some key) : ReservationInv busy t := by
  -- lines that are not busy have as much reserved as before
  have hother : ∀ lineId item, ¬ busy lineId →
      t.netReserved lineId item = s.netReserved lineId item := by
    intro lineId item hb
    rw [hw.netReserved]
    by_cases hreserved : movement.bucket = .reserved
    · obtain ⟨-, line, -, hbusy, hid⟩ := howner hreserved
      have hne : line.id ≠ lineId := fun heq => hb (heq ▸ hbusy)
      simp [Store.reservedFor, InventoryMovement.refersTo, hid, hne]
    · simp [Store.reservedFor_eq_false hreserved]
  refine ⟨h.ledger.wrote hw hvalid, ?_, ?_, ?_, ?_, ?_⟩
  · rw [hlines]
    exact h.nodup
  · intro m hm hreserved
    rw [hw.movements] at hm
    rw [hlines]
    rcases Ledger.mem_concat.1 hm with hm | rfl
    · exact h.owned m hm hreserved
    · obtain ⟨htype, line, hl, -, hid⟩ := howner hreserved
      exact ⟨htype, line, hl, hid⟩
  · intro lineId item
    by_cases hb : busy lineId
    · by_cases hreserved : movement.bucket = .reserved
      · exact hnonneg hreserved lineId item hb
      · rw [hw.netReserved, Store.reservedFor_eq_false hreserved]
        simpa using h.nonneg lineId item
    · rw [hother lineId item hb]
      exact h.nonneg lineId item
  · intro line hl hb hs item
    rw [hother line.id item hb]
    exact h.settled line (hlines ▸ hl) hb hs item
  · intro line hl hb hs item key hk
    rw [hlines] at hl
    rw [hw.findMovement_eq_none]
    exact ⟨h.unsettled line hl hb hs item key hk, fun _ => hkey line hl hb key hk⟩

theorem setStatus {line : OrderLine} {status : OrderLineStockStatus}
    (h : ReservationInv (withLine busy line.id) s)
    (hsettled : status ≠ .reserved → ∀ item, s.netReserved line.id item = 0)
    (hunsettled : status = .reserved →
      ∀ item, ∀ key ∈ settlementKeys line.id, s.findMovement item key = none) :
    ReservationInv busy
      (s.updateLine line.id fun line => { line with stockStatus := some status }) := by
  set t := s.updateLine line.id fun line => { line with stockStatus := some status } with ht
  have hlines : ∀ other ∈ t.lines,
      (other.id = line.id ∧ other.stockStatus = some status) ∨
        (other.id ≠ line.id ∧ other ∈ s.lines) := by
    intro other hother
    rw [ht, Store.lines_updateLine] at hother
    obtain ⟨l, hl, rfl⟩ := List.mem_map.1 hother
    split
    · exact Or.inl ⟨by assumption, rfl⟩
    · exact Or.inr ⟨by assumption, hl⟩
  have hids : t.lines.map OrderLine.id = s.lines.map OrderLine.id := by
    rw [ht, Store.lines_updateLine, List.map_map]
    refine List.map_congr_left fun l _ => ?_
    simp only [Function.comp_apply]
    split <;> rfl
  refine ⟨h.ledger.of_quiet (fun _ => rfl) rfl, ?_, ?_, h.nonneg, ?_, ?_⟩
  · rw [hids]
    exact h.nodup
  · intro m hm hreserved
    obtain ⟨htype, l, hl, hid⟩ := h.owned m hm hreserved
    have hmem : l.id ∈ t.lines.map OrderLine.id := hids ▸ List.mem_map_of_mem hl
    obtain ⟨l', hl', hid'⟩ := List.mem_map.1 hmem
    exact ⟨htype, l', hl', hid'.symm ▸ hid⟩
  · intro other hother hb hs item
    rcases hlines other hother with ⟨hid, hst⟩ | ⟨hne, hmem⟩
    · rw [hid]
      exact hsettled (fun heq => hs (heq ▸ hst)) item
    · exact h.settled other hmem (not_or.2 ⟨hb, hne⟩) hs item
  · intro other hother hb hs item key hkey
    rcases hlines other hother with ⟨hid, hst⟩ | ⟨hne, hmem⟩
    · rw [hid] at hkey
      rw [hst] at hs
      exact hunsettled (by simpa using hs) item key hkey
    · exact h.unsettled other hmem (not_or.2 ⟨hb, hne⟩) hs item key hkey

end ReservationInv

/-! ### Questions after a movement about a line -/

variable {applied : ℤ}

theorem Store.Moved.netReserved {s t : Store} (h : s.Moved t item input applied)
    (lineId other : String) :
    t.netReserved lineId other = s.netReserved lineId other +
      if input.lineId = lineId ∧ item = other ∧ input.bucket = .reserved then applied else 0 := by
  rw [h.wrote.netReserved, Store.reservedFor_movement]
  simp only [decide_eq_true_eq]
  rfl

theorem Store.Moved.findMovement_eq_none {s t : Store} (h : s.Moved t item input applied)
    (other key : String) :
    t.findMovement other key = none ↔
      s.findMovement other key = none ∧ ¬ (other = item ∧ key = input.idempotencyKey) := by
  rw [h.wrote.findMovement_eq_none]
  simp only [MoveInput.movement, ne_eq, Option.some.injEq, not_and]
  constructor
  · rintro ⟨hold, hnew⟩
    exact ⟨hold, fun hi hk => hnew hi.symm hk.symm⟩
  · rintro ⟨hold, hnew⟩
    exact ⟨hold, fun hi hk => hnew hi.symm hk.symm⟩

/-! ### The keys of other lines -/

def lineFamilies : List String :=
  ["order-reserve:", "order-deliver:", "order-deliver-release:", "order-release:",
    "order-packaging:"]

theorem LineInput.key_ne {other p : String} (h : LineInput lineId item input) (hne : other ≠ lineId)
    (hp : p ∈ lineFamilies) : input.idempotencyKey ≠ p ++ other := by
  have hline : ∀ p ∈ lineFamilies, ∀ q ∈ lineFamilies, p ≠ q → Key.Apart q p := by decide
  have hreturn : ∀ p ∈ lineFamilies, ∀ q ∈ returnFamilies, Key.Apart q p := by decide
  -- a key of the line itself is of the same family or of one that is apart
  have hown : ∀ q ∈ lineFamilies, q ++ lineId ≠ p ++ other := by
    intro q hq heq
    by_cases hpq : p = q
    · rw [hpq] at heq
      exact hne ((String.append_right_inj q).1 heq).symm
    · exact (hline p hp q hq hpq).append_ne lineId other heq
  rcases h.key_cases with ⟨settlement, ⟨label, rfl | rfl⟩, reserved, rfl⟩ | ⟨q, hq, hkey⟩ |
    ⟨q, hq, hin⟩
  · exact hown "order-deliver-release:" (by decide)
  · exact hown "order-release:" (by decide)
  · rw [hkey]
    have hmem : ∀ q ∈ ["order-reserve:", "order-deliver:", "order-packaging:"],
        q ∈ lineFamilies := by decide
    exact hown q (hmem q hq)
  · intro hkey
    exact (hreturn p hp q hq).not_both hin ⟨other, hkey⟩

/-- Nothing about a line has changed but its row: its reservations and its keys are as they were. -/
structure SameLine (lineId : String) (s t : Store) : Prop where
  netReserved : ∀ item, t.netReserved lineId item = s.netReserved lineId item
  unused : ∀ item, ∀ p ∈ lineFamilies,
    (t.findMovement item (p ++ lineId) = none ↔ s.findMovement item (p ++ lineId) = none)

theorem SameLine.refl (lineId : String) (s : Store) : SameLine lineId s s :=
  ⟨fun _ => rfl, fun _ _ _ => Iff.rfl⟩

theorem sameLine_stable (lineId : String) (s : Store) :
    StockStable (fun other => lineId ≠ other) (SameLine lineId s) where
  quiet hq h := by
    refine ⟨fun item => ?_, fun item p hp => ?_⟩
    · rw [hq.netReserved, h.netReserved]
    · rw [hq.findMovement, h.unused item p hp]
  moved hne hinput hm h := by
    refine ⟨fun item => ?_, fun item p hp => ?_⟩
    · rw [hm.netReserved, if_neg, add_zero, h.netReserved]
      exact fun hand => hne (hand.1.symm.trans hinput.lineId_eq)
    · rw [hm.findMovement_eq_none, h.unused item p hp]
      exact and_iff_left fun hand => hinput.key_ne hne hp hand.2.symm
  status _ _ h := ⟨h.netReserved, h.unused⟩

/-! ### A busy line -/

theorem ReservationInv.moved {busy : String → Prop} {s t : Store}
    (h : ReservationInv (withLine busy lineId) s) (hinput : LineInput lineId item input)
    (hm : s.Moved t item input applied) (hhere : ∃ line ∈ s.lines, line.id = lineId)
    (hnonneg : input.bucket = .reserved → 0 ≤ s.netReserved lineId item + applied) :
    ReservationInv (withLine busy lineId) t := by
  refine h.wrote hm.wrote hm.sameBut.lines ((h.ledger.moved hm).valid _) ?_ ?_ ?_
  · intro _
    obtain ⟨line, hline, hid⟩ := hhere
    refine ⟨rfl, line, hline, Or.inr hid, ?_⟩
    rw [hid, ← hinput.lineId_eq]
    rfl
  · intro hreserved other i _
    rw [hm.netReserved]
    split
    · rename_i hsame
      obtain ⟨hother, rfl, -⟩ := hsame
      rw [hinput.lineId_eq] at hother
      exact hother ▸ hnonneg hreserved
    · rw [add_zero]
      exact h.nonneg other i
  · intro line _ hne key hkey heq
    have hused : input.idempotencyKey = key := by simpa [MoveInput.movement] using heq
    exact hne (Or.inr (hinput.settles (hused ▸ hkey)).1)

/-- While the reservation of a line is settled: only a reserved line has orphans, and a settlement
finds its key unused wherever something is reserved. -/
structure Settling (busy : String → Prop) (settlement : Settlement) (line : OrderLine)
    (s : Store) : Prop where
  inv : ReservationInv (withLine busy line.id) s
  here : line ∈ s.lines
  idle : line.stockStatus ≠ some .reserved → ∀ item, s.netReserved line.id item ≠ 0 →
    item ∈ (physicalUnits line).map StockUnit.inventoryItemId
  fresh : ∀ item, s.findMovement item (settlement.key ++ line.id) ≠ none →
    s.netReserved line.id item = 0

namespace Settling

variable {busy : String → Prop} {settlement : Settlement} {line : OrderLine} {s t : Store}

theorem start (h : ReservationInv noLine s) (hline : line ∈ s.lines) (hknown : settlement.Known) :
    Settling busy settlement line s := by
  refine ⟨h.weaken fun _ => False.elim, hline,
    fun hs item hne => absurd (h.settled line hline id hs item) hne, fun item hused => ?_⟩
  by_cases hstatus : line.stockStatus = none ∨ line.stockStatus = some .reserved
  · exact absurd (h.unsettled line hline id hstatus item _ (hknown.key_mem line.id)) hused
  · exact h.settled line hline id (fun heq => hstatus (Or.inr heq)) item

theorem quiet (h : Settling busy settlement line s) (hq : s.Quiet t) :
    Settling busy settlement line t := by
  refine ⟨h.inv.quiet hq, hq.sameBut.lines ▸ h.here, fun hs item hne => ?_, fun item hused => ?_⟩
  · rw [hq.netReserved] at hne
    exact h.idle hs item hne
  · rw [hq.findMovement] at hused
    rw [hq.netReserved]
    exact h.fresh item hused

theorem move_other (h : Settling busy settlement line s) (hknown : settlement.Known) (item : String)
    (hinput : LineInput line.id item input) (hbucket : input.bucket ≠ .reserved)
    (hdelta : input.delta ≤ 0) :
    ∃ a t, move item input s = (.ok a, t) ∧ Settling busy settlement line t ∧
      ∀ i, t.netReserved line.id i = s.netReserved line.id i := by
  rcases move_cases item input s with ⟨duplicate, -, hmove⟩ | ⟨t, -, -, hq, -, hmove⟩ |
    ⟨applied, t, hm, hmove⟩ | ⟨t, hlarge, -, -⟩
  · exact ⟨_, _, hmove, h, fun _ => rfl⟩
  · exact ⟨_, _, hmove, h.quiet hq, hq.netReserved line.id⟩
  · have hsame : ∀ i, t.netReserved line.id i = s.netReserved line.id i := by
      intro i
      rw [hm.netReserved, if_neg fun hand => hbucket hand.2.2, add_zero]
    refine ⟨_, _, hmove, ⟨?_, hm.sameBut.lines ▸ h.here, ?_, ?_⟩, hsame⟩
    · exact h.inv.moved hinput hm ⟨line, h.here, rfl⟩ fun hb => absurd hb hbucket
    · intro hs item hne
      rw [hsame] at hne
      exact h.idle hs item hne
    · intro i hused
      rw [hsame]
      refine h.fresh i fun hunused => hused ?_
      rw [hm.wrote.findMovement_eq_none]
      refine ⟨hunused, fun _ heq => ?_⟩
      -- a movement with the key of the settlement would be one
      have hkey : input.idempotencyKey = settlement.key ++ line.id := by
        simpa [MoveInput.movement] using heq
      obtain ⟨-, other, -, reserved, rfl⟩ := hinput.settles (hkey ▸ hknown.key_mem line.id)
      exact hbucket rfl
  · exact absurd hlarge (not_lt.2 (clampDelta_fits (h.inv.ledger.valid item) (Or.inl hdelta)))

theorem settle (h : Settling busy settlement line s) (hknown : settlement.Known) {reserved : ℤ}
    (hreserved : s.netReserved line.id item = reserved) (hpos : 0 < reserved) :
    ∃ a t, move item (settlement.input line.id reserved) s = (.ok a, t) ∧
      Settling busy settlement line t ∧
      ∀ i, t.netReserved line.id i = if i = item then 0 else s.netReserved line.id i := by
  set input := settlement.input line.id reserved with hinput
  have hunused : s.findMovement item input.idempotencyKey = none := by
    by_contra hused
    have := h.fresh item hused
    omega
  have hcover := h.inv.netReserved_le h.here item
  have hclamp : clampDelta (s.balanceOf item) input.bucket input.delta = -reserved := by
    refine clampDelta_eq_self ?_ ?_ ?_
    · intro hup
      exact absurd hup (by simp only [hinput, Settlement.input]; omega)
    · intro _ hb
      exact absurd hb (by simp [hinput, Settlement.input])
    · intro _ _
      simp only [hinput, Settlement.input, bucketField]
      omega
  rcases move_cases item input s with ⟨duplicate, hused, -⟩ | ⟨t, -, hzero, -, -, -⟩ |
    ⟨applied, t, hm, hmove⟩ | ⟨t, hlarge, -, -⟩
  · rw [hunused] at hused
    exact absurd hused (by simp)
  · omega
  · have happlied : applied = -reserved := hm.clamped.trans hclamp
    have hline : input.lineId = line.id := rfl
    have hafter : ∀ i, t.netReserved line.id i =
        if i = item then 0 else s.netReserved line.id i := by
      intro i
      rw [hm.netReserved]
      by_cases hi : i = item
      · rw [if_pos ⟨hline, hi.symm, rfl⟩, if_pos hi, hi]
        omega
      · rw [if_neg fun hand => hi hand.2.1.symm, if_neg hi, add_zero]
    refine ⟨_, _, hmove, ⟨?_, hm.sameBut.lines ▸ h.here, ?_, ?_⟩, hafter⟩
    · exact h.inv.moved (hknown.input line.id item reserved) hm ⟨line, h.here, rfl⟩ fun _ => by omega
    · intro hs i hne
      rw [hafter] at hne
      exact h.idle hs i fun hzero => hne (by rw [hzero, ite_self])
    · intro i hused
      rw [hafter]
      split
      · rfl
      · rename_i hi
        refine h.fresh i fun hfree => hused ?_
        rw [hm.wrote.findMovement_eq_none]
        exact ⟨hfree, fun heq => absurd heq.symm hi⟩
  · have hdelta : input.delta ≤ 0 := by
      simp only [hinput, Settlement.input]
      omega
    exact absurd hlarge (not_lt.2 (clampDelta_fits (h.inv.ledger.valid item) (Or.inl hdelta)))

theorem settleReserved (h : Settling busy settlement line s) (hknown : settlement.Known)
    (item : String) :
    ∃ t, Zomaal.settleReserved settlement line.id item s = (.ok (), t) ∧
      Settling busy settlement line t ∧
      ∀ i, t.netReserved line.id i = if i = item then 0 else s.netReserved line.id i := by
  have hunfold : Zomaal.settleReserved settlement line.id item s =
      (if 0 < s.netReserved line.id item then (do
          let _ ← move item (settlement.input line.id (s.netReserved line.id item)))
        else pure ()) s := rfl
  rw [hunfold]
  by_cases hpos : 0 < s.netReserved line.id item
  · obtain ⟨a, t, hmove, ht, hafter⟩ := h.settle hknown rfl hpos
    refine ⟨t, ?_, ht, hafter⟩
    rw [if_pos hpos, Command.bind_of_ok hmove]
    rfl
  · refine ⟨s, by rw [if_neg hpos]; rfl, h, fun i => ?_⟩
    split
    · rename_i hi
      have := h.inv.nonneg line.id item
      rw [hi]
      omega
    · rfl

end Settling

/-! ### The turn of a line that is reserved -/

structure Reserving (busy : String → Prop) (line : OrderLine) (s : Store) : Prop where
  inv : ReservationInv (withLine busy line.id) s
  here : line ∈ s.lines
  unused : ∀ item, ∀ key ∈ settlementKeys line.id, s.findMovement item key = none

variable {unit : StockUnit}

open Command in
theorem reserveUnit_ensures (busy : String → Prop) (label : String) (line : OrderLine)
    (hpos : 0 < unit.quantity) :
    Ensures (Reserving busy line) (reserveUnit label line.id unit)
      (fun _ => Reserving busy line) := by
  refine Ensures.bind (Q := fun _ => Reserving busy line) ?_ fun _ => Ensures.pure fun s hs => hs
  intro s hs
  set input := reserveInput label line.id unit with hinput
  rcases move_cases unit.inventoryItemId input s with ⟨duplicate, -, hmove⟩ |
    ⟨t, -, -, hq, -, hmove⟩ | ⟨applied, t, hm, hmove⟩ | ⟨t, hlarge, -, -⟩
  · exact ⟨_, _, hmove, hs⟩
  · refine ⟨_, _, hmove, hs.inv.quiet hq, hq.sameBut.lines ▸ hs.here, fun item key hkey => ?_⟩
    rw [hq.findMovement]
    exact hs.unused item key hkey
  · have happlied : 0 ≤ applied := by
      rw [hm.clamped]
      exact ((clampDelta_bounds _ _ _).1 hpos.le).1
    refine ⟨_, _, hmove, ?_, hm.sameBut.lines ▸ hs.here, fun item key hkey => ?_⟩
    · refine hs.inv.moved (.reserve label unit) hm ⟨line, hs.here, rfl⟩ fun _ => ?_
      have := hs.inv.nonneg line.id unit.inventoryItemId
      omega
    · rw [hm.wrote.findMovement_eq_none]
      refine ⟨hs.unused item key hkey, fun _ heq => ?_⟩
      have hused : input.idempotencyKey = key := by simpa [MoveInput.movement] using heq
      -- the key of a reservation is not the key of a settlement
      have hlinput : LineInput line.id unit.inventoryItemId input := .reserve label unit
      obtain ⟨-, settlement, ⟨label', rfl | rfl⟩, reserved, hsettle⟩ :=
        hlinput.settles (hused ▸ hkey)
      · exact absurd (congrArg MoveInput.type hsettle) (by
          simp [hinput, reserveInput, Settlement.input, deliverySettlement])
      · exact absurd (congrArg MoveInput.type hsettle) (by
          simp [hinput, reserveInput, Settlement.input, releaseSettlement])
  · exact absurd hlarge
      (not_lt.2 (clampDelta_fits (hs.inv.ledger.valid unit.inventoryItemId) (Or.inr (Or.inl rfl))))

open Command in
theorem reserveLine_ensures (label : String) (line : OrderLine) :
    Ensures (fun s => ReservationInv noLine s ∧ line ∈ s.lines) (reserveLine label line)
      (fun _ => ReservationInv noLine) := by
  unfold reserveLine
  split
  · rename_i hreservable
    have hnone : line.stockStatus = none := by
      simp only [OrderLine.reservable, Bool.and_eq_true, Option.isNone_iff_eq_none] at hreservable
      exact hreservable.2
    refine Ensures.bind (Q := fun _ => Reserving noLine line) ?_ fun _ =>
      Ensures.modify fun s hs => ?_
    · refine Ensures.conseq (P := Reserving noLine line) (Q := fun _ => Reserving noLine line)
        (Ensures.forEach (I := fun _ => Reserving noLine line) fun unit _ hunit => ?_) ?_
        fun _ s hs => hs
      · exact reserveUnit_ensures noLine label line ((physicalUnits_wf line).pos unit hunit)
      · intro s hs
        exact ⟨hs.1.weaken fun _ => False.elim, hs.2, hs.1.unsettled line hs.2 id (Or.inl hnone)⟩
    · exact hs.inv.setStatus (fun hne => absurd rfl hne) fun _ => hs.unused
  · exact Ensures.pure fun s hs => hs.1

/-! ### The turn of a line that is settled -/

/-- The units still to come cover what is still reserved of the items of the product. -/
def UnitsPending (busy : String → Prop) (settlement : Settlement) (line : OrderLine)
    (units : List StockUnit) (s : Store) : Prop :=
  Settling busy settlement line s ∧ ∀ item ∈ (physicalUnits line).map StockUnit.inventoryItemId,
    s.netReserved line.id item ≠ 0 →
      ∃ unit ∈ units, unit.role ≠ .packaging ∧ unit.inventoryItemId = item

/-- The orphans still to come are what is still reserved. -/
structure OrphansPending (busy : String → Prop) (settlement : Settlement) (line : OrderLine)
    (orphans : List (String × ℤ)) (s : Store) : Prop where
  settling : Settling busy settlement line s
  nodup : (orphans.map Prod.fst).Nodup
  amount : ∀ orphan ∈ orphans, 0 < orphan.2 ∧ s.netReserved line.id orphan.1 = orphan.2
  cover : ∀ item, s.netReserved line.id item ≠ 0 → item ∈ orphans.map Prod.fst

section Turn

variable {busy : String → Prop} {settlement : Settlement} {line : OrderLine} {s t : Store}

theorem UnitsPending.tail {units : List StockUnit}
    (h : UnitsPending busy settlement line (unit :: units) s) (ht : Settling busy settlement line t)
    (hafter : ∀ i, t.netReserved line.id i =
      if unit.role ≠ .packaging ∧ i = unit.inventoryItemId then 0 else s.netReserved line.id i) :
    UnitsPending busy settlement line units t := by
  refine ⟨ht, fun item hitem hne => ?_⟩
  rw [hafter] at hne
  split at hne
  · exact absurd rfl hne
  · rename_i hother
    obtain ⟨u, hu, hrole, hui⟩ := h.2 item hitem hne
    rcases List.mem_cons.1 hu with rfl | hu
    · exact absurd ⟨hrole, hui.symm⟩ hother
    · exact ⟨u, hu, hrole, hui⟩

theorem UnitsPending.orphans (h : UnitsPending busy settlement line [] s) :
    OrphansPending busy settlement line (s.orphanReservations line) s := by
  obtain ⟨hsettling, hcovered⟩ := h
  refine ⟨hsettling, s.orphanReservations_nodup line, fun orphan horphan => ?_, fun item hne => ?_⟩
  · obtain ⟨-, hpos, hamount, -⟩ := Store.mem_orphanReservations.1 horphan
    exact ⟨hpos, hamount⟩
  · have hnone : item ∉ (physicalUnits line).map StockUnit.inventoryItemId := fun hcurrent => by
      obtain ⟨unit, hunit, -, -⟩ := hcovered item hcurrent hne
      simp at hunit
    have hstatus : line.stockStatus = some .reserved := by
      by_contra hnot
      exact hnone (hsettling.idle hnot item hne)
    have hpos : 0 < s.netReserved line.id item := by
      have := hsettling.inv.nonneg line.id item
      omega
    refine List.mem_map.2 ⟨(item, s.netReserved line.id item),
      Store.mem_orphanReservations.2 ⟨hstatus, hpos, rfl, hnone⟩, rfl⟩

theorem OrphansPending.tail {orphan : String × ℤ} {orphans : List (String × ℤ)}
    (h : OrphansPending busy settlement line (orphan :: orphans) s)
    (ht : Settling busy settlement line t)
    (hafter : ∀ i, t.netReserved line.id i =
      if i = orphan.1 then 0 else s.netReserved line.id i) :
    OrphansPending busy settlement line orphans t := by
  have hnodup := h.nodup
  rw [List.map_cons, List.nodup_cons] at hnodup
  refine ⟨ht, hnodup.2, fun other hother => ?_, fun item hne => ?_⟩
  · obtain ⟨hpos, hamount⟩ := h.amount other (List.mem_cons_of_mem _ hother)
    have hother' : other.1 ≠ orphan.1 := fun heq =>
      hnodup.1 (heq ▸ List.mem_map_of_mem hother)
    exact ⟨hpos, by rw [hafter, if_neg hother', hamount]⟩
  · rw [hafter] at hne
    split at hne
    · exact absurd rfl hne
    · rename_i hi
      rcases List.mem_cons.1 (h.cover item hne) with heq | hmem
      · exact absurd heq hi
      · exact hmem

theorem OrphansPending.setStatus {status : OrderLineStockStatus}
    (h : OrphansPending busy settlement line [] s) (hstatus : status ≠ .reserved) :
    ReservationInv busy
      (s.updateLine line.id fun line => { line with stockStatus := some status }) := by
  refine h.settling.inv.setStatus (fun _ item => ?_) fun heq => absurd heq hstatus
  by_contra hne
  simpa using h.cover item hne

end Turn

/-! ### Delivering and releasing a line -/

variable {label : String}

variable {s : Store} {line : OrderLine}

theorem Settling.deliverUnit {busy : String → Prop}
    (h : Settling busy (deliverySettlement label) line s) (hpos : 0 < unit.quantity) :
    ∃ t, Zomaal.deliverUnit label line.id unit s = (.ok (), t) ∧
      Settling busy (deliverySettlement label) line t ∧
      ∀ i, t.netReserved line.id i =
        if unit.role ≠ .packaging ∧ i = unit.inventoryItemId then 0
        else s.netReserved line.id i := by
  have hknown : (deliverySettlement label).Known := ⟨label, Or.inl rfl⟩
  unfold Zomaal.deliverUnit
  by_cases hrole : unit.role = .packaging
  · obtain ⟨a, t, hmove, ht, hafter⟩ := h.move_other hknown unit.inventoryItemId
      (.packaging label unit.quantity) (fun heq => nomatch heq)
      (by simp only [packagingInput]; omega)
    refine ⟨t, ?_, ht, fun i => ?_⟩
    · rw [if_pos hrole, Command.bind_of_ok hmove]
      rfl
    · rw [hafter, if_neg fun hand => hand.1 hrole]
  · obtain ⟨t, hsettle, ht, hafter⟩ := h.settleReserved hknown unit.inventoryItemId
    obtain ⟨a, u, hmove, hu, hafter'⟩ := ht.move_other hknown unit.inventoryItemId
      (.deliver label unit.quantity) (fun heq => nomatch heq) (by simp only [deliverInput]; omega)
    refine ⟨u, ?_, hu, fun i => ?_⟩
    · rw [if_neg hrole, Command.bind_of_ok hsettle, Command.bind_of_ok hmove]
      rfl
    · rw [hafter', hafter]
      simp [hrole]

theorem Settling.deliverOrphan {busy : String → Prop} {orphan : String × ℤ}
    (h : Settling busy (deliverySettlement label) line s) (hpos : 0 < orphan.2)
    (hamount : s.netReserved line.id orphan.1 = orphan.2) :
    ∃ t, Zomaal.deliverOrphan label line.id orphan s = (.ok (), t) ∧
      Settling busy (deliverySettlement label) line t ∧
      ∀ i, t.netReserved line.id i = if i = orphan.1 then 0 else s.netReserved line.id i := by
  have hknown : (deliverySettlement label).Known := ⟨label, Or.inl rfl⟩
  obtain ⟨a, t, hsettle, ht, hafter⟩ := h.settle hknown hamount hpos
  obtain ⟨b, u, hmove, hu, hafter'⟩ := ht.move_other hknown orphan.1
    (.deliver label orphan.2) (fun heq => nomatch heq) (by simp only [deliverInput]; omega)
  refine ⟨u, ?_, hu, fun i => by rw [hafter', hafter]⟩
  rw [Zomaal.deliverOrphan, Command.bind_of_ok hsettle, Command.bind_of_ok hmove]
  rfl

/-- The line is marked: its status is `status`. -/
def Store.Marked (s : Store) (lineId : String) (status : OrderLineStockStatus) : Prop :=
  ∀ line ∈ s.lines, line.id = lineId → line.stockStatus = some status

theorem Store.marked_updateLine (s : Store) (lineId : String) (status : OrderLineStockStatus) :
    (s.updateLine lineId fun line => { line with stockStatus := some status }).Marked lineId
      status := by
  intro line hline hid
  rw [lines_updateLine] at hline
  obtain ⟨old, -, rfl⟩ := List.mem_map.1 hline
  split
  · rfl
  · rename_i hne
    rw [if_neg hne] at hid
    exact absurd hid hne

section Turns

open Command

variable {busy : String → Prop}

theorem deliverLine_settles {deliveredAt : Option ℤ} (h : line.deliverable deliveredAt = true) :
    Ensures (Settling busy (deliverySettlement label) line) (deliverLine label deliveredAt line)
      (fun _ t => ReservationInv busy t ∧ t.Marked line.id .delivered) := by
  set settlement := deliverySettlement label with hsettlement
  rw [deliverLine, if_pos h]
  refine Ensures.bind (Q := fun _ => UnitsPending busy settlement line []) ?_ fun _ => ?_
  · refine Ensures.conseq (Ensures.forEach (I := UnitsPending busy settlement line)
      fun unit units hunit => ?_) ?_ fun _ s hs => hs
    · intro s hs
      obtain ⟨t, hstep, ht, hafter⟩ :=
        hs.1.deliverUnit ((expandOrderLine_wf line).pos unit hunit)
      exact ⟨(), t, hstep, hs.tail ht hafter⟩
    · intro s hs
      refine ⟨hs, fun item hitem _ => ?_⟩
      obtain ⟨unit, hunit, hui⟩ := List.mem_map.1 hitem
      obtain ⟨hmem, hrole⟩ := List.mem_filter.1 hunit
      exact ⟨unit, hmem, by simpa using hrole, hui⟩
  · refine Ensures.ask_bind fun orphans => ?_
    refine Ensures.bind (Q := fun _ => OrphansPending busy settlement line []) ?_ fun _ =>
      Ensures.modify fun s hs => ⟨hs.setStatus (by decide), s.marked_updateLine line.id _⟩
    refine Ensures.conseq (Ensures.forEach (I := OrphansPending busy settlement line)
      fun orphan rest _ => ?_) ?_ fun _ s hs => hs
    · intro s hs
      obtain ⟨hpos, hamount⟩ := hs.amount orphan (List.mem_cons_self ..)
      obtain ⟨t, hstep, ht, hafter⟩ := hs.settling.deliverOrphan hpos hamount
      exact ⟨(), t, hstep, hs.tail ht hafter⟩
    · rintro s ⟨hs, rfl⟩
      exact hs.orphans

theorem releaseLine_settles (label : String) (line : OrderLine) :
    Ensures (Settling busy (releaseSettlement label) line) (releaseLine label line)
      (fun _ t => ReservationInv busy t ∧ t.Marked line.id .released) := by
  set settlement := releaseSettlement label with hsettlement
  have hknown : settlement.Known := ⟨label, Or.inr rfl⟩
  refine Ensures.bind (Q := fun _ => UnitsPending busy settlement line []) ?_ fun _ => ?_
  · refine Ensures.conseq (Ensures.forEach (I := UnitsPending busy settlement line)
      fun unit units hunit => ?_) ?_ fun _ s hs => hs
    · intro s hs
      have hrole : unit.role ≠ .packaging := by simpa using (List.mem_filter.1 hunit).2
      obtain ⟨t, hstep, ht, hafter⟩ := hs.1.settleReserved hknown unit.inventoryItemId
      exact ⟨(), t, hstep, hs.tail ht fun i => by rw [hafter]; simp [hrole]⟩
    · intro s hs
      refine ⟨hs, fun item hitem _ => ?_⟩
      obtain ⟨unit, hunit, hui⟩ := List.mem_map.1 hitem
      exact ⟨unit, hunit, by simpa using (List.mem_filter.1 hunit).2, hui⟩
  · refine Ensures.ask_bind fun orphans => ?_
    refine Ensures.bind (Q := fun _ => OrphansPending busy settlement line []) ?_ fun _ =>
      Ensures.modify fun s hs => ⟨hs.setStatus (by decide), s.marked_updateLine line.id _⟩
    refine Ensures.conseq (Ensures.forEach (I := OrphansPending busy settlement line)
      fun orphan rest _ => ?_) ?_ fun _ s hs => hs
    · intro s hs
      obtain ⟨hpos, hamount⟩ := hs.amount orphan (List.mem_cons_self ..)
      obtain ⟨a, t, hstep, ht, hafter⟩ := hs.settling.settle hknown hamount hpos
      refine ⟨(), t, ?_, hs.tail ht hafter⟩
      rw [releaseOrphan, Command.bind_of_ok hstep]
      rfl
    · rintro s ⟨hs, rfl⟩
      exact hs.orphans

theorem deliverLine_ensures (label : String) (deliveredAt : Option ℤ) (line : OrderLine) :
    Ensures (fun s => ReservationInv noLine s ∧ line ∈ s.lines)
      (deliverLine label deliveredAt line) (fun _ => ReservationInv noLine) := by
  cases h : line.deliverable deliveredAt with
  | true =>
    exact Ensures.conseq (deliverLine_settles h)
      (fun s hs => .start hs.1 hs.2 ⟨label, Or.inl rfl⟩) fun _ t ht => ht.1
  | false =>
    rw [deliverLine, h]
    exact Ensures.pure fun s hs => hs.1

theorem releaseIfReserved_ensures (label : String) (line : OrderLine) :
    Ensures (fun s => ReservationInv noLine s ∧ line ∈ s.lines) (releaseIfReserved label line)
      (fun _ => ReservationInv noLine) := by
  unfold releaseIfReserved
  split
  · exact Ensures.conseq (releaseLine_settles label line)
      (fun s hs => .start hs.1 hs.2 ⟨label, Or.inr rfl⟩) fun _ t ht => ht.1
  · exact Ensures.pure fun s hs => hs.1

end Turns

/-! ### Runs -/

/-- An edit of the lines: the products, their components, gifts and quantities may change, the
identity of a line and its stock status do not. -/
structure LineEdit where
  edit : OrderLine → OrderLine
  id_eq : ∀ line, (edit line).id = line.id
  stockStatus_eq : ∀ line, (edit line).stockStatus = line.stockStatus

def LineEdit.orders (change : LineEdit) (orders : List EcommerceOrder) : List EcommerceOrder :=
  orders.map fun order => { order with lines := order.lines.map change.edit }

/-- The operations of a run: the order flow, adjustments of any bucket but the reserved one, and
edits of the lines. -/
def Permitted (s : Store) : StockOperation → Prop
  | .reserveOrder _ | .deliverOrder _ _ | .releaseOrder _ | .reconcileReturnTargets _ => True
  | .applyReturnCondition _ => False
  | .adjust _ _ dto => dto.bucket ≠ .reserved
  | .setOnHand _ _ _ | .moveOnHandInTx _ _ => True
  | .applyMovement _ _ input => input.bucket ≠ .reserved
  | .editOrders orders => ∃ change : LineEdit, orders = change.orders s.orders

def StockOperation.adjustmentKey : StockOperation → Option String
  | .adjust _ _ dto => some dto.idempotencyKey
  | .setOnHand _ _ dto => some dto.idempotencyKey
  | .applyMovement _ _ input => some input.idempotencyKey
  | .moveOnHandInTx _ movement => movement.idempotencyKey
  | _ => none

def KeyedApart (s : Store) (operation : StockOperation) : Prop :=
  ∀ line ∈ s.lines, ∀ key ∈ settlementKeys line.id, operation.adjustmentKey ≠ some key

/-- **Reservation accounting**: what is reserved of an item is what the lines have reserved, never
negative, and a line that is not waiting has reserved nothing. -/
structure ReservationsAccounted (s : Store) : Prop where
  total : ∀ item, (s.balanceOf item).reserved =
    (s.lines.map fun line => s.netReserved line.id item).sum
  nonneg : ∀ line ∈ s.lines, ∀ item, 0 ≤ s.netReserved line.id item
  settled : ∀ line ∈ s.lines, line.stockStatus ≠ some .reserved →
    ∀ item, s.netReserved line.id item = 0

/-- Where runs start: stock has been moved by hand only, and no line has been touched. -/
structure ReservationStart (s : Store) : Prop where
  ledger : LedgerInv s
  nodup : (s.lines.map OrderLine.id).Nodup
  pending : ∀ line ∈ s.lines, line.stockStatus = none
  unreserved : ∀ movement ∈ s.movements, movement.bucket ≠ .reserved
  unused : ∀ line ∈ s.lines, ∀ item, ∀ key ∈ settlementKeys line.id,
    s.findMovement item key = none

theorem ReservationStart.inv (h : ReservationStart s) : ReservationInv noLine s := by
  have hzero : ∀ lineId item, s.netReserved lineId item = 0 := fun lineId item =>
    Ledger.total_eq_zero fun m hm => Store.reservedFor_eq_false (h.unreserved m hm) lineId item
  exact ⟨h.ledger, h.nodup, fun m hm hb => absurd hb (h.unreserved m hm),
    fun lineId item => (hzero lineId item).ge, fun line _ _ _ item => hzero line.id item,
    fun line hl _ _ => h.unused line hl⟩

theorem ReservationInv.accounted (h : ReservationInv noLine s) : ReservationsAccounted s :=
  ⟨h.total, fun line _ => h.nonneg line.id, fun line hl => h.settled line hl id⟩

open Command in
theorem ReservationInv.rollback {α : Type} {work : Service α} (hs : ReservationInv noLine s)
    (h : ReservationInv noLine (work.final s)) :
    ReservationInv noLine ((withOrderTransaction work).final s) := by
  rcases hw : work s with ⟨e | a, t⟩
  · rw [Command.final, withOrderTransaction, transaction_of_error hw]
    exact hs.quiet (quiet_rollback s t)
  · rw [Command.final, hw] at h
    rw [Command.final, withOrderTransaction, transaction_of_ok hw]
    exact h

open Command in
theorem ReservationInv.keeps_move (hinput : LineInput lineId item input)
    (hbucket : input.bucket ≠ .reserved) : Keeps (ReservationInv noLine) (move item input) := by
  intro s hs
  rcases move_cases item input s with ⟨duplicate, -, h⟩ | ⟨t, -, -, hq, -, h⟩ |
    ⟨applied, t, hm, h⟩ | ⟨t, -, hq, h⟩
  · rw [Command.final, h]
    exact hs
  · rw [Command.final, h]
    exact hs.quiet hq
  · rw [Command.final, h]
    refine hs.wrote hm.wrote hm.sameBut.lines ((hs.ledger.moved hm).valid _)
      (fun hb => absurd hb hbucket) (fun hb => absurd hb hbucket) fun line _ _ key hkey heq => ?_
    have hused : input.idempotencyKey = key := by simpa [MoveInput.movement] using heq
    obtain ⟨-, settlement, -, reserved, rfl⟩ := hinput.settles (hused ▸ hkey)
    exact hbucket rfl
  · rw [Command.final, h]
    exact hs.quiet hq

open Command in
theorem ReservationInv.strict {u : Store} {next : BalanceQuantities × InventoryMovement}
    (hs : ReservationInv noLine s) (hx : Explains item (s.balanceOf item) next)
    (hvalid : ValidBalance next.1) (hbalance : ∀ other, u.balanceOf other = s.balanceOf other)
    (hmovements : u.movements = s.movements) (horders : u.orders = s.orders)
    (hbucket : next.2.bucket ≠ .reserved) (hkey : ∀ line ∈ s.lines, ∀ key ∈ settlementKeys line.id,
      next.2.idempotencyKey ≠ some key) : ReservationInv noLine (u.post next.1 next.2) := by
  refine hs.wrote (hx.wrote hbalance hmovements) ?_ ?_ (fun hb => absurd hb hbucket)
    (fun hb => absurd hb hbucket) fun line hl _ => hkey line hl
  · rw [Store.lines, Store.orders_post, horders]
    rfl
  · rw [Store.balanceOf_post, if_pos rfl]
    exact hvalid

theorem changeStock_accounted {storeId key : String}
    {change : BalanceQuantities → BalanceQuantities × InventoryMovement}
    (hs : ReservationInv noLine s) (hchange : ∀ balance, Explains item balance (change balance) ∧
      (change balance).2.bucket ≠ .reserved ∧ (change balance).2.idempotencyKey = some key)
    (hkey : ∀ line ∈ s.lines, ∀ settled ∈ settlementKeys line.id, some key ≠ some settled) :
    ReservationInv noLine ((changeStock storeId item key change).final s) := by
  obtain ⟨hx, hbucket, hk⟩ := hchange (s.balanceOf item)
  rcases changeStock_cases storeId item key change s with ⟨e, h⟩ | ⟨duplicate, -, h⟩ |
    ⟨-, hvalid, h⟩
  · rw [Command.final, h]
    exact hs
  · rw [Command.final, h]
    exact hs
  · rw [Command.final, h]
    exact hs.strict hx hvalid (fun _ => rfl) rfl rfl hbucket fun line hl settled hsettled => by
      rw [hk]
      exact hkey line hl settled hsettled

theorem LineEdit.lines_orders (change : LineEdit) (s : Store) :
    ({ s with orders := change.orders s.orders } : Store).lines = s.lines.map change.edit := by
  rw [Store.lines, LineEdit.orders, List.flatMap_map, Store.lines, List.map_flatMap]

theorem ReservationInv.edit (h : ReservationInv noLine s) (change : LineEdit) :
    ReservationInv noLine { s with orders := change.orders s.orders } := by
  have hlines := change.lines_orders s
  refine ⟨h.ledger.of_quiet (fun _ => rfl) rfl, ?_, ?_, h.nonneg, ?_, ?_⟩
  · rw [hlines, List.map_map]
    have hids : OrderLine.id ∘ change.edit = OrderLine.id := funext change.id_eq
    rw [hids]
    exact h.nodup
  · intro movement hm hb
    obtain ⟨htype, line, hl, hid⟩ := h.owned movement hm hb
    rw [hlines]
    exact ⟨htype, change.edit line, List.mem_map_of_mem hl, by rw [change.id_eq, hid]⟩
  · intro line hl _ hs item
    rw [hlines] at hl
    obtain ⟨old, hold, rfl⟩ := List.mem_map.1 hl
    rw [change.stockStatus_eq] at hs
    rw [change.id_eq]
    exact h.settled old hold id hs item
  · intro line hl _ hs item key hkey
    rw [hlines] at hl
    obtain ⟨old, hold, rfl⟩ := List.mem_map.1 hl
    rw [change.stockStatus_eq] at hs
    rw [change.id_eq] at hkey
    exact h.unsettled old hold id hs item key hkey

open Command in
theorem reconcileReturnTargets_accounted (input : ReconcileInput) (hs : ReservationInv noLine s) :
    ReservationInv noLine ((reconcileReturnTargets input).final s) := by
  rw [reconcileReturnTargets, Command.final, loadOrder, ask_bind_apply]
  cases hload : s.findOrder input.orderId with
  | none => exact hs
  | some order =>
    simp only [Option.map_some]
    cases hline : order.load.lines.find? fun line => line.id = input.lineId with
    | none => exact hs
    | some line =>
      have hmem : line ∈ s.lines :=
        (Store.lines_sublist_of_findOrder hload).subset (List.mem_of_find?_eq_some hline)
      refine (releaseIfReserved_ensures order.load.label line).bind_keeps (fun _ => ?_)
        ⟨hs, hmem⟩
      refine (Keeps.ask _).bind fun prior => Keeps.anyEach fun entry _ => ?_
      refine (Keeps.ask _).bind fun onHand => (Keeps.ask _).bind fun damaged => ?_
      refine Keeps.anyEach fun change hchange => Keeps.ite (Keeps.pure false) ?_
      have hbucket := returnDeltas_bucket (List.fst_mem_of_mem_zipIdx hchange)
      refine (ReservationInv.keeps_move (.returnDelta input rfl change hbucket) ?_).bind
        fun _ => Keeps.pure _
      simp only [returnDeltaInput]
      rcases hbucket with hb | hb <;> rw [hb] <;> decide

theorem final_discard {α : Type} (c : Service α) (s : Store) :
    (do let _ ← c : Service Unit).final s = c.final s := by
  rcases hc : c s with ⟨e | a, t⟩
  · rw [Command.final, Command.bind_of_error hc, Command.final, hc]
  · rw [Command.final, Command.bind_of_ok hc, Command.final, hc]
    rfl

open Command in
theorem ReservationInv.step (hs : ReservationInv noLine s) {operation : StockOperation}
    (hpermitted : Permitted s operation) (hkey : KeyedApart s operation) :
    ReservationInv noLine (StockOperation.step s operation) := by
  -- what a whole order ensures, the operation leaves
  have horder : ∀ {work : Service Unit},
      Ensures (ReservationInv noLine) work (fun _ => ReservationInv noLine) →
      ReservationInv noLine (work.final s) := by
    intro work hwork
    obtain ⟨-, hfinal⟩ := hwork.final hs
    exact hfinal
  cases operation with
  | reserveOrder orderId =>
    exact horder (forOrderLines_ensures orderId (fun s hs => hs.nodup)
      (fun order line => reserveLine_ensures order.label line)
      fun order line other hne => (mem_lines_stable other).moves.reserveLine hne order.label)
  | deliverOrder orderId deliveredAt =>
    exact horder (Ensures.transaction (forOrderLines_ensures orderId (fun s hs => hs.nodup)
      (fun order line => deliverLine_ensures order.label deliveredAt line)
      fun order line other hne => (mem_lines_stable other).moves.deliverLine hne order.label _))
  | releaseOrder orderId =>
    exact horder (Ensures.transaction (forOrderLines_ensures orderId (fun s hs => hs.nodup)
      (fun order line => releaseIfReserved_ensures order.label line)
      fun order line other hne => (mem_lines_stable other).moves.releaseIfReserved hne order.label))
  | applyReturnCondition input => exact absurd hpermitted id
  | reconcileReturnTargets input =>
    rw [StockOperation.step, StockOperation.perform, final_discard]
    exact hs.rollback (reconcileReturnTargets_accounted input hs)
  | adjust storeId item dto =>
    rw [StockOperation.step, StockOperation.perform, final_discard]
    exact changeStock_accounted hs
      (fun _ => ⟨explains_changeBucket .., hpermitted, rfl⟩) hkey
  | setOnHand storeId item dto =>
    rw [StockOperation.step, StockOperation.perform, final_discard]
    exact changeStock_accounted hs
      (fun _ => ⟨explains_setOnHand .., by simp, rfl⟩) hkey
  | applyMovement storeId item input =>
    rw [StockOperation.step, StockOperation.perform, final_discard]
    exact changeStock_accounted hs
      (fun _ => ⟨explains_changeBucket .., hpermitted, rfl⟩) hkey
  | moveOnHandInTx item movement =>
    rw [StockOperation.step, StockOperation.perform, final_discard]
    rcases moveOnHandInTx_cases item movement s with ⟨e, t, h⟩ |
      ⟨next, hx, hvalid, hbucket, hk, h⟩
    · rw [Command.final, withOrderTransaction, transaction_of_error h]
      exact hs.quiet (quiet_rollback s t)
    · rw [Command.final, withOrderTransaction, transaction_of_ok h]
      refine hs.strict hx hvalid (fun other => s.balanceOf_ensureDefaultBalance item other) rfl
        rfl (by rw [hbucket]; decide) fun line hl key hkey' => ?_
      rw [hk]
      exact hkey line hl key hkey'
  | editOrders orders =>
    obtain ⟨change, rfl⟩ := hpermitted
    exact hs.edit change

/-- **Reservation accounting.**  After every run of permitted operations that are keyed apart, the
reservations are accounted for. -/
theorem reservations_run {s : Store} (hs : ReservationStart s) {operations : List StockOperation}
    (h : Machine.Along StockOperation.step
      (fun s operation => Permitted s operation ∧ KeyedApart s operation) s operations) :
    ReservationsAccounted (Machine.run StockOperation.step s operations) := by
  have hinv : ReservationInv noLine (Machine.run StockOperation.step s operations) :=
    Machine.run_keeps_along (I := ReservationInv noLine)
      (fun _ _ hinv hop => hinv.step hop.1 hop.2) hs.inv h
  exact hinv.accounted

/-! ### A settlement that is swallowed -/

def oneOrder : Store :=
  Machine.run StockOperation.step
    { itemStores := fun _ => some "store"
      orders := [{
        id := "order"
        storeId := "store"
        lines := [{
          id := "line"
          quantity := 1
          quantity_pos := Int.one_pos
          warehouseVariant := some
            { id := "variant", storeId := "store", inventoryItem := some "item" } }] }] }
    [.adjust "store" "item" ⟨.onHand, 5, "Opening stock", "opening-0001", none, none⟩]

theorem oneOrder_start : ReservationStart oneOrder where
  ledger := (LedgerInv.of_empty (fun _ => rfl) rfl).run _
  nodup := by decide
  pending := by decide
  unreserved := by decide
  unused := by
    have hkeys : ∀ line ∈ oneOrder.lines, ∀ key ∈ settlementKeys line.id,
        ∀ movement ∈ oneOrder.movements, movement.idempotencyKey ≠ some key := by decide
    intro line hline item key hkey
    rw [Store.findMovement_eq_none_iff]
    exact fun movement hm _ => hkeys line hline key hkey movement hm

/-- Reserving, an adjustment on hand, an edit and a delivery: nothing stays reserved. -/
theorem reservations_run_delivery :
    ReservationsAccounted (Machine.run StockOperation.step oneOrder
      [.reserveOrder "order",
        .adjust "store" "item" ⟨.onHand, 1, "Found one", "adjust-0001", none, none⟩,
        .deliverOrder "order" none]) :=
  reservations_run oneOrder_start (by
    refine ⟨⟨trivial, ?_⟩, ⟨by simp [Permitted], ?_⟩, ⟨trivial, ?_⟩, trivial⟩ <;>
    · unfold KeyedApart
      decide)

/-- **An adjustment under the key of a settlement swallows the settlement**: every operation of the
run is permitted, and the line is delivered with one piece still reserved for it. -/
theorem reservations_swallowed :
    let operations : List StockOperation :=
      [.reserveOrder "order",
        .adjust "store" "item" ⟨.onHand, 1, "Found one", "order-deliver-release:line", none, none⟩,
        .deliverOrder "order" none]
    ReservationStart oneOrder ∧
      Machine.Along StockOperation.step Permitted oneOrder operations ∧
      ¬ ReservationsAccounted (Machine.run StockOperation.step oneOrder operations) := by
  intro operations
  refine ⟨oneOrder_start, ⟨trivial, by simp [Permitted], trivial, trivial⟩, fun h => ?_⟩
  have hdelivered : ∃ line ∈ (Machine.run StockOperation.step oneOrder operations).lines,
      line.stockStatus ≠ some .reserved ∧
      (Machine.run StockOperation.step oneOrder operations).netReserved line.id "item" = 1 := by
    decide
  obtain ⟨line, hline, hstatus, hnet⟩ := hdelivered
  rw [h.settled line hline hstatus "item"] at hnet
  exact absurd hnet (by decide)

end Zomaal
