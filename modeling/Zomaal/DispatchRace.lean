/-
**A reservation that races with the couriers.**

When an order is dispatched its units are reserved outside any transaction on the order: every
movement and every status commits on its own.  Meanwhile the couriers' syncs deliver or release the
order, each in one transaction.  This module takes `reserveOrder` apart into its atomic steps, and
lets them run against any number of such transactions.

Main results:

* `HalfReserved.settleLines` — a delivery or a release in the middle of a reservation;
* `dispatchRace_run` — **in orderly runs a settled line stays settled, and nothing stays reserved
  after a settlement that follows the reservation**;
* `dispatchRace_overwritten` — what the other runs may do.
-/

import Zomaal.Reservations

set_option autoImplicit false

namespace Zomaal

/-! ### The atomic steps of a reservation -/

/-- What commits on its own when an order is reserved: a movement, or the status of a line. -/
inductive ReserveStep
  | move (inventoryItemId : String) (input : MoveInput)
  | setStatus (lineId : String)
  deriving DecidableEq

namespace ReserveStep

def lineId : ReserveStep → String
  | .move _ input => input.lineId
  | .setStatus lineId => lineId

def marks : ReserveStep → Bool
  | .move _ _ => false
  | .setStatus _ => true

def perform : ReserveStep → Service Unit
  | .move inventoryItemId input => do
      let _ ← Zomaal.move inventoryItemId input
  | .setStatus lineId => Zomaal.setStatus lineId .reserved

end ReserveStep

variable (label : String)

def reserveLineSteps (line : OrderLine) : List ReserveStep :=
  if line.reservable then
    (physicalUnits line).map (fun unit =>
      .move unit.inventoryItemId (reserveInput label line.id unit)) ++ [.setStatus line.id]
  else []

def reserveSteps (order : LoadedOrder) : List ReserveStep :=
  order.lines.flatMap (reserveLineSteps order.label)

theorem reserveOrder_eq_steps (orderId : String) :
    reserveOrder orderId = (do
      match ← loadOrder orderId with
      | none => pure ()
      | some order => Command.forEach (reserveSteps order) ReserveStep.perform) := by
  have hline : ∀ label line, Command.forEach (reserveLineSteps label line) ReserveStep.perform =
      reserveLine label line := by
    intro label line
    rw [reserveLineSteps, reserveLine]
    split
    · rw [Command.forEach_append, Command.forEach_map]
      rfl
    · rfl
  rw [reserveOrder]
  congr 1
  funext loaded
  cases loaded with
  | none => rfl
  | some order =>
    simp only [reserveSteps, Command.forEach_flatMap]
    congr 1
    funext line
    exact (hline order.label line).symm

/-! ### The race -/

/-- The store, and what is left of the reservation: nothing is known before the order is loaded,
nothing is left at its end. -/
structure DispatchRace where
  store : Store
  reserving : Option (List ReserveStep) := none

inductive RaceAction
  | reserve
  | stop
  | deliverOrder (deliveredAt : Option ℤ)
  | releaseOrder

/-- One atomic step: of the reservation, or a whole transaction on the order. -/
def RaceAction.step (orderId : String) (race : DispatchRace) : RaceAction → DispatchRace
  | .reserve =>
    match race.reserving with
    | none =>
      { race with
        reserving := some (match race.store.findOrder orderId with
          | none => []
          | some order => reserveSteps order.load) }
    | some [] => race
    | some (step :: steps) =>
      match step.perform race.store with
      | (.ok _, s) => ⟨s, some steps⟩
      -- `dispatchOrder` logs the error
      | (.error _, s) => ⟨s, some []⟩
  | .stop => { race with reserving := some [] }
  | .deliverOrder deliveredAt =>
    { race with store := StockOperation.step race.store (.deliverOrder orderId deliveredAt) }
  | .releaseOrder => { race with store := StockOperation.step race.store (.releaseOrder orderId) }

def OrderLine.releasable (line : OrderLine) : Bool := line.stockStatus = some .reserved

def RaceAction.settles : RaceAction → Option (OrderLine → Bool)
  | .reserve | .stop => none
  | .deliverOrder deliveredAt => some (OrderLine.deliverable deliveredAt)
  | .releaseOrder => some OrderLine.releasable

/-- **A settlement is orderly** when it settles no line that the reservation has read and not marked
and, once that is over, passes over no line with something reserved. -/
structure SettlesOrderly (orderId : String) (race : DispatchRace) (settles : OrderLine → Bool) :
    Prop where
  unmarked : ∀ order, race.store.findOrder orderId = some order → ∀ line ∈ order.lines,
    settles line = true → ∀ steps, race.reserving = some steps →
    ∀ step ∈ steps, step.lineId ≠ line.id
  complete : race.reserving = some [] → ∀ order, race.store.findOrder orderId = some order →
    ∀ line ∈ order.lines, settles line = false → ∀ item, race.store.netReserved line.id item = 0

def Orderly (orderId : String) (race : DispatchRace) (action : RaceAction) : Prop :=
  ∀ settles, action.settles = some settles → SettlesOrderly orderId race settles

/-! ### Lines that are reserved half-way -/

def Waiting (s : Store) (lineId : String) : Prop :=
  ∃ line ∈ s.lines, line.id = lineId ∧ line.reservable = true

/-- **The invariant when lines may be reserved half-way**: a line not marked yet may have units
reserved, and no settlement of it has happened. -/
structure HalfReserved (s : Store) : Prop where
  inv : ReservationInv (Waiting s) s
  unused : ∀ line ∈ s.lines, line.reservable = true →
    ∀ item, ∀ key ∈ settlementKeys line.id, s.findMovement item key = none
  covered : ∀ line ∈ s.lines, line.reservable = true → ∀ item, s.netReserved line.id item ≠ 0 →
    item ∈ (physicalUnits line).map StockUnit.inventoryItemId

theorem OrderLine.stockStatus_of_reservable {line : OrderLine} (h : line.reservable = true) :
    line.stockStatus = none := by
  rw [OrderLine.reservable, Bool.and_eq_true, Option.isNone_iff_eq_none] at h
  exact h.2

theorem ReservationInv.half {s : Store} (h : ReservationInv noLine s) : HalfReserved s := by
  refine ⟨h.weaken fun _ => False.elim, fun line hl hres => ?_, fun line hl hres item hne => ?_⟩
  · exact h.unsettled line hl id (Or.inl (OrderLine.stockStatus_of_reservable hres))
  · refine absurd (h.settled line hl id ?_ item) hne
    rw [OrderLine.stockStatus_of_reservable hres]
    simp

theorem ReservationInv.line_eq {busy : String → Prop} {s : Store} (h : ReservationInv busy s)
    {line other : OrderLine} (hline : line ∈ s.lines) (hother : other ∈ s.lines)
    (hid : line.id = other.id) : line = other :=
  List.inj_on_of_nodup_map h.nodup hline hother hid

namespace HalfReserved

variable {s t : Store} {line : OrderLine} {settlement : Settlement}

def others (s : Store) (lineId : String) (other : String) : Prop :=
  Waiting s other ∧ other ≠ lineId

theorem settling (h : HalfReserved s) (hline : line ∈ s.lines) (hknown : settlement.Known) :
    Settling (others s line.id) settlement line s := by
  have hwaiting : line.reservable = false → ¬ Waiting s line.id := by
    rintro hres ⟨other, hother, hid, hres'⟩
    rw [h.inv.line_eq hother hline hid, hres] at hres'
    exact absurd hres' (by simp)
  refine ⟨h.inv.weaken fun other hb => ?_, hline, fun hs item hne => ?_, fun item hused => ?_⟩
  · by_cases hother : other = line.id
    · exact Or.inr hother
    · exact Or.inl ⟨hb, hother⟩
  · cases hres : line.reservable with
    | true => exact h.covered line hline hres item hne
    | false => exact absurd (h.inv.settled line hline (hwaiting hres) hs item) hne
  · cases hres : line.reservable with
    | true => exact absurd (h.unused line hline hres item _ (hknown.key_mem line.id)) hused
    | false =>
      by_cases hstatus : line.stockStatus = none ∨ line.stockStatus = some .reserved
      · exact absurd (h.inv.unsettled line hline (hwaiting hres) hstatus item _
          (hknown.key_mem line.id)) hused
      · exact h.inv.settled line hline (hwaiting hres) (fun heq => hstatus (Or.inr heq)) item

theorem of_marked {lineId : String} {status : OrderLineStockStatus} (h : HalfReserved s)
    (hinv : ReservationInv (others s lineId) t) (hmarked : t.Marked lineId status)
    (hfrom : ∀ l ∈ t.lines, l.id ≠ lineId → l ∈ s.lines)
    (hto : ∀ l ∈ s.lines, l.id ≠ lineId → l ∈ t.lines)
    (hsame : ∀ other, other ≠ lineId → SameLine other s t) : HalfReserved t := by
  have hold : ∀ l ∈ t.lines, l.reservable = true → l.id ≠ lineId ∧ l ∈ s.lines := by
    intro l hl hres
    have hne : l.id ≠ lineId := by
      intro hid
      have hnone := OrderLine.stockStatus_of_reservable hres
      rw [hmarked l hl hid] at hnone
      exact absurd hnone (by simp)
    exact ⟨hne, hfrom l hl hne⟩
  have hkeys : ∀ lineId, ∀ key ∈ settlementKeys lineId, ∃ p ∈ lineFamilies, key = p ++ lineId := by
    intro lineId key hkey
    rw [settlementKeys, List.mem_cons, List.mem_singleton] at hkey
    rcases hkey with rfl | rfl
    · exact ⟨_, by decide, rfl⟩
    · exact ⟨_, by decide, rfl⟩
  refine ⟨hinv.weaken ?_, fun l hl hres item key hkey => ?_, fun l hl hres item hne => ?_⟩
  · rintro other ⟨⟨l, hl, rfl, hres⟩, hne⟩
    exact ⟨l, hto l hl hne, rfl, hres⟩
  · obtain ⟨hne, hls⟩ := hold l hl hres
    obtain ⟨p, hp, rfl⟩ := hkeys l.id key hkey
    exact ((hsame l.id hne).unused item p hp).2 (h.unused l hls hres item _ hkey)
  · obtain ⟨hne', hls⟩ := hold l hl hres
    rw [(hsame l.id hne').netReserved] at hne
    exact h.covered l hls hres item hne

end HalfReserved

/-! ### A settlement in the middle of a reservation -/

theorem othersFrom_stable (lineId : String) (s : Store) :
    StockStable (· = lineId) (fun t => ∀ l ∈ t.lines, l.id ≠ lineId → l ∈ s.lines) where
  quiet hq h := by rwa [hq.sameBut.lines]
  moved _ _ hm h := by rwa [hm.sameBut.lines]
  status _ hid h := by
    intro l hl hne
    rw [Store.lines_updateLine] at hl
    obtain ⟨old, hold, rfl⟩ := List.mem_map.1 hl
    by_cases hold' : old.id = lineId
    · rw [if_pos (hold'.trans hid.symm)] at hne
      exact absurd hold' hne
    · rw [if_neg fun heq => hold' (heq.trans hid)]
      exact h old hold hold'

theorem lineIds_stable (ids : List String) :
    StockStable (fun _ => True) (fun s => s.lines.map OrderLine.id = ids) where
  quiet hq h := by rwa [hq.sameBut.lines]
  moved _ _ hm h := by rwa [hm.sameBut.lines]
  status _ _ h := by
    rw [Store.lines_updateLine, List.map_map, ← h]
    refine List.map_congr_left fun l _ => ?_
    simp only [Function.comp_apply]
    split <;> rfl

open Command in
structure SettlingTurn (settlement : Settlement) (settles : OrderLine → Bool)
    (status : OrderLineStockStatus) (work : OrderLine → Service Unit) : Prop where
  known : settlement.Known
  settled : status = .delivered ∨ status = .released
  skip : ∀ line, settles line = false → work line = pure ()
  turn : ∀ (busy : String → Prop) (line : OrderLine), settles line = true →
    Ensures (Settling busy settlement line) (work line)
      (fun _ t => ReservationInv busy t ∧ t.Marked line.id status)
  stable : ∀ {about : String → Prop} {I : Store → Prop} {line : OrderLine}, StockStable about I →
    about line.id → Keeps I (work line)

theorem deliverLine_turn (deliveredAt : Option ℤ) :
    SettlingTurn (deliverySettlement label) (OrderLine.deliverable deliveredAt) .delivered
      (deliverLine label deliveredAt) where
  known := ⟨label, Or.inl rfl⟩
  settled := Or.inl rfl
  skip line h := by
    rw [deliverLine, h]
    rfl
  turn _ _ h := deliverLine_settles h
  stable hI ha := hI.moves.deliverLine ha label deliveredAt

theorem releaseIfReserved_turn :
    SettlingTurn (releaseSettlement label) OrderLine.releasable .released
      (releaseIfReserved label) where
  known := ⟨label, Or.inr rfl⟩
  settled := Or.inr rfl
  skip line h := by
    rw [OrderLine.releasable, decide_eq_false_iff_not] at h
    rw [releaseIfReserved, if_neg h]
  turn _ line h := by
    rw [OrderLine.releasable, decide_eq_true_eq] at h
    rw [releaseIfReserved, if_pos h]
    exact releaseLine_settles label line
  stable hI ha := hI.moves.releaseIfReserved ha label

def OrderLine.Settled (line : OrderLine) : Prop :=
  line.stockStatus = some .delivered ∨ line.stockStatus = some .released

/-- What the turn of a line that is settled leaves behind. -/
structure TurnTaken (lineId : String) (status : OrderLineStockStatus) (s t : Store) : Prop where
  half : HalfReserved t
  marked : t.Marked lineId status
  others : ∀ l ∈ t.lines, l.id ≠ lineId → l ∈ s.lines
  kept : ∀ l ∈ s.lines, l.id ≠ lineId → l ∈ t.lines
  same : ∀ other, other ≠ lineId → SameLine other s t
  none : ∀ item, t.netReserved lineId item = 0

section Settlement

variable {settlement : Settlement} {settles : OrderLine → Bool} {status : OrderLineStockStatus}
  {work : OrderLine → Service Unit} {s t : Store} {line : OrderLine}

theorem SettlingTurn.take (h : SettlingTurn settlement settles status work) (hs : HalfReserved s)
    (hline : line ∈ s.lines) (hsettles : settles line = true) :
    ∃ t, work line s = (.ok (), t) ∧ TurnTaken line.id status s t := by
  obtain ⟨⟨⟩, t, hrun, hinv, hmarked⟩ :=
    h.turn (HalfReserved.others s line.id) line hsettles s (hs.settling hline h.known)
  -- what the turn of a line keeps, it leaves
  have hkeeps : ∀ {about : String → Prop} {I : Store → Prop}, StockStable about I →
      about line.id → I s → I t := by
    intro about I hI ha hIs
    have hkept := h.stable hI ha s hIs
    rwa [Command.final, hrun] at hkept
  have hfrom := hkeeps (othersFrom_stable line.id s) rfl fun l hl _ => hl
  have hto : ∀ l ∈ s.lines, l.id ≠ line.id → l ∈ t.lines := fun l hl hne =>
    hkeeps (mem_lines_stable l) hne hl
  have hsame : ∀ other, other ≠ line.id → SameLine other s t := fun other hne =>
    hkeeps (sameLine_stable other s) hne (SameLine.refl other s)
  refine ⟨t, hrun, hs.of_marked hinv hmarked hfrom hto hsame, hmarked, hfrom, hto, hsame,
    fun item => ?_⟩
  -- the line is still there, and it does not wait any more
  have hhere : line.id ∈ t.lines.map OrderLine.id := by
    have hids : t.lines.map OrderLine.id = s.lines.map OrderLine.id :=
      hkeeps (lineIds_stable (s.lines.map OrderLine.id)) trivial rfl
    exact hids ▸ List.mem_map_of_mem hline
  obtain ⟨line', hline', hid⟩ := List.mem_map.1 hhere
  rw [← hid]
  refine hinv.settled line' hline' (fun hb => hb.2 hid) ?_ item
  rw [hmarked line' hline' hid]
  rcases h.settled with rfl | rfl <;> decide

/-- **What a settlement leaves behind**: the lines it settles have nothing reserved, the others are
as they were, and no line is newly marked as reserved. -/
structure OrderSettled (settles : OrderLine → Bool) (lines : List OrderLine) (s t : Store) :
    Prop where
  half : HalfReserved t
  settled : ∀ line ∈ lines, settles line = true → ∀ item, t.netReserved line.id item = 0
  passed : ∀ line ∈ lines, settles line = false →
    ∀ item, t.netReserved line.id item = s.netReserved line.id item
  kept : ∀ line ∈ s.lines, (line ∈ lines → settles line = false) → line ∈ t.lines
  statuses : ∀ line ∈ t.lines, line ∈ s.lines ∨ line.Settled

variable {lines : List OrderLine}

theorem OrderSettled.turn {u : Store} (h : OrderSettled settles lines s t)
    (hsettled : status = .delivered ∨ status = .released) (hsettles : settles line = true)
    (hnew : ∀ l ∈ lines, l.id ≠ line.id) (hline : line ∈ t.lines)
    (ht : TurnTaken line.id status t u) : OrderSettled settles (lines ++ [line]) s u := by
  refine ⟨ht.half, fun l hl hs item => ?_, fun l hl hs item => ?_, fun l hl hpass => ?_,
    fun l hl => ?_⟩
  · rcases Ledger.mem_concat.1 hl with hl | hl
    · rw [(ht.same l.id (hnew l hl)).netReserved]
      exact h.settled l hl hs item
    · rw [hl]
      exact ht.none item
  · rcases Ledger.mem_concat.1 hl with hl | hl
    · rw [(ht.same l.id (hnew l hl)).netReserved]
      exact h.passed l hl hs item
    · rw [hl, hsettles] at hs
      exact absurd hs (by simp)
  · have hkept : l ∈ t.lines := h.kept l hl fun hin => hpass (List.mem_append_left _ hin)
    refine ht.kept l hkept fun hid => ?_
    have heq := h.half.inv.line_eq hkept hline hid
    have hfalse := hpass (heq ▸ List.mem_append_right _ (List.mem_cons_self ..))
    rw [heq, hsettles] at hfalse
    exact absurd hfalse (by simp)
  · by_cases hid : l.id = line.id
    · right
      rw [OrderLine.Settled, ht.marked l hl hid]
      simpa using hsettled
    · exact h.statuses l (ht.others l hl hid)

theorem OrderSettled.skip (h : OrderSettled settles lines s t) (hsettles : settles line = false)
    (hsame : ∀ item, t.netReserved line.id item = s.netReserved line.id item) :
    OrderSettled settles (lines ++ [line]) s t := by
  refine ⟨h.half, fun l hl hs item => ?_, fun l hl hs item => ?_, fun l hl hpass => ?_, h.statuses⟩
  · rcases Ledger.mem_concat.1 hl with hl | hl
    · exact h.settled l hl hs item
    · rw [hl, hsettles] at hs
      exact absurd hs (by simp)
  · rcases Ledger.mem_concat.1 hl with hl | hl
    · exact h.passed l hl hs item
    · rw [hl]
      exact hsame item
  · exact h.kept l hl fun hin => hpass (List.mem_append_left _ hin)

open Command in
theorem HalfReserved.settleLines (h : SettlingTurn settlement settles status work)
    (hs : HalfReserved s) (hnodup : (lines.map OrderLine.id).Nodup)
    (hlines : ∀ line ∈ lines, line ∈ s.lines) :
    ∃ t, Command.forEach lines work s = (.ok (), t) ∧ OrderSettled settles lines s t := by
  -- the lines still to come are as they were
  let pending : List OrderLine → Store → Prop := fun rest t => ∀ line ∈ rest, line ∈ t.lines ∧
    ∀ item, t.netReserved line.id item = s.netReserved line.id item
  have hturn : ∀ done line rest t, lines = done ++ line :: rest →
      OrderSettled settles done s t ∧ pending (line :: rest) t →
      ∃ u, work line t = (.ok (), u) ∧
        OrderSettled settles (done ++ [line]) s u ∧ pending rest u := by
    rintro done line rest t hsplit ⟨ht, hrest⟩
    obtain ⟨hline, hsame⟩ := hrest line (List.mem_cons_self ..)
    rw [hsplit, List.map_append, List.map_cons, List.nodup_append, List.nodup_cons] at hnodup
    have hnew : ∀ l ∈ done, l.id ≠ line.id := fun l hl =>
      hnodup.2.2 l.id (List.mem_map_of_mem hl) line.id (List.mem_cons_self ..)
    have hlater : ∀ l ∈ rest, l.id ≠ line.id := fun l hl heq =>
      hnodup.2.1.1 (heq ▸ List.mem_map_of_mem hl)
    cases hsettles : settles line with
    | true =>
      obtain ⟨u, hrun, hu⟩ := h.take ht.half hline hsettles
      refine ⟨u, hrun, ht.turn h.settled hsettles hnew hline hu, fun l hl => ?_⟩
      obtain ⟨hlt, hls⟩ := hrest l (List.mem_cons_of_mem _ hl)
      refine ⟨hu.kept l hlt (hlater l hl), fun item => ?_⟩
      rw [(hu.same l.id (hlater l hl)).netReserved, hls]
    | false =>
      exact ⟨t, by rw [h.skip line hsettles]; rfl, ht.skip hsettles hsame,
        fun l hl => hrest l (List.mem_cons_of_mem _ hl)⟩
  obtain ⟨t, hrun, ht, -⟩ := Command.forEach_of_turns
    (I := fun done rest t => OrderSettled settles done s t ∧ pending rest t)
    ⟨⟨hs, by simp, by simp, fun line hl _ => hl, fun line hl => Or.inl hl⟩,
      fun line hl => ⟨hlines line hl, fun _ => rfl⟩⟩ hturn
  exact ⟨t, hrun, ht⟩

end Settlement

variable {settles : OrderLine → Bool}

theorem settleOrder_step {orderId : String} {race : DispatchRace} {action : RaceAction}
    (haction : action.settles = some settles) (hs : HalfReserved race.store)
    {order : EcommerceOrder} (hfind : race.store.findOrder orderId = some order) :
    (action.step orderId race).reserving = race.reserving ∧
      OrderSettled settles order.lines race.store (action.step orderId race).store := by
  have hsub := Store.lines_sublist_of_findOrder hfind
  have hnodup : (order.lines.map OrderLine.id).Nodup :=
    (hsub.map OrderLine.id).nodup hs.inv.nodup
  -- a settlement that goes through as a loop goes through as a transaction
  have hcommit : ∀ {work : Service Unit} {t : Store}, work race.store = (.ok (), t) →
      (withOrderTransaction work).final race.store = t := by
    intro work t hrun
    rw [withOrderTransaction, Command.final, Command.transaction_of_ok hrun]
  cases action with
  | reserve => simp [RaceAction.settles] at haction
  | stop => simp [RaceAction.settles] at haction
  | deliverOrder deliveredAt =>
    obtain rfl : OrderLine.deliverable deliveredAt = settles := by
      simpa [RaceAction.settles] using haction
    obtain ⟨t, hrun, ht⟩ := hs.settleLines (deliverLine_turn order.load.label deliveredAt) hnodup
      fun line hl => hsub.subset hl
    have hdeliver : deliverOrder orderId deliveredAt race.store = (.ok (), t) := by
      rw [deliverOrder, loadOrder, Command.ask_bind_apply, hfind]
      exact hrun
    refine ⟨rfl, ?_⟩
    rw [RaceAction.step, StockOperation.step, StockOperation.perform, hcommit hdeliver]
    exact ht
  | releaseOrder =>
    obtain rfl : OrderLine.releasable = settles := by simpa [RaceAction.settles] using haction
    obtain ⟨t, hrun, ht⟩ := hs.settleLines (releaseIfReserved_turn order.load.label) hnodup
      fun line hl => hsub.subset hl
    have hrelease : releaseOrder orderId race.store = (.ok (), t) := by
      rw [releaseOrder, loadOrder, Command.ask_bind_apply, hfind]
      exact hrun
    refine ⟨rfl, ?_⟩
    rw [RaceAction.step, StockOperation.step, StockOperation.perform, hcommit hrelease]
    exact ht

theorem settleOrder_step_of_none {orderId : String} {race : DispatchRace} {action : RaceAction}
    (haction : action.settles = some settles) (hfind : race.store.findOrder orderId = none) :
    action.step orderId race = race := by
  cases action with
  | reserve => simp [RaceAction.settles] at haction
  | stop => simp [RaceAction.settles] at haction
  | deliverOrder deliveredAt =>
    have hdeliver : deliverOrder orderId deliveredAt race.store = (.ok (), race.store) := by
      rw [deliverOrder, loadOrder, Command.ask_bind_apply, hfind]
      rfl
    rw [RaceAction.step, StockOperation.step, StockOperation.perform, withOrderTransaction,
      Command.final, Command.transaction_of_ok hdeliver]
  | releaseOrder =>
    have hrelease : releaseOrder orderId race.store = (.ok (), race.store) := by
      rw [releaseOrder, loadOrder, Command.ask_bind_apply, hfind]
      rfl
    rw [RaceAction.step, StockOperation.step, StockOperation.perform, withOrderTransaction,
      Command.final, Command.transaction_of_ok hrelease]

/-! ### The steps of the reservation -/

def ReserveStep.Reserves (step : ReserveStep) (line : OrderLine) : Prop :=
  step = .setStatus line.id ∨ ∃ label, ∃ unit ∈ physicalUnits line,
    step = .move unit.inventoryItemId (reserveInput label line.id unit)

theorem ReserveStep.Reserves.lineId_eq {step : ReserveStep} {line : OrderLine}
    (h : step.Reserves line) : step.lineId = line.id := by
  rcases h with rfl | ⟨label, unit, -, rfl⟩ <;> rfl

theorem reserveInput_not_settles (label lineId other : String) (unit : StockUnit) :
    (reserveInput label lineId unit).idempotencyKey ∉ settlementKeys other := by
  intro hkey
  have hinput : LineInput lineId unit.inventoryItemId (reserveInput label lineId unit) :=
    .reserve label unit
  obtain ⟨-, settlement, ⟨label', rfl | rfl⟩, reserved, hsettle⟩ := hinput.settles hkey
  · exact absurd (congrArg MoveInput.type hsettle) (by
      simp [reserveInput, Settlement.input, deliverySettlement])
  · exact absurd (congrArg MoveInput.type hsettle) (by
      simp [reserveInput, Settlement.input, releaseSettlement])

namespace HalfReserved

variable {s : Store} {line : OrderLine}

theorem reserveUnit (h : HalfReserved s) (hline : line ∈ s.lines)
    (hres : line.reservable = true) {unit : StockUnit} (hunit : unit ∈ physicalUnits line)
    (label : String) :
    ∃ t, Zomaal.reserveUnit label line.id unit s = (.ok (), t) ∧ HalfReserved t ∧
      t.lines = s.lines := by
  have hpos := (physicalUnits_wf line).pos unit hunit
  set input := reserveInput label line.id unit with hinput
  have hrun : ∀ {a : ℤ} {t : Store}, move unit.inventoryItemId input s = (.ok a, t) →
      Zomaal.reserveUnit label line.id unit s = (.ok (), t) := by
    intro a t hmove
    rw [Zomaal.reserveUnit, Command.bind_of_ok hmove]
    rfl
  have hwaits : Waiting s line.id := ⟨line, hline, rfl, hres⟩
  rcases move_cases unit.inventoryItemId input s with ⟨duplicate, -, hmove⟩ |
    ⟨t, -, -, hq, -, hmove⟩ | ⟨applied, t, hm, hmove⟩ | ⟨t, hlarge, -, -⟩
  · exact ⟨s, hrun hmove, h, rfl⟩
  · have hlines := hq.sameBut.lines
    refine ⟨t, hrun hmove, ⟨(h.inv.quiet hq).weaken ?_, fun l hl hr item key hkey => ?_,
      fun l hl hr item hne => ?_⟩, hlines⟩
    · rintro other ⟨l, hl, hid, hr⟩
      exact ⟨l, hlines ▸ hl, hid, hr⟩
    · rw [hq.findMovement]
      exact h.unused l (hlines ▸ hl) hr item key hkey
    · rw [hq.netReserved] at hne
      exact h.covered l (hlines ▸ hl) hr item hne
  · have hlines := hm.sameBut.lines
    have happlied : 0 ≤ applied := by
      rw [hm.clamped]
      exact ((clampDelta_bounds _ _ _).1 hpos.le).1
    have hinv : ReservationInv (withLine (Waiting s) line.id) t := by
      refine ReservationInv.moved (h.inv.weaken fun _ => Or.inl) (.reserve label unit) hm
        ⟨line, hline, rfl⟩ fun _ => ?_
      have := h.inv.nonneg line.id unit.inventoryItemId
      omega
    refine ⟨t, hrun hmove, ⟨hinv.weaken ?_, fun l hl hr item key hkey => ?_,
      fun l hl hr item hne => ?_⟩, hlines⟩
    · rintro other (hb | rfl)
      · obtain ⟨l, hl, hid, hr⟩ := hb
        exact ⟨l, hlines ▸ hl, hid, hr⟩
      · exact ⟨line, hlines ▸ hline, rfl, hres⟩
    · rw [hm.findMovement_eq_none]
      refine ⟨h.unused l (hlines ▸ hl) hr item key hkey, fun hand => ?_⟩
      exact reserveInput_not_settles label line.id l.id unit (hand.2 ▸ hkey)
    · rw [hlines] at hl
      rw [hm.netReserved] at hne
      by_cases hhere : input.lineId = l.id ∧ unit.inventoryItemId = item ∧
          input.bucket = .reserved
      · obtain rfl := h.inv.line_eq hline hl hhere.1
        rw [← hhere.2.1]
        exact List.mem_map_of_mem hunit
      · rw [if_neg hhere, add_zero] at hne
        exact h.covered l hl hr item hne
  · exact absurd hlarge
      (not_lt.2 (clampDelta_fits (h.inv.ledger.valid unit.inventoryItemId) (Or.inr (Or.inl rfl))))

theorem setReserved (h : HalfReserved s) (hline : line ∈ s.lines)
    (hres : line.reservable = true) :
    HalfReserved (s.updateLine line.id fun line =>
      { line with stockStatus := some .reserved }) := by
  have hmarked := s.marked_updateLine line.id .reserved
  set t := s.updateLine line.id fun line => { line with stockStatus := some .reserved } with ht
  have hto : ∀ l ∈ s.lines, l.id ≠ line.id → l ∈ t.lines := fun l hl hne =>
    Store.mem_lines_updateLine_of_ne hl hne _
  have hfrom : ∀ l ∈ t.lines, l.id ≠ line.id → l ∈ s.lines :=
    (othersFrom_stable line.id s).status .reserved rfl fun l hl _ => hl
  refine h.of_marked ?_ hmarked hfrom hto fun other _ => ⟨fun _ => rfl, fun _ _ _ => Iff.rfl⟩
  refine ReservationInv.setStatus (h.inv.weaken fun other hb => ?_) (fun hne => absurd rfl hne)
    fun _ => h.unused line hline hres
  by_cases hother : other = line.id
  · exact Or.inr hother
  · exact Or.inl ⟨hb, hother⟩

end HalfReserved

/-! ### Runs -/

/-- **The invariant of the race**: what is left of the reservation is about lines that still wait,
and the mark of a line is its last step. -/
structure RaceInv (race : DispatchRace) : Prop where
  half : HalfReserved race.store
  waiting : ∀ steps, race.reserving = some steps → ∀ step ∈ steps,
    ∃ line ∈ race.store.lines, line.reservable = true ∧ step.Reserves line
  last : ∀ steps, race.reserving = some steps →
    steps.Pairwise fun step later => step.marks = true → later.lineId ≠ step.lineId

theorem reserves_of_mem_lineSteps {label : String} {line : OrderLine} {step : ReserveStep}
    (h : step ∈ reserveLineSteps label line) : line.reservable = true ∧ step.Reserves line := by
  rw [reserveLineSteps] at h
  split at h
  · rename_i hres
    refine ⟨hres, ?_⟩
    rcases Ledger.mem_concat.1 h with h | h
    · obtain ⟨unit, hunit, rfl⟩ := List.mem_map.1 h
      exact Or.inr ⟨label, unit, hunit, rfl⟩
    · exact Or.inl h
  · simp at h

theorem pairwise_reserveSteps {lines : List OrderLine} (hnodup : (lines.map OrderLine.id).Nodup) :
    (lines.flatMap (reserveLineSteps label)).Pairwise fun step later =>
      step.marks = true → later.lineId ≠ step.lineId := by
  induction lines with
  | nil => exact List.Pairwise.nil
  | cons line lines ih =>
    rw [List.map_cons, List.nodup_cons] at hnodup
    rw [List.flatMap_cons, List.pairwise_append]
    refine ⟨?_, ih hnodup.2, fun step hstep later hlater _ heq => ?_⟩
    · rw [reserveLineSteps]
      split
      · rw [List.pairwise_append]
        refine ⟨?_, List.pairwise_singleton .., fun step hstep _ _ hmarks => ?_⟩
        · rw [List.pairwise_map]
          exact List.pairwise_of_forall fun _ _ hmarks =>
            absurd hmarks (by simp [ReserveStep.marks])
        · obtain ⟨unit, -, rfl⟩ := List.mem_map.1 hstep
          exact absurd hmarks (by simp [ReserveStep.marks])
      · exact List.Pairwise.nil
    · obtain ⟨other, hother, hmem⟩ := List.mem_flatMap.1 hlater
      have hid := (reserves_of_mem_lineSteps hstep).2.lineId_eq
      have hid' := (reserves_of_mem_lineSteps hmem).2.lineId_eq
      rw [hid, hid'] at heq
      exact hnodup.1 (heq ▸ List.mem_map_of_mem hother)

section Race

variable {orderId : String} {race : DispatchRace} {action : RaceAction}

/-- What one step leaves behind: the invariant, and no settled line is anything but settled. -/
structure RaceStep (race next : DispatchRace) : Prop where
  inv : RaceInv next
  settled : ∀ line ∈ next.store.lines, line ∈ race.store.lines ∨ line.Settled ∨
    ∃ old ∈ race.store.lines, old.id = line.id ∧ old.stockStatus = none

theorem RaceInv.reserve (h : RaceInv race) :
    RaceStep race (RaceAction.step orderId race .reserve) := by
  obtain ⟨s, reserving⟩ := race
  rcases reserving with _ | _ | ⟨step, steps⟩
  · -- the order is loaded
    refine ⟨⟨h.half, fun steps hsteps step hstep => ?_, fun steps hsteps => ?_⟩,
      fun line hl => Or.inl hl⟩
    · obtain rfl := Option.some.inj hsteps
      cases hfind : s.findOrder orderId with
      | none => simp [hfind] at hstep
      | some order =>
        simp only [hfind] at hstep
        obtain ⟨line, hline, hmem⟩ := List.mem_flatMap.1 hstep
        exact ⟨line, (Store.lines_sublist_of_findOrder hfind).subset hline,
          reserves_of_mem_lineSteps hmem⟩
    · obtain rfl := Option.some.inj hsteps
      cases hfind : s.findOrder orderId with
      | none => exact List.Pairwise.nil
      | some order =>
        exact pairwise_reserveSteps order.load.label
          (((Store.lines_sublist_of_findOrder hfind).map OrderLine.id).nodup h.half.inv.nodup)
  · exact ⟨h, fun line hl => Or.inl hl⟩
  · obtain ⟨line, hline, hres, hreserves⟩ := h.waiting _ rfl step (List.mem_cons_self ..)
    have hlast := List.pairwise_cons.1 (h.last _ rfl)
    have hrest : ∀ later ∈ steps, ∃ l ∈ s.lines, l.reservable = true ∧ later.Reserves l :=
      fun later hlater => h.waiting _ rfl later (List.mem_cons_of_mem _ hlater)
    rcases hreserves with rfl | ⟨label, unit, hunit, rfl⟩
    · -- the line is marked
      refine ⟨⟨h.half.setReserved hline hres, ?_, ?_⟩, fun l hl => ?_⟩
      · intro rest hsteps later hlater
        obtain rfl : steps = rest := Option.some.inj hsteps
        obtain ⟨l, hl, hr, hreserves⟩ := hrest later hlater
        refine ⟨l, Store.mem_lines_updateLine_of_ne hl ?_ _, hr, hreserves⟩
        rw [← hreserves.lineId_eq]
        exact hlast.1 later hlater rfl
      · intro rest hsteps
        obtain rfl : steps = rest := Option.some.inj hsteps
        exact hlast.2
      · by_cases hid : l.id = line.id
        · exact Or.inr (Or.inr ⟨line, hline, hid.symm, OrderLine.stockStatus_of_reservable hres⟩)
        · exact Or.inl ((othersFrom_stable line.id s).status .reserved rfl (fun l hl _ => hl) l hl
            hid)
    · -- a unit is reserved
      obtain ⟨t, hrun, ht, hlines⟩ := h.half.reserveUnit hline hres hunit label
      have hstep : RaceAction.step orderId
          ⟨s, some (.move unit.inventoryItemId (reserveInput label line.id unit) :: steps)⟩
          .reserve = ⟨t, some steps⟩ := by
        have hperform : ReserveStep.perform
            (.move unit.inventoryItemId (reserveInput label line.id unit)) s = (.ok (), t) := hrun
        simp only [RaceAction.step, hperform]
      rw [hstep]
      refine ⟨⟨ht, ?_, ?_⟩, fun l hl => Or.inl (hlines ▸ hl)⟩
      · intro rest hsteps later hlater
        obtain rfl : steps = rest := Option.some.inj hsteps
        rw [hlines]
        exact hrest later hlater
      · intro rest hsteps
        obtain rfl : steps = rest := Option.some.inj hsteps
        exact hlast.2

theorem RaceInv.settle (h : RaceInv race) (haction : action.settles = some settles)
    (ho : SettlesOrderly orderId race settles) : RaceStep race (action.step orderId race) := by
  cases hfind : race.store.findOrder orderId with
  | none =>
    rw [settleOrder_step_of_none haction hfind]
    exact ⟨h, fun line hl => Or.inl hl⟩
  | some order =>
    obtain ⟨hreserving, hsettled⟩ := settleOrder_step haction h.half hfind
    refine ⟨⟨hsettled.half, fun steps hsteps step hstep => ?_, fun steps hsteps => ?_⟩,
      fun line hl => (hsettled.statuses line hl).imp_right Or.inl⟩
    · rw [hreserving] at hsteps
      obtain ⟨line, hline, hres, hreserves⟩ := h.waiting steps hsteps step hstep
      refine ⟨line, hsettled.kept line hline fun hmem => ?_, hres, hreserves⟩
      by_contra hne
      exact ho.unmarked order hfind line hmem (by simpa using hne) steps hsteps step hstep
        hreserves.lineId_eq
    · rw [hreserving] at hsteps
      exact h.last steps hsteps

theorem RaceInv.step (h : RaceInv race) (ho : Orderly orderId race action) :
    RaceStep race (action.step orderId race) := by
  cases action with
  | reserve => exact h.reserve
  | stop =>
    refine ⟨⟨h.half, fun steps hsteps => ?_, fun steps hsteps => ?_⟩, fun line hl => Or.inl hl⟩
    · obtain rfl : [] = steps := Option.some.inj hsteps
      simp
    · obtain rfl : [] = steps := Option.some.inj hsteps
      exact List.Pairwise.nil
  | deliverOrder deliveredAt => exact h.settle rfl (ho _ rfl)
  | releaseOrder => exact h.settle rfl (ho _ rfl)

/-! ### Nothing stays reserved -/

def NothingReserved (orderId : String) (s : Store) : Prop :=
  ∀ order, s.findOrder orderId = some order → ∀ line ∈ order.lines,
    ∀ item, s.netReserved line.id item = 0

theorem orderLines_stable (orderId : String) (ids : Option (List String)) :
    StockStable (fun _ => True) (fun s =>
      (s.findOrder orderId).map (fun order => order.lines.map OrderLine.id) = ids) where
  quiet hq h := by rwa [Store.findOrder, hq.sameBut.orders]
  moved _ _ hm h := by rwa [Store.findOrder, hm.sameBut.orders]
  status _ _ h := by
    rw [Store.findOrder_updateLine, ← h, Option.map_map]
    congr 1
    funext order
    simp only [Function.comp_apply, List.map_map]
    refine List.map_congr_left fun line _ => ?_
    simp only [Function.comp_apply]
    split <;> rfl

theorem settle_orderLines (haction : action.settles = some settles) :
    ((action.step orderId race).store.findOrder orderId).map
        (fun order => order.lines.map OrderLine.id) =
      (race.store.findOrder orderId).map (fun order => order.lines.map OrderLine.id) := by
  have hstable := orderLines_stable orderId
    ((race.store.findOrder orderId).map (fun order => order.lines.map OrderLine.id))
  cases action with
  | reserve => simp [RaceAction.settles] at haction
  | stop => simp [RaceAction.settles] at haction
  | deliverOrder deliveredAt =>
    exact hstable.withOrderTransaction (hstable.moves.deliverOrder orderId deliveredAt) race.store rfl
  | releaseOrder =>
    exact hstable.withOrderTransaction (hstable.moves.releaseOrder orderId) race.store rfl

theorem RaceInv.settle_nothingReserved (h : RaceInv race) (haction : action.settles = some settles)
    (hpassed : ∀ order, race.store.findOrder orderId = some order → ∀ line ∈ order.lines,
      settles line = false → ∀ item, race.store.netReserved line.id item = 0) :
    NothingReserved orderId (action.step orderId race).store := by
  intro after hafter line hline item
  have hids : ((action.step orderId race).store.findOrder orderId).map
      (fun order => order.lines.map OrderLine.id) =
        (race.store.findOrder orderId).map (fun order => order.lines.map OrderLine.id) :=
    settle_orderLines haction
  rw [hafter, Option.map_some] at hids
  obtain ⟨order, hfind, hlines⟩ := Option.map_eq_some_iff.1 hids.symm
  -- the line was a line of the order before
  have hmem : line.id ∈ order.lines.map OrderLine.id := hlines ▸ List.mem_map_of_mem hline
  obtain ⟨old, hold, hid⟩ := List.mem_map.1 hmem
  obtain ⟨-, hsettled⟩ := settleOrder_step haction h.half hfind
  rw [← hid]
  cases hsettles : settles old with
  | true => exact hsettled.settled old hold hsettles item
  | false =>
    rw [hsettled.passed old hold hsettles item]
    exact hpassed order hfind old hold hsettles item

theorem RaceInv.step_nothingReserved (h : RaceInv race) (hover : race.reserving = some [])
    (hnothing : NothingReserved orderId race.store) :
    (action.step orderId race).reserving = some [] ∧
      NothingReserved orderId (action.step orderId race).store := by
  have hsettle : ∀ settles, action.settles = some settles →
      (action.step orderId race).reserving = some [] ∧
        NothingReserved orderId (action.step orderId race).store := by
    intro settles haction
    refine ⟨?_, h.settle_nothingReserved haction fun order hfind line hl _ =>
      hnothing order hfind line hl⟩
    cases hfind : race.store.findOrder orderId with
    | none =>
      rw [settleOrder_step_of_none haction hfind]
      exact hover
    | some order =>
      rw [(settleOrder_step haction h.half hfind).1]
      exact hover
  cases action with
  | reserve =>
    have hidle : RaceAction.step orderId race .reserve = race := by
      simp only [RaceAction.step, hover]
    rw [hidle]
    exact ⟨hover, hnothing⟩
  | stop => exact ⟨rfl, hnothing⟩
  | deliverOrder deliveredAt => exact hsettle _ rfl
  | releaseOrder => exact hsettle _ rfl

end Race

def raceFrom (orderId : String) (s : Store) (actions : List RaceAction) : DispatchRace :=
  Machine.run (RaceAction.step orderId) { store := s } actions

end Zomaal
