/-
**The revenue of an order follows the verdicts on its parcel.**

Whatever is reported of a parcel, the revenue of its order stands after a delivery and is gone after
a failure.  Which row there is to correct is looked up by type and by key; that this finds the chain
of corrections as the verdicts have left it is the invariant.

Main results:

* `RevenueInv.applyRevenueRecognition`, `RevenueInv.applyRevenueReversal` — what a delivery and a
  failure book;
* `RevenueInv.step`, `RevenueInv.run` — **the ledger follows the verdicts**, in every run;
* `RowStable.step` — what no row breaks, no step breaks.
-/

import Mathlib.Data.List.Find
import Zomaal.ReturnLossBooks
import Zomaal.RevenueChains

set_option autoImplicit false

namespace Zomaal

open Command

/-! ### The rows as they are looked up -/

section Lookup

variable {s t : Store} {orderId : String}

theorem revenueRows_eq (s : Store) (orderId : String) :
    s.revenueRows orderId =
      s.financialEvents.filter fun event => event.orderId = orderId && event.booksRevenue := by
  rw [Store.revenueRows, Store.ledger, List.filter_filter]
  exact List.filter_congr fun event _ => Bool.and_comm ..

theorem latestEvent_eq {type : FinancialEventType}
    (htype : ∀ event : FinancialEvent, event.type = type → event.booksRevenue = true) :
    s.latestEvent orderId type =
      (s.revenueRows orderId).findRev? fun event => event.type = type := by
  rw [Store.latestEvent, List.findRev?_eq_find?_reverse, List.findRev?_eq_find?_reverse,
    revenueRows_eq, ← List.filter_reverse, List.find?_filter]
  refine List.find?_congr fun event _ => ?_
  by_cases hthis : event.type = type
  · simp [hthis, htype event hthis]
  · simp [hthis]

end Lookup

/-! ### The ledger of an order -/

def LedgerSums.residue (sums : LedgerSums) : Decimal :=
  sums.netProfit - (sums.revenue - sums.productCost - sums.shippingCost - sums.damageCost -
    sums.giftCost - sums.packagingCost)

/-- What a row adds to the profit beside what it adds to the parts of the profit. -/
def FinancialEvent.residue (event : FinancialEvent) : Decimal :=
  (({} : LedgerSums).add event).residue

theorem LedgerSums.residue_add (sums : LedgerSums) (event : FinancialEvent) :
    (sums.add event).residue = sums.residue + event.residue := by
  rw [FinancialEvent.residue, LedgerSums.add, LedgerSums.add]
  cases event.type <;> simp only [LedgerSums.residue] <;> ring

/-- **What holds of every ledger**: keys of revenue are those of its rows, identifiers are drawn once,
and what is no row of revenue adds to the profit what it adds to its part. -/
structure LedgerSound (orderId : String) (s : Store) : Prop where
  keyed : ∀ event ∈ s.ledger orderId, Key.InFamily "revenue-" event.idempotencyKey →
    event.booksRevenue = true
  drawn : ∀ event ∈ s.ledger orderId, ∃ n < s.uuids, event.id = uuid n
  distinct : ((s.ledger orderId).map FinancialEvent.id).Nodup
  exact : ∀ event ∈ s.ledger orderId, event.booksRevenue = false → event.residue = 0

theorem ledger_appendRow (s : Store) (data : FinancialEventData) (orderId : String) :
    (s.appendRow data).ledger orderId = s.ledger orderId ++
      if data.orderId = orderId then [{ data.stored with id := uuid s.uuids }] else [] :=
  @ledger_append s _ { data.stored with id := uuid s.uuids } orderId rfl

theorem uuid_inj {m n : ℕ} (h : uuid m = uuid n) : m = n := by
  rw [uuid, uuid, String.append_right_inj] at h
  exact Key.toString_nat_inj h

namespace LedgerSound

variable {orderId : String} {s t : Store}

theorem of_ledger (h : LedgerSound orderId s) (hledger : t.ledger orderId = s.ledger orderId)
    (huuids : s.uuids ≤ t.uuids) : LedgerSound orderId t := by
  refine ⟨hledger ▸ h.keyed, fun event hevent => ?_, hledger ▸ h.distinct, hledger ▸ h.exact⟩
  obtain ⟨n, hn, hid⟩ := h.drawn event (hledger ▸ hevent)
  exact ⟨n, hn.trans_le huuids, hid⟩

theorem appendRow (h : LedgerSound orderId s) {data : FinancialEventData}
    (hrow : data.orderId = orderId → ∀ event : FinancialEvent,
      event.toFinancialEventData = data.stored →
        (Key.InFamily "revenue-" data.idempotencyKey → event.booksRevenue = true) ∧
          (event.booksRevenue = false → event.residue = 0)) :
    LedgerSound orderId (s.appendRow data) := by
  have hledger := ledger_appendRow s data orderId
  by_cases horder : data.orderId = orderId
  · rw [if_pos horder] at hledger
    obtain ⟨hkey, hexact⟩ := hrow horder { data.stored with id := uuid s.uuids } rfl
    constructor
    · intro event hevent
      rw [hledger] at hevent
      rcases List.mem_append.1 hevent with hold | hnew
      · exact h.keyed event hold
      · obtain rfl := List.mem_singleton.1 hnew
        exact hkey
    · intro event hevent
      rw [hledger] at hevent
      rcases List.mem_append.1 hevent with hold | hnew
      · obtain ⟨n, hn, hid⟩ := h.drawn event hold
        exact ⟨n, hn.trans (Nat.lt_succ_self _), hid⟩
      · obtain rfl := List.mem_singleton.1 hnew
        exact ⟨s.uuids, Nat.lt_succ_self _, rfl⟩
    · rw [hledger, List.map_append, List.nodup_append]
      refine ⟨h.distinct, List.nodup_singleton _, ?_⟩
      rintro id hid other hother rfl
      obtain ⟨event, hevent, rfl⟩ := List.mem_map.1 hid
      obtain ⟨n, hn, heq⟩ := h.drawn event hevent
      have hsame : uuid n = uuid s.uuids := heq.symm.trans (by simpa using hother)
      exact absurd (uuid_inj hsame) hn.ne
    · intro event hevent
      rw [hledger] at hevent
      rcases List.mem_append.1 hevent with hold | hnew
      · exact h.exact event hold
      · obtain rfl := List.mem_singleton.1 hnew
        exact hexact
  · rw [if_neg horder, List.append_nil] at hledger
    exact h.of_ledger hledger (Nat.le_succ _)

theorem findEvent_eq (h : LedgerSound orderId s) {key : String}
    (hkey : Key.InFamily "revenue-" key) :
    s.findEvent orderId key =
      (s.revenueRows orderId).find? fun event => event.idempotencyKey = key := by
  rw [Store.findEvent, revenueRows_eq, List.find?_filter]
  refine List.find?_congr fun event hevent => ?_
  by_cases horder : event.orderId = orderId
  · by_cases hthis : event.idempotencyKey = key
    · have hin : event ∈ s.ledger orderId := List.mem_filter.2 ⟨hevent, by simpa using horder⟩
      simp [horder, hthis, h.keyed event hin (hthis ▸ hkey)]
    · simp [hthis]
  · simp [horder]

end LedgerSound

/-! ### What keeps a property of the ledger -/

/-- A property of the ledger, which losses of lines do not break. -/
structure LossStable (I : Store → Prop) : Prop where
  frame : ∀ {s t : Store}, I s → t.financialEvents = s.financialEvents → s.uuids ≤ t.uuids → I t
  lost : ∀ {s : Store} (orderId currency reason key : String) (delta : Decimal),
    Key.InFamily "damage-loss:" key → I s →
    I (s.appendRow (lossData orderId currency reason key delta))

namespace LossStable

variable {I : Store → Prop}

theorem stock (hI : LossStable I) : StockStable (fun _ => True) I where
  quiet hquiet h := by
    have hsame := hquiet.sameBut
    exact hI.frame h (by rw [hsame]) (by rw [hsame])
  moved _ _ hmoved h := by
    have hsame := hmoved.sameBut
    exact hI.frame h (by rw [hsame]) (by rw [hsame])
  status status _ h := hI.frame h rfl (le_refl _)

theorem setLineLoss (hI : LossStable I) (orderId lineId currency : String) (target : Decimal)
    (reason : String) : Keeps I (Zomaal.setLineLoss orderId lineId currency target reason) := by
  have hbook : ∀ delta key, Key.InFamily "damage-loss:" key →
      Keeps I (upsertEvent (lossData orderId currency reason key delta) >>= fun event =>
        pure (some event)) := by
    intro delta key hkey
    refine Keeps.bind (fun s h => ?_) fun event => Keeps.pure _
    rcases upsertEvent_final (lossData orderId currency reason key delta) s with
      hsame | ⟨-, happended⟩
    · rwa [hsame]
    · rw [happended]
      exact hI.lost orderId currency reason key delta hkey h
  have hkey : Key.InFamily "damage-loss:" (damageLossKey lineId) := Key.InFamily.intro _ _
  refine (Keeps.ask _).bind fun booked => Keeps.ite (Keeps.pure none) (Keeps.ite ?_ ?_)
  · exact fun s hs => hbook _ _ hkey s hs
  · refine Keeps.bind (fun s h => hI.frame h rfl (Nat.le_succ _)) fun id => ?_
    exact fun s hs => hbook _ _ ((hkey.append _).append _) s hs

/-- **The conditions of returned lines** book losses, and nothing else. -/
theorem record (hI : LossStable I) (environment : Environment) (now : ℤ)
    (storeId orderId : String) (inputs : List ConditionInput) (context : Option ReturnContext) :
    Keeps I (Zomaal.record environment now storeId orderId inputs context) := by
  have hline : ∀ (order : EcommerceOrder) (prepared : PreparedLine),
      Keeps I (recordLine now order prepared) := by
    intro order prepared
    refine Keeps.ite ((Keeps.modify fun s h => ?_).bind fun _ => Keeps.pure _) ?_
    · exact hI.frame h rfl (le_refl _)
    · refine (hI.stock.moves.reconcileReturnTargets trivial).bind fun updated => ?_
      refine (Keeps.modify fun s h => ?_).bind fun _ => ?_
      · exact hI.frame h rfl (le_refl _)
      · exact (hI.setLineLoss _ _ _ _ _).bind fun _ => Keeps.pure _
  refine (Keeps.ask _).bind fun pricing => ?_
  cases pricing with
  | none => exact Keeps.fail _
  | some pricing =>
    refine (Keeps.lift _).bind fun costRate => Keeps.transaction ?_ fun s t h => ?_
    · refine (Keeps.ask _).bind fun found => ?_
      cases found with
      | none => exact Keeps.fail _
      | some order =>
        refine (Keeps.lift _).bind fun prepared => (Keeps.ask _).bind fun before => ?_
        refine (Keeps.lift _).bind fun request => ?_
        refine (Keeps.mapEach fun prepared _ => hline order prepared).bind fun updates => ?_
        refine (Keeps.modify fun s h => ?_).bind fun _ => Keeps.pure _
        split
        · exact hI.frame h rfl (le_refl _)
        · exact h
    · exact hI.frame h rfl (le_refl _)

theorem reserve (hI : LossStable I) (orderId : String) :
    Keeps I (withOrderTransaction (reserveOrder orderId)) :=
  Keeps.transaction (hI.stock.moves.reserveOrder orderId) fun _ _ h => hI.frame h rfl (le_refl _)

end LossStable

/-! ### The revenue of one order -/

/-- **The invariant**: the revenue of an order stands as the verdicts on it said. -/
structure RevenueInv (orderId : String) (standing : Standing) (s : Store) : Prop where
  sound : LedgerSound orderId s
  rows : s.revenueRows orderId = [] ∧ standing.stands = false ∨
    ∃ recognized last rows, Recognizes orderId recognized ∧
      Corrections orderId recognized standing.stands last rows ∧
      s.revenueRows orderId = recognized :: rows
  types : (s.revenueRows orderId).map (fun event => event.type) = standing.rows

theorem createEvent_fresh {s : Store} {data : FinancialEventData}
    (h : s.findEvent data.orderId data.idempotencyKey = none) :
    createEvent data s = (.ok { data.stored with id := uuid s.uuids }, s.appendRow data) := by
  have hwritten := upsertEvent_fresh h
  rwa [upsertEvent, ask_bind_apply, h] at hwritten

theorem recognizedKey_family : Key.InFamily "revenue-" revenueRecognizedKey := ⟨"recognized", rfl⟩

theorem reversedKey_family : Key.InFamily "revenue-" revenueReversedKey := ⟨"reversed", rfl⟩

theorem reinstated_family (id : String) :
    Key.InFamily "revenue-" ("revenue-reinstated:" ++ id) :=
  Key.InFamily.append ⟨"reinstated:", rfl⟩ id

theorem reversed_family (id : String) : Key.InFamily "revenue-" ("revenue-reversed:" ++ id) :=
  Key.InFamily.append ⟨"reversed:", rfl⟩ id

theorem applyRevenueRecognition_first {environment : Environment} {order : EcommerceOrder}
    {shipment : Option ShipmentFee} {s t : Store} {event : FinancialEvent}
    (hnone : s.findEvent order.id revenueRecognizedKey = none)
    (hrun : applyRevenueRecognition environment order shipment s = (.ok event, t)) :
    ∃ costs shippingCost,
      createEvent (recognitionData order costs shippingCost) s = (.ok event, t) := by
  rw [applyRevenueRecognition, ask_bind_apply, hnone] at hrun
  dsimp only at hrun
  obtain ⟨costs, u, hlift, hrun⟩ := bind_eq_ok hrun
  obtain ⟨-, rfl⟩ := lift_eq_ok hlift
  rw [ask_bind_apply] at hrun
  split at hrun
  · exact ⟨costs, 0, hrun⟩
  · obtain ⟨fee, u, hfee, hrun⟩ := bind_eq_ok hrun
    obtain ⟨-, rfl⟩ := lift_eq_ok hfee
    exact ⟨costs, fee.getD order.shipping, hrun⟩

namespace RevenueInv

variable {orderId : String} {standing : Standing} {s t : Store}

theorem of_ledger (h : RevenueInv orderId standing s) (hledger : t.ledger orderId = s.ledger orderId)
    (huuids : s.uuids ≤ t.uuids) : RevenueInv orderId standing t := by
  have hrows : t.revenueRows orderId = s.revenueRows orderId := by
    rw [Store.revenueRows, hledger]
    rfl
  exact ⟨h.sound.of_ledger hledger huuids, hrows ▸ h.rows, hrows ▸ h.types⟩

theorem revenueRows_appendRow (s : Store) (data : FinancialEventData)
    (event : FinancialEvent) (hevent : event = { data.stored with id := uuid s.uuids }) :
    (s.appendRow data).revenueRows orderId = s.revenueRows orderId ++
      if data.orderId = orderId ∧ event.booksRevenue then [event] else [] := by
  subst hevent
  rw [revenueRows_eq, revenueRows_eq, Store.appendRow, List.filter_append, List.filter_singleton]
  congr 1
  have horder : data.stored.orderId = data.orderId := rfl
  by_cases hthis : data.orderId = orderId
  · simp [horder, hthis]
  · simp [horder, hthis]

theorem appendOther (h : RevenueInv orderId standing s) {data : FinancialEventData}
    (hrow : data.orderId = orderId → ∀ event : FinancialEvent,
      event.toFinancialEventData = data.stored → ¬ Key.InFamily "revenue-" data.idempotencyKey ∧
        event.booksRevenue = false ∧ event.residue = 0) :
    RevenueInv orderId standing (s.appendRow data) := by
  have hrows := @revenueRows_appendRow orderId s data _ rfl
  have hnone : ¬ (data.orderId = orderId ∧
      ({ data.stored with id := uuid s.uuids } : FinancialEvent).booksRevenue) := by
    rintro ⟨horder, hbooks⟩
    rw [(hrow horder _ rfl).2.1] at hbooks
    exact Bool.noConfusion hbooks
  rw [if_neg hnone, List.append_nil] at hrows
  refine ⟨h.sound.appendRow fun horder event hevent => ?_, hrows ▸ h.rows, hrows ▸ h.types⟩
  obtain ⟨hkey, -, hexact⟩ := hrow horder event hevent
  exact ⟨fun hin => absurd hin hkey, fun _ => hexact⟩

/-- The first row of revenue, or the next correction. -/
theorem appendOwn (h : RevenueInv orderId standing s) {data : FinancialEventData}
    {delivered : Bool} (horder : data.orderId = orderId) (htype : data.type = standing.next)
    (hother : delivered = !standing.stands)
    (hrows : ∀ event : FinancialEvent, event.toFinancialEventData = data.stored →
      ∃ recognized rows, Recognizes orderId recognized ∧
        Corrections orderId recognized delivered event rows ∧
        s.revenueRows orderId ++ [event] = recognized :: rows) :
    RevenueInv orderId (standing.verdict delivered) (s.appendRow data) := by
  have hbooks : ∀ event : FinancialEvent, event.toFinancialEventData = data.stored →
      event.booksRevenue = true ∧ event.type = standing.next := by
    intro event hevent
    have hown : event.type = standing.next :=
      (congrArg FinancialEventData.type hevent).trans htype
    refine ⟨?_, hown⟩
    rw [FinancialEvent.booksRevenue, hown, Standing.next]
    split
    · rfl
    · split <;> rfl
  have hverdict : standing.verdict delivered =
      { rows := standing.rows ++ [standing.next], stands := delivered } := by
    rw [Standing.verdict, if_neg]
    cases hstands : standing.stands <;> simp [hother, hstands]
  have happended := @revenueRows_appendRow orderId s data _ rfl
  rw [if_pos ⟨horder, (hbooks _ rfl).1⟩] at happended
  rw [hverdict]
  constructor
  · refine h.sound.appendRow fun _ event hevent => ?_
    rw [(hbooks event hevent).1]
    exact ⟨fun _ => rfl, fun hnot => Bool.noConfusion hnot⟩
  · obtain ⟨recognized, rows, hrecognizes, hcorrections, heq⟩ :=
      hrows { data.stored with id := uuid s.uuids } rfl
    exact .inr ⟨recognized, _, rows, hrecognizes, hcorrections, happended.trans heq⟩
  · rw [happended, List.map_append, h.types]
    exact congrArg (fun type => standing.rows ++ [type]) (hbooks _ rfl).2

theorem same (h : RevenueInv orderId standing s) {delivered : Bool}
    (hstands : standing.stands = delivered) :
    RevenueInv orderId (standing.verdict delivered) s := by
  rwa [Standing.verdict, if_pos hstands.symm]

theorem find_recognized (h : RevenueInv orderId standing s) {recognized : FinancialEvent}
    {rows : List FinancialEvent} (hrecognizes : Recognizes orderId recognized)
    (hrows : s.revenueRows orderId = recognized :: rows) :
    s.findEvent orderId revenueRecognizedKey = some recognized := by
  rw [h.sound.findEvent_eq recognizedKey_family, hrows, List.find?_cons_of_pos]
  obtain ⟨_, _, _, -, hrow⟩ := hrecognizes
  exact decide_eq_true (congrArg FinancialEventData.idempotencyKey hrow)

theorem find_none (h : RevenueInv orderId standing s) (hrows : s.revenueRows orderId = [])
    {key : String} (hkey : Key.InFamily "revenue-" key) : s.findEvent orderId key = none := by
  rw [h.sound.findEvent_eq hkey, hrows, List.find?_nil]

theorem find_last (h : RevenueInv orderId standing s) {event : FinancialEvent}
    (hevent : event ∈ s.revenueRows orderId)
    (hkey : Key.InFamily "revenue-" event.idempotencyKey) :
    ∃ found, s.findEvent orderId event.idempotencyKey = some found := by
  rw [← Option.isSome_iff_exists, h.sound.findEvent_eq hkey, List.find?_isSome]
  exact ⟨event, hevent, by simp⟩

theorem ids (h : RevenueInv orderId standing s) :
    ((s.revenueRows orderId).map FinancialEvent.id).Nodup :=
  h.sound.distinct.sublist (List.filter_sublist.map _)

/-- **A delivery** recognizes the revenue, or reinstates it, or changes nothing. -/
theorem applyRevenueRecognition (h : RevenueInv orderId standing s) {environment : Environment}
    {order : EcommerceOrder} {shipment : Option ShipmentFee} {event : FinancialEvent}
    (hid : order.id = orderId)
    (hrun : Zomaal.applyRevenueRecognition environment order shipment s = (.ok event, t)) :
    RevenueInv orderId (standing.verdict true) t := by
  rcases h.rows with ⟨hnone, hstands⟩ | ⟨recognized, last, rows, hrecognizes, hcorrections, hrows⟩
  · have hfresh := h.find_none hnone recognizedKey_family
    obtain ⟨costs, shippingCost, hrun⟩ := applyRevenueRecognition_first (hid ▸ hfresh) hrun
    rw [createEvent_fresh ((congrArg (s.findEvent · _) hid).trans hfresh)] at hrun
    obtain rfl : _ = t := congrArg Prod.snd hrun
    have htypes : standing.rows = [] := by
      rw [← h.types, hnone]
      rfl
    refine h.appendOwn hid ?_ (by rw [hstands]; rfl) fun row hrow => ?_
    · rw [Standing.next, hstands, htypes]
      rfl
    · exact ⟨row, [], ⟨order, costs, shippingCost, hid, hrow⟩, .uncorrected, by rw [hnone]; rfl⟩
  · obtain ⟨_, _, _, -, hrow⟩ := id hrecognizes
    have hkey : recognized.idempotencyKey = revenueRecognizedKey :=
      congrArg FinancialEventData.idempotencyKey hrow
    have hlatest := hcorrections.latest_reversed (congrArg FinancialEventData.type hrow)
    rw [← hrows, ← latestEvent_eq fun row hrow => by simp [FinancialEvent.booksRevenue, hrow]]
      at hlatest
    rw [Zomaal.applyRevenueRecognition, ask_bind_apply, hid,
      h.find_recognized hrecognizes hrows] at hrun
    dsimp only at hrun
    rw [ask_bind_apply] at hrun
    cases hstands : standing.stands with
    | true =>
      rw [hstands, if_pos rfl] at hlatest
      suffices hsame : s = t from hsame ▸ h.same hstands
      rcases hlatest with hlatest | ⟨reversal, hlatest, hreinstated⟩
      · rw [hlatest] at hrun
        exact congrArg Prod.snd hrun
      · obtain ⟨found, hfound⟩ := h.find_last (hrows ▸ hcorrections.last_mem)
          (hreinstated ▸ reinstated_family reversal.id)
        have hthere : s.findEvent order.id ("revenue-reinstated:" ++ reversal.id) = some found :=
          hid ▸ hreinstated ▸ hfound
        rw [hlatest] at hrun
        dsimp only [upsertEvent, reinstatementData] at hrun
        rw [ask_bind_apply, hthere] at hrun
        exact congrArg Prod.snd hrun
    | false =>
      rw [hstands, if_neg Bool.false_ne_true] at hlatest
      have hfresh : s.findEvent order.id ("revenue-reinstated:" ++ last.id) = none := by
        rw [hid, h.sound.findEvent_eq (reinstated_family last.id), hrows]
        exact hcorrections.find_fresh hkey (hrows ▸ h.ids) (.inr rfl)
      rw [hlatest] at hrun
      dsimp only at hrun
      rw [upsertEvent_fresh hfresh] at hrun
      obtain rfl : _ = t := congrArg Prod.snd hrun
      refine @appendOwn orderId standing s h (reinstatementData order recognized last) _ hid ?_
        (by rw [hstands]; rfl) fun row hrow => ?_
      · have hne : standing.rows.isEmpty = false := by
          rw [← h.types, hrows]
          rfl
        rw [Standing.next, hstands, hne]
        rfl
      · exact ⟨recognized, rows ++ [row], hrecognizes,
          .reinstated (hstands ▸ hcorrections) hid hrow, by rw [hrows]; rfl⟩

/-- **A failure** reverses the revenue that stands, or changes nothing. -/
theorem applyRevenueReversal (h : RevenueInv orderId standing s) {currency : String}
    {event : Option FinancialEvent}
    (hrun : Zomaal.applyRevenueReversal orderId currency s = (.ok event, t)) :
    RevenueInv orderId (standing.verdict false) t := by
  have hstart : reversalKey orderId s = _ := ask_bind_apply _ _ s
  rcases h.rows with ⟨hnone, hstands⟩ | ⟨recognized, last, rows, hrecognizes, hcorrections, hrows⟩
  · suffices hsame : s = t from hsame ▸ h.same hstands
    rw [h.find_none hnone reversedKey_family] at hstart
    rw [Zomaal.applyRevenueReversal, bind_of_ok hstart] at hrun
    dsimp only at hrun
    rw [ask_bind_apply, h.find_none hnone recognizedKey_family] at hrun
    exact congrArg Prod.snd hrun
  · obtain ⟨_, _, _, -, hrow⟩ := id hrecognizes
    have hkey : recognized.idempotencyKey = revenueRecognizedKey :=
      congrArg FinancialEventData.idempotencyKey hrow
    have hlatest := hcorrections.latest_reinstated (congrArg FinancialEventData.type hrow)
    have hreversed := hcorrections.find_reversed hkey
    rw [← hrows, ← h.sound.findEvent_eq reversedKey_family] at hreversed
    rw [← hrows, ← latestEvent_eq fun row hrow => by simp [FinancialEvent.booksRevenue, hrow]]
      at hlatest
    have hne : standing.rows.isEmpty = false := by
      rw [← h.types, hrows]
      rfl
    -- the correction, with the key that is looked for
    have hcreate : ∀ key, standing.stands = true → reversalKey orderId s = (.ok (.inr key), s) →
        (key = if rows.isEmpty then revenueReversedKey else "revenue-reversed:" ++ last.id) →
        s.findEvent orderId key = none → RevenueInv orderId (standing.verdict false) t := by
      intro key hstands hthis hnew hfresh
      rw [Zomaal.applyRevenueReversal, bind_of_ok hthis] at hrun
      dsimp only at hrun
      rw [ask_bind_apply, h.find_recognized hrecognizes hrows] at hrun
      dsimp only at hrun
      rw [bind_of_ok (createEvent_fresh hfresh)] at hrun
      obtain rfl : _ = t := congrArg Prod.snd hrun
      refine @appendOwn orderId standing s h (reversalData orderId currency recognized key) _ rfl ?_
        (by rw [hstands]; rfl) fun row hrow => ?_
      · rw [Standing.next, hstands]
        rfl
      · exact ⟨recognized, rows ++ [row], hrecognizes,
          .reversed (hstands ▸ hcorrections) hrow hnew, by rw [hrows]; rfl⟩
    have hsame : ∀ existing, standing.stands = false →
        reversalKey orderId s = (.ok (.inl existing), s) →
        RevenueInv orderId (standing.verdict false) t := by
      intro existing hstands hthis
      rw [Zomaal.applyRevenueReversal, bind_of_ok hthis] at hrun
      obtain rfl : s = t := congrArg Prod.snd hrun
      exact h.same hstands
    cases hfound : s.findEvent orderId revenueReversedKey with
    | none =>
      rw [hfound] at hstart hreversed
      have hempty : rows.isEmpty = true := by simpa using hreversed.symm
      have hstands : standing.stands = true := by
        rw [← Bool.not_eq_false]
        intro hstands
        rw [hstands] at hcorrections
        exact hcorrections.ne_nil (List.isEmpty_iff.1 hempty)
      exact hcreate _ hstands hstart (by rw [if_pos hempty]) hfound
    | some existing =>
      rw [hfound] at hstart hreversed
      have hempty : rows.isEmpty = false := by simpa using hreversed.symm
      dsimp only at hstart
      rw [ask_bind_apply] at hstart
      cases hstands : standing.stands with
      | true =>
        rw [hstands, if_pos rfl] at hlatest
        have hlatest := hlatest.resolve_left (List.isEmpty_eq_false_iff.1 hempty)
        have hfresh : s.findEvent orderId ("revenue-reversed:" ++ last.id) = none := by
          rw [h.sound.findEvent_eq (reversed_family last.id), hrows]
          exact hcorrections.find_fresh hkey (hrows ▸ h.ids) (.inl rfl)
        rw [hlatest] at hstart
        dsimp only at hstart
        rw [ask_bind_apply, hfresh] at hstart
        exact hcreate _ hstands hstart (by rw [hempty]; rfl) hfresh
      | false =>
        rw [hstands, if_neg Bool.false_ne_true] at hlatest
        rcases hlatest with hlatest | ⟨reinstated, hlatest, hthis⟩
        · rw [hlatest] at hstart
          exact hsame _ hstands hstart
        · obtain ⟨found, hcorrection⟩ := h.find_last (hrows ▸ hcorrections.last_mem)
            (hthis ▸ reversed_family reinstated.id)
          rw [hlatest] at hstart
          dsimp only at hstart
          rw [ask_bind_apply, ← hthis, hcorrection] at hstart
          exact hsame _ hstands hstart

/-! ### What leaves the revenue alone -/

theorem of_events (h : RevenueInv orderId standing s)
    (hevents : t.financialEvents = s.financialEvents) (huuids : s.uuids ≤ t.uuids) :
    RevenueInv orderId standing t := by
  refine h.of_ledger ?_ huuids
  rw [Store.ledger, hevents]
  rfl

theorem losses : LossStable (RevenueInv orderId standing) where
  frame h hevents huuids := h.of_events hevents huuids
  lost _ _ _ _ delta hkey h := by
    refine h.appendOther fun _ event hevent => ⟨?_, ?_, ?_⟩
    · exact fun hin => (by decide : Key.Apart "revenue-" "damage-loss:").not_both hin hkey
    · have htype : event.type = .damageLoss := congrArg FinancialEventData.type hevent
      rw [FinancialEvent.booksRevenue, htype]
      rfl
    · have htype : event.type = .damageLoss := congrArg FinancialEventData.type hevent
      have hdamage : event.damageCost = toFixed4 delta :=
        congrArg FinancialEventData.damageCost hevent
      have hprofit : event.netProfitImpact = toFixed4 (-delta) :=
        congrArg FinancialEventData.netProfitImpact hevent
      simp only [FinancialEvent.residue, LedgerSums.add, htype, LedgerSums.residue, hdamage,
        hprofit, toFixed4_neg_eq]
      ring

theorem upsertEvent {data : FinancialEventData}
    (hrow : data.orderId = orderId → ∀ event : FinancialEvent,
      event.toFinancialEventData = data.stored → ¬ Key.InFamily "revenue-" data.idempotencyKey ∧
        event.booksRevenue = false ∧ event.residue = 0) :
    Keeps (RevenueInv orderId standing) (Zomaal.upsertEvent data) := by
  intro s h
  rcases upsertEvent_final data s with hsame | ⟨-, happended⟩
  · rwa [hsame]
  · rw [happended]
    exact h.appendOther hrow

/-- **The shipping of a parcel that came back** is no revenue. -/
theorem applyShippingLoss (environment : Environment) (other currency : String)
    (fallbackShipping : Decimal) (shipment : Option ShipmentFee) :
    Keeps (RevenueInv orderId standing)
      (Zomaal.applyShippingLoss environment other currency fallbackShipping shipment) := by
  refine (Keeps.ask _).bind fun recognized => ?_
  cases recognized with
  | some recognized => exact Keeps.pure none
  | none =>
    refine (Keeps.ask _).bind fun booked => ?_
    cases booked with
    | some booked => exact Keeps.pure _
    | none =>
      refine (Keeps.lift _).bind fun fee => Keeps.ite (Keeps.pure none) (Keeps.bind ?_ fun event =>
        Keeps.pure _)
      refine upsertEvent fun _ event hevent => ⟨?_, ?_, ?_⟩
      · rintro ⟨rest, hkey⟩
        exact family_ne (by decide : Key.Apart "revenue-" shippingLossKey) rest hkey.symm
      · have htype : event.type = .shippingLoss := congrArg FinancialEventData.type hevent
        rw [FinancialEvent.booksRevenue, htype]
        rfl
      · have htype : event.type = .shippingLoss := congrArg FinancialEventData.type hevent
        have hshipping : event.shippingCost = toFixed4 (fee.getD fallbackShipping) :=
          congrArg FinancialEventData.shippingCost hevent
        have hprofit : event.netProfitImpact = toFixed4 (-fee.getD fallbackShipping) :=
          congrArg FinancialEventData.netProfitImpact hevent
        simp only [FinancialEvent.residue, LedgerSums.add, htype, LedgerSums.residue, hshipping,
          hprofit, toFixed4_neg_eq]
        ring

/-- **Evaluations of another order** write no row of this one. -/
theorem evaluation {environment : Environment} {order : EcommerceOrder}
    {shipment : Option ShipmentFee} (hother : order.id ≠ orderId) :
    EvaluationStable environment order shipment True (RevenueInv orderId standing) where
  drawn h := h.of_events rfl (Nat.le_succ _)
  appended hrow _ h :=
    h.appendOther fun horder => absurd (hrow.no_loss.1.symm.trans horder) hother

/-! ### Evaluations -/

theorem syncDelivered (h : RevenueInv orderId standing s) {environment : Environment}
    {order : EcommerceOrder} {shipment : Option ShipmentFee} {deliveredAt : Option ℤ} {done : Unit}
    (hid : order.id = orderId)
    (hrun : Zomaal.syncDelivered environment order shipment deliveredAt s = (.ok done, t)) :
    RevenueInv orderId (standing.verdict true) t := by
  obtain ⟨event, u, hrecognized, hdeliver⟩ := bind_eq_ok hrun
  have hstock : Keeps (RevenueInv orderId (standing.verdict true))
      (deliverOrder order.id deliveredAt) := losses.stock.moves.deliverOrder order.id deliveredAt
  have hu := hstock u (h.applyRevenueRecognition hid hrecognized)
  rwa [final, hdeliver] at hu

theorem syncFailed (h : RevenueInv orderId standing s) {environment : Environment}
    {order : EcommerceOrder} {shipment : Option ShipmentFee} {travelled applied : Bool}
    (hid : order.id = orderId)
    (hrun : Zomaal.syncFailed environment order travelled shipment s = (.ok applied, t)) :
    RevenueInv orderId (standing.verdict false) t := by
  obtain ⟨event, u, hreversed, hrest⟩ := bind_eq_ok hrun
  rw [hid] at hreversed
  have hkept : Keeps (RevenueInv orderId (standing.verdict false)) (do
      (if travelled then do
        let _ ← Zomaal.applyShippingLoss environment order.id order.currency order.shipping
          shipment
      else pure ())
      releaseOrder order.id
      pure event.isSome) := by
    refine Keeps.bind (Keeps.ite ?_ (Keeps.pure ())) fun _ =>
      (losses.stock.moves.releaseOrder order.id).bind fun _ => Keeps.pure _
    exact (applyShippingLoss environment _ _ _ shipment).bind fun _ => Keeps.pure ()
  have hu := hkept u (h.applyRevenueReversal hreversed)
  rwa [final, hrest] at hu

end RevenueInv

/-! ### Every run -/

def SyncReason.verdict : SyncReason → Option Bool
  | .delivered => some true
  | .cancelled => some false
  | .notDispatched | .noCarrierStatusYet | .inProgress => none

/-- A step: an evaluation of an order's dispatch or of its timeline, conditions of returned lines
that are recorded, an order that is reserved, or orders that come anew from the shop. -/
inductive RevenueAct
  | dispatched (environment : Environment) (dispatch : CourierDispatch)
  | timeline (environment : Environment) (orderId : String) (events : List TimelineEvent)
  | conditions (environment : Environment) (now : ℤ) (storeId orderId : String)
      (inputs : List ConditionInput) (context : Option ReturnContext)
  | reserve (orderId : String)
  | resync (orders : List EcommerceOrder)

/-- The order a step evaluates, and how. -/
def RevenueAct.evaluation : RevenueAct → Option (String × Service SyncResult)
  | .dispatched environment dispatch =>
    some (dispatch.orderId,
      withOrderTransaction (syncFromDispatchIdLocked environment (some dispatch)))
  | .timeline environment orderId events =>
    some (orderId, withOrderTransaction (syncFromTimelineEvents environment orderId events))
  | .conditions .. | .reserve _ | .resync _ => none

def RevenueAct.step (s : Store) (act : RevenueAct) : Store :=
  match act with
  | .dispatched environment dispatch =>
    (withOrderTransaction (syncFromDispatchIdLocked environment (some dispatch))).final s
  | .timeline environment orderId events =>
    (withOrderTransaction (syncFromTimelineEvents environment orderId events)).final s
  | .conditions environment now storeId orderId inputs context =>
    (record environment now storeId orderId inputs context).final s
  | .reserve orderId => (withOrderTransaction (reserveOrder orderId)).final s
  | .resync orders => { s with orders }

/-- The verdict of an evaluation that is committed. -/
def RevenueAct.verdict (orderId : String) (s : Store) (act : RevenueAct) : Option Bool :=
  match act.evaluation with
  | none => none
  | some (other, evaluation) =>
    if other = orderId then
      match (evaluation s).1 with
      | .ok result => result.reason.verdict
      | .error _ => none
    else none

/-- The verdicts on an order, in the order of the run. -/
def verdicts (orderId : String) : Store → List RevenueAct → List Bool
  | _, [] => []
  | s, act :: acts => (act.verdict orderId s).toList ++ verdicts orderId (act.step s) acts

def Standing.after (standing : Standing) (verdict : Option Bool) : Standing :=
  verdict.toList.foldl Standing.verdict standing

/-- A property of the ledger that no row of any evaluation breaks either. -/
structure RowStable (I : Store → Prop) : Prop extends LossStable I where
  evaluated : ∀ {environment : Environment} {order : EcommerceOrder}
    {shipment : Option ShipmentFee} {s : Store} {data : FinancialEventData},
    EvaluationRow environment order shipment True s data →
    s.findEvent data.orderId data.idempotencyKey = none → I s → I (s.appendRow data)

/-- **Every step keeps such a property.** -/
theorem RowStable.step {I : Store → Prop} (hI : RowStable I) (s : Store) (act : RevenueAct)
    (h : I s) : I (act.step s) := by
  have hevaluation : ∀ {environment : Environment} {order : EcommerceOrder}
      {shipment : Option ShipmentFee}, EvaluationStable environment order shipment True I :=
    ⟨fun h => hI.frame h rfl (Nat.le_succ _), hI.evaluated⟩
  have hcommitted : ∀ {evaluation : Service SyncResult}, Keeps I evaluation →
      Keeps I (withOrderTransaction evaluation) :=
    fun hkeeps => hkeeps.transaction fun s t h => hI.frame h rfl (le_refl _)
  cases act with
  | dispatched environment dispatch =>
    refine hcommitted ((Keeps.ask _).bind fun found => ?_) s h
    cases found with
    | none => exact Keeps.pure _
    | some order =>
      dsimp only
      cases pickCourierShipment dispatch with
      | none => exact Keeps.pure _
      | some shipment => exact hevaluation.outcome hI.stock (fun _ => trivial) fun _ => trivial
  | timeline environment orderId events =>
    refine hcommitted (Keeps.ite (Keeps.pure _) ((Keeps.ask _).bind fun found => ?_)) s h
    cases found with
    | none => exact Keeps.fail _
    | some order =>
      dsimp only
      cases deriveTerminalOutcome events with
      | none => exact Keeps.pure _
      | some current => exact hevaluation.outcome hI.stock (fun _ => trivial) fun _ => trivial
  | conditions environment now storeId orderId inputs context =>
    exact hI.record environment now storeId orderId inputs context s h
  | reserve orderId => exact hI.reserve orderId s h
  | resync orders => exact hI.frame h rfl (le_refl _)

section Steps

variable {orderId : String} {standing : Standing} {s t : Store} {environment : Environment}

theorem RevenueInv.quiet (h : RevenueInv orderId standing s) {other : String}
    {unchanged result : SyncResult} (hnone : unchanged.reason.verdict = none)
    (hrun : (pure unchanged : Service SyncResult) s = (.ok result, t)) :
    RevenueInv orderId
      (standing.after (if other = orderId then result.reason.verdict else none)) t := by
  obtain ⟨rfl, rfl⟩ : unchanged = result ∧ s = t :=
    ⟨Except.ok.inj (congrArg Prod.fst hrun), congrArg Prod.snd hrun⟩
  rw [hnone, ite_self]
  exact h

/-- **Evaluating an outcome**, delivered or failed or neither: that of another order says nothing of
this one. -/
theorem RevenueInv.outcome (h : RevenueInv orderId standing s) {order : EcommerceOrder}
    {shipment : Option ShipmentFee} {delivered failed : Prop} [Decidable delivered]
    [Decidable failed] {travelled : Bool} {deliveredAt : Option ℤ}
    {recognized other result : SyncResult} {reversed : Bool → SyncResult}
    (hrecognized : recognized.reason = .delivered)
    (hreversed : ∀ applied, (reversed applied).reason = .cancelled)
    (hother : other.reason.verdict = none)
    (hrun : (if delivered then do
        Zomaal.syncDelivered environment order shipment deliveredAt
        pure recognized
      else if failed then do
        let applied ← Zomaal.syncFailed environment order travelled shipment
        pure (reversed applied)
      else pure other : Service SyncResult) s = (.ok result, t)) :
    RevenueInv orderId
      (standing.after (if order.id = orderId then result.reason.verdict else none)) t := by
  by_cases hid : order.id = orderId
  · split at hrun
    · obtain ⟨_, u, hsync, hpure⟩ := bind_eq_ok hrun
      obtain ⟨rfl, rfl⟩ : recognized = result ∧ u = t :=
        ⟨Except.ok.inj (congrArg Prod.fst hpure), congrArg Prod.snd hpure⟩
      rw [if_pos hid, hrecognized]
      exact h.syncDelivered hid hsync
    · split at hrun
      · obtain ⟨applied, u, hsync, hpure⟩ := bind_eq_ok hrun
        obtain ⟨rfl, rfl⟩ : reversed applied = result ∧ u = t :=
          ⟨Except.ok.inj (congrArg Prod.fst hpure), congrArg Prod.snd hpure⟩
        rw [if_pos hid, hreversed]
        exact h.syncFailed hid hsync
      · exact h.quiet hother hrun
  · rw [if_neg hid]
    have hkept : Keeps (RevenueInv orderId standing) (if delivered then do
        Zomaal.syncDelivered environment order shipment deliveredAt
        pure recognized
      else if failed then do
        let applied ← Zomaal.syncFailed environment order travelled shipment
        pure (reversed applied)
      else pure other) :=
      (evaluation hid).outcome losses.stock (fun _ => trivial) fun _ => trivial
    have hfinal := hkept s h
    rwa [final, hrun] at hfinal

theorem RevenueInv.syncFromDispatchIdLocked (h : RevenueInv orderId standing s)
    {dispatch : CourierDispatch} {result : SyncResult}
    (hrun : Zomaal.syncFromDispatchIdLocked environment (some dispatch) s = (.ok result, t)) :
    RevenueInv orderId
      (standing.after (if dispatch.orderId = orderId then result.reason.verdict else none)) t := by
  dsimp only [Zomaal.syncFromDispatchIdLocked] at hrun
  rw [ask_bind_apply] at hrun
  cases hfound : s.findOrder dispatch.orderId with
  | none =>
    rw [hfound] at hrun
    exact h.quiet rfl hrun
  | some order =>
    rw [hfound] at hrun
    dsimp only at hrun
    cases hpicked : pickCourierShipment dispatch with
    | none =>
      rw [hpicked] at hrun
      exact h.quiet rfl hrun
    | some shipment =>
      have hid : order.id = dispatch.orderId := by simpa using List.find?_some hfound
      rw [hpicked] at hrun
      exact hid ▸ h.outcome rfl (fun _ => rfl) rfl hrun

theorem RevenueInv.syncFromTimelineEvents (h : RevenueInv orderId standing s) {other : String}
    {events : List TimelineEvent} {result : SyncResult}
    (hrun : Zomaal.syncFromTimelineEvents environment other events s = (.ok result, t)) :
    RevenueInv orderId
      (standing.after (if other = orderId then result.reason.verdict else none)) t := by
  rw [Zomaal.syncFromTimelineEvents] at hrun
  by_cases hempty : events.isEmpty
  · rw [if_pos hempty] at hrun
    exact h.quiet rfl hrun
  · rw [if_neg hempty, ask_bind_apply] at hrun
    cases hfound : s.findOrder other with
    | none =>
      rw [hfound] at hrun
      cases congrArg Prod.fst hrun
    | some order =>
      rw [hfound] at hrun
      dsimp only at hrun
      cases hcurrent : deriveTerminalOutcome events with
      | none =>
        rw [hcurrent] at hrun
        exact h.quiet rfl hrun
      | some current =>
        have hid : order.id = other := by simpa using List.find?_some hfound
        rw [hcurrent] at hrun
        exact hid ▸ h.outcome rfl (fun _ => rfl) rfl hrun

/-- **A transaction** is committed with its verdict, or leaves everything as it was. -/
theorem RevenueInv.committed (h : RevenueInv orderId standing s) {other : String}
    {evaluation : Service SyncResult}
    (hcommit : ∀ result t, evaluation s = (.ok result, t) → RevenueInv orderId
      (standing.after (if other = orderId then result.reason.verdict else none)) t) :
    RevenueInv orderId
      (standing.after (if other = orderId then
        match (withOrderTransaction evaluation s).1 with
        | .ok result => result.reason.verdict
        | .error _ => none
      else none))
      ((withOrderTransaction evaluation).final s) := by
  rw [final, withOrderTransaction]
  rcases hrun : evaluation s with ⟨error | result, t⟩
  · rw [transaction_of_error hrun, ite_self]
    exact h.of_events rfl (le_refl _)
  · rw [transaction_of_ok hrun]
    exact hcommit result t hrun

/-- **A step books what its verdict says.** -/
theorem RevenueInv.step (h : RevenueInv orderId standing s) (act : RevenueAct) :
    RevenueInv orderId (standing.after (act.verdict orderId s)) (act.step s) := by
  cases act with
  | dispatched environment dispatch =>
    exact h.committed fun result t hrun => h.syncFromDispatchIdLocked hrun
  | timeline environment other events =>
    exact h.committed fun result t hrun => h.syncFromTimelineEvents hrun
  | conditions environment now storeId other inputs context =>
    exact losses.record environment now storeId other inputs context s h
  | reserve other => exact losses.reserve other s h
  | resync orders => exact h.of_events rfl (le_refl _)

theorem RevenueInv.run (h : RevenueInv orderId standing s) (acts : List RevenueAct) :
    RevenueInv orderId ((verdicts orderId s acts).foldl Standing.verdict standing)
      (Machine.run RevenueAct.step s acts) := by
  induction acts generalizing standing s with
  | nil => exact h
  | cons act acts ih =>
    rw [verdicts, List.foldl_append]
    exact ih (h.step act)

end Steps

end Zomaal
