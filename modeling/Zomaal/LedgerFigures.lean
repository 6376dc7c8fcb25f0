/-
**What the ledger of an order adds up to.**

Each figure of the summary is a sum over the rows of a ledger, and each row adds to it by its type.
Amounts are rounded row by row: the profit that a row reports is rounded apart from the costs that it
reports beside it, and a correction computes with what was stored.

Main results:

* `revenueLedger`, `revenueRows_alternate` — **the ledger follows the verdicts of every run**;
* `ledger_appendOnly` — no row is changed, and the recognized amounts are fixed;
* `ledgerIdentity` — **what is missing between the profit and its parts**;
* `shippingOnce` — **an order is charged for shipping once**.
-/

import Zomaal.MachineRun
import Zomaal.RevenueLedger

set_option autoImplicit false

namespace Zomaal

open Command

/-! ### What the ledger adds up to -/

/-- A figure of the sums that each row changes by a share of its own. -/
structure Additive (figure : LedgerSums → Decimal) : Prop where
  zero : figure {} = 0
  add : ∀ sums event, figure (LedgerSums.add sums event) =
    figure sums + figure (LedgerSums.add {} event)

theorem Additive.sum {figure : LedgerSums → Decimal} (h : Additive figure) (s : Store)
    (orderId : String) :
    figure (getSummary orderId s) =
      ((s.ledger orderId).map fun event => figure (LedgerSums.add {} event)).sum := by
  have hfold : ∀ (rows : List FinancialEvent) (sums : LedgerSums),
      figure (rows.foldl LedgerSums.add sums) =
        figure sums + (rows.map fun event => figure (LedgerSums.add {} event)).sum := by
    intro rows
    induction rows with
    | nil => exact fun sums => (add_zero _).symm
    | cons row rows ih =>
      intro sums
      rw [List.foldl_cons, ih, h.add, List.map_cons, List.sum_cons, add_assoc]
  rw [getSummary, hfold, h.zero, zero_add]

theorem sum_filter {α : Type} {p : α → Bool} {f : α → Decimal} {rows : List α}
    (h : ∀ row ∈ rows, p row = false → f row = 0) :
    (rows.map f).sum = ((rows.filter p).map f).sum := by
  induction rows with
  | nil => rfl
  | cons row rows ih =>
    rw [List.map_cons, List.sum_cons, ih fun other hother => h other (List.mem_cons_of_mem _ hother)]
    cases hrow : p row with
    | true => rw [List.filter_cons_of_pos hrow, List.map_cons, List.sum_cons]
    | false =>
      rw [List.filter_cons_of_neg (by simp [hrow]), h row (List.mem_cons_self ..) hrow, zero_add]

/-- A figure to which only revenue adds. -/
theorem Additive.sum_revenueRows {figure : LedgerSums → Decimal} (h : Additive figure) {s : Store}
    {orderId : String} (hother : ∀ event ∈ s.ledger orderId, event.booksRevenue = false →
      figure (LedgerSums.add {} event) = 0) :
    figure (getSummary orderId s) =
      ((s.revenueRows orderId).map fun event => figure (LedgerSums.add {} event)).sum := by
  rw [h.sum, Store.revenueRows]
  exact sum_filter hother

theorem additive_revenue : Additive LedgerSums.revenue := by
  refine ⟨rfl, fun sums event => ?_⟩
  rw [LedgerSums.add, LedgerSums.add]
  cases event.type <;> simp [sub_eq_add_neg]

theorem additive_productCost : Additive LedgerSums.productCost := by
  refine ⟨rfl, fun sums event => ?_⟩
  rw [LedgerSums.add, LedgerSums.add]
  cases event.type <;> simp [sub_eq_add_neg]

theorem additive_residue : Additive LedgerSums.residue :=
  ⟨by simp [LedgerSums.residue], LedgerSums.residue_add⟩

section Sums

variable {orderId : String} {recognized last : FinancialEvent} {rows : List FinancialEvent}
  {stands : Bool}

theorem Recognizes.row (h : Recognizes orderId recognized) :
    recognized.type = .revenueRecognized ∧ toFixed4 recognized.revenue = recognized.revenue ∧
      toFixed4 recognized.productCost = recognized.productCost ∧
      toFixed4 recognized.shippingCost = recognized.shippingCost ∧
      toFixed4 recognized.giftCost = recognized.giftCost ∧
      toFixed4 recognized.packagingCost = recognized.packagingCost ∧
      toFixed4 recognized.netProfitImpact = recognized.netProfitImpact := by
  obtain ⟨order, costs, shippingCost, -, hrow⟩ := h
  rw [hrow]
  refine ⟨rfl, ?_, ?_, ?_, ?_, ?_, ?_⟩ <;> exact toFixed4_toFixed4 _

/-- **Corrections undo the first row, or undo a correction.** -/
theorem Corrections.figure {figure : LedgerSums → Decimal} {amount drift : Decimal}
    (hrecognized : figure (LedgerSums.add {} recognized) = amount)
    (hreversed : ∀ (event : FinancialEvent) (currency key : String),
      event.toFinancialEventData = (reversalData orderId currency recognized key).stored →
      figure (LedgerSums.add {} event) = -amount)
    (hreinstated : ∀ (event reversal : FinancialEvent) (order : EcommerceOrder),
      event.toFinancialEventData = (reinstatementData order recognized reversal).stored →
      figure (LedgerSums.add {} event) = amount - drift)
    (h : Corrections orderId recognized stands last rows) :
    ((recognized :: rows).map fun event => figure (LedgerSums.add {} event)).sum =
      (if stands then amount else 0) -
        drift * rows.countP fun event => event.type = .revenueReinstated := by
  induction h with
  | uncorrected => simp [hrecognized]
  | @reversed _ event before currency key hrows hrow hkey ih =>
    have htype : event.type = .revenueReversed := congrArg FinancialEventData.type hrow
    rw [← List.cons_append, List.map_append, List.sum_append, ih, List.countP_append]
    simp only [List.map_cons, List.map_nil, List.sum_singleton, hreversed event currency key hrow,
      List.countP_singleton, htype]
    simp
    ring
  | @reinstated reversal event before order hrows horder hrow ih =>
    have htype : event.type = .revenueReinstated := congrArg FinancialEventData.type hrow
    rw [← List.cons_append, List.map_append, List.sum_append, ih, List.countP_append]
    simp only [List.map_cons, List.map_nil, List.sum_singleton,
      hreinstated event reversal order hrow, List.countP_singleton, htype]
    push_cast
    simp
    ring

/-- The revenue is reversed as often as it is reinstated, or once more. -/
theorem Corrections.count (h : Corrections orderId recognized stands last rows) :
    (rows.countP fun event => event.type = .revenueReversed) =
      (rows.countP fun event => event.type = .revenueReinstated) + if stands then 0 else 1 := by
  induction h with
  | uncorrected => rfl
  | reversed hrows hrow hkey ih =>
    have htype := congrArg FinancialEventData.type hrow
    simp [List.countP_append, ih, htype, FinancialEventData.stored, reversalData]
  | reinstated hrows horder hrow ih =>
    have htype := congrArg FinancialEventData.type hrow
    simp [List.countP_append, ih, htype, FinancialEventData.stored, reinstatementData]

end Sums

/-- What the first row of revenue has booked. -/
def Store.recognizedAmount (s : Store) (orderId : String) (amount : FinancialEvent → Decimal) :
    Decimal :=
  ((s.revenueRows orderId).head?.map amount).getD 0

namespace RevenueInv

variable {orderId : String} {standing : Standing} {s : Store}

/-- A column that a delivery adds, as it was at first, and a failure takes back. -/
theorem figure (h : RevenueInv orderId standing s) {figure : LedgerSums → Decimal}
    {column : FinancialEventData → Decimal} (hfigure : Additive figure)
    (hshare : ∀ event : FinancialEvent, figure (LedgerSums.add {} event) =
      if event.type = .revenueReversed then -column event.toFinancialEventData
      else if event.booksRevenue then column event.toFinancialEventData else 0)
    (hstored : ∀ data : FinancialEventData, column data.stored = toFixed4 (column data))
    (hreversed : ∀ recognized currency key,
      column (reversalData orderId currency recognized key) =
        column recognized.toFinancialEventData)
    (hreinstated : ∀ recognized reversal order,
      column (reinstatementData order recognized reversal) =
        column recognized.toFinancialEventData) :
    figure (getSummary orderId s) =
      if standing.stands then
        s.recognizedAmount orderId fun event => column event.toFinancialEventData
      else 0 := by
  have hother : ∀ event ∈ s.ledger orderId, event.booksRevenue = false →
      figure (LedgerSums.add {} event) = 0 := by
    intro event _ hother
    rw [hshare, if_neg, hother]
    · rfl
    · intro htype
      simp [FinancialEvent.booksRevenue, htype] at hother
  rw [hfigure.sum_revenueRows hother, Store.recognizedAmount]
  rcases h.rows with ⟨hnone, hstands⟩ | ⟨recognized, last, rows, hrecognizes, hcorrections, hrows⟩
  · rw [hnone, hstands]
    rfl
  · obtain ⟨_, _, _, -, hfirst⟩ := id hrecognizes
    have hfixed : toFixed4 (column recognized.toFinancialEventData) =
        column recognized.toFinancialEventData := by
      rw [hfirst, hstored, toFixed4_toFixed4]
    rw [hrows, @Corrections.figure _ _ _ _ _ figure (column recognized.toFinancialEventData) 0
      ?_ ?_ ?_ hcorrections, zero_mul, sub_zero]
    · rfl
    · have htype : recognized.type = .revenueRecognized := congrArg FinancialEventData.type hfirst
      simp [hshare, FinancialEvent.booksRevenue, htype]
    · intro event currency key hrow
      have htype : event.type = .revenueReversed := congrArg FinancialEventData.type hrow
      rw [hshare, if_pos htype, hrow, hstored, hreversed, hfixed]
    · intro event reversal order hrow
      have htype : event.type = .revenueReinstated := congrArg FinancialEventData.type hrow
      rw [hshare, if_neg (by simp [htype]), if_pos (by simp [FinancialEvent.booksRevenue, htype]),
        hrow, hstored, hreinstated, hfixed, sub_zero]

theorem of_empty (hempty : s.ledger orderId = []) : RevenueInv orderId {} s := by
  have hrows : s.revenueRows orderId = [] := by
    rw [Store.revenueRows, hempty]
    rfl
  refine ⟨⟨?_, ?_, ?_, ?_⟩, .inl ⟨hrows, rfl⟩, by rw [hrows]; rfl⟩ <;> simp [hempty]

end RevenueInv

/-- **The ledger follows the verdicts**: in every run from an order without rows, the rows of its
revenue are those that the verdicts of the committed evaluations book, and its summary counts what
the first delivery recognized if the last verdict was a delivery, and nothing else. -/
theorem revenueLedger (orderId : String) (start : Store) (hempty : start.ledger orderId = [])
    (acts : List RevenueAct) :
    let standing := (verdicts orderId start acts).foldl Standing.verdict {}
    let s := Machine.run RevenueAct.step start acts
    (s.revenueRows orderId).map (fun event => event.type) = standing.rows ∧
      (getSummary orderId s).revenue =
        (if standing.stands then s.recognizedAmount orderId (fun event => event.revenue) else 0) ∧
      (getSummary orderId s).productCost =
        if standing.stands then s.recognizedAmount orderId (fun event => event.productCost)
        else 0 := by
  have hinv := (RevenueInv.of_empty hempty).run acts
  refine ⟨hinv.types, ?_, ?_⟩
  · refine @RevenueInv.figure _ _ _ hinv _ FinancialEventData.revenue additive_revenue
      (fun event => ?_) (fun _ => rfl) (fun _ _ _ => rfl) fun _ _ _ => rfl
    rw [LedgerSums.add, FinancialEvent.booksRevenue]
    cases event.type <;> simp
  · refine @RevenueInv.figure _ _ _ hinv _ FinancialEventData.productCost additive_productCost
      (fun event => ?_) (fun _ => rfl) (fun _ _ _ => rfl) fun _ _ _ => rfl
    rw [LedgerSums.add, FinancialEvent.booksRevenue]
    cases event.type <;> simp

/-- A delivery, its return, and the delivery that corrects the return: each is evaluated twice. -/
def capeCorrected : List RevenueAct :=
  [.delivered, .delivered, .returnedToSeller, .cancelled, .delivered, .delivered].map fun status =>
    .dispatched capeEnvironment
      { orderId := "order-1"
        ozoneExpressShipment :=
          some { normalizedStatus := status, fee := some 30, currency := "MAD" } }

/-- **The revenue of an order that came back and was delivered again** counts once. -/
theorem revenueLedger_corrected :
    ((Machine.run RevenueAct.step capeSent.store capeCorrected).revenueRows "order-1").map
        (fun event => event.type) = [.revenueRecognized, .revenueReversed, .revenueReinstated] ∧
      (getSummary "order-1" (Machine.run RevenueAct.step capeSent.store capeCorrected)).revenue =
        200 := by
  have hrun := revenueLedger "order-1" capeSent.store rfl capeCorrected
  exact ⟨hrun.1.trans (by decide +kernel), hrun.2.1.trans (by decide +kernel)⟩

/-- **Rows of revenue alternate**: in every run from an order without rows, there is one row that
recognizes if some verdict was a delivery, and none otherwise; and each row after it reverses what
stands, or reinstates what was reversed. -/
theorem revenueRows_alternate (orderId : String) (start : Store)
    (hempty : start.ledger orderId = []) (acts : List RevenueAct) :
    let types := ((Machine.run RevenueAct.step start acts).revenueRows orderId).map
      fun event => event.type
    types.count .revenueRecognized = (if true ∈ verdicts orderId start acts then 1 else 0) ∧
      types.IsChain fun a b =>
        b = if a = .revenueReversed then .revenueReinstated else .revenueReversed := by
  have htypes := ((RevenueInv.of_empty hempty).run acts).types
  dsimp only
  rw [htypes]
  exact ⟨Standing.count_recognized _, Standing.alternates _⟩

/-- A failure, a delivery and a failure again. -/
theorem revenueRows_alternate_refused :
    let types := ((Machine.run RevenueAct.step capeSent.store
      (capeCorrected.drop 3 ++ capeCorrected.drop 2)).revenueRows "order-1").map
        fun event => event.type
    types.count .revenueRecognized = 1 := by
  have hrun := revenueRows_alternate "order-1" capeSent.store rfl
    (capeCorrected.drop 3 ++ capeCorrected.drop 2)
  exact hrun.1.trans (by decide +kernel)

theorem prefix_stable (rows : List FinancialEvent) :
    RowStable fun s => rows <+: s.financialEvents where
  frame h hevents _ := hevents ▸ h
  lost _ _ _ _ _ _ h := h.trans (List.prefix_append _ _)
  evaluated _ _ h := h.trans (List.prefix_append _ _)

/-- **No row is changed or removed**, in any run from any state; so what the first delivery
recognized is what the revenue is ever after, whatever totals the shop reports later. -/
theorem ledger_appendOnly (orderId : String) (start : Store) (acts later : List RevenueAct) :
    let s := Machine.run RevenueAct.step start acts
    let t := Machine.run RevenueAct.step start (acts ++ later)
    s.ledger orderId <+: t.ledger orderId ∧
      (s.revenueRows orderId ≠ [] → ∀ amount,
        t.recognizedAmount orderId amount = s.recognizedAmount orderId amount) := by
  dsimp only
  rw [Machine.run_append]
  generalize Machine.run RevenueAct.step start acts = s
  have hevents : s.financialEvents <+: (Machine.run RevenueAct.step s later).financialEvents :=
    Machine.run_keeps (fun t act => (prefix_stable s.financialEvents).step t act)
      (List.prefix_refl _) later
  refine ⟨hevents.filter _, fun hrows amount => ?_⟩
  obtain ⟨rest, hrest⟩ : s.revenueRows orderId <+:
      (Machine.run RevenueAct.step s later).revenueRows orderId := (hevents.filter _).filter _
  rw [Store.recognizedAmount, Store.recognizedAmount, ← hrest, List.head?_append_of_ne_nil _ hrows]

/-! ### The profit -/

section Profit

variable {orderId : String} {recognized event : FinancialEvent}

/-- What the first row adds to the profit beside its parts: six amounts are rounded. -/
theorem Recognizes.residue (h : Recognizes orderId recognized) :
    |recognized.residue| ≤ 3 / 10000 := by
  obtain ⟨order, costs, shippingCost, -, hrow⟩ := h
  have htype : recognized.type = .revenueRecognized := congrArg FinancialEventData.type hrow
  have hrevenue := abs_le.1 (toFixed4_error order.totalCollected)
  have hproduct := abs_le.1 (toFixed4_error costs.productCost)
  have hshipping := abs_le.1 (toFixed4_error shippingCost)
  have hgift := abs_le.1 (toFixed4_error costs.giftCost)
  have hpackaging := abs_le.1 (toFixed4_error costs.packagingCost)
  have hprofit := abs_le.1 (toFixed4_error (order.totalCollected - costs.productCost -
    shippingCost - costs.giftCost - costs.packagingCost))
  have hresidue : recognized.residue =
      toFixed4 (order.totalCollected - costs.productCost - shippingCost - costs.giftCost -
        costs.packagingCost) - (toFixed4 order.totalCollected - toFixed4 costs.productCost -
          toFixed4 shippingCost - toFixed4 costs.giftCost - toFixed4 costs.packagingCost) := by
    rw [FinancialEvent.residue, LedgerSums.add, htype]
    simp only [LedgerSums.residue, hrow, FinancialEventData.stored, recognitionData]
    ring
  rw [hresidue, abs_le]
  constructor <;> linarith only [hrevenue.1, hrevenue.2, hproduct.1, hproduct.2, hshipping.1,
    hshipping.2, hgift.1, hgift.2, hpackaging.1, hpackaging.2, hprofit.1, hprofit.2]

theorem Recognizes.residue_reversed (h : Recognizes orderId recognized) {currency key : String}
    (hrow : event.toFinancialEventData = (reversalData orderId currency recognized key).stored) :
    event.residue = -recognized.residue := by
  obtain ⟨hrecognized, hrevenue, hproduct, hshipping, hgift, hpackaging, hprofit⟩ := h.row
  have htype : event.type = .revenueReversed := congrArg FinancialEventData.type hrow
  have himpact : toFixed4 (-(recognized.netProfitImpact + recognized.shippingCost +
      recognized.giftCost + recognized.packagingCost)) =
        -(recognized.netProfitImpact + recognized.shippingCost + recognized.giftCost +
          recognized.packagingCost) :=
    toFixed4_neg (toFixed4_add (toFixed4_add (toFixed4_add hprofit hshipping) hgift) hpackaging)
  rw [FinancialEvent.residue, FinancialEvent.residue, LedgerSums.add, LedgerSums.add, htype,
    hrecognized]
  simp only [LedgerSums.residue, hrow, FinancialEventData.stored, reversalData, himpact, hrevenue,
    hproduct, toFixed4_zero]
  ring

theorem Recognizes.residue_reinstated (h : Recognizes orderId recognized) {order : EcommerceOrder}
    {reversal : FinancialEvent}
    (hrow : event.toFinancialEventData = (reinstatementData order recognized reversal).stored) :
    event.residue = 0 := by
  obtain ⟨hrecognized, hrevenue, hproduct, hshipping, hgift, hpackaging, hprofit⟩ := h.row
  have htype : event.type = .revenueReinstated := congrArg FinancialEventData.type hrow
  have himpact : toFixed4 (recognized.revenue - recognized.productCost) =
      recognized.revenue - recognized.productCost := by
    rw [sub_eq_add_neg]
    exact toFixed4_add hrevenue ((congrArg toFixed4 (congrArg Neg.neg rfl)).trans
      (toFixed4_neg hproduct))
  rw [FinancialEvent.residue, LedgerSums.add, htype]
  simp only [LedgerSums.residue, hrow, FinancialEventData.stored, reinstatementData, himpact,
    hrevenue, hproduct, toFixed4_zero]
  ring

end Profit

/-- How often the revenue of an order was reversed. -/
def Store.reversals (s : Store) (orderId : String) : ℕ :=
  (s.revenueRows orderId).countP fun event => event.type = .revenueReversed

theorem RevenueInv.residue {orderId : String} {standing : Standing} {s : Store}
    (h : RevenueInv orderId standing s) :
    ∃ rounding : Decimal, |rounding| ≤ 3 / 10000 ∧
      (getSummary orderId s).residue = rounding * (1 - s.reversals orderId) := by
  have hsum := additive_residue.sum_revenueRows h.sound.exact
  rcases h.rows with ⟨hnone, hstands⟩ | ⟨recognized, last, rows, hrecognizes, hcorrections, hrows⟩
  · refine ⟨0, by norm_num, ?_⟩
    rw [hsum, hnone, zero_mul]
    rfl
  · refine ⟨recognized.residue, hrecognizes.residue, ?_⟩
    have hfigure := @Corrections.figure _ _ _ _ _ LedgerSums.residue recognized.residue
      recognized.residue rfl (fun event currency key hrow => hrecognizes.residue_reversed hrow)
      (fun event reversal order hrow =>
        (hrecognizes.residue_reinstated hrow).trans (sub_self _).symm) hcorrections
    have hfirst : ¬ recognized.type = .revenueReversed := by simp [hrecognizes.row.1]
    rw [hsum, hrows, hfigure, Store.reversals, hrows, List.countP_cons_of_neg (by simpa using hfirst),
      hcorrections.count]
    split <;> push_cast <;> ring

/-- A row that takes shipping off the profit. -/
def FinancialEvent.shipped (event : FinancialEvent) : Bool := event.shippingCost ≠ 0

/-- **Shipping is charged by one of two keys**, and not by both. -/
structure ShippedOnce (orderId : String) (s : Store) : Prop where
  keyed : ∀ event ∈ s.ledger orderId, event.shipped → event.type = .revenueRecognized ∧
    event.idempotencyKey = revenueRecognizedKey ∨
      event.type = .shippingLoss ∧ event.idempotencyKey = shippingLossKey
  once : ((s.ledger orderId).filter FinancialEvent.shipped).length ≤ 1

namespace ShippedOnce

variable {orderId : String} {s : Store} {data : FinancialEventData}

theorem unshipped (h : ShippedOnce orderId s)
    (hrecognized : s.findEvent orderId revenueRecognizedKey = none)
    (hloss : s.findEvent orderId shippingLossKey = none) :
    (s.ledger orderId).filter FinancialEvent.shipped = [] := by
  refine List.filter_eq_nil_iff.2 fun event hevent hshipped => ?_
  obtain ⟨hmem, horder⟩ := List.mem_filter.1 hevent
  have hfound : ∀ key, s.findEvent orderId key = none → event.idempotencyKey ≠ key := by
    intro key hnone hkey
    exact List.find?_eq_none.1 hnone event hmem
      (decide_eq_true ⟨of_decide_eq_true horder, hkey⟩)
  rcases h.keyed event hevent hshipped with ⟨-, hkey⟩ | ⟨-, hkey⟩
  · exact hfound _ hrecognized hkey
  · exact hfound _ hloss hkey

/-- One row more: it charges nothing, or it is the first to charge. -/
theorem append (h : ShippedOnce orderId s) (hrow : data.orderId = orderId →
    toFixed4 data.shippingCost = 0 ∨
      (data.type = .revenueRecognized ∧ data.idempotencyKey = revenueRecognizedKey ∨
        data.type = .shippingLoss ∧ data.idempotencyKey = shippingLossKey) ∧
      (s.ledger orderId).filter FinancialEvent.shipped = []) :
    ShippedOnce orderId (s.appendRow data) := by
  have hledger := ledger_appendRow s data orderId
  by_cases horder : data.orderId = orderId
  · rw [if_pos horder] at hledger
    have hshipped : ({ data.stored with id := uuid s.uuids } : FinancialEvent).shipped =
        decide (toFixed4 data.shippingCost ≠ 0) := rfl
    constructor
    · intro event hevent
      rw [hledger] at hevent
      rcases List.mem_append.1 hevent with hold | hnew
      · exact h.keyed event hold
      · obtain rfl := List.mem_singleton.1 hnew
        intro hthis
        rw [hshipped, decide_eq_true_eq] at hthis
        exact ((hrow horder).resolve_left hthis).1
    · rw [hledger, List.filter_append, List.length_append, List.filter_singleton, hshipped]
      rcases hrow horder with hfree | ⟨-, hfirst⟩
      · simpa [hfree] using h.once
      · rw [hfirst]
        cases decide (toFixed4 data.shippingCost ≠ 0) <;> simp
  · rw [if_neg horder, List.append_nil] at hledger
    exact ⟨hledger ▸ h.keyed, hledger ▸ h.once⟩

theorem stable : RowStable (ShippedOnce orderId) where
  frame {s t} h hevents _ := by
    have hledger : t.ledger orderId = s.ledger orderId := by
      rw [Store.ledger, hevents]
      rfl
    exact ⟨hledger ▸ h.keyed, hledger ▸ h.once⟩
  lost _ _ _ _ _ _ h := h.append fun _ => .inl toFixed4_zero
  evaluated hrow _ h := by
    have hid := hrow.no_loss.1
    refine h.append fun horder => ?_
    rw [hid] at horder
    cases hrow with
    | recognized costs _ hnew hloss _ =>
      exact .inr ⟨.inl ⟨rfl, rfl⟩, h.unshipped (horder ▸ hnew) (horder ▸ hloss)⟩
    | recognizedAfterLoss costs hloss => exact .inl toFixed4_zero
    | reinstated recognized reversal => exact .inl toFixed4_zero
    | reversed recognized key hkey => exact .inl toFixed4_zero
    | shippingLoss _ hnew hloss _ =>
      exact .inr ⟨.inr ⟨rfl, rfl⟩, h.unshipped (horder ▸ hnew) (horder ▸ hloss)⟩

end ShippedOnce

theorem additive_shippingCost : Additive LedgerSums.shippingCost := by
  refine ⟨rfl, fun sums event => ?_⟩
  rw [LedgerSums.add, LedgerSums.add]
  cases event.type <;> simp [sub_eq_add_neg]

/-- **An order is charged for shipping once**: in every run from an order without rows, at most one
row has a shipping cost, that of the first delivery or that of a parcel that came back, and the
summary reports that cost. -/
theorem shippingOnce (orderId : String) (start : Store) (hempty : start.ledger orderId = [])
    (acts : List RevenueAct) :
    let s := Machine.run RevenueAct.step start acts
    ((s.ledger orderId).filter FinancialEvent.shipped = [] ∧
      (getSummary orderId s).shippingCost = 0) ∨
    ∃ event, (s.ledger orderId).filter FinancialEvent.shipped = [event] ∧
      (event.type = .revenueRecognized ∨ event.type = .shippingLoss) ∧
      (getSummary orderId s).shippingCost = event.shippingCost := by
  have hstart : ShippedOnce orderId start := ⟨by simp [hempty], by simp [hempty]⟩
  have hinv : ShippedOnce orderId (Machine.run RevenueAct.step start acts) :=
    Machine.run_keeps (fun s act => ShippedOnce.stable.step s act) hstart acts
  dsimp only
  generalize Machine.run RevenueAct.step start acts = s at hinv
  have hsum := additive_shippingCost.sum s orderId
  have hfilter : (getSummary orderId s).shippingCost =
      (((s.ledger orderId).filter FinancialEvent.shipped).map fun event =>
        (LedgerSums.add {} event).shippingCost).sum := by
    rw [hsum]
    refine sum_filter fun event _ hfree => ?_
    have hzero : event.shippingCost = 0 := by simpa [FinancialEvent.shipped] using hfree
    rw [LedgerSums.add_shippingCost, FinancialEvent.shippingShare]
    cases event.type <;> simp [hzero]
  rcases hrows : (s.ledger orderId).filter FinancialEvent.shipped with _ | ⟨event, rows⟩
  · rw [hrows] at hfilter
    exact .inl ⟨rfl, hfilter⟩
  · have honce := hinv.once
    rw [hrows, List.length_cons] at honce
    obtain rfl : rows = [] := List.eq_nil_of_length_eq_zero (by omega)
    have hmem : event ∈ (s.ledger orderId).filter FinancialEvent.shipped :=
      hrows ▸ List.mem_singleton_self _
    obtain ⟨hledger, hshipped⟩ := List.mem_filter.1 hmem
    have htype : event.type = .revenueRecognized ∨ event.type = .shippingLoss :=
      (hinv.keyed event hledger hshipped).imp And.left And.left
    refine .inr ⟨event, rfl, htype, ?_⟩
    rw [hfilter, hrows, List.map_singleton, List.sum_singleton, LedgerSums.add_shippingCost,
      FinancialEvent.shippingShare]
    rcases htype with htype | htype <;> simp [htype]

/-- A parcel that came back and was delivered later is charged as a parcel that came back. -/
theorem shippingOnce_refused :
    (getSummary "order-1" (Machine.run RevenueAct.step capeSent.store
      (capeCorrected.drop 2))).shippingCost = 30 := by
  rcases shippingOnce "order-1" capeSent.store rfl (capeCorrected.drop 2) with
    ⟨-, hnothing⟩ | ⟨event, hrow, -, hcost⟩
  · exact absurd hnothing (by decide +kernel)
  · exact hcost.trans (by
      have hrows : ((Machine.run RevenueAct.step capeSent.store
        (capeCorrected.drop 2)).ledger "order-1").filter FinancialEvent.shipped = [event] := hrow
      have hfirst : (((Machine.run RevenueAct.step capeSent.store
        (capeCorrected.drop 2)).ledger "order-1").filter FinancialEvent.shipped).map
          (fun event => event.shippingCost) = [30] := by decide +kernel
      rw [hrows] at hfirst
      exact List.singleton_inj.1 hfirst)

end Zomaal
