/-
**What an update of the line items does to the history of an order.**

The rows of an order outlive the updates of its line items: stock, recorded conditions and return
requests hang on them.  A condition is recorded in parts, and until all units of a line are
accounted for its parts stand in the allocations alone.

Main results:

* `lineHistories` — **an update loses no history exactly when no row that it deletes has recorded
  allocations**.
-/

import Zomaal.OrderResyncs

set_option autoImplicit false

namespace Zomaal

/-! ### History -/

def OrderLineRow.Recorded (row : OrderLineRow) : Prop :=
  ∃ snapshot, row.conditionAllocations = some snapshot ∧ snapshot.entries ≠ []

def OrderLineRow.HasHistory (row : OrderLineRow) : Prop :=
  row.stockStatus ≠ none ∨ row.Recorded ∨ row.returnRequestLines ≠ 0

/-- A row keeps its identifier, its stock status and everything that was recorded of its
condition. -/
structure OrderLineRow.KeepsRecord (row later : OrderLineRow) : Prop where
  id : later.id = row.id
  createdAt : later.createdAt = row.createdAt
  stockStatus : later.stockStatus = row.stockStatus
  condition : later.condition = row.condition
  damageCost : later.damageCost = row.damageCost
  conditionNotes : later.conditionNotes = row.conditionNotes
  conditionAllocations : later.conditionAllocations = row.conditionAllocations
  conditionRevision : later.conditionRevision = row.conditionRevision
  conditionRecordedAt : later.conditionRecordedAt = row.conditionRecordedAt
  returnRequestLines : later.returnRequestLines = row.returnRequestLines
  warehouseVariant : row.stockStatus ≠ none → later.warehouseVariant = row.warehouseVariant

structure OrderLineRow.Agrees (row : OrderLineRow) (line : OrderLineWrite) : Prop where
  externalLineId : row.externalLineId = line.externalLineId
  externalProductId : row.externalProductId = line.externalProductId
  externalVariantId : row.externalVariantId = line.externalVariantId
  sku : row.sku = line.sku
  name : row.name = line.name
  quantity : row.quantity = line.quantity
  unitPrice : row.unitPrice = line.unitPrice
  totalPrice : row.totalPrice = line.totalPrice
  currency : row.currency = line.currency

/-- **An update of the line items loses no history.** -/
structure HistoryKept (created : CreatedRows) (rows : List OrderLineRow)
    (lines : List OrderLineWrite) : Prop where
  /-- No row with a history is deleted. -/
  standing : ∀ row ∈ rows, row.HasHistory →
    ∃ later ∈ replaceOrderLines created rows lines, later.externalLineId = row.externalLineId
  /-- A row that is not deleted keeps its identifier and its record. -/
  kept : ∀ row ∈ rows, ∀ later ∈ replaceOrderLines created rows lines,
    later.externalLineId = row.externalLineId → row.KeepsRecord later
  /-- Every line item has a row. -/
  written : ∀ line ∈ lines, ∃ later ∈ replaceOrderLines created rows lines, later.Agrees line
  /-- No line item has two. -/
  single : ((replaceOrderLines created rows lines).map OrderLineRow.externalLineId).Nodup
  /-- The same line items change nothing more. -/
  again : ∀ created', replaceOrderLines created' (replaceOrderLines created rows lines) lines =
    replaceOrderLines created rows lines

/-! ### One row -/

section Row

variable {created : CreatedRows} {rows : List OrderLineRow} {lines : List OrderLineWrite}

variable {row : OrderLineRow}

theorem OrderLineRow.apply_of_mem (hlines : (lines.map fun line => line.externalLineId).Nodup)
    {line : OrderLineWrite} (hline : line ∈ lines)
    (hid : row.externalLineId = line.externalLineId) : row.apply lines = row.update line := by
  have hfind : (lines.findRev? fun line => line.externalLineId = row.externalLineId) =
      some line := by
    rw [List.findRev?_eq_find?_reverse]
    refine find?_of_only (List.mem_reverse.2 hline) (decide_eq_true hid.symm)
      fun other hother h => ?_
    exact List.inj_on_of_nodup_map hlines (List.mem_reverse.1 hother) hline
      ((of_decide_eq_true h).trans hid)
  rw [OrderLineRow.apply_eq, hfind]
  rfl

theorem OrderLineRow.apply_of_notMem
    (h : row.externalLineId ∉ lines.map fun line => line.externalLineId) : row.apply lines = row :=
  (row.apply_spec lines).2.2.2.2.1 h

theorem OrderLineRow.update_keeps (row : OrderLineRow) (line : OrderLineWrite) :
    row.KeepsRecord (row.update line) :=
  ⟨rfl, rfl, rfl, rfl, rfl, rfl, rfl, rfl, rfl, rfl, fun hstock => if_neg hstock⟩

theorem OrderLineRow.keepsRecord_refl (row : OrderLineRow) : row.KeepsRecord row :=
  ⟨rfl, rfl, rfl, rfl, rfl, rfl, rfl, rfl, rfl, rfl, fun _ => rfl⟩

theorem OrderLineRow.apply_keeps (hlines : (lines.map fun line => line.externalLineId).Nodup)
    (row : OrderLineRow) : row.KeepsRecord (row.apply lines) := by
  by_cases hin : row.externalLineId ∈ lines.map fun line => line.externalLineId
  · obtain ⟨line, hline, hid⟩ := List.mem_map.1 hin
    rw [OrderLineRow.apply_of_mem hlines hline hid.symm]
    exact row.update_keeps line
  · rw [OrderLineRow.apply_of_notMem hin]
    exact row.keepsRecord_refl

theorem OrderLineRow.update_agrees {line : OrderLineWrite}
    (hid : row.externalLineId = line.externalLineId) : (row.update line).Agrees line :=
  ⟨hid, rfl, rfl, rfl, rfl, rfl, rfl, rfl, rfl⟩

theorem OrderLineWrite.row_agrees (created : CreatedRows) (line : OrderLineWrite) :
    (line.row created).Agrees line :=
  ⟨rfl, rfl, rfl, rfl, rfl, rfl, rfl, rfl, rfl⟩

theorem OrderLineRow.update_update (row : OrderLineRow) (line : OrderLineWrite) :
    (row.update line).update line = row.update line := by
  rw [OrderLineRow.update, OrderLineRow.update]
  dsimp only
  by_cases hnone : row.stockStatus = none
  · simp only [if_pos hnone]
  · simp only [if_neg hnone]

end Row

/-! ### The rows of an order -/

section Rows

variable {created : CreatedRows} {rows : List OrderLineRow} {lines : List OrderLineWrite}

theorem mem_replaceOrderLines_of_kept {row : OrderLineRow} (hrow : row ∈ keptRows rows lines) :
    row.apply lines ∈ replaceOrderLines created rows lines := by
  rw [replaceOrderLines_eq]
  exact List.mem_append_left _ (List.mem_map_of_mem hrow)

theorem deleted_of_removable (hrows : (rows.map OrderLineRow.externalLineId).Nodup)
    {row : OrderLineRow} (hrow : row ∈ rows)
    (hdropped : row.externalLineId ∉ lines.map fun line => line.externalLineId)
    (hremovable : row.removable = true) :
    ∀ later ∈ replaceOrderLines created rows lines,
      later.externalLineId ≠ row.externalLineId := by
  intro later hlater hid
  rw [replaceOrderLines_eq] at hlater
  rcases List.mem_append.1 hlater with hold | hnew
  · obtain ⟨old, hkept, rfl⟩ := List.mem_map.1 hold
    obtain ⟨hin, hstays⟩ := List.mem_filter.1 hkept
    rw [(old.apply_spec lines).1] at hid
    obtain rfl := List.inj_on_of_nodup_map hrows hin hrow hid
    rw [decide_eq_false hdropped, hremovable] at hstays
    cases hstays
  · obtain ⟨line, hline, -, rfl⟩ := mem_createMany hnew
    exact hdropped (List.mem_map.2 ⟨line, hline, hid⟩)

theorem exists_written (hlines : (lines.map fun line => line.externalLineId).Nodup)
    {line : OrderLineWrite} (hline : line ∈ lines) :
    ∃ later ∈ replaceOrderLines created rows lines, later.Agrees line := by
  by_cases hknown : line.externalLineId ∈ rows.map OrderLineRow.externalLineId
  · obtain ⟨row, hrow, hid⟩ := List.mem_map.1 hknown
    have hkept : row ∈ keptRows rows lines := by
      refine List.mem_filter.2 ⟨hrow, ?_⟩
      rw [decide_eq_true (List.mem_map.2 ⟨line, hline, hid.symm⟩), Bool.true_or]
    refine ⟨row.apply lines, mem_replaceOrderLines_of_kept hkept, ?_⟩
    rw [OrderLineRow.apply_of_mem hlines hline hid]
    exact OrderLineRow.update_agrees hid
  · have hfresh : line ∈ newLines rows lines :=
      List.mem_filter.2 ⟨hline, decide_eq_true hknown⟩
    obtain ⟨row, hrow, hid⟩ :=
      List.mem_map.1 ((createMany_first created (newLines rows lines)).2 line hfresh)
    obtain ⟨other, hother, -, rfl⟩ := mem_createMany hrow
    obtain rfl := List.inj_on_of_nodup_map hlines hother hline hid
    refine ⟨other.row created, ?_, other.row_agrees created⟩
    rw [replaceOrderLines_eq]
    exact List.mem_append_right _ hrow

theorem apply_again (hlines : (lines.map fun line => line.externalLineId).Nodup)
    {later : OrderLineRow} (hlater : later ∈ replaceOrderLines created rows lines) :
    later.apply lines = later := by
  rcases mem_replaceOrderLines hlater with ⟨old, -, rfl⟩ | ⟨line, hline, -, rfl⟩
  · by_cases hin : old.externalLineId ∈ lines.map fun line => line.externalLineId
    · obtain ⟨line, hline, hid⟩ := List.mem_map.1 hin
      have hkey : (old.update line).externalLineId = line.externalLineId := hid.symm
      rw [OrderLineRow.apply_of_mem hlines hline hid.symm,
        OrderLineRow.apply_of_mem hlines hline hkey, old.update_update line]
    · rw [OrderLineRow.apply_of_notMem hin, OrderLineRow.apply_of_notMem hin]
  · exact OrderLineRow.apply_of_mem hlines hline rfl

theorem keptRows_again :
    keptRows (replaceOrderLines created rows lines) lines =
      replaceOrderLines created rows lines := by
  refine List.filter_eq_self.2 fun later hlater => ?_
  rw [replaceOrderLines_eq] at hlater
  rcases List.mem_append.1 hlater with hold | hnew
  · obtain ⟨old, hkept, rfl⟩ := List.mem_map.1 hold
    have hstays := (List.mem_filter.1 hkept).2
    rw [(old.apply_spec lines).1]
    by_cases hin : old.externalLineId ∈ lines.map fun line => line.externalLineId
    · rw [decide_eq_true hin, Bool.true_or]
    · rw [OrderLineRow.apply_of_notMem hin]
      exact hstays
  · obtain ⟨line, hline, -, rfl⟩ := mem_createMany hnew
    have hin : (line.row created).externalLineId ∈
        lines.map (fun line => line.externalLineId) := List.mem_map.2 ⟨line, hline, rfl⟩
    rw [decide_eq_true hin, Bool.true_or]

theorem replaceOrderLines_twice (hlines : (lines.map fun line => line.externalLineId).Nodup)
    (created' : CreatedRows) :
    replaceOrderLines created' (replaceOrderLines created rows lines) lines =
      replaceOrderLines created rows lines := by
  have hnew : newLines (replaceOrderLines created rows lines) lines = [] := by
    refine List.filter_eq_nil_iff.2 fun line hline hfresh => ?_
    obtain ⟨later, hlater, hagrees⟩ := @exists_written created rows lines hlines line hline
    exact of_decide_eq_true hfresh (List.mem_map.2 ⟨later, hlater, hagrees.externalLineId⟩)
  have happly : (replaceOrderLines created rows lines).map (OrderLineRow.apply lines) =
      replaceOrderLines created rows lines :=
    (List.map_congr_left fun later hlater => apply_again hlines hlater).trans (List.map_id _)
  rw [replaceOrderLines_eq created', keptRows_again, hnew, happly]
  exact List.append_nil _

end Rows

/-! ### The main result -/

/-- **An update loses no history exactly when no row that it deletes has recorded allocations.** -/
theorem lineHistories (created : CreatedRows) (rows : List OrderLineRow)
    (lines : List OrderLineWrite) (hrows : (rows.map OrderLineRow.externalLineId).Nodup)
    (hlines : (lines.map fun line => line.externalLineId).Nodup) :
    HistoryKept created rows lines ↔
      ∀ row ∈ rows, row.externalLineId ∉ lines.map (fun line => line.externalLineId) →
        row.removable = true → ¬row.Recorded := by
  constructor
  · intro h row hrow hdropped hremovable hrecorded
    obtain ⟨later, hlater, hid⟩ := h.standing row hrow (Or.inr (Or.inl hrecorded))
    exact deleted_of_removable hrows hrow hdropped hremovable later hlater hid
  · intro h
    refine ⟨fun row hrow hhistory => ?_, fun row hrow later hlater hid => ?_,
      fun line hline => exists_written hlines hline, nodup_replaceOrderLines hrows,
      replaceOrderLines_twice hlines⟩
    · have hkept : row ∈ keptRows rows lines := by
        refine List.mem_filter.2 ⟨hrow, ?_⟩
        by_cases hin : row.externalLineId ∈ lines.map fun line => line.externalLineId
        · rw [decide_eq_true hin, Bool.true_or]
        · rw [decide_eq_false hin, Bool.false_or]
          cases hremovable : row.removable with
          | false => rfl
          | true =>
            have hclean : row.stockStatus = none ∧ row.condition = none ∧
                row.returnRequestLines = 0 := by
              simpa [OrderLineRow.removable] using hremovable
            rcases hhistory with hstock | hrecorded | hreturns
            · exact absurd hclean.1 hstock
            · exact absurd hrecorded (h row hrow hin hremovable)
            · exact absurd hclean.2.2 hreturns
      exact ⟨row.apply lines, mem_replaceOrderLines_of_kept hkept, (row.apply_spec lines).1⟩
    · rcases mem_replaceOrderLines hlater with ⟨old, hold, rfl⟩ | ⟨line, hline, hfresh, rfl⟩
      · rw [(old.apply_spec lines).1] at hid
        obtain rfl := List.inj_on_of_nodup_map hrows hold hrow hid
        exact old.apply_keeps hlines
      · exact absurd (List.mem_map.2 ⟨row, hrow, hid.symm⟩) hfresh

/-! ### A line that is dropped while its units are being checked -/

def hatHalfChecked : OrderLineRow where
  id := "line-1"
  externalLineId := "hat"
  quantity := 2
  quantity_pos := pair_pos
  conditionAllocations := some
    { completed := false
      expectedQuantity := 2
      loss := 0
      entries :=
        [{ componentVariantId := none
           quantity := 1
           condition := .good
           damageCost := none
           unitCost := 10
           saleValue := 20
           physicalQuantity := 1
           units := [] }] }
  conditionRevision := 1

def scarfRow : OrderLineRow where
  id := "line-2"
  externalLineId := "scarf"
  quantity := 1
  quantity_pos := Int.one_pos

def scarfLine : OrderLineWrite where
  externalLineId := "scarf"
  quantity := 1
  quantity_pos := Int.one_pos

def scarfCreated : CreatedRows := { id := fun _ => "line-3", createdAt := 100 }

/-- While both are in the order, nothing is lost. -/
theorem lineHistories_kept :
    HistoryKept scarfCreated [hatHalfChecked, scarfRow]
      [{ scarfLine with externalLineId := "hat" }, scarfLine] := by
  refine (lineHistories scarfCreated _ _ (by decide) (by decide)).2
    fun row hrow hdropped => absurd ?_ hdropped
  rcases List.mem_pair.1 hrow with rfl | rfl
  · decide
  · decide

/-- **When the hats are dropped, what was found of one of them is lost.** -/
theorem lineHistories_lost :
    ¬∀ (created : CreatedRows) (rows : List OrderLineRow) (lines : List OrderLineWrite),
      (rows.map OrderLineRow.externalLineId).Nodup →
      (lines.map fun line => line.externalLineId).Nodup → HistoryKept created rows lines := by
  intro h
  have hkept := h scarfCreated [hatHalfChecked, scarfRow] [scarfLine] (by decide) (by decide)
  obtain ⟨later, hlater, hid⟩ := hkept.standing hatHalfChecked (List.mem_cons_self ..)
    (Or.inr (Or.inl ⟨_, rfl, List.cons_ne_nil _ _⟩))
  have hrows : (replaceOrderLines scarfCreated [hatHalfChecked, scarfRow] [scarfLine]).map
      OrderLineRow.externalLineId = ["scarf"] := by decide +kernel
  have hin : later.externalLineId ∈ ["scarf"] := hrows ▸ List.mem_map_of_mem hlater
  rw [hid] at hin
  exact absurd hin (by decide)

end Zomaal
