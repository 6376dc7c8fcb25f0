/-
**Linking order lines to warehouse products.**

A line of a platform order is linked to the warehouse variant that has its SKU, by the polling sync
and by the webhook, which read the catalogue into a map by the SKU in lower case, and by creating a
product.  This module embeds `replaceOrderLines` from `order-lines.util.ts`, the SKU maps of
`persistOrders` and `upsertCurrentOrder`, and `linkOrderLinesForProduct` from `product.service.ts`.
Lower case is a parameter: the database ignores exactly the case that it removes.

Main results:

* `skuMatchers` — **when the three matchers agree, and that no re-sync then undoes a link**.
-/

import Zomaal.JsText
import Zomaal.KeyedRows
import Zomaal.MachineRun
import Zomaal.Store

set_option autoImplicit false

namespace Zomaal

open JsText

/-! ### Line items and their rows -/

/-- A line item, as the adapters of the platforms normalize it. -/
structure NormalizedOrderLine where
  externalLineId : String
  externalProductId : Option String := none
  externalVariantId : Option String := none
  sku : Option String := none
  name : String := ""
  quantity : ℤ
  quantity_pos : 0 < quantity
  unitPrice : Decimal := 0
  totalPrice : Decimal := 0
  currency : String := "MAD"

instance : DecidableEq NormalizedOrderLine := fun a b =>
  decidable_of_iff (a.externalLineId = b.externalLineId ∧
      a.externalProductId = b.externalProductId ∧ a.externalVariantId = b.externalVariantId ∧
      a.sku = b.sku ∧ a.name = b.name ∧ a.quantity = b.quantity ∧ a.unitPrice = b.unitPrice ∧
      a.totalPrice = b.totalPrice ∧ a.currency = b.currency) <| by
    cases a
    cases b
    simp

structure OrderLineWrite extends NormalizedOrderLine where
  warehouseVariant : Option WarehouseVariant := none

/-- What a row keeps of what the platform says, besides the columns the order flow reads. -/
structure LineColumns where
  externalProductId : Option String := none
  externalVariantId : Option String := none
  sku : Option String := none
  name : String := ""
  unitPrice : Decimal := 0
  currency : String := "MAD"
  returnRequestLines : ℕ := 0
  deriving DecidableEq

/-- A row of an order: its line item, what the platform says of it, and the columns of the order
flow, joined with the linked variant. -/
structure OrderLineRow extends OrderLine, LineColumns where
  externalLineId : String
  deriving DecidableEq

/-- What a created row gets from the database: its identifier, by its external one, and the time. -/
structure CreatedRows where
  id : String → String
  createdAt : ℤ

def OrderLineWrite.row (created : CreatedRows) (line : OrderLineWrite) : OrderLineRow where
  id := created.id line.externalLineId
  quantity := line.quantity
  quantity_pos := line.quantity_pos
  totalPrice := line.totalPrice
  createdAt := created.createdAt
  warehouseVariant := line.warehouseVariant
  externalLineId := line.externalLineId
  externalProductId := line.externalProductId
  externalVariantId := line.externalVariantId
  sku := line.sku
  name := line.name
  unitPrice := line.unitPrice
  currency := line.currency

/-- A row after an update. Re-matching a line whose units are reserved or deducted would leave that
stock attached to the wrong item. -/
def OrderLineRow.update (row : OrderLineRow) (line : OrderLineWrite) : OrderLineRow :=
  { row with
    externalProductId := line.externalProductId
    externalVariantId := line.externalVariantId
    sku := line.sku
    name := line.name
    quantity := line.quantity
    quantity_pos := line.quantity_pos
    unitPrice := line.unitPrice
    totalPrice := line.totalPrice
    currency := line.currency
    warehouseVariant :=
      if row.stockStatus = none then line.warehouseVariant else row.warehouseVariant }

/-- Whether a row that the platform dropped may be deleted: it carries no stock and no return
history. -/
def OrderLineRow.removable (row : OrderLineRow) : Bool :=
  row.stockStatus = none && (row.condition = none && row.returnRequestLines = 0)

/-- `createMany` that skips duplicates: of several new line items with one external identifier, the
first. -/
def createMany (created : CreatedRows) (lines : List OrderLineWrite) : List OrderLineRow :=
  (lines.foldl
    (fun news line =>
      if line.externalLineId ∈ news.map OrderLineRow.externalLineId then news
      else news ++ [line.row created]) [])

def keptRows (rows : List OrderLineRow) (lines : List OrderLineWrite) : List OrderLineRow :=
  rows.filter fun row =>
    row.externalLineId ∈ lines.map (fun line => line.externalLineId) || !row.removable

def newLines (rows : List OrderLineRow) (lines : List OrderLineWrite) : List OrderLineWrite :=
  lines.filter fun line => line.externalLineId ∉ rows.map OrderLineRow.externalLineId

/-- **`replaceOrderLines`**: the platform's current line items are applied to the rows of an
order. -/
def replaceOrderLines (created : CreatedRows) (rows : List OrderLineRow)
    (lines : List OrderLineWrite) : List OrderLineRow :=
  lines.foldl
    (fun rows line => KeyedRows.change OrderLineRow.externalLineId line.externalLineId
      (fun row => row.update line) rows) (keptRows rows lines) ++
    createMany created (newLines rows lines)

/-! ### What becomes of a row -/

def OrderLineRow.apply (lines : List OrderLineWrite) (row : OrderLineRow) : OrderLineRow :=
  lines.foldl (fun row line =>
    if row.externalLineId = line.externalLineId then row.update line else row) row

/-- **What the line items make of a row**: it is left alone, or becomes one with its identifier, and
its link is replaced only if it carries no stock. -/
theorem OrderLineRow.apply_spec (lines : List OrderLineWrite) (row : OrderLineRow) :
    (row.apply lines).externalLineId = row.externalLineId ∧ (row.apply lines).id = row.id ∧
    (row.apply lines).stockStatus = row.stockStatus ∧
    (row.apply lines).createdAt = row.createdAt ∧
    (row.externalLineId ∉ lines.map (fun line => line.externalLineId) → row.apply lines = row) ∧
    (row.externalLineId ∈ lines.map (fun line => line.externalLineId) →
      ∃ line ∈ lines, line.externalLineId = row.externalLineId ∧
        (row.apply lines).sku = line.sku ∧
        (row.apply lines).warehouseVariant =
          if row.stockStatus = none then line.warehouseVariant else row.warehouseVariant) := by
  induction lines generalizing row with
  | nil => exact ⟨rfl, rfl, rfl, rfl, fun _ => rfl, fun h => absurd h List.not_mem_nil⟩
  | cons line lines ih =>
    rw [OrderLineRow.apply, List.foldl_cons]
    by_cases hid : row.externalLineId = line.externalLineId
    · rw [if_pos hid]
      obtain ⟨hkey, hrow, hstatus, hcreated, hout, hin⟩ := ih (row.update line)
      refine ⟨hkey, hrow, hstatus, hcreated, fun h => absurd ?_ h, fun _ => ?_⟩
      · exact List.mem_cons.2 (Or.inl hid)
      · by_cases hlater : row.externalLineId ∈ lines.map (fun line => line.externalLineId)
        · obtain ⟨other, hother, hotherid, hsku, hlink⟩ := hin hlater
          refine ⟨other, List.mem_cons_of_mem _ hother, hotherid, hsku, hlink.trans ?_⟩
          by_cases hnone : row.stockStatus = none
          · rw [if_pos hnone]
            exact if_pos hnone
          · rw [if_neg hnone]
            exact (if_neg hnone).trans (if_neg hnone)
        · have hlast := hout hlater
          rw [OrderLineRow.apply] at hlast
          rw [hlast]
          exact ⟨line, List.mem_cons_self .., hid.symm, rfl, rfl⟩
    · rw [if_neg hid]
      obtain ⟨hkey, hrow, hstatus, hcreated, hout, hin⟩ := ih row
      refine ⟨hkey, hrow, hstatus, hcreated, fun h => hout fun hmem => h ?_, fun h => ?_⟩
      · exact List.mem_cons_of_mem _ hmem
      · obtain ⟨other, hother, hspec⟩ := hin ((List.mem_cons.1 h).resolve_left hid)
        exact ⟨other, List.mem_cons_of_mem _ hother, hspec⟩

theorem createMany_spec (created : CreatedRows) (lines : List OrderLineWrite) :
    ((createMany created lines).map OrderLineRow.externalLineId).Nodup ∧
      ∀ row ∈ createMany created lines, ∃ line ∈ lines, row = line.row created := by
  rw [createMany]
  have hfold : ∀ (lines : List OrderLineWrite) (news : List OrderLineRow)
      (all : List OrderLineWrite), (∀ line ∈ lines, line ∈ all) →
      (news.map OrderLineRow.externalLineId).Nodup →
      (∀ row ∈ news, ∃ line ∈ all, row = line.row created) →
      ((lines.foldl (fun news line =>
        if line.externalLineId ∈ news.map OrderLineRow.externalLineId then news
        else news ++ [line.row created]) news).map OrderLineRow.externalLineId).Nodup ∧
      ∀ row ∈ lines.foldl (fun news line =>
        if line.externalLineId ∈ news.map OrderLineRow.externalLineId then news
        else news ++ [line.row created]) news, ∃ line ∈ all, row = line.row created := by
    intro lines
    induction lines with
    | nil => exact fun news all _ hnodup hrows => ⟨hnodup, hrows⟩
    | cons line lines ih =>
      intro news all hall hnodup hrows
      have hrest := fun other h => hall other (List.mem_cons_of_mem _ h)
      rw [List.foldl_cons]
      split
      · exact ih news all hrest hnodup hrows
      · refine ih _ all hrest (KeyedRows.nodup_append _ hnodup ‹_›) fun row hrow => ?_
        rcases Ledger.mem_concat.1 hrow with hrow | hrow
        · exact hrows row hrow
        · exact ⟨line, hall line (List.mem_cons_self ..), hrow⟩
  exact hfold lines [] lines (fun _ h => h) List.nodup_nil (by simp)

theorem replaceOrderLines_eq (created : CreatedRows) (rows : List OrderLineRow)
    (lines : List OrderLineWrite) :
    replaceOrderLines created rows lines =
      (keptRows rows lines).map (OrderLineRow.apply lines) ++
        createMany created (newLines rows lines) :=
  congrArg (· ++ createMany created (newLines rows lines))
    (KeyedRows.foldl_change OrderLineRow.externalLineId (fun line => line.externalLineId)
      (fun line row => row.update line) lines (keptRows rows lines))

variable {rows : List OrderLineRow} {created : CreatedRows} {row : OrderLineRow}

theorem mem_createMany {lines : List OrderLineWrite}
    (h : row ∈ createMany created (newLines rows lines)) :
    ∃ line ∈ lines, line.externalLineId ∉ rows.map OrderLineRow.externalLineId ∧
      row = line.row created := by
  obtain ⟨line, hline, rfl⟩ := (createMany_spec created _).2 row h
  rw [newLines, List.mem_filter] at hline
  exact ⟨line, hline.1, by simpa using hline.2, rfl⟩

theorem mem_replaceOrderLines {lines : List OrderLineWrite}
    (h : row ∈ replaceOrderLines created rows lines) :
    (∃ old ∈ rows, row = old.apply lines) ∨
      ∃ line ∈ lines, line.externalLineId ∉ rows.map OrderLineRow.externalLineId ∧
        row = line.row created := by
  rw [replaceOrderLines_eq] at h
  rcases List.mem_append.1 h with h | h
  · obtain ⟨old, hold, rfl⟩ := List.mem_map.1 h
    exact Or.inl ⟨old, (List.mem_filter.1 hold).1, rfl⟩
  · exact Or.inr (mem_createMany h)

theorem nodup_replaceOrderLines {lines : List OrderLineWrite}
    (h : (rows.map OrderLineRow.externalLineId).Nodup) :
    ((replaceOrderLines created rows lines).map OrderLineRow.externalLineId).Nodup := by
  have hkeys : OrderLineRow.externalLineId ∘ OrderLineRow.apply lines =
      OrderLineRow.externalLineId := funext fun row => (row.apply_spec lines).1
  have hsub : ((keptRows rows lines).map OrderLineRow.externalLineId).Sublist
      (rows.map OrderLineRow.externalLineId) := List.filter_sublist.map _
  rw [replaceOrderLines_eq, List.map_append, List.map_map, hkeys]
  refine List.Nodup.append (h.sublist hsub) (createMany_spec created _).1 fun id hold hnew => ?_
  obtain ⟨row, hrow, rfl⟩ := List.mem_map.1 hnew
  obtain ⟨line, -, hfresh, rfl⟩ := mem_createMany hrow
  exact hfresh (hsub.subset hold)

/-! ### The three matchers -/

structure SkuVariant where
  variant : WarehouseVariant
  sku : Option String
  deriving DecidableEq

def skus (lines : List NormalizedOrderLine) : List String :=
  lines.filterMap fun line => truthy line.sku

section Matchers

variable (lower : String → String)

def SkuVariant.matches (sku : String) (variant : SkuVariant) : Bool :=
  (truthy variant.sku).any fun other => lower other = lower sku

/-- What a map from SKUs in lower case says about a SKU: of the variants that were read, the last
one that has it. -/
def variantBySku (read : List SkuVariant) (sku : String) : Option WarehouseVariant :=
  (read.findRev? (SkuVariant.matches lower sku)).map SkuVariant.variant

def NormalizedOrderLine.linked (read : List SkuVariant) (line : NormalizedOrderLine) :
    OrderLineWrite :=
  { line with warehouseVariant := (truthy line.sku).bind (variantBySku lower read) }

/-- What the polling sync reads: the variants whose SKU is, letter for letter, on the page. -/
def syncVariants (catalogue : List SkuVariant) (page : List (List NormalizedOrderLine)) :
    List SkuVariant :=
  catalogue.filter fun variant => variant.sku.any fun sku => sku ∈ page.flatMap skus

/-- What the webhook reads: the variants whose SKU is, whatever the case, on the order. -/
def webhookVariants (catalogue : List SkuVariant) (lines : List NormalizedOrderLine) :
    List SkuVariant :=
  catalogue.filter fun variant =>
    variant.sku.any fun sku => (skus lines).any fun other => lower sku = lower other

/-- The line items of an order, in a page that `persistOrders` writes. -/
def syncOrderLines (created : CreatedRows) (catalogue : List SkuVariant)
    (page : List (List NormalizedOrderLine)) (lines : List NormalizedOrderLine)
    (rows : List OrderLineRow) : List OrderLineRow :=
  if lines.isEmpty then rows
  else replaceOrderLines created rows
    (lines.map (NormalizedOrderLine.linked lower (syncVariants catalogue page)))

/-- The line items of an order that `upsertCurrentOrder` writes. -/
def webhookOrderLines (created : CreatedRows) (catalogue : List SkuVariant)
    (lines : List NormalizedOrderLine) (rows : List OrderLineRow) : List OrderLineRow :=
  replaceOrderLines created rows
    (lines.map (NormalizedOrderLine.linked lower (webhookVariants lower catalogue lines)))

variable (delivered : Bool)

/-- A row that is not linked yet is linked to a variant with its SKU.  Units that were delivered
before the product existed are not deducted again. -/
def OrderLineRow.link (row : OrderLineRow) (variant : SkuVariant) : OrderLineRow :=
  if row.warehouseVariant = none ∧ row.sku.any (fun sku => variant.matches lower sku) then
    { row with
      warehouseVariant := some variant.variant
      stockStatus := if delivered then some .delivered else row.stockStatus }
  else row

/-- `linkOrderLinesForProduct`, for a row of an order that was `delivered` or not. -/
def linkOrderLinesForProduct (variants : List SkuVariant) (row : OrderLineRow) : OrderLineRow :=
  variants.foldl (OrderLineRow.link lower delivered) row

/-! ### What a SKU stands for -/

/-- **The variant that a SKU stands for**: it is the only one of the catalogue that has the SKU, up
to the case of its letters. -/
def Matched (catalogue : List SkuVariant) (sku : String) (variant : SkuVariant) : Prop :=
  variant ∈ catalogue ∧ variant.matches lower sku ∧
    ∀ other ∈ catalogue, other.matches lower sku → other = variant

/-- No two variants of the catalogue have the SKU, up to the case of its letters. -/
def Unambiguous (catalogue : List SkuVariant) (sku : String) : Prop :=
  ∀ variant ∈ catalogue, variant.matches lower sku → Matched lower catalogue sku variant

/-- **When the polling sync finds what the other paths find**: at most one variant has the SKU up to
case, and if one does, its own spelling is on the page. -/
def Linkable (catalogue : List SkuVariant) (page : List (List NormalizedOrderLine))
    (sku : String) : Prop :=
  Unambiguous lower catalogue sku ∧ ∀ variant ∈ catalogue, variant.matches lower sku →
    variant ∈ syncVariants catalogue page

variable {lower}

theorem find?_of_only {α : Type} {p : α → Bool} {l : List α} {a : α} (ha : a ∈ l) (hp : p a = true)
    (honly : ∀ b ∈ l, p b = true → b = a) : l.find? p = some a := by
  cases hfind : l.find? p with
  | none => exact absurd hp (by simpa using List.find?_eq_none.1 hfind a ha)
  | some b => rw [honly b (List.mem_of_find?_eq_some hfind) (List.find?_some hfind)]

variable {catalogue read : List SkuVariant} {sku : String} {variant : SkuVariant}

theorem Matched.perm (h : Matched lower catalogue sku variant) (hread : read.Perm catalogue) :
    Matched lower read sku variant :=
  ⟨hread.mem_iff.2 h.1, h.2.1, fun other hother => h.2.2 other (hread.mem_iff.1 hother)⟩

theorem variantBySku_of_matched (h : Matched lower catalogue sku variant)
    (hread : ∀ other ∈ read, other ∈ catalogue) (hin : variant ∈ read) :
    variantBySku lower read sku = some variant.variant := by
  rw [variantBySku, List.findRev?_eq_find?_reverse, find?_of_only (List.mem_reverse.2 hin) h.2.1
    fun other hother => h.2.2 other (hread other (List.mem_reverse.1 hother))]
  rfl

theorem variantBySku_of_none (h : ∀ variant ∈ read, ¬ variant.matches lower sku) :
    variantBySku lower read sku = none := by
  rw [variantBySku, List.findRev?_eq_find?_reverse, List.find?_eq_none.2 fun variant hvariant =>
    h variant (List.mem_reverse.1 hvariant)]
  rfl

variable {lines : List NormalizedOrderLine}

theorem mem_webhookVariants (hsku : sku ∈ skus lines) (hin : variant ∈ catalogue)
    (hmatches : variant.matches lower sku) : variant ∈ webhookVariants lower catalogue lines := by
  rw [SkuVariant.matches, Option.any_eq_true] at hmatches
  obtain ⟨other, htruthy, hlower⟩ := hmatches
  rw [webhookVariants, List.mem_filter, (truthy_some htruthy).1]
  simp only [Option.any_some, List.any_eq_true]
  exact ⟨hin, sku, hsku, by simpa using hlower⟩

variable {line : NormalizedOrderLine}

theorem mem_skus (hline : line ∈ lines) (hsku : truthy line.sku = some sku) : sku ∈ skus lines :=
  List.mem_filterMap.2 ⟨line, hline, hsku⟩

theorem webhook_of_matched (hsku : sku ∈ skus lines) (h : Matched lower catalogue sku variant)
    (hread : read.Perm catalogue) :
    variantBySku lower (webhookVariants lower read lines) sku = some variant.variant :=
  variantBySku_of_matched (h.perm hread) (fun _ hother => (List.mem_filter.1 hother).1)
    (mem_webhookVariants hsku (h.perm hread).1 h.2.1)

variable {page : List (List NormalizedOrderLine)}

theorem sync_of_matched (h : Matched lower catalogue sku variant) (hread : read.Perm catalogue)
    (hspelled : variant ∈ syncVariants catalogue page) :
    variantBySku lower (syncVariants read page) sku = some variant.variant := by
  refine variantBySku_of_matched (h.perm hread) (fun _ hother => (List.mem_filter.1 hother).1) ?_
  rw [syncVariants, List.mem_filter] at hspelled ⊢
  exact ⟨(h.perm hread).1, hspelled.2⟩

theorem linkOrderLinesForProduct_linked (variants : List SkuVariant)
    (h : row.warehouseVariant ≠ none) :
    linkOrderLinesForProduct lower delivered variants row = row := by
  induction variants with
  | nil => rfl
  | cons variant variants ih =>
    rw [linkOrderLinesForProduct, List.foldl_cons, OrderLineRow.link, if_neg fun hand => h hand.1]
    exact ih

theorem linkOrderLinesForProduct_first (variants : List SkuVariant)
    (h : row.warehouseVariant = none) (hsku : row.sku = some sku) :
    (linkOrderLinesForProduct lower delivered variants row).warehouseVariant =
      (variants.find? (SkuVariant.matches lower sku)).map SkuVariant.variant := by
  induction variants with
  | nil => exact h
  | cons variant variants ih =>
    rw [linkOrderLinesForProduct, List.foldl_cons, OrderLineRow.link, hsku]
    by_cases hmatches : variant.matches lower sku
    · rw [if_pos ⟨h, by simpa using hmatches⟩, List.find?_cons_of_pos hmatches]
      exact congrArg OrderLine.warehouseVariant (congrArg OrderLineRow.toOrderLine
        (linkOrderLinesForProduct_linked delivered variants (by simp)))
    · rw [if_neg fun hand => hmatches (by simpa using hand.2),
        List.find?_cons_of_neg (by simpa using hmatches)]
      exact ih

/-! ### When the three agree -/

variable (lower)

/-- The three paths link a line item alike, in whatever order the database lists the catalogue. -/
def SameLink (catalogue : List SkuVariant) (page : List (List NormalizedOrderLine))
    (lines : List NormalizedOrderLine) (line : NormalizedOrderLine) : Prop :=
  ∃ link : Option WarehouseVariant, ∀ read : List SkuVariant, read.Perm catalogue →
    (line.linked lower (syncVariants read page)).warehouseVariant = link ∧
    (line.linked lower (webhookVariants lower read lines)).warehouseVariant = link ∧
    ∀ (delivered : Bool) (row : OrderLineRow), row.sku = line.sku → row.warehouseVariant = none →
      (linkOrderLinesForProduct lower delivered read row).warehouseVariant = link

variable {lower}

theorem linked_of_truthy (h : truthy line.sku = some sku) :
    (line.linked lower read).warehouseVariant = variantBySku lower read sku := by
  rw [NormalizedOrderLine.linked, h]
  rfl

theorem sameLink_of_linkable (hline : line ∈ lines) (hsku : truthy line.sku = some sku)
    (h : Linkable lower catalogue page sku) : SameLink lower catalogue page lines line := by
  by_cases hany : ∃ variant ∈ catalogue, variant.matches lower sku
  · obtain ⟨variant, hin, hmatches⟩ := hany
    have hmatched := h.1 variant hin hmatches
    refine ⟨some variant.variant, fun read hread => ⟨?_, ?_, fun delivered row hrow hnone => ?_⟩⟩
    · rw [linked_of_truthy hsku]
      exact sync_of_matched hmatched hread (h.2 variant hin hmatches)
    · rw [linked_of_truthy hsku]
      exact webhook_of_matched (mem_skus hline hsku) hmatched hread
    · have hfound := hmatched.perm hread
      rw [linkOrderLinesForProduct_first delivered read hnone (hrow.trans (truthy_some hsku).1),
        find?_of_only hfound.1 hfound.2.1 fun other hin hother => hfound.2.2 other hin hother]
      rfl
  · have hnot : ∀ read : List SkuVariant, read.Perm catalogue →
        ∀ variant ∈ read, ¬ variant.matches lower sku :=
      fun read hread variant hin hmatches => hany ⟨variant, hread.mem_iff.1 hin, hmatches⟩
    refine ⟨none, fun read hread => ⟨?_, ?_, fun delivered row hrow hnone => ?_⟩⟩
    · rw [linked_of_truthy hsku]
      exact variantBySku_of_none fun variant hin =>
        hnot read hread variant (List.mem_filter.1 hin).1
    · rw [linked_of_truthy hsku]
      exact variantBySku_of_none fun variant hin =>
        hnot read hread variant (List.mem_filter.1 hin).1
    · rw [linkOrderLinesForProduct_first delivered read hnone (hrow.trans (truthy_some hsku).1),
        List.find?_eq_none.2 (hnot read hread)]
      rfl

/-- A row that the line item could have been written to, before any product has its SKU. -/
def OrderLineRow.unlinked (line : NormalizedOrderLine) : OrderLineRow :=
  OrderLineWrite.row { id := id, createdAt := 0 } { line with warehouseVariant := none }

theorem linkable_of_sameLink (hids : (catalogue.map fun variant => variant.variant.id).Nodup)
    (hsku : truthy line.sku = some sku) (h : SameLink lower catalogue page lines line) :
    Linkable lower catalogue page sku := by
  obtain ⟨link, hlink⟩ := h
  -- Whichever variant with the SKU the database lists first is the one a created row gets.
  have hfirst : ∀ variant ∈ catalogue, variant.matches lower sku → some variant.variant = link := by
    intro variant hin hmatches
    have hspelled : (OrderLineRow.unlinked line).sku = some sku := (truthy_some hsku).1
    have hcreated := (hlink (variant :: catalogue.erase variant)
      (List.perm_cons_erase hin).symm).2.2 false (OrderLineRow.unlinked line) rfl rfl
    rw [linkOrderLinesForProduct_first false _ rfl hspelled,
      List.find?_cons_of_pos hmatches] at hcreated
    exact hcreated
  have hsame : ∀ variant ∈ catalogue, ∀ other ∈ catalogue, variant.variant = other.variant →
      variant = other := fun variant hin other hother heq =>
    List.inj_on_of_nodup_map hids hin hother (congrArg (fun v => v.id) heq)
  refine ⟨fun variant hin hmatches => ⟨hin, hmatches, fun other hother hother' => ?_⟩,
    fun variant hin hmatches => ?_⟩
  · refine hsame other hother variant hin (Option.some.inj ?_)
    exact (hfirst other hother hother').trans (hfirst variant hin hmatches).symm
  · have hsync := (hlink catalogue (List.Perm.refl _)).1
    rw [linked_of_truthy hsku, ← hfirst variant hin hmatches, variantBySku,
      List.findRev?_eq_find?_reverse] at hsync
    obtain ⟨found, hfound, heq⟩ := Option.map_eq_some_iff.1 hsync
    have hread := List.mem_reverse.1 (List.mem_of_find?_eq_some hfound)
    rw [← hsame found (List.mem_filter.1 hread).1 variant hin heq]
    exact hread

/-! ### Re-syncs -/

inductive LinkAct
  | sync (created : CreatedRows) (read : List SkuVariant) (page : List (List NormalizedOrderLine))
      (lines : List NormalizedOrderLine)
  | webhook (created : CreatedRows) (read : List SkuVariant) (lines : List NormalizedOrderLine)
  | create (delivered : Bool) (variants : List SkuVariant)

variable (lower)

def LinkAct.step (rows : List OrderLineRow) : LinkAct → List OrderLineRow
  | .sync created read page lines => syncOrderLines lower created read page lines rows
  | .webhook created read lines => webhookOrderLines lower created read lines rows
  | .create delivered variants => rows.map (linkOrderLinesForProduct lower delivered variants)

def KeepsSku (externalLineId sku : String) (lines : List NormalizedOrderLine) : Prop :=
  ∀ line ∈ lines, line.externalLineId = externalLineId → truthy line.sku = some sku

/-- The steps while the catalogue is unchanged, in which a sync whose page has the line also has
the spelling of its variant. -/
def LinksAlike (catalogue : List SkuVariant) (externalLineId sku : String)
    (_rows : List OrderLineRow) : LinkAct → Prop
  | .sync _ read page lines => read.Perm catalogue ∧ KeepsSku externalLineId sku lines ∧
      (externalLineId ∈ lines.map NormalizedOrderLine.externalLineId →
        Linkable lower catalogue page sku)
  | .webhook _ read lines => read.Perm catalogue ∧ KeepsSku externalLineId sku lines ∧
      Unambiguous lower catalogue sku
  | .create _ variants => variants ⊆ catalogue ∧ Unambiguous lower catalogue sku

def NotRelinked (externalLineId : String) (rows : List OrderLineRow) (act : LinkAct) : Prop :=
  ∀ row ∈ rows, row.externalLineId = externalLineId → ∀ variant,
    row.warehouseVariant = some variant → ∀ later ∈ act.step lower rows,
      later.externalLineId = externalLineId → later.warehouseVariant = some variant

/-- The line has its SKU, and it is not linked but to the variant the SKU stands for. -/
structure LinkedAs (catalogue : List SkuVariant) (externalLineId sku : String)
    (rows : List OrderLineRow) : Prop where
  unique : (rows.map OrderLineRow.externalLineId).Nodup
  spelled : ∀ row ∈ rows, row.externalLineId = externalLineId → row.sku = some sku
  linked : ∀ row ∈ rows, row.externalLineId = externalLineId → ∀ variant,
    row.warehouseVariant = some variant →
      ∃ found, Matched lower catalogue sku found ∧ found.variant = variant

variable {lower}

def WritesLink (externalLineId sku : String) (link : Option WarehouseVariant)
    (lines : List OrderLineWrite) : Prop :=
  ∀ line ∈ lines, line.externalLineId = externalLineId →
    line.sku = some sku ∧ line.warehouseVariant = link

variable {link : Option WarehouseVariant} {externalLineId : String}

theorem row_replaceOrderLines {lines : List OrderLineWrite}
    (hwrites : WritesLink externalLineId sku link lines) {later : OrderLineRow}
    (hlater : later ∈ replaceOrderLines created rows lines)
    (hid : later.externalLineId = externalLineId) :
    (∃ row ∈ rows, row.externalLineId = externalLineId ∧
      (later = row ∨ later.sku = some sku ∧
        later.warehouseVariant = if row.stockStatus = none then link else row.warehouseVariant)) ∨
      externalLineId ∉ rows.map OrderLineRow.externalLineId ∧ later.sku = some sku ∧
        later.warehouseVariant = link := by
  rcases mem_replaceOrderLines hlater with ⟨row, hrow, rfl⟩ | ⟨line, hline, hfresh, rfl⟩
  · obtain ⟨hkey, -, -, -, hout, hin⟩ := row.apply_spec lines
    have hrowid : row.externalLineId = externalLineId := hkey.symm.trans hid
    refine Or.inl ⟨row, hrow, hrowid, ?_⟩
    by_cases hmem : row.externalLineId ∈ lines.map (fun line => line.externalLineId)
    · obtain ⟨line, hline, hlineid, hsku, hlink⟩ := hin hmem
      obtain ⟨hspelled, hvariant⟩ := hwrites line hline (hlineid.trans hrowid)
      refine Or.inr ⟨hsku.trans hspelled, ?_⟩
      rw [hlink, hvariant]
    · exact Or.inl (hout hmem)
  · obtain ⟨hspelled, hvariant⟩ := hwrites line hline hid
    exact Or.inr ⟨hid ▸ hfresh, hspelled, hvariant⟩

structure StandsFor (lower : String → String) (catalogue : List SkuVariant) (sku : String)
    (link : Option WarehouseVariant) : Prop where
  found : ∀ found, Matched lower catalogue sku found → link = some found.variant
  matched : ∀ variant, link = some variant →
    ∃ found, Matched lower catalogue sku found ∧ found.variant = variant

theorem exists_standsFor (catalogue : List SkuVariant) (sku : String) :
    ∃ link, StandsFor lower catalogue sku link := by
  by_cases hany : ∃ found, Matched lower catalogue sku found
  · obtain ⟨found, hmatched⟩ := hany
    refine ⟨some found.variant, fun other hother => ?_, fun variant hvariant => ?_⟩
    · rw [hmatched.2.2 other hother.1 hother.2.1]
    · exact ⟨found, hmatched, Option.some.inj hvariant⟩
  · exact ⟨none, fun found hmatched => absurd ⟨found, hmatched⟩ hany, fun _ h => nomatch h⟩

theorem standsFor_variantBySku (hunambiguous : Unambiguous lower catalogue sku)
    (hread : ∀ variant ∈ read, variant ∈ catalogue)
    (hfound : ∀ found, Matched lower catalogue sku found → found ∈ read) :
    StandsFor lower catalogue sku (variantBySku lower read sku) := by
  refine ⟨fun found hmatched => variantBySku_of_matched hmatched hread (hfound found hmatched),
    fun variant hvariant => ?_⟩
  rw [variantBySku, List.findRev?_eq_find?_reverse] at hvariant
  obtain ⟨found, hfind, rfl⟩ := Option.map_eq_some_iff.1 hvariant
  have hin := hread found (List.mem_reverse.1 (List.mem_of_find?_eq_some hfind))
  exact ⟨found, hunambiguous found hin (List.find?_some hfind), rfl⟩

theorem writesLink_of_keepsSku (h : KeepsSku externalLineId sku lines) (read : List SkuVariant) :
    WritesLink externalLineId sku (variantBySku lower read sku)
      (lines.map (NormalizedOrderLine.linked lower read)) := by
  intro written hwritten hid
  obtain ⟨line, hline, rfl⟩ := List.mem_map.1 hwritten
  have hsku := h line hline hid
  exact ⟨(truthy_some hsku).1, linked_of_truthy hsku⟩

theorem LinkedAs.replace {lines : List OrderLineWrite}
    (h : LinkedAs lower catalogue externalLineId sku rows)
    (hwrites : WritesLink externalLineId sku link lines)
    (hlink : StandsFor lower catalogue sku link) :
    LinkedAs lower catalogue externalLineId sku (replaceOrderLines created rows lines) := by
  refine ⟨nodup_replaceOrderLines h.unique, fun later hlater hid => ?_,
    fun later hlater hid variant hvariant => ?_⟩
  · rcases row_replaceOrderLines hwrites hlater hid with
      ⟨row, hrow, hrowid, rfl | ⟨hspelled, -⟩⟩ | ⟨-, hspelled, -⟩
    · exact h.spelled later hrow hid
    · exact hspelled
    · exact hspelled
  · rcases row_replaceOrderLines hwrites hlater hid with
      ⟨row, hrow, hrowid, rfl | ⟨-, hnew⟩⟩ | ⟨-, -, hnew⟩
    · exact h.linked later hrow hid variant hvariant
    · split at hnew
      · exact hlink.matched variant (hnew.symm.trans hvariant)
      · exact h.linked row hrow hrowid variant (hnew.symm.trans hvariant)
    · exact hlink.matched variant (hnew.symm.trans hvariant)

theorem LinkedAs.not_relinked {lines : List OrderLineWrite}
    (h : LinkedAs lower catalogue externalLineId sku rows)
    (hwrites : WritesLink externalLineId sku link lines)
    (hlink : StandsFor lower catalogue sku link) (hrow : row ∈ rows)
    (hid : row.externalLineId = externalLineId) {variant : WarehouseVariant}
    (hlinked : row.warehouseVariant = some variant) {later : OrderLineRow}
    (hlater : later ∈ replaceOrderLines created rows lines)
    (hlaterid : later.externalLineId = externalLineId) : later.warehouseVariant = some variant := by
  obtain ⟨found, hmatched, rfl⟩ := h.linked row hrow hid variant hlinked
  rcases row_replaceOrderLines hwrites hlater hlaterid with
    ⟨old, hold, holdid, hcase⟩ | ⟨hfresh, -⟩
  · obtain rfl : old = row :=
      List.inj_on_of_nodup_map h.unique hold hrow (holdid.trans hid.symm)
    rcases hcase with rfl | ⟨-, hnew⟩
    · exact hlinked
    · rw [hnew, hlink.found found hmatched, hlinked]
      exact ite_self _
  · exact absurd (hid ▸ List.mem_map_of_mem hrow) hfresh

theorem OrderLineRow.link_columns (variant : SkuVariant) (row : OrderLineRow) :
    (row.link lower delivered variant).externalLineId = row.externalLineId ∧
      (row.link lower delivered variant).sku = row.sku ∧
      (row.link lower delivered variant).id = row.id := by
  rw [OrderLineRow.link]
  split
  · exact ⟨rfl, rfl, rfl⟩
  · exact ⟨rfl, rfl, rfl⟩

theorem linkOrderLinesForProduct_columns (variants : List SkuVariant) (row : OrderLineRow) :
    (linkOrderLinesForProduct lower delivered variants row).externalLineId = row.externalLineId ∧
      (linkOrderLinesForProduct lower delivered variants row).sku = row.sku ∧
      (linkOrderLinesForProduct lower delivered variants row).id = row.id := by
  induction variants generalizing row with
  | nil => exact ⟨rfl, rfl, rfl⟩
  | cons variant variants ih =>
    obtain ⟨hid, hsku, hrow⟩ := ih (row.link lower delivered variant)
    obtain ⟨hid', hsku', hrow'⟩ := @OrderLineRow.link_columns lower delivered variant row
    exact ⟨hid.trans hid', hsku.trans hsku', hrow.trans hrow'⟩

theorem LinkedAs.create (h : LinkedAs lower catalogue externalLineId sku rows) (delivered : Bool)
    {variants : List SkuVariant} (hvariants : variants ⊆ catalogue)
    (hunambiguous : Unambiguous lower catalogue sku) :
    LinkedAs lower catalogue externalLineId sku
      (rows.map (linkOrderLinesForProduct lower delivered variants)) := by
  have hcolumns := fun row => @linkOrderLinesForProduct_columns lower delivered variants row
  refine ⟨?_, fun later hlater hid => ?_, fun later hlater hid variant hvariant => ?_⟩
  · rw [List.map_map]
    exact (congrArg List.Nodup (List.map_congr_left fun row _ => (hcolumns row).1)).mpr h.unique
  · obtain ⟨row, hrow, rfl⟩ := List.mem_map.1 hlater
    exact (hcolumns row).2.1.trans (h.spelled row hrow ((hcolumns row).1.symm.trans hid))
  · obtain ⟨row, hrow, rfl⟩ := List.mem_map.1 hlater
    have hrowid := (hcolumns row).1.symm.trans hid
    by_cases hnone : row.warehouseVariant = none
    · rw [linkOrderLinesForProduct_first delivered variants hnone (h.spelled row hrow hrowid)]
        at hvariant
      obtain ⟨found, hfind, rfl⟩ := Option.map_eq_some_iff.1 hvariant
      have hin := hvariants (List.mem_of_find?_eq_some hfind)
      exact ⟨found, hunambiguous found hin (List.find?_some hfind), rfl⟩
    · rw [linkOrderLinesForProduct_linked delivered variants hnone] at hvariant
      exact h.linked row hrow hrowid variant hvariant

theorem sync_writes (hread : read.Perm catalogue) (hkeeps : KeepsSku externalLineId sku lines)
    (hlinkable : externalLineId ∈ lines.map NormalizedOrderLine.externalLineId →
      Linkable lower catalogue page sku) :
    ∃ link, WritesLink externalLineId sku link
        (lines.map (NormalizedOrderLine.linked lower (syncVariants read page))) ∧
      StandsFor lower catalogue sku link := by
  by_cases hmem : externalLineId ∈ lines.map NormalizedOrderLine.externalLineId
  · obtain ⟨hunambiguous, hspelled⟩ := hlinkable hmem
    refine ⟨_, writesLink_of_keepsSku hkeeps _, standsFor_variantBySku hunambiguous
      (fun variant hin => hread.mem_iff.1 (List.mem_filter.1 hin).1) fun found hmatched => ?_⟩
    have hon := hspelled found hmatched.1 hmatched.2.1
    rw [syncVariants, List.mem_filter] at hon ⊢
    exact ⟨hread.mem_iff.2 hon.1, hon.2⟩
  · obtain ⟨link, hlink⟩ := @exists_standsFor lower catalogue sku
    refine ⟨link, fun written hwritten hid => ?_, hlink⟩
    obtain ⟨line, hline, rfl⟩ := List.mem_map.1 hwritten
    have hlisted : line.externalLineId = externalLineId := hid
    exact absurd (hlisted ▸ List.mem_map_of_mem hline) hmem

theorem webhook_writes (hread : read.Perm catalogue) (hkeeps : KeepsSku externalLineId sku lines)
    (hunambiguous : Unambiguous lower catalogue sku) :
    ∃ link, WritesLink externalLineId sku link
        (lines.map (NormalizedOrderLine.linked lower (webhookVariants lower read lines))) ∧
      StandsFor lower catalogue sku link := by
  by_cases hmem : externalLineId ∈ lines.map NormalizedOrderLine.externalLineId
  · obtain ⟨line, hline, hid⟩ := List.mem_map.1 hmem
    have hsku := mem_skus hline (hkeeps line hline hid)
    exact ⟨_, writesLink_of_keepsSku hkeeps _, standsFor_variantBySku hunambiguous
      (fun variant hin => hread.mem_iff.1 (List.mem_filter.1 hin).1) fun found hmatched =>
        mem_webhookVariants hsku (hread.mem_iff.2 hmatched.1) hmatched.2.1⟩
  · obtain ⟨link, hlink⟩ := @exists_standsFor lower catalogue sku
    refine ⟨link, fun written hwritten hid => ?_, hlink⟩
    obtain ⟨line, hline, rfl⟩ := List.mem_map.1 hwritten
    have hlisted : line.externalLineId = externalLineId := hid
    exact absurd (hlisted ▸ List.mem_map_of_mem hline) hmem

theorem LinkedAs.step {act : LinkAct} (h : LinkedAs lower catalogue externalLineId sku rows)
    (halike : LinksAlike lower catalogue externalLineId sku rows act) :
    LinkedAs lower catalogue externalLineId sku (act.step lower rows) := by
  cases act with
  | sync created read page lines =>
    obtain ⟨hread, hkeeps, hlinkable⟩ := halike
    obtain ⟨link, hwrites, hlink⟩ := sync_writes hread hkeeps hlinkable
    rw [LinkAct.step, syncOrderLines]
    split
    · exact h
    · exact h.replace hwrites hlink
  | webhook created read lines =>
    obtain ⟨hread, hkeeps, hunambiguous⟩ := halike
    obtain ⟨link, hwrites, hlink⟩ := webhook_writes hread hkeeps hunambiguous
    exact h.replace hwrites hlink
  | create delivered variants => exact h.create delivered halike.1 halike.2

theorem LinkedAs.step_not_relinked {act : LinkAct}
    (h : LinkedAs lower catalogue externalLineId sku rows)
    (halike : LinksAlike lower catalogue externalLineId sku rows act) :
    NotRelinked lower externalLineId rows act := by
  intro row hrow hid variant hlinked later hlater hlaterid
  cases act with
  | sync created read page lines =>
    obtain ⟨hread, hkeeps, hlinkable⟩ := halike
    obtain ⟨link, hwrites, hlink⟩ := sync_writes hread hkeeps hlinkable
    rw [LinkAct.step, syncOrderLines] at hlater
    split at hlater
    · obtain rfl : later = row :=
        List.inj_on_of_nodup_map h.unique hlater hrow (hlaterid.trans hid.symm)
      exact hlinked
    · exact h.not_relinked hwrites hlink hrow hid hlinked hlater hlaterid
  | webhook created read lines =>
    obtain ⟨hread, hkeeps, hunambiguous⟩ := halike
    obtain ⟨link, hwrites, hlink⟩ := webhook_writes hread hkeeps hunambiguous
    exact h.not_relinked hwrites hlink hrow hid hlinked hlater hlaterid
  | create delivered variants =>
    obtain ⟨old, hold, rfl⟩ := List.mem_map.1 hlater
    have holdid := (linkOrderLinesForProduct_columns delivered variants old).1.symm.trans hlaterid
    obtain rfl : old = row :=
      List.inj_on_of_nodup_map h.unique hold hrow (holdid.trans hid.symm)
    rw [linkOrderLinesForProduct_linked delivered variants (by simp [hlinked])]
    exact hlinked

/-- **The three SKU matchers.**  They link a line item with a SKU alike if and only if at most one
variant of the catalogue has the SKU up to the case of its letters and, if one does, its own
spelling is on the page that is synced.  In every run of syncs, webhooks and created products for
which that holds while the catalogue is unchanged, no step unlinks or re-targets the line. -/
theorem skuMatchers (lower : String → String) (catalogue : List SkuVariant)
    (hids : (catalogue.map fun variant => variant.variant.id).Nodup) :
    (∀ (page : List (List NormalizedOrderLine)) (lines : List NormalizedOrderLine)
        (line : NormalizedOrderLine) (sku : String), line ∈ lines → truthy line.sku = some sku →
      (SameLink lower catalogue page lines line ↔ Linkable lower catalogue page sku)) ∧
    ∀ (externalLineId sku : String) (rows : List OrderLineRow) (acts : List LinkAct),
      LinkedAs lower catalogue externalLineId sku rows →
      Machine.Along (LinkAct.step lower) (LinksAlike lower catalogue externalLineId sku) rows acts →
      Machine.Along (LinkAct.step lower) (NotRelinked lower externalLineId) rows acts := by
  constructor
  · intro page lines line sku hline hsku
    exact ⟨linkable_of_sameLink hids hsku, sameLink_of_linkable hline hsku⟩
  · intro externalLineId sku rows acts hlinked halike
    exact Machine.Along.of_keeps (fun _ _ h ha => h.step ha)
      (fun _ _ h ha => h.step_not_relinked ha) hlinked halike

end Matchers

/-! ### A SKU in another case -/

def lowerAscii (sku : String) : String := String.ofList (sku.toList.map Char.toLower)

def capeVariant : SkuVariant where
  variant := { id := "cape", storeId := "store-1", inventoryItem := some "cape-item" }
  sku := some "CAPE-1"

def capeLine : NormalizedOrderLine where
  externalLineId := "line-1"
  sku := some "cape-1"
  quantity := 1
  quantity_pos := Int.one_pos

def capeWebhook : LinkAct := .webhook { id := id, createdAt := 0 } [capeVariant] [capeLine]

def capeSync : LinkAct :=
  .sync { id := id, createdAt := 0 } [capeVariant] [[capeLine]] [capeLine]

/-- **The three paths need not agree.**  The webhook and creating the product link the line, the
sync does not; and when the sync comes after the webhook, it unlinks the line. -/
theorem skuMatchers_other_case :
    ¬ SameLink lowerAscii [capeVariant] [[capeLine]] [capeLine] capeLine ∧
      ((capeWebhook.step lowerAscii []).map fun row => row.warehouseVariant) =
        [some capeVariant.variant] ∧
      ((capeSync.step lowerAscii (capeWebhook.step lowerAscii [])).map
        fun row => row.warehouseVariant) = [none] := by
  refine ⟨?_, by decide +kernel, by decide +kernel⟩
  rintro ⟨link, hlink⟩
  obtain ⟨hsync, hwebhook, -⟩ := hlink [capeVariant] (List.Perm.refl _)
  have hunlinked : (capeLine.linked lowerAscii
      (syncVariants [capeVariant] [[capeLine]])).warehouseVariant = none := by decide +kernel
  have hlinked : (capeLine.linked lowerAscii
      (webhookVariants lowerAscii [capeVariant] [capeLine])).warehouseVariant =
        some capeVariant.variant := by decide +kernel
  exact absurd (hunlinked.symm.trans (hsync.trans (hwebhook.symm.trans hlinked))) (by simp)

def capeLineSpelled : NormalizedOrderLine := { capeLine with sku := some "CAPE-1" }

def capeActs : List LinkAct :=
  [.webhook { id := id, createdAt := 0 } [capeVariant] [capeLineSpelled],
    .sync { id := id, createdAt := 0 } [capeVariant] [[capeLineSpelled]] [capeLineSpelled],
    .create false [capeVariant]]

theorem linkable_cape : Linkable lowerAscii [capeVariant] [[capeLineSpelled]] "CAPE-1" := by
  refine ⟨fun variant hin hmatches => ⟨hin, hmatches, fun other hother _ => ?_⟩,
    fun variant hin _ => ?_⟩
  · rw [List.mem_singleton.1 hother, List.mem_singleton.1 hin]
  · rw [List.mem_singleton.1 hin]
    decide +kernel

/-- Spelled alike, the paths agree, and neither the sync nor the product relinks the line that the
webhook linked. -/
theorem skuMatchers_cape :
    SameLink lowerAscii [capeVariant] [[capeLineSpelled]] [capeLineSpelled] capeLineSpelled ∧
      Machine.Along (LinkAct.step lowerAscii) (NotRelinked lowerAscii "line-1") [] capeActs := by
  obtain ⟨hagree, hruns⟩ := skuMatchers lowerAscii [capeVariant] (by decide)
  refine ⟨(hagree [[capeLineSpelled]] [capeLineSpelled] capeLineSpelled "CAPE-1" (by simp)
    (by decide +kernel)).2 linkable_cape, ?_⟩
  have hkeeps : KeepsSku "line-1" "CAPE-1" [capeLineSpelled] := by
    intro line hline _
    rw [List.mem_singleton.1 hline]
    decide +kernel
  refine hruns "line-1" "CAPE-1" [] capeActs ⟨List.nodup_nil, by simp, by simp⟩ ?_
  exact ⟨⟨List.Perm.refl _, hkeeps, linkable_cape.1⟩,
    ⟨List.Perm.refl _, hkeeps, fun _ => linkable_cape⟩,
    ⟨List.Subset.refl _, linkable_cape.1⟩, trivial⟩

end Zomaal
