/-
**Two writers of one order.**

An order of Shopify is written by two paths that fetch first and write later.  A webhook compares,
inside its transaction, the time at which the platform last changed the order with that of the row,
and leaves a row alone that is newer; a page of the polling sync is upserted without looking.  The
database does not lock what the webhook reads, so others may commit in between.

Main results:

* `orderVersions` — **when a stored order never goes back in time**.
-/

import Zomaal.Latest
import Zomaal.PlatformOrders

set_option autoImplicit false

namespace Zomaal

open Latest

/-! ### What the rows say -/

variable (row : OrderLineRow)

structure OrderLineRow.Reads (line : NormalizedOrderLine) : Prop where
  externalLineId : row.externalLineId = line.externalLineId
  externalProductId : row.externalProductId = line.externalProductId
  externalVariantId : row.externalVariantId = line.externalVariantId
  sku : row.sku = line.sku
  name : row.name = line.name
  quantity : row.quantity = line.quantity
  unitPrice : row.unitPrice = line.unitPrice
  totalPrice : row.totalPrice = line.totalPrice
  currency : row.currency = line.currency

def lineIdsOf (lines : List NormalizedOrderLine) : List String :=
  lines.map NormalizedOrderLine.externalLineId

/-- **The rows say what the line items say**: every line item has its row, and a row of none carries
stock or return history. -/
structure LinesOf (lines : List NormalizedOrderLine) (rows : List OrderLineRow) : Prop where
  listed : ∀ line ∈ lines, line.externalLineId ∈ rows.map OrderLineRow.externalLineId
  stated : ∀ row ∈ rows, row.externalLineId ∈ lineIdsOf lines → ∃ line ∈ lines, row.Reads line
  dropped : ∀ row ∈ rows, row.externalLineId ∉ lineIdsOf lines → row.removable = false

section Lines

variable {lines : List OrderLineWrite}

theorem OrderLineRow.update_reads (line : OrderLineWrite)
    (h : row.externalLineId = line.externalLineId) :
    (row.update line).Reads line.toNormalizedOrderLine :=
  ⟨h, rfl, rfl, rfl, rfl, rfl, rfl, rfl, rfl⟩

theorem OrderLineRow.apply_reads {all : List NormalizedOrderLine}
    (hall : ∀ line ∈ lines, line.toNormalizedOrderLine ∈ all) (h : (∃ line ∈ all, row.Reads line) ∨
      row.externalLineId ∈ lines.map fun line => line.externalLineId) :
    ∃ line ∈ all, (row.apply lines).Reads line := by
  induction lines generalizing row with
  | nil => exact h.resolve_right List.not_mem_nil
  | cons line lines ih =>
    have hrest := fun other hother => hall other (List.mem_cons_of_mem _ hother)
    rw [OrderLineRow.apply, List.foldl_cons]
    by_cases hid : row.externalLineId = line.externalLineId
    · rw [if_pos hid]
      exact ih (row.update line) hrest
        (Or.inl ⟨_, hall line (List.mem_cons_self ..), row.update_reads line hid⟩)
    · rw [if_neg hid]
      refine ih row hrest (h.imp_right fun hmem => ?_)
      exact (List.mem_cons.1 hmem).resolve_left hid

theorem mem_createMany_ids (created : CreatedRows) {line : OrderLineWrite} (h : line ∈ lines) :
    line.externalLineId ∈ (createMany created lines).map OrderLineRow.externalLineId := by
  have hfold : ∀ (lines : List OrderLineWrite) (news : List OrderLineRow),
      line.externalLineId ∈ news.map OrderLineRow.externalLineId ∨ line ∈ lines →
      line.externalLineId ∈ (lines.foldl (fun news line =>
        if line.externalLineId ∈ news.map OrderLineRow.externalLineId then news
        else news ++ [line.row created]) news).map OrderLineRow.externalLineId := by
    intro lines
    induction lines with
    | nil => exact fun news h => h.resolve_right List.not_mem_nil
    | cons other lines ih =>
      intro news h
      refine ih _ ?_
      rcases h with h | h
      · refine Or.inl ?_
        dsimp only
        split
        · exact h
        · rw [List.map_append]
          exact List.mem_append_left _ h
      · rcases List.mem_cons.1 h with rfl | h
        · refine Or.inl ?_
          dsimp only
          split
          · assumption
          · rw [List.map_append]
            exact List.mem_append_right _ (List.mem_singleton_self _)
        · exact Or.inr h
  exact hfold lines [] (Or.inr h)

/-- **What `replaceOrderLines` makes of the rows**: they say what the line items say. -/
theorem replaceOrderLines_linesOf (created : CreatedRows) (rows : List OrderLineRow)
    (lines : List OrderLineWrite) :
    LinesOf (lines.map OrderLineWrite.toNormalizedOrderLine)
      (replaceOrderLines created rows lines) := by
  have hids : lineIdsOf (lines.map OrderLineWrite.toNormalizedOrderLine) =
      lines.map fun line => line.externalLineId := by
    rw [lineIdsOf, List.map_map]
    rfl
  have hkeys : ∀ row : OrderLineRow, (row.apply lines).externalLineId = row.externalLineId :=
    fun row => (row.apply_spec lines).1
  rw [replaceOrderLines_eq]
  constructor
  · intro line hline
    obtain ⟨write, hwrite, rfl⟩ := List.mem_map.1 hline
    have hid : write.externalLineId ∈ lines.map fun line => line.externalLineId :=
      List.mem_map_of_mem hwrite
    rw [List.map_append]
    by_cases hold : write.externalLineId ∈ rows.map OrderLineRow.externalLineId
    · obtain ⟨row, hrow, hsame⟩ := List.mem_map.1 hold
      have hkept : row ∈ keptRows rows lines := by
        rw [keptRows, List.mem_filter, hsame, decide_eq_true hid]
        exact ⟨hrow, rfl⟩
      refine List.mem_append_left _ (List.mem_map.2 ⟨row.apply lines, ?_, ?_⟩)
      · exact List.mem_map_of_mem hkept
      · exact (hkeys row).trans hsame
    · refine List.mem_append_right _ (mem_createMany_ids created ?_)
      exact List.mem_filter.2 ⟨hwrite, decide_eq_true hold⟩
  · intro row hrow hid
    rcases List.mem_append.1 hrow with hrow | hrow
    · obtain ⟨old, -, rfl⟩ := List.mem_map.1 hrow
      rw [hids, hkeys] at hid
      exact old.apply_reads (fun line hline => List.mem_map_of_mem hline) (Or.inr hid)
    · obtain ⟨line, hline, -, rfl⟩ := mem_createMany hrow
      exact ⟨_, List.mem_map_of_mem hline, rfl, rfl, rfl, rfl, rfl, rfl, rfl, rfl, rfl⟩
  · intro row hrow hid
    rw [hids] at hid
    rcases List.mem_append.1 hrow with hrow | hrow
    · obtain ⟨old, hold, rfl⟩ := List.mem_map.1 hrow
      rw [hkeys] at hid
      rw [(old.apply_spec lines).2.2.2.2.1 hid]
      rw [keptRows, List.mem_filter, decide_eq_false hid, Bool.false_or] at hold
      exact Bool.not_eq_true' _ ▸ hold.2
    · obtain ⟨line, hline, -, rfl⟩ := mem_createMany hrow
      exact absurd (List.mem_map.2 ⟨line, hline, rfl⟩) hid

end Lines

/-! ### The interleavings -/

structure SyncedOrder where
  data : OrderData
  lines : List OrderLineRow := []

/-- What writing order lines depends on: lower case, the rows the database creates, and the
catalogue. -/
structure LineWriter where
  lower : String → String
  created : CreatedRows
  catalogue : List SkuVariant

inductive WebhookPhase
  | waiting
  | fetched (version : NormalizedEcommerceOrder)
  | compared (version : NormalizedEcommerceOrder) (fresh : Bool)
  | processed

/-- How far a page got: it fetched a version, with the line items of other orders, or has upserted
it. -/
inductive PagePhase
  | waiting
  | fetched (version : NormalizedEcommerceOrder) (others : List (List NormalizedOrderLine))
  | upserted (version : NormalizedEcommerceOrder) (others : List (List NormalizedOrderLine))
  | persisted

def WebhookPhase.version : WebhookPhase → Option NormalizedEcommerceOrder
  | .waiting => none
  | .fetched version => some version
  | .compared version _ => some version
  | .processed => none

def PagePhase.version : PagePhase → Option NormalizedEcommerceOrder
  | .waiting => none
  | .fetched version _ => some version
  | .upserted version _ => some version
  | .persisted => none

/-- One order: the platform's versions, the row, the webhooks and pages under way, and the versions
that were committed, of the order and of its lines. -/
structure OrderVersions where
  platform : NormalizedEcommerceOrder
  earlier : List NormalizedEcommerceOrder := []
  row : Option SyncedOrder := none
  webhooks : ℕ → WebhookPhase := fun _ => .waiting
  pages : ℕ → PagePhase := fun _ => .waiting
  orders : List NormalizedEcommerceOrder := []
  lines : List NormalizedEcommerceOrder := []

inductive VersionAction
  | change (version : NormalizedEcommerceOrder)
  | fetchOrder (webhook : ℕ)
  | compare (webhook : ℕ)
  | commit (webhook : ℕ)
  | fetchPage (page : ℕ) (others : List (List NormalizedOrderLine))
  | upsertOrder (page : ℕ)
  | writeLines (page : ℕ)

def SyncedOrder.rows (row : Option SyncedOrder) : List OrderLineRow :=
  (row.map SyncedOrder.lines).getD []

namespace OrderVersions

variable (writer : LineWriter)

def published (s : OrderVersions) : List NormalizedEcommerceOrder := s.platform :: s.earlier

/-- `existing.providerUpdatedAt.getTime() <= order.providerUpdatedAt.getTime()`. -/
def fresh (s : OrderVersions) (version : NormalizedEcommerceOrder) : Bool :=
  s.row.all fun row => row.data.providerUpdatedAt ≤ version.providerUpdatedAt

/-- A webhook writes its version, unless it found a newer one, and records its receipt. -/
def commitWebhook (s : OrderVersions) (version : NormalizedEcommerceOrder) (fresh : Bool) :
    OrderVersions :=
  { s with
    row :=
      if fresh then
        some
          { data := version.toOrderData
            lines := webhookOrderLines writer.lower writer.created writer.catalogue version.lines
              (SyncedOrder.rows s.row) }
      else s.row
    orders := s.orders ++ [version]
    lines := s.lines ++ [version] }

def upsertPage (s : OrderVersions) (version : NormalizedEcommerceOrder) : OrderVersions :=
  { s with
    row := some { data := version.toOrderData, lines := SyncedOrder.rows s.row }
    orders := s.orders ++ [version] }

def writePageLines (s : OrderVersions) (version : NormalizedEcommerceOrder)
    (others : List (List NormalizedOrderLine)) : OrderVersions :=
  { s with
    row := s.row.map fun row =>
      { row with
        lines := syncOrderLines writer.lower writer.created writer.catalogue
          (version.lines :: others) version.lines row.lines }
    lines := s.lines ++ [version] }

def step (s : OrderVersions) : VersionAction → OrderVersions
  | .change version =>
    if s.platform.providerUpdatedAt < version.providerUpdatedAt then
      { s with platform := version, earlier := s.platform :: s.earlier }
    else s
  | .fetchOrder webhook =>
    match s.webhooks webhook with
    | .waiting =>
      { s with webhooks := Function.update s.webhooks webhook (.fetched s.platform) }
    | _ => s
  | .compare webhook =>
    match s.webhooks webhook with
    | .fetched version =>
      { s with
        webhooks := Function.update s.webhooks webhook (.compared version (s.fresh version)) }
    | _ => s
  | .commit webhook =>
    match s.webhooks webhook with
    | .compared version fresh =>
      { s.commitWebhook writer version fresh with
        webhooks := Function.update s.webhooks webhook .processed }
    | _ => s
  | .fetchPage page others =>
    match s.pages page with
    | .waiting => { s with pages := Function.update s.pages page (.fetched s.platform others) }
    | _ => s
  | .upsertOrder page =>
    match s.pages page with
    | .fetched version others =>
      { s.upsertPage version with
        pages := Function.update s.pages page (.upserted version others) }
    | _ => s
  | .writeLines page =>
    match s.pages page with
    | .upserted version others =>
      { s.writePageLines writer version others with
        pages := Function.update s.pages page .persisted }
    | _ => s

/-! ### What is asked -/

/-- **The row does not go back**: it stays, and its time does not decrease. -/
def Forward (s s' : OrderVersions) : Prop :=
  ∀ row, s.row = some row → ∃ row', s'.row = some row' ∧
    row.data.providerUpdatedAt ≤ row'.data.providerUpdatedAt

def Newest (version : NormalizedEcommerceOrder) (versions : List NormalizedEcommerceOrder) : Prop :=
  IsLatest (fun version => version.providerUpdatedAt) version versions

/-- **The row is up to date**: its columns are those of the newest version committed, and its lines
those of the newest whose lines were. -/
structure UpToDate (s : OrderVersions) : Prop where
  present : ∀ version ∈ s.orders, ∃ row, s.row = some row
  data : ∀ row, s.row = some row → ∀ version, Newest version s.orders →
    row.data = version.toOrderData
  lines : ∀ row, s.row = some row → ∀ version, Newest version s.lines →
    LinesOf version.lines row.lines

/-- **A write is not overtaken**: nothing newer was committed since a webhook compared or a page
fetched; where a webhook writes nothing, nothing is missing. -/
def InOrder (s : OrderVersions) : VersionAction → Prop
  | .commit webhook =>
    match s.webhooks webhook with
    | .compared version true =>
      ∀ other ∈ s.orders, other.providerUpdatedAt ≤ version.providerUpdatedAt
    | .compared version false =>
      (∃ other ∈ s.lines, version.providerUpdatedAt ≤ other.providerUpdatedAt) ∨
        LinesOf version.lines (SyncedOrder.rows s.row)
    | _ => True
  | .upsertOrder page =>
    match s.pages page with
    | .fetched version _ =>
      ∀ other ∈ s.orders, other.providerUpdatedAt ≤ version.providerUpdatedAt
    | _ => True
  | .writeLines page =>
    match s.pages page with
    | .upserted version _ =>
      (∀ other ∈ s.lines, version.providerUpdatedAt < other.providerUpdatedAt →
        other.lines = version.lines) ∧
      (version.lines = [] → LinesOf version.lines (SyncedOrder.rows s.row))
    | _ => True
  | _ => True

/-- A start: nothing is under way, and the row is one of the versions that the platform has had,
with its lines. -/
structure Start (s : OrderVersions) : Prop where
  increasing : s.published.Pairwise fun version earlier =>
    earlier.providerUpdatedAt < version.providerUpdatedAt
  webhooks : ∀ webhook, s.webhooks webhook = .waiting
  pages : ∀ page, s.pages page = .waiting
  row : (s.row = none ∧ s.orders = [] ∧ s.lines = []) ∨
    ∃ version ∈ s.published, s.orders = [version] ∧ s.lines = [version] ∧
      ∃ row, s.row = some row ∧ row.data = version.toOrderData ∧ LinesOf version.lines row.lines

/-! ### What a step keeps -/

/-- All versions are the platform's, lines were committed of orders that were, a webhook that writes
nothing found a newer version, and the row is up to date. -/
structure Inv (s : OrderVersions) : Prop where
  later : ∀ version ∈ s.earlier, version.providerUpdatedAt < s.platform.providerUpdatedAt
  apart : ∀ one ∈ s.published, ∀ other ∈ s.published,
    one.providerUpdatedAt = other.providerUpdatedAt → one = other
  webhooks : ∀ webhook version, (s.webhooks webhook).version = some version →
    version ∈ s.published
  pages : ∀ page version, (s.pages page).version = some version → version ∈ s.published
  orders : ∀ version ∈ s.orders, version ∈ s.published
  lines : ∀ version ∈ s.lines, version ∈ s.orders
  stale : ∀ webhook version, s.webhooks webhook = .compared version false →
    ∃ other ∈ s.orders, version.providerUpdatedAt < other.providerUpdatedAt
  upserted : ∀ page version others, s.pages page = .upserted version others → version ∈ s.orders
  stored : ∀ row, s.row = some row → s.orders ≠ []
  upToDate : s.UpToDate

theorem linked_lines (read : List SkuVariant) (lower : String → String)
    (lines : List NormalizedOrderLine) :
    (lines.map (NormalizedOrderLine.linked lower read)).map
      OrderLineWrite.toNormalizedOrderLine = lines := by
  rw [List.map_map]
  exact List.map_id lines

theorem webhookOrderLines_linesOf (writer : LineWriter) (lines : List NormalizedOrderLine)
    (rows : List OrderLineRow) :
    LinesOf lines (webhookOrderLines writer.lower writer.created writer.catalogue lines rows) := by
  have h := replaceOrderLines_linesOf writer.created rows
    (lines.map (NormalizedOrderLine.linked writer.lower
      (webhookVariants writer.lower writer.catalogue lines)))
  rw [linked_lines] at h
  exact h

theorem syncOrderLines_linesOf (writer : LineWriter) (page : List (List NormalizedOrderLine))
    (lines : List NormalizedOrderLine) (rows : List OrderLineRow)
    (hempty : lines = [] → LinesOf lines rows) :
    LinesOf lines
      (syncOrderLines writer.lower writer.created writer.catalogue page lines rows) := by
  rw [syncOrderLines]
  split
  · exact hempty (List.isEmpty_iff.1 ‹_›)
  · have h := replaceOrderLines_linesOf writer.created rows
      (lines.map (NormalizedOrderLine.linked writer.lower (syncVariants writer.catalogue page)))
    rw [linked_lines] at h
    exact h

variable {s : OrderVersions} {version : NormalizedEcommerceOrder}

theorem Inv.newest_append (h : s.Inv) (hversion : version ∈ s.published)
    {versions : List NormalizedEcommerceOrder} (hversions : ∀ other ∈ versions, other ∈ s.orders)
    {newest : NormalizedEcommerceOrder} (hnewest : Newest newest (versions ++ [version])) :
    newest = version ∨
      (Newest newest versions ∧ version.providerUpdatedAt < newest.providerUpdatedAt) := by
  obtain ⟨hle, hcases⟩ := hnewest.of_append
  rcases hcases with heq | hold
  · exact Or.inl heq
  · rcases hle.lt_or_eq with hlt | heq
    · exact Or.inr ⟨hold, hlt⟩
    · exact Or.inl (h.apart _ (h.orders _ (hversions _ hold.1)) _ hversion heq.symm)

theorem Inv.exists_newest (h : s.Inv) {row : SyncedOrder} (hrow : s.row = some row) :
    ∃ newest ∈ s.orders, row.data = newest.toOrderData := by
  obtain ⟨newest, hnewest⟩ := exists_isLatest (fun version : NormalizedEcommerceOrder =>
    version.providerUpdatedAt) (h.stored row hrow)
  exact ⟨newest, hnewest.1, h.upToDate.data row hrow newest hnewest⟩

theorem Inv.exists_newer (h : s.Inv) (hstale : s.fresh version = false) :
    ∃ other ∈ s.orders, version.providerUpdatedAt < other.providerUpdatedAt := by
  rw [fresh] at hstale
  cases hrow : s.row with
  | none =>
    rw [hrow] at hstale
    cases hstale
  | some row =>
    rw [hrow, Option.all_some, decide_eq_false_iff_not, not_le] at hstale
    obtain ⟨newest, hnewest, hdata⟩ := h.exists_newest hrow
    rw [hdata] at hstale
    exact ⟨newest, hnewest, hstale⟩

theorem Inv.setWebhook (h : s.Inv) (webhook : ℕ) (phase : WebhookPhase)
    (hversion : ∀ version, phase.version = some version → version ∈ s.published)
    (hstale : ∀ version, phase = .compared version false →
      ∃ other ∈ s.orders, version.providerUpdatedAt < other.providerUpdatedAt) :
    ({ s with webhooks := Function.update s.webhooks webhook phase } : OrderVersions).Inv := by
  refine ⟨h.later, h.apart, ?_, h.pages, h.orders, h.lines, ?_, h.upserted, h.stored,
    ⟨h.upToDate.present, h.upToDate.data, h.upToDate.lines⟩⟩
  · exact (Function.forall_update_iff s.webhooks fun _ phase =>
      ∀ version, phase.version = some version → version ∈ s.published).2
      ⟨hversion, fun other _ => h.webhooks other⟩
  · exact (Function.forall_update_iff s.webhooks fun _ phase => ∀ version,
      phase = .compared version false →
        ∃ other ∈ s.orders, version.providerUpdatedAt < other.providerUpdatedAt).2
      ⟨hstale, fun other _ => h.stale other⟩

theorem Inv.setPage (h : s.Inv) (page : ℕ) (phase : PagePhase)
    (hversion : ∀ version, phase.version = some version → version ∈ s.published)
    (hupserted : ∀ version others, phase = .upserted version others → version ∈ s.orders) :
    ({ s with pages := Function.update s.pages page phase } : OrderVersions).Inv := by
  refine ⟨h.later, h.apart, h.webhooks, ?_, h.orders, h.lines, h.stale, ?_, h.stored,
    ⟨h.upToDate.present, h.upToDate.data, h.upToDate.lines⟩⟩
  · exact (Function.forall_update_iff s.pages fun _ phase =>
      ∀ version, phase.version = some version → version ∈ s.published).2
      ⟨hversion, fun other _ => h.pages other⟩
  · exact (Function.forall_update_iff s.pages fun _ phase => ∀ version others,
      phase = .upserted version others → version ∈ s.orders).2
      ⟨hupserted, fun other _ => h.upserted other⟩

theorem Inv.change (h : s.Inv)
    (hlater : s.platform.providerUpdatedAt < version.providerUpdatedAt) :
    ({ s with platform := version, earlier := s.platform :: s.earlier } : OrderVersions).Inv := by
  have hall : ∀ other ∈ s.published, other.providerUpdatedAt < version.providerUpdatedAt := by
    intro other hother
    rcases List.mem_cons.1 hother with rfl | hother
    · exact hlater
    · exact (h.later other hother).trans hlater
  refine ⟨hall, ?_, fun w v hv => List.mem_cons_of_mem _ (h.webhooks w v hv),
    fun p v hv => List.mem_cons_of_mem _ (h.pages p v hv),
    fun v hv => List.mem_cons_of_mem _ (h.orders v hv), h.lines, h.stale, h.upserted, h.stored,
    ⟨h.upToDate.present, h.upToDate.data, h.upToDate.lines⟩⟩
  intro one hone other hother htime
  rcases List.mem_cons.1 hone with rfl | hone
  · rcases List.mem_cons.1 hother with rfl | hother
    · rfl
    · exact absurd htime (hall other hother).ne'
  · rcases List.mem_cons.1 hother with rfl | hother
    · exact absurd htime (hall one hone).ne
    · exact h.apart one hone other hother htime

theorem Inv.appendOrders (h : s.Inv) (hversion : version ∈ s.published) :
    (∀ other ∈ s.orders ++ [version], other ∈ s.published) ∧
    (∀ webhook other, s.webhooks webhook = .compared other false →
      ∃ newer ∈ s.orders ++ [version], other.providerUpdatedAt < newer.providerUpdatedAt) ∧
    (∀ page other others, s.pages page = .upserted other others →
      other ∈ s.orders ++ [version]) := by
  refine ⟨fun other hother => ?_, fun webhook other hother => ?_,
    fun page other others hother => ?_⟩
  · rcases Ledger.mem_concat.1 hother with hold | hnew
    · exact h.orders other hold
    · exact hnew ▸ hversion
  · obtain ⟨newer, hnewer, hlt⟩ := h.stale webhook other hother
    exact ⟨newer, List.mem_append_left _ hnewer, hlt⟩
  · exact List.mem_append_left _ (h.upserted page other others hother)

theorem Inv.forward (h : s.Inv) (hle : ∀ other ∈ s.orders,
    other.providerUpdatedAt ≤ version.providerUpdatedAt) {s' : OrderVersions} {row' : SyncedOrder}
    (hrow' : s'.row = some row') (hdata : row'.data = version.toOrderData) : Forward s s' := by
  intro row hrow
  obtain ⟨newest, hnewest, hsame⟩ := h.exists_newest hrow
  refine ⟨row', hrow', ?_⟩
  rw [hdata, hsame]
  exact hle newest hnewest

theorem Inv.commitFresh (h : s.Inv) (writer : LineWriter) (hversion : version ∈ s.published)
    (hle : ∀ other ∈ s.orders, other.providerUpdatedAt ≤ version.providerUpdatedAt) :
    (s.commitWebhook writer version true).Inv ∧
      Forward s (s.commitWebhook writer version true) := by
  obtain ⟨horders, hstale, hupserted⟩ := h.appendOrders hversion
  refine ⟨⟨h.later, h.apart, h.webhooks, h.pages, horders, fun other hother => ?_, hstale,
    hupserted, fun row _ => by simp [commitWebhook], ⟨fun other _ => ⟨_, rfl⟩, ?_, ?_⟩⟩,
    h.forward hle rfl rfl⟩
  · rcases List.mem_append.1 hother with hold | hnew
    · exact List.mem_append_left _ (h.lines other hold)
    · exact List.mem_append_right _ hnew
  · intro row hrow newest hnewest
    obtain rfl := Option.some.inj hrow
    rcases h.newest_append hversion (fun _ hother => hother) hnewest with rfl | ⟨hold, hlt⟩
    · rfl
    · exact absurd hlt (not_lt_of_ge (hle newest hold.1))
  · intro row hrow newest hnewest
    obtain rfl := Option.some.inj hrow
    rcases h.newest_append hversion h.lines hnewest with rfl | ⟨hold, hlt⟩
    · exact webhookOrderLines_linesOf writer _ _
    · exact absurd hlt (not_lt_of_ge (hle newest (h.lines newest hold.1)))

theorem Inv.commitStale (h : s.Inv) (writer : LineWriter) (hversion : version ∈ s.published)
    (hnewer : ∃ other ∈ s.orders, version.providerUpdatedAt < other.providerUpdatedAt)
    (hlines : (∃ other ∈ s.lines, version.providerUpdatedAt ≤ other.providerUpdatedAt) ∨
      LinesOf version.lines (SyncedOrder.rows s.row)) :
    (s.commitWebhook writer version false).Inv ∧
      Forward s (s.commitWebhook writer version false) := by
  obtain ⟨horders, hstale, hupserted⟩ := h.appendOrders hversion
  obtain ⟨newer, hmem, hlt⟩ := hnewer
  refine ⟨⟨h.later, h.apart, h.webhooks, h.pages, horders, fun other hother => ?_, hstale,
    hupserted, fun row _ => by simp [commitWebhook],
    ⟨fun _ _ => h.upToDate.present newer hmem, ?_, ?_⟩⟩, fun row hrow => ⟨row, hrow, le_rfl⟩⟩
  · rcases List.mem_append.1 hother with hold | hnew
    · exact List.mem_append_left _ (h.lines other hold)
    · exact List.mem_append_right _ hnew
  · intro row hrow newest hnewest
    rcases h.newest_append hversion (fun _ hother => hother) hnewest with rfl | ⟨hold, -⟩
    · exact absurd hlt (not_lt_of_ge (hnewest.2 newer (List.mem_append_left _ hmem)))
    · exact h.upToDate.data row hrow newest hold
  · intro row hrow newest hnewest
    have hstored : s.row = some row := hrow
    rcases hnewest.of_append with ⟨hle, rfl | hold⟩
    · rcases hlines with ⟨other, hother, hge⟩ | hsame
      · -- the lines that are there are of the same version
        have hle' := hnewest.2 other (List.mem_append_left _ hother)
        have hsame : other = newest := h.apart _ (h.orders _ (h.lines _ hother)) _ hversion
          (le_antisymm hle' hge)
        refine h.upToDate.lines row hrow newest ⟨hsame ▸ hother, fun b hb => ?_⟩
        exact hnewest.2 b (List.mem_append_left _ hb)
      · rw [hstored] at hsame
        exact hsame
    · exact h.upToDate.lines row hrow newest hold

theorem Inv.upsertPage (h : s.Inv) (hversion : version ∈ s.published)
    (hle : ∀ other ∈ s.orders, other.providerUpdatedAt ≤ version.providerUpdatedAt) :
    (s.upsertPage version).Inv ∧ Forward s (s.upsertPage version) := by
  obtain ⟨horders, hstale, hupserted⟩ := h.appendOrders hversion
  refine ⟨⟨h.later, h.apart, h.webhooks, h.pages, horders,
    fun other hother => List.mem_append_left _ (h.lines other hother), hstale, hupserted,
    fun row _ => by simp [OrderVersions.upsertPage], ⟨fun other _ => ⟨_, rfl⟩, ?_, ?_⟩⟩,
    h.forward hle rfl rfl⟩
  · intro row hrow newest hnewest
    obtain rfl := Option.some.inj hrow
    rcases h.newest_append hversion (fun _ hother => hother) hnewest with rfl | ⟨hold, hlt⟩
    · rfl
    · exact absurd hlt (not_lt_of_ge (hle newest hold.1))
  · intro row hrow newest hnewest
    obtain rfl := Option.some.inj hrow
    obtain ⟨old, hold⟩ := h.upToDate.present newest (h.lines newest hnewest.1)
    have hsame := h.upToDate.lines old hold newest hnewest
    rw [hold]
    exact hsame

theorem Inv.writePageLines (h : s.Inv) (writer : LineWriter)
    (others : List (List NormalizedOrderLine)) (hversion : version ∈ s.orders)
    (hnewer : ∀ other ∈ s.lines, version.providerUpdatedAt < other.providerUpdatedAt →
      other.lines = version.lines)
    (hempty : version.lines = [] → LinesOf version.lines (SyncedOrder.rows s.row)) :
    (s.writePageLines writer version others).Inv ∧
      Forward s (s.writePageLines writer version others) := by
  refine ⟨⟨h.later, h.apart, h.webhooks, h.pages, h.orders, fun other hother => ?_, h.stale,
    h.upserted, fun row hrow => ?_, ⟨fun other hother => ?_, ?_, ?_⟩⟩, fun row hrow => ?_⟩
  · rcases Ledger.mem_concat.1 hother with hold | hnew
    · exact h.lines other hold
    · exact hnew ▸ hversion
  · obtain ⟨old, hold, -⟩ := Option.map_eq_some_iff.1 hrow
    exact h.stored old hold
  · obtain ⟨row, hrow⟩ := h.upToDate.present other hother
    exact ⟨_, by rw [OrderVersions.writePageLines, hrow]; rfl⟩
  · intro row hrow newest hnewest
    obtain ⟨old, hold, rfl⟩ := Option.map_eq_some_iff.1 hrow
    exact h.upToDate.data old hold newest hnewest
  · intro row hrow newest hnewest
    obtain ⟨old, hold, rfl⟩ := Option.map_eq_some_iff.1 hrow
    rw [hold] at hempty
    have hwritten := syncOrderLines_linesOf writer (version.lines :: others) version.lines old.lines
      hempty
    rcases h.newest_append (h.orders version hversion) h.lines hnewest with rfl | ⟨hmem, hlt⟩
    · exact hwritten
    · rw [hnewer newest hmem.1 hlt]
      exact hwritten
  · exact ⟨_, congrArg (Option.map _) hrow, le_refl row.data.providerUpdatedAt⟩

theorem Inv.step (h : s.Inv) (writer : LineWriter) (action : VersionAction)
    (horder : s.InOrder action) :
    (s.step writer action).Inv ∧ Forward s (s.step writer action) := by
  have hstay : Forward s s := fun row hrow => ⟨row, hrow, le_rfl⟩
  have hplatform : s.platform ∈ s.published := List.mem_cons_self ..
  cases action with
  | change version =>
    rw [OrderVersions.step]
    split
    · exact ⟨h.change ‹_›, fun row hrow => ⟨row, hrow, le_rfl⟩⟩
    · exact ⟨h, hstay⟩
  | fetchOrder webhook =>
    rw [OrderVersions.step]
    split
    · refine ⟨h.setWebhook webhook _ (fun version hversion => ?_)
        (fun _ hphase => nomatch hphase), fun row hrow => ⟨row, hrow, le_rfl⟩⟩
      obtain rfl := Option.some.inj hversion
      exact hplatform
    · exact ⟨h, hstay⟩
  | compare webhook =>
    rw [OrderVersions.step]
    split
    · rename_i version hphase
      refine ⟨h.setWebhook webhook _ (fun other hother => ?_) fun other hother => ?_,
        fun row hrow => ⟨row, hrow, le_rfl⟩⟩
      · obtain rfl := Option.some.inj hother
        exact h.webhooks webhook version (by rw [hphase]; rfl)
      · injection hother with hsame hstale
        subst hsame
        exact h.exists_newer hstale
    · exact ⟨h, hstay⟩
  | commit webhook =>
    rw [OrderVersions.step]
    split
    · rename_i version fresh hphase
      have hversion := h.webhooks webhook version (by rw [hphase]; rfl)
      rw [InOrder, hphase] at horder
      have hcommitted : (s.commitWebhook writer version fresh).Inv ∧
          Forward s (s.commitWebhook writer version fresh) := by
        cases fresh with
        | true => exact h.commitFresh writer hversion horder
        | false =>
          exact h.commitStale writer hversion (h.stale webhook version hphase) horder
      exact ⟨hcommitted.1.setWebhook webhook .processed (fun _ hother => nomatch hother)
        (fun _ hother => nomatch hother), hcommitted.2⟩
    · exact ⟨h, hstay⟩
  | fetchPage page others =>
    rw [OrderVersions.step]
    split
    · refine ⟨h.setPage page _ (fun version hversion => ?_) (fun _ _ hphase => nomatch hphase),
        fun row hrow => ⟨row, hrow, le_rfl⟩⟩
      obtain rfl := Option.some.inj hversion
      exact hplatform
    · exact ⟨h, hstay⟩
  | upsertOrder page =>
    rw [OrderVersions.step]
    split
    · rename_i version others hphase
      have hversion := h.pages page version (by rw [hphase]; rfl)
      rw [InOrder, hphase] at horder
      obtain ⟨hupserted, hforward⟩ := h.upsertPage hversion horder
      refine ⟨hupserted.setPage page (.upserted version others) (fun other hother => ?_)
        fun other _ hother => ?_, hforward⟩
      · obtain rfl := Option.some.inj hother
        exact hversion
      · injection hother with hsame
        exact hsame ▸ List.mem_append_right _ (List.mem_singleton_self _)
    · exact ⟨h, hstay⟩
  | writeLines page =>
    rw [OrderVersions.step]
    split
    · rename_i version others hphase
      rw [InOrder, hphase] at horder
      obtain ⟨hwritten, hforward⟩ := h.writePageLines writer others
        (h.upserted page version others hphase) horder.1 horder.2
      exact ⟨hwritten.setPage page .persisted (fun _ hother => nomatch hother)
        (fun _ _ hother => nomatch hother), hforward⟩
    · exact ⟨h, hstay⟩

theorem Start.inv (h : s.Start) : s.Inv := by
  have hdistinct : (s.published.map fun version => version.providerUpdatedAt).Nodup :=
    List.pairwise_map.2 (h.increasing.imp fun hlt => hlt.ne')
  have hapart : ∀ one ∈ s.published, ∀ other ∈ s.published,
      one.providerUpdatedAt = other.providerUpdatedAt → one = other :=
    fun one hone other hother htime => List.inj_on_of_nodup_map hdistinct hone hother htime
  have hwebhooks : ∀ webhook version, (s.webhooks webhook).version = some version → False :=
    fun webhook version hversion => by
      rw [h.webhooks webhook] at hversion
      cases hversion
  have hpages : ∀ page version, (s.pages page).version = some version → False :=
    fun page version hversion => by
      rw [h.pages page] at hversion
      cases hversion
  have hlater := (List.pairwise_cons.1 h.increasing).1
  have hnone : ∀ webhook version, s.webhooks webhook = .compared version false → False :=
    fun webhook version hphase => hwebhooks webhook version (by rw [hphase]; rfl)
  have hnopage : ∀ page version others, s.pages page = .upserted version others → False :=
    fun page version others hphase => hpages page version (by rw [hphase]; rfl)
  rcases h.row with ⟨hrow, horders, hlines⟩ | ⟨version, hversion, horders, hlines, row, hrow, hsame⟩
  · refine ⟨hlater, hapart, fun w v hv => (hwebhooks w v hv).elim,
      fun p v hv => (hpages p v hv).elim, ?_, ?_, fun w v hv => (hnone w v hv).elim,
      fun p v o hv => (hnopage p v o hv).elim, ?_, ⟨?_, ?_, ?_⟩⟩
    · simp [horders]
    · simp [hlines]
    · simp [hrow]
    · simp [horders]
    · simp [hrow]
    · simp [hrow]
  · refine ⟨hlater, hapart, fun w v hv => (hwebhooks w v hv).elim,
      fun p v hv => (hpages p v hv).elim, ?_, ?_, fun w v hv => (hnone w v hv).elim,
      fun p v o hv => (hnopage p v o hv).elim, ?_, ⟨fun _ _ => ⟨row, hrow⟩, ?_, ?_⟩⟩
    · simp [horders, hversion]
    · simp [horders, hlines]
    · simp [horders]
    · intro other hother newest hnewest
      obtain rfl := Option.some.inj (hrow.symm.trans hother)
      have hmem := hnewest.1
      rw [horders, List.mem_singleton] at hmem
      rw [hmem]
      exact hsame.1
    · intro other hother newest hnewest
      obtain rfl := Option.some.inj (hrow.symm.trans hother)
      have hmem := hnewest.1
      rw [hlines, List.mem_singleton] at hmem
      rw [hmem]
      exact hsame.2

end OrderVersions

/-- **When a stored order never goes back in time.** -/
theorem orderVersions (writer : LineWriter) {s : OrderVersions} (hstart : s.Start)
    {actions : List VersionAction}
    (h : Machine.Along (OrderVersions.step writer) OrderVersions.InOrder s actions) :
    Machine.Along (OrderVersions.step writer)
      (fun s action => OrderVersions.Forward s (s.step writer action) ∧
        (s.step writer action).UpToDate) s actions :=
  h.of_keeps (I := OrderVersions.Inv) (fun _ action hs horder => (hs.step writer action horder).1)
    (fun _ action hs horder => ⟨(hs.step writer action horder).2,
      (hs.step writer action horder).1.upToDate⟩) hstart.inv

def placedVersion : NormalizedEcommerceOrder :=
  { externalOrderId := "1001", providerUpdatedAt := 1 }

def cancelledVersion : NormalizedEcommerceOrder :=
  { externalOrderId := "1001", status := .cancelled, providerUpdatedAt := 2 }

def placedOrder : OrderVersions := { platform := placedVersion }

def plainWriter : LineWriter where
  lower := lowerAscii
  created := { id := id, createdAt := 0 }
  catalogue := []

/-- A page is fetched; the order is cancelled, and a webhook tells; the page is persisted. -/
def overtakenPage : List VersionAction :=
  [.fetchPage 0 [], .change cancelledVersion, .fetchOrder 0, .compare 0, .commit 0, .upsertOrder 0]

/-- The cancelled order is open again. -/
theorem orderVersions_overtaken :
    placedOrder.Start ∧
      ¬ Machine.Along (OrderVersions.step plainWriter)
        (fun s action => OrderVersions.Forward s (s.step plainWriter action) ∧
          (s.step plainWriter action).UpToDate) placedOrder overtakenPage := by
  refine ⟨⟨List.pairwise_singleton _ _, fun _ => rfl, fun _ => rfl, Or.inl ⟨rfl, rfl, rfl⟩⟩, ?_⟩
  rintro ⟨-, -, -, -, -, ⟨hforward, -⟩, -⟩
  obtain ⟨row, hrow, hle⟩ := hforward _ rfl
  obtain rfl := Option.some.inj hrow
  exact absurd hle (by decide)

/-- The page is persisted before the webhook commits. -/
theorem orderVersions_page_first :
    Machine.Along (OrderVersions.step plainWriter)
      (fun s action => OrderVersions.Forward s (s.step plainWriter action) ∧
        (s.step plainWriter action).UpToDate) placedOrder
      [.fetchPage 0 [], .change cancelledVersion, .upsertOrder 0, .fetchOrder 0, .compare 0,
        .commit 0] :=
  orderVersions plainWriter
    ⟨List.pairwise_singleton _ _, fun _ => rfl, fun _ => rfl, Or.inl ⟨rfl, rfl, rfl⟩⟩
    ⟨trivial, trivial, (fun _ hother => absurd hother List.not_mem_nil), trivial, trivial,
      (fun other hother => by
        obtain rfl : other = placedVersion := List.mem_singleton.1 hother
        decide), trivial⟩

end Zomaal
