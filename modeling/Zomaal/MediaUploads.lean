/-
**Uploads, from their storage to the release of their owner.**

An upload is an object in storage and a row that says what it is attached to.  Temporary uploads are
removed on request and when they have expired; released ones by the call that released them.
Transactions and single requests to database and storage are the atomic steps.  This module embeds
`uploadForStore`, `removeTemporary`, `deleteAttachedAsset` and `cleanupExpired` of
`media.service.ts`, `attachMedia` and the `detach` of `applyContentEdit` in `product.service.ts`,
and `create`, `update` and `remove` of `expenses.service.ts` as far as receipts go.

Main results:

* `MediaUploads.WellFormed.dropObject`, `MediaUploads.WellFormed.dropRows` — **what may be
  deleted**.
-/

import Mathlib.Data.List.Sort
import Mathlib.Order.Nat
import Zomaal.KeyedRows
import Zomaal.MachineRun
import Zomaal.ThreadPool

set_option autoImplicit false

namespace Zomaal.MediaUploads

/-! ### Rows -/

inductive MediaAssetPurpose
  | productMain
  | productGallery
  | variant
  | receipt
  | packaging
  deriving DecidableEq

inductive Target
  | product (id : String)
  | variant (id : String)
  deriving DecidableEq

/-- `productId`, `variantId` or `expenseId`. -/
inductive Owner
  | target (target : Target)
  | expense (id : String)
  deriving DecidableEq

/-- The row of an upload; its object's name is made from its id. -/
structure MediaAsset where
  id : String
  purpose : MediaAssetPurpose
  /-- Its status is `TEMPORARY`, not `ATTACHED`. -/
  temporary : Bool := true
  expiresAt : Option ℤ
  owner : Option Owner := none

/-- An expense; a salary payment or a purchase may have generated it. -/
structure ExpenseRow where
  id : String
  receiptUrl : Option String
  generated : Bool := false

/-- Rows, and the uploads whose objects are stored. The last three fields say what has happened: the
ids that were drawn, those ever inserted, and which owner holds which upload. -/
structure Media where
  assets : List MediaAsset := []
  objects : List String := []
  expenses : List ExpenseRow := []
  clock : ℤ := 0
  named : List String := []
  inserted : List String := []
  held : List (String × Owner) := []

/-- What `@IsUrl` takes: it requires a protocol. -/
structure Environment where
  isUrl : String → Bool
  protocol : ∀ text, isUrl text = true →
    ∃ rest, text = "http://" ++ rest ∨ text = "https://" ++ rest

def receiptPreviewPath (assetId : String) : String := "/expenses/receipts/" ++ assetId

/-! ### Attaching and releasing -/

/-- `where: { status: TEMPORARY, expiresAt: { gt: now } }`. -/
def MediaAsset.unexpired (now : ℤ) (asset : MediaAsset) : Bool :=
  asset.temporary && asset.expiresAt.any fun expiresAt => now < expiresAt

def MediaAsset.attachable (now : ℤ) (id : String) (purpose : MediaAssetPurpose)
    (asset : MediaAsset) : Bool :=
  asset.id = id && asset.purpose = purpose && asset.unexpired now

/-- `where: { status: TEMPORARY, expiresAt: { lte: now } }`. -/
def MediaAsset.expired (now : ℤ) (asset : MediaAsset) : Bool :=
  asset.temporary && asset.expiresAt.any fun expiresAt => expiresAt ≤ now

/-- `attachMedia` and `attachReceipt`. -/
def Media.attach (m : Media) (id : String) (purpose : MediaAssetPurpose) (owner : Owner) :
    Option Media :=
  if m.assets.any (·.attachable m.clock id purpose) then
    some
      { m with
        assets := m.assets.map fun asset =>
          if asset.attachable m.clock id purpose then
            { asset with temporary := false, expiresAt := none, owner := some owner }
          else asset
        held := m.held ++ [(id, owner)] }
  else none

/-- The references that `detach` sets to null. -/
def Owner.detached : Option Owner → Option Owner
  | some (.expense id) => some (.expense id)
  | _ => none

/-- `detach`, for a target whose uploads are replaced. -/
def Media.detach (m : Media) (target : Target) (ids : List String) : Media :=
  { m with
    assets := m.assets.map fun asset =>
      if asset.id ∈ ids then
        { asset with
          temporary := true, expiresAt := some m.clock, owner := Owner.detached asset.owner }
      else asset
    held := m.held.filter fun entry => !(entry.2 = .target target && decide (entry.1 ∈ ids)) }

/-- The upload of an expense is detached, or the expense removed: the reference becomes null. -/
def Media.detachReceipt (m : Media) (expenseId : String) : Media :=
  { m with
    assets := m.assets.map fun asset =>
      if asset.owner = some (.expense expenseId) then { asset with owner := none } else asset
    held := m.held.filter fun entry => entry.2 ≠ .expense expenseId }

def Media.receiptOf (m : Media) (expenseId : String) : Option String :=
  (m.assets.find? fun asset => asset.owner = some (.expense expenseId)).map MediaAsset.id

/-! ### Transactions -/

/-- An image of a product or a variant, which replaces those of its purpose or is one more. -/
structure ImageEdit where
  target : Target
  purpose : MediaAssetPurpose
  assetId : String
  replaces : Bool := false

def Media.currentOf (m : Media) (edit : ImageEdit) : List String :=
  if edit.replaces then
    (m.assets.filter fun asset =>
      asset.owner = some (.target edit.target) ∧ asset.purpose = edit.purpose).map MediaAsset.id
  else []

def Media.applyEdit (m : Media) (edit : ImageEdit × List String) : Option Media :=
  (m.detach edit.1.target edit.2).attach edit.1.assetId edit.1.purpose (.target edit.1.target)

def Media.applyEdits (m : Media) (edits : List (ImageEdit × List String)) : Option Media :=
  edits.foldlM Media.applyEdit m

/-- What an update says of the receipt; a field that is absent is `none`. -/
structure ReceiptUpdate where
  receiptUrl : Option (Option String) := none
  receiptAssetId : Option String := none

def ReceiptUpdate.valid (env : Environment) (dto : ReceiptUpdate) : Bool :=
  match dto.receiptUrl with
  | some (some url) => env.isUrl url
  | _ => true

def ReceiptUpdate.stored (dto : ReceiptUpdate) (before : Option String) : Option String :=
  match dto.receiptAssetId with
  | some assetId => some (receiptPreviewPath assetId)
  | none => dto.receiptUrl.getD before

def Media.createExpense (m : Media) (id : String) (dto : ReceiptUpdate) : Option Media :=
  if m.expenses.any (·.id = id) then none
  else
    let m := { m with expenses := m.expenses ++ [{ id, receiptUrl := dto.stored none }] }
    match dto.receiptAssetId with
    | some assetId => m.attach assetId .receipt (.expense id)
    | none => some m

/-- `receiptAssetId !== undefined && receiptAssetId !== currentReceipt?.id`. -/
def Media.replaces (m : Media) (id : String) (dto : ReceiptUpdate) : Bool :=
  dto.receiptAssetId.any fun assetId => m.receiptOf id ≠ some assetId

def Media.detaches (m : Media) (id : String) (dto : ReceiptUpdate) : Bool :=
  m.replaces id dto || dto.receiptAssetId.isNone && dto.receiptUrl.isSome

def ExpenseRow.update (id : String) (dto : ReceiptUpdate) (expense : ExpenseRow) : ExpenseRow :=
  if expense.id = id then { expense with receiptUrl := dto.stored expense.receiptUrl } else expense

def Media.replaceReceipt (m : Media) (id : String) (dto : ReceiptUpdate) : Option Media :=
  let after := if m.detaches id dto then m.detachReceipt id else m
  match dto.receiptAssetId with
  | some assetId =>
    if m.replaces id dto then after.attach assetId .receipt (.expense id) else some after
  | none => some after

def Media.updateExpense (m : Media) (id : String) (dto : ReceiptUpdate) :
    Option (Media × Option String) :=
  if m.expenses.any fun expense => expense.id = id && !expense.generated then
    (m.replaceReceipt id dto).map fun after =>
      ({ after with expenses := after.expenses.map (ExpenseRow.update id dto) },
        if m.detaches id dto then m.receiptOf id else none)
  else none

def Media.removeExpense (m : Media) (id : String) : Option (Media × Option String) :=
  if m.expenses.any fun expense => expense.id = id && !expense.generated then
    let after := m.detachReceipt id
    some ({ after with expenses := after.expenses.filter fun expense => expense.id ≠ id },
      m.receiptOf id)
  else none

/-! ### Calls -/

inductive Phase
  /-- `uploadForStore`: the id is drawn, the object saved, the row created; or the object deleted.
  -/
  | naming (purpose : MediaAssetPurpose)
  | saving (id : String) (purpose : MediaAssetPurpose)
  | inserting (id : String) (purpose : MediaAssetPurpose)
  | discarding (id : String)
  /-- `removeTemporary`: the row is read, the object deleted, the row deleted. -/
  | checking (id : String)
  | removingObject (id : String)
  | removingRow (id : String)
  /-- `cleanupExpired`: the rows are found; each is deleted, then its object. -/
  | finding (limit : ℕ)
  | sweeping (ids : List String)
  | sweepingObject (id : String) (ids : List String)
  /-- A product is created or edited: it is read, then the transaction. -/
  | readingProduct (edits : List ImageEdit)
  | editing (edits : List (ImageEdit × List String))
  | creating (id : String) (dto : ReceiptUpdate)
  | updating (id : String) (dto : ReceiptUpdate)
  | removing (id : String)
  /-- `deleteAttachedAsset`, for each: the row is read, the object deleted, the row deleted. -/
  | releasing (ids : List String)
  | releasingObject (id : String) (ids : List String)
  | releasingRow (id : String) (ids : List String)
  | ended

/-- `24 * 60 * 60 * 1000`. -/
def temporaryUploadTtlMs : ℤ := 86400000

def Media.dropObject (m : Media) (id : String) : Media :=
  { m with objects := m.objects.filter fun other => other ≠ id }

def Media.dropRows (m : Media) (p : MediaAsset → Bool) : Media :=
  { m with assets := m.assets.filter fun asset => !p asset }

def Media.expiredIds (m : Media) (limit : ℕ) : List String :=
  (((m.assets.filter (·.expired m.clock)).insertionSort fun asset other =>
    asset.expiresAt.getD 0 ≤ other.expiresAt.getD 0).take (min (max limit 1) 100)).map MediaAsset.id

def Phase.run (uuid : String) (m : Media) : Phase → Media × Phase
  | .naming purpose =>
    if uuid ∈ m.named then (m, .naming purpose)
    else ({ m with named := m.named ++ [uuid] }, .saving uuid purpose)
  | .saving id purpose => ({ m with objects := m.objects ++ [id] }, .inserting id purpose)
  | .inserting id purpose =>
    ({ m with
        assets :=
          m.assets ++ [{ id, purpose, expiresAt := some (m.clock + temporaryUploadTtlMs) }]
        inserted := m.inserted ++ [id] },
      .ended)
  | .discarding id => (m.dropObject id, .ended)
  | .checking id =>
    (m, if m.assets.any fun asset => asset.id = id && asset.temporary then .removingObject id
      else .ended)
  | .removingObject id => (m.dropObject id, .removingRow id)
  | .removingRow id => (m.dropRows (·.id = id), .ended)
  | .finding limit => (m, .sweeping (m.expiredIds limit))
  | .sweeping [] => (m, .ended)
  | .sweeping (id :: ids) =>
    if m.assets.any fun asset => asset.id = id && asset.expired m.clock then
      (m.dropRows fun asset => asset.id = id && asset.expired m.clock, .sweepingObject id ids)
    else (m, .sweeping ids)
  | .sweepingObject id ids => (m.dropObject id, .sweeping ids)
  | .readingProduct edits => (m, .editing (edits.map fun edit => (edit, m.currentOf edit)))
  | .editing edits =>
    match m.applyEdits edits with
    | some after => (after, .releasing (edits.flatMap Prod.snd))
    | none => (m, .ended)
  | .creating id dto =>
    match m.createExpense id dto with
    | some after => (after, .ended)
    | none => (m, .ended)
  | .updating id dto =>
    match m.updateExpense id dto with
    | some (after, released) => (after, .releasing released.toList)
    | none => (m, .ended)
  | .removing id =>
    match m.removeExpense id with
    | some (after, released) => (after, .releasing released.toList)
    | none => (m, .ended)
  | .releasing [] => (m, .ended)
  | .releasing (id :: ids) =>
    (m, if m.assets.any (·.id = id) then .releasingObject id ids else .releasing ids)
  | .releasingObject id ids => (m.dropObject id, .releasingRow id ids)
  | .releasingRow id ids => (m.dropRows (·.id = id), .releasing ids)
  | .ended => (m, .ended)

/-- **The next step of a call, when it fails.** The object of an upload whose row was not created is
deleted, and errors of deleting a released object are caught. -/
def Phase.fail : Phase → Phase
  | .inserting id _ => .discarding id
  | .releasingObject id ids => .releasingRow id ids
  | .releasingRow _ ids => .releasing ids
  | _ => .ended

def Phase.turn (uuid : String) (failure : Bool) (m : Media) (phase : Phase) : Media × Phase :=
  if failure then (m, phase.fail) else phase.run uuid m

/-! ### What is invariant of the rows -/

structure MediaAsset.Dead (clock : ℤ) (asset : MediaAsset) : Prop where
  owner : asset.owner = none
  expired : asset.temporary = true → ∃ expiresAt, asset.expiresAt = some expiresAt ∧
    expiresAt ≤ clock

/-- What is invariant of the uploads: what an owner holds is there, and belongs to it. -/
structure Kept (m : Media) : Prop where
  ids : (m.assets.map MediaAsset.id).Nodup
  inserted : ∀ asset ∈ m.assets, asset.id ∈ m.inserted
  named : ∀ id ∈ m.inserted, id ∈ m.named
  free : ∀ asset ∈ m.assets, asset.temporary = true → asset.owner = none
  owned : ∀ asset ∈ m.assets, ∀ owner, asset.owner = some owner → (asset.id, owner) ∈ m.held
  held : ∀ entry ∈ m.held, entry.1 ∈ m.objects ∧
    ∃ asset ∈ m.assets, asset.id = entry.1 ∧ asset.owner = some entry.2

/-- **What is invariant of the rows**: besides, what an expense shows as its receipt, it holds. -/
structure WellFormed (m : Media) : Prop extends Kept m where
  receipts : ∀ expense ∈ m.expenses, ∀ assetId,
    expense.receiptUrl = some (receiptPreviewPath assetId) → (assetId, .expense expense.id) ∈ m.held

/-- The upload was inserted, and no call can attach it any more. -/
def Media.Dead (m : Media) (id : String) : Prop :=
  id ∈ m.inserted ∧ ∀ asset ∈ m.assets, asset.id = id → asset.Dead m.clock

def Media.BelongsTo (m : Media) (owner : Owner) (id : String) : Prop :=
  id ∈ m.inserted ∧ ∀ asset ∈ m.assets, asset.id = id →
    asset.owner = some owner ∨ asset.Dead m.clock

/-- **What no step undoes**: where only the given ids are new. -/
structure Later (added : List String) (m m' : Media) : Prop where
  clock : m.clock ≤ m'.clock
  named : ∀ id ∈ m.named, id ∈ m'.named
  inserted : ∀ id ∈ m.inserted, id ∈ m'.inserted
  new : ∀ id ∈ m'.inserted, id ∈ m.inserted ∨ id ∈ added
  objects : ∀ id ∈ m.inserted, id ∈ m'.objects → id ∈ m.objects
  rows : ∀ asset' ∈ m'.assets, asset'.id ∈ m.inserted → ∃ asset ∈ m.assets, asset.id = asset'.id ∧
    (asset.Dead m.clock → asset'.Dead m'.clock) ∧
    ∀ owner, asset.owner = some owner → asset'.owner = some owner ∨ asset'.Dead m'.clock

variable {m m' : Media}

variable {asset : MediaAsset} {clock : ℤ}

theorem MediaAsset.Dead.not_unexpired (h : asset.Dead clock) : asset.unexpired clock = false := by
  by_contra hunexpired
  rw [Bool.not_eq_false, unexpired, Bool.and_eq_true] at hunexpired
  obtain ⟨htemporary, hlater⟩ := hunexpired
  obtain ⟨expiresAt, hexpires, hle⟩ := h.expired htemporary
  rw [hexpires, Option.any_some, decide_eq_true_eq] at hlater
  exact absurd hle (Int.not_le.2 hlater)

variable {id : String} {purpose : MediaAssetPurpose}

theorem MediaAsset.unexpired_of_attachable (h : asset.attachable clock id purpose = true) :
    asset.id = id ∧ asset.unexpired clock = true := by
  rw [attachable, Bool.and_eq_true, Bool.and_eq_true, decide_eq_true_eq] at h
  exact ⟨h.1.1, h.2⟩

theorem MediaAsset.temporary_of_attachable (h : asset.attachable clock id purpose = true) :
    asset.temporary = true :=
  (Bool.and_eq_true_iff.1 (unexpired_of_attachable h).2).1

theorem Later.refl (m : Media) (added : List String) : Later added m m :=
  ⟨le_rfl, fun _ h => h, fun _ h => h, fun _ h => .inl h, fun _ _ h => h,
    fun asset h _ => ⟨asset, h, rfl, fun hdead => hdead, fun _ howner => .inl howner⟩⟩

theorem Media.Dead.later {added : List String} (h : m.Dead id) (hlater : Later added m m') :
    m'.Dead id := by
  refine ⟨hlater.inserted id h.1, fun asset' hasset' hid => ?_⟩
  obtain ⟨asset, hasset, hsame, hdead, -⟩ := hlater.rows asset' hasset' (hid ▸ h.1)
  exact hdead (h.2 asset hasset (hsame.trans hid))

theorem Media.BelongsTo.later {added : List String} {owner : Owner} (h : m.BelongsTo owner id)
    (hlater : Later added m m') : m'.BelongsTo owner id := by
  refine ⟨hlater.inserted id h.1, fun asset' hasset' hid => ?_⟩
  obtain ⟨asset, hasset, hsame, hdead, howner⟩ := hlater.rows asset' hasset' (hid ▸ h.1)
  rcases h.2 asset hasset (hsame.trans hid) with hown | hgone
  · exact howner owner hown
  · exact .inr (hdead hgone)

theorem Kept.not_held (hwell : Kept m) (h : m.Dead id) (owner : Owner) : (id, owner) ∉ m.held := by
  intro hheld
  obtain ⟨-, asset, hasset, hid, howner⟩ := hwell.held _ hheld
  rw [(h.2 asset hasset hid).owner] at howner
  cases howner

/-! ### Deleting -/

/-- **An object may be deleted** if nobody holds the upload. -/
theorem WellFormed.dropObject (h : WellFormed m) (hfree : ∀ owner, (id, owner) ∉ m.held) :
    WellFormed (m.dropObject id) :=
  { h with
    held := fun entry hentry => by
      obtain ⟨hobject, hrow⟩ := h.held entry hentry
      refine ⟨List.mem_filter.2 ⟨hobject, decide_eq_true fun hid => ?_⟩, hrow⟩
      exact hfree entry.2 (hid ▸ hentry) }

theorem later_dropObject (m : Media) (id : String) (added : List String) :
    Later added m (m.dropObject id) :=
  { Later.refl m added with objects := fun _ _ hobject => (List.mem_filter.1 hobject).1 }

/-- **Rows may be deleted** if they have no owner. -/
theorem WellFormed.dropRows (h : WellFormed m) {p : MediaAsset → Bool}
    (hfree : ∀ asset ∈ m.assets, p asset = true → asset.owner = none) :
    WellFormed (m.dropRows p) :=
  { h with
    ids := h.ids.sublist (List.filter_sublist.map _)
    inserted := fun asset hasset => h.inserted asset (List.mem_filter.1 hasset).1
    free := fun asset hasset => h.free asset (List.mem_filter.1 hasset).1
    owned := fun asset hasset => h.owned asset (List.mem_filter.1 hasset).1
    held := fun entry hentry => by
      obtain ⟨hobject, asset, hasset, hid, howner⟩ := h.held entry hentry
      refine ⟨hobject, asset, List.mem_filter.2 ⟨hasset, ?_⟩, hid, howner⟩
      rw [Bool.not_eq_true']
      by_contra hp
      rw [Bool.not_eq_false] at hp
      rw [hfree asset hasset hp] at howner
      cases howner }

theorem later_dropRows (m : Media) (p : MediaAsset → Bool) (added : List String) :
    Later added m (m.dropRows p) :=
  { Later.refl m added with
    rows := fun asset hasset _ => ⟨asset, (List.mem_filter.1 hasset).1, rfl, fun hdead => hdead,
      fun _ howner => .inl howner⟩ }

/-! ### Attaching -/

def Media.stored (m : Media) (id : String) : Bool :=
  m.assets.all fun asset =>
    !(decide (asset.id = id) && asset.unexpired m.clock) || decide (id ∈ m.objects)

theorem Media.mem_objects_of_stored (h : m.stored id = true) (hasset : asset ∈ m.assets)
    (hid : asset.id = id) (hunexpired : asset.unexpired m.clock = true) : id ∈ m.objects := by
  have hrow := List.all_eq_true.1 h asset hasset
  rw [hunexpired, decide_eq_true hid] at hrow
  exact of_decide_eq_true hrow

theorem Media.stored_of_subset (h : m.stored id = true)
    (hrows : ∀ asset ∈ m'.assets, asset.unexpired m'.clock = true →
      asset ∈ m.assets ∧ asset.unexpired m.clock = true) (hobjects : m'.objects = m.objects) :
    m'.stored id = true := by
  refine List.all_eq_true.2 fun asset hasset => ?_
  cases hunexpired : asset.unexpired m'.clock with
  | false => rw [Bool.and_false]; rfl
  | true =>
    obtain ⟨hbefore, hstill⟩ := hrows asset hasset hunexpired
    by_cases hid : asset.id = id
    · rw [hobjects, decide_eq_true (Media.mem_objects_of_stored h hbefore hid hstill),
        Bool.or_true]
    · rw [decide_eq_false hid]
      rfl

theorem Kept.attach (h : Kept m) {owner : Owner} (hstored : m.stored id = true)
    (hattach : m.attach id purpose owner = some m') :
    Kept m' ∧ (∀ added, Later added m m') ∧ m'.expenses = m.expenses ∧
      m'.held = m.held ++ [(id, owner)] ∧
      ∀ other, m.stored other = true → m'.stored other = true := by
  rw [Media.attach] at hattach
  split at hattach
  · rename_i hany
    obtain rfl := Option.some.inj hattach
    obtain ⟨found, hfound, hattachable⟩ := List.any_eq_true.1 hany
    obtain ⟨hfoundId, hunexpired⟩ := MediaAsset.unexpired_of_attachable hattachable
    have hobject := Media.mem_objects_of_stored hstored hfound hfoundId hunexpired
    refine ⟨?_, fun added => ?_, rfl, rfl, fun other hother => ?_⟩
    · constructor
      case ids =>
        rw [List.map_map]
        refine Eq.subst (motive := List.Nodup) (List.map_congr_left fun asset _ => ?_) h.ids
        rw [Function.comp_apply]
        split <;> rfl
      case inserted =>
        intro asset hasset
        obtain ⟨before, hbefore, rfl⟩ := List.mem_map.1 hasset
        split <;> exact h.inserted before hbefore
      case named => exact h.named
      case free =>
        intro asset hasset hstill
        obtain ⟨before, hbefore, rfl⟩ := List.mem_map.1 hasset
        split at hstill
        · cases hstill
        · rename_i hnot
          rw [if_neg hnot]
          exact h.free before hbefore hstill
      case owned =>
        intro asset hasset other hother
        obtain ⟨before, hbefore, rfl⟩ := List.mem_map.1 hasset
        split at hother
        · rename_i hnew
          obtain rfl : owner = other := Option.some.inj hother
          rw [if_pos hnew]
          refine List.mem_append_right _ (List.mem_singleton.2 ?_)
          exact congrArg (·, owner) (MediaAsset.unexpired_of_attachable hnew).1
        · rename_i hold
          rw [if_neg hold]
          exact List.mem_append_left _ (h.owned before hbefore other hother)
      case held =>
        intro entry hentry
        rcases Ledger.mem_concat.1 hentry with hold | rfl
        · obtain ⟨hobject, asset, hasset, hid, howner⟩ := h.held entry hold
          refine ⟨hobject, asset, List.mem_map.2 ⟨asset, hasset, if_neg fun hattach => ?_⟩, hid,
            howner⟩
          rw [h.free asset hasset (MediaAsset.temporary_of_attachable hattach)] at howner
          cases howner
        · exact ⟨hobject, _, List.mem_map.2 ⟨found, hfound, if_pos hattachable⟩, hfoundId, rfl⟩
    · refine { Later.refl m added with rows := fun asset hasset _ => ?_ }
      obtain ⟨before, hbefore, rfl⟩ := List.mem_map.1 hasset
      split
      · rename_i hnew
        have htemp := MediaAsset.temporary_of_attachable hnew
        refine ⟨before, hbefore, rfl, fun hdead => ?_, fun other hother => ?_⟩
        · cases hdead.not_unexpired.symm.trans (MediaAsset.unexpired_of_attachable hnew).2
        · rw [h.free before hbefore htemp] at hother
          cases hother
      · exact ⟨before, hbefore, rfl, fun hdead => hdead, fun _ howner => .inl howner⟩
    · refine Media.stored_of_subset hother (fun asset hasset hstill => ?_) rfl
      obtain ⟨before, hbefore, rfl⟩ := List.mem_map.1 hasset
      split at hstill
      · cases hstill
      · rename_i hnot
        rw [if_neg hnot]
        exact ⟨hbefore, hstill⟩
  · cases hattach

/-! ### Releasing -/

theorem Kept.release (h : Kept m) {p : MediaAsset → Prop} [DecidablePred p]
    {change : MediaAsset → MediaAsset} {keep : String × Owner → Bool}
    (hid : ∀ asset, (change asset).id = asset.id)
    (hdead : ∀ asset ∈ m.assets, p asset → (change asset).Dead m.clock)
    (howned : ∀ asset ∈ m.assets, ¬ p asset → ∀ owner, asset.owner = some owner →
      keep (asset.id, owner) = true)
    (hheld : ∀ asset ∈ m.assets, ∀ owner, asset.owner = some owner →
      keep (asset.id, owner) = true → ¬ p asset)
    (hm' : m' =
      { m with
        assets := m.assets.map fun asset => if p asset then change asset else asset
        held := m.held.filter keep }) :
    Kept m' ∧ (∀ added, Later added m m') ∧
      (∀ asset ∈ m'.assets, ∃ before ∈ m.assets, before.id = asset.id ∧
        (p before → asset.Dead m.clock)) ∧
      ∀ other, m.stored other = true → m'.stored other = true := by
  subst hm'
  refine ⟨?_, fun added => ?_, fun asset hasset => ?_,
    fun other hother => Media.stored_of_subset hother (fun asset hasset hstill => ?_) rfl⟩
  · constructor
    case ids =>
      rw [List.map_map]
      refine Eq.subst (motive := List.Nodup) (List.map_congr_left fun asset _ => ?_) h.ids
      rw [Function.comp_apply]
      split
      · exact (hid asset).symm
      · rfl
    case inserted =>
      intro asset hasset
      obtain ⟨before, hbefore, rfl⟩ := List.mem_map.1 hasset
      split
      · rw [hid]
        exact h.inserted before hbefore
      · exact h.inserted before hbefore
    case named => exact h.named
    case free =>
      intro asset hasset hstill
      obtain ⟨before, hbefore, rfl⟩ := List.mem_map.1 hasset
      split at hstill
      · rename_i hp
        rw [if_pos hp]
        exact (hdead before hbefore hp).owner
      · rename_i hnot
        rw [if_neg hnot]
        exact h.free before hbefore hstill
    case owned =>
      intro asset hasset other hother
      obtain ⟨before, hbefore, rfl⟩ := List.mem_map.1 hasset
      split at hother
      · rename_i hp
        rw [(hdead before hbefore hp).owner] at hother
        cases hother
      · rename_i hnot
        rw [if_neg hnot]
        exact List.mem_filter.2 ⟨h.owned before hbefore other hother,
          howned before hbefore hnot other hother⟩
    case held =>
      intro entry hentry
      obtain ⟨hmem, hkept⟩ := List.mem_filter.1 hentry
      obtain ⟨hobject, asset, hasset, hsame, howner⟩ := h.held entry hmem
      have hnot := hheld asset hasset entry.2 howner (by rw [hsame]; exact hkept)
      exact ⟨hobject, asset, List.mem_map.2 ⟨asset, hasset, if_neg hnot⟩, hsame, howner⟩
  · refine { Later.refl m added with rows := fun asset hasset _ => ?_ }
    obtain ⟨before, hbefore, rfl⟩ := List.mem_map.1 hasset
    split
    · rename_i hp
      exact ⟨before, hbefore, (hid before).symm, fun _ => hdead before hbefore hp,
        fun _ _ => .inr (hdead before hbefore hp)⟩
    · exact ⟨before, hbefore, rfl, fun hgone => hgone, fun _ howner => .inl howner⟩
  · obtain ⟨before, hbefore, rfl⟩ := List.mem_map.1 hasset
    refine ⟨before, hbefore, ?_, fun hp => ?_⟩
    · split
      · exact (hid before).symm
      · rfl
    · rw [if_pos hp]
      exact hdead before hbefore hp
  · obtain ⟨before, hbefore, rfl⟩ := List.mem_map.1 hasset
    split at hstill
    · rename_i hp
      cases (hdead before hbefore hp).not_unexpired.symm.trans hstill
    · rename_i hnot
      rw [if_neg hnot]
      exact ⟨hbefore, hstill⟩

theorem Kept.detach (h : Kept m) {target : Target} {ids : List String}
    (hown : ∀ id ∈ ids, m.BelongsTo (.target target) id) :
    Kept (m.detach target ids) ∧ (∀ added, Later added m (m.detach target ids)) ∧
      (∀ id ∈ ids, (m.detach target ids).Dead id) ∧
      ∀ other, m.stored other = true → (m.detach target ids).stored other = true := by
  -- a row that is detached has no owner left
  have hnone : ∀ asset ∈ m.assets, asset.id ∈ ids → Owner.detached asset.owner = none := by
    intro asset hasset hid
    rcases (hown asset.id hid).2 asset hasset rfl with howner | hdead
    · rw [howner]
      rfl
    · rw [hdead.owner]
      rfl
  have hheld : ∀ asset ∈ m.assets, ∀ owner, asset.owner = some owner →
      (!(owner = .target target && decide (asset.id ∈ ids))) = true → asset.id ∉ ids := by
    intro asset hasset owner howner hkeep hin
    rcases (hown asset.id hin).2 asset hasset rfl with hsame | hgone
    · obtain rfl := Option.some.inj (howner.symm.trans hsame)
      simp [hin] at hkeep
    · rw [hgone.owner] at howner
      cases howner
  obtain ⟨hkept, hlater, hrows, hstored⟩ := @Kept.release m (m.detach target ids) h
    (fun asset => asset.id ∈ ids) _
    (fun asset =>
      { asset with
        temporary := true, expiresAt := some m.clock, owner := Owner.detached asset.owner })
    (fun entry => !(entry.2 = .target target && decide (entry.1 ∈ ids))) (fun _ => rfl)
    (fun asset hasset hid => ⟨hnone asset hasset hid, fun _ => ⟨m.clock, rfl, le_rfl⟩⟩)
    (fun asset hasset hnot owner howner => by simp [hnot]) hheld rfl
  refine ⟨hkept, hlater, fun id hid => ⟨(hown id hid).1, fun asset hasset hsame => ?_⟩, hstored⟩
  obtain ⟨before, hbefore, heq, hdead⟩ := hrows asset hasset
  exact hdead (by rwa [heq, hsame])

theorem Kept.detachReceipt (h : Kept m) (expenseId : String) :
    Kept (m.detachReceipt expenseId) ∧ (∀ added, Later added m (m.detachReceipt expenseId)) ∧
      (∀ id, m.receiptOf expenseId = some id → (m.detachReceipt expenseId).Dead id) ∧
      ∀ other, m.stored other = true → (m.detachReceipt expenseId).stored other = true := by
  have hattached : ∀ asset ∈ m.assets, asset.owner = some (.expense expenseId) →
      asset.temporary = false := by
    intro asset hasset howner
    by_contra htemporary
    rw [Bool.not_eq_false] at htemporary
    rw [h.free asset hasset htemporary] at howner
    cases howner
  obtain ⟨hkept, hlater, hrows, hstored⟩ := @Kept.release m (m.detachReceipt expenseId) h
    (fun asset => asset.owner = some (.expense expenseId)) _
    (fun asset => { asset with owner := none })
    (fun entry => entry.2 ≠ .expense expenseId) (fun _ => rfl)
    (fun asset hasset howner =>
      ⟨rfl, fun htemporary => nomatch (hattached asset hasset howner).symm.trans htemporary⟩)
    (fun asset hasset hnot owner howner => decide_eq_true fun hsame =>
      hnot (howner.trans (congrArg some hsame)))
    (fun asset hasset owner howner hkeep hsame =>
      of_decide_eq_true hkeep (Option.some.inj (howner.symm.trans hsame))) rfl
  refine ⟨hkept, hlater, fun id hid => ?_, hstored⟩
  obtain ⟨found, hfind, rfl⟩ := Option.map_eq_some_iff.1 hid
  have hfound := List.mem_of_find?_eq_some hfind
  have howner : found.owner = some (.expense expenseId) := by simpa using List.find?_some hfind
  refine ⟨h.inserted found hfound, fun asset hasset hsame => ?_⟩
  obtain ⟨before, hbefore, heq, hdead⟩ := hrows asset hasset
  have hone : before = found :=
    List.inj_on_of_nodup_map h.ids hbefore hfound (heq.trans hsame)
  exact hdead (hone ▸ howner)

end Zomaal.MediaUploads
