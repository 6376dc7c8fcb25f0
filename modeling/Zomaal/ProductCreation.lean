/-
**Retried product creations.**

A create call with a key looks for a product with the key, does its checks, creates the product in a
transaction, and then, statement by statement, links the order lines that were waiting for one of
its SKUs.  A retry that finds the product answers with it, if the request is the same.  This module
embeds `create`, `createBundle`, `attachMedia` and `linkOrderLinesForProduct` of
`product.service.ts`; what the checks read is given to the step that does them.

Main results:

* `ProductCreation.WellFormed.create`, `ProductCreation.WellFormed.links` — what the statements
  keep.
-/

import Zomaal.JsText
import Zomaal.KeyedRows
import Zomaal.MachineRun
import Zomaal.Store
import Zomaal.ThreadPool

set_option autoImplicit false

namespace Zomaal.ProductCreation

/-! ### The catalogue of a store -/

inductive MediaAssetPurpose
  | productMain
  | productGallery
  | variant
  deriving DecidableEq

def MediaAssetPurpose.text : MediaAssetPurpose → String
  | .productMain => "PRODUCT_MAIN"
  | .productGallery => "PRODUCT_GALLERY"
  | .variant => "VARIANT"

structure Upload where
  id : String
  purpose : MediaAssetPurpose
  /-- Its status is `TEMPORARY`, not `ATTACHED`. -/
  temporary : Bool
  expiresAt : ℤ

inductive WarehouseProductKind
  | standard
  | bundle
  deriving DecidableEq

structure VariantInput where
  sku : Option String := none
  imageUploadId : Option String := none
  deriving DecidableEq

/-- A request to create a product or a bundle: its variants as they are prepared, of which a bundle
has one, and the rest of what it says. -/
structure CreateRequest where
  kind : WarehouseProductKind
  idempotencyKey : String
  mainImageUploadId : String
  galleryImageUploadIds : List String := []
  variants : List VariantInput
  details : String := ""
  deriving DecidableEq

/-- The fingerprint of a request is a hash of its fields in order, taken to be injective; SKUs are
compared in lower case. -/
structure Environment (φ : Type) where
  createFingerprint : CreateRequest → φ
  injective : Function.Injective createFingerprint
  lower : String → String

/-- A product. The last two fields are read by nothing: its request, and the order lines that had no
product then and one of its SKUs. -/
structure ProductRow (φ : Type) where
  id : String
  idempotencyKey : Option String
  idempotencyFingerprint : Option φ
  origin : Option CreateRequest := none
  waiting : List String := []

structure VariantRow where
  id : String
  productId : String
  sku : Option String

structure LineRow where
  id : String
  sku : Option String
  delivered : Bool := false
  warehouseVariantId : Option String := none
  stockStatus : Option OrderLineStockStatus := none
  deriving DecidableEq

structure Catalogue (φ : Type) where
  products : List (ProductRow φ)
  variants : List VariantRow
  lines : List LineRow
  uploads : List Upload

inductive CreateError
  | badRequest (message : String)
  | conflict (message : String)
  /-- `P2002` -/
  | unique
  deriving DecidableEq

variable {φ : Type} (env : Environment φ)

def Catalogue.findByKey (c : Catalogue φ) (key : String) : Option (ProductRow φ) :=
  c.products.find? fun product => product.idempotencyKey = some key

/-- `sku: { equals: sku, mode: 'insensitive' }`. -/
def LineRow.has (line : LineRow) (sku : String) : Bool :=
  line.sku.any fun other => env.lower other = env.lower sku

def LineRow.takenBy (line : LineRow) (sku : String) : Bool :=
  line.warehouseVariantId.isNone && line.has env sku

/-- `sku?.trim() || null`. -/
def VariantInput.storedSku (input : VariantInput) : Option String :=
  JsText.truthy (input.sku.map JsText.trim)

variable (request : CreateRequest)

def CreateRequest.skus : List String :=
  request.variants.filterMap VariantInput.storedSku

def CreateRequest.mediaIds : List String :=
  request.mainImageUploadId :: request.galleryImageUploadIds ++
    request.variants.filterMap VariantInput.imageUploadId

/-! ### The transaction -/

/-- What a step finds: the clock, what the checks of other tables say, the random ids, and whether a
code or barcode exists already. -/
structure Moment where
  now : ℤ
  refusal : Option CreateError := none
  uuid : String := ""
  variantId : ℕ → String := toString
  collides : Bool := false

/-- `where: { id, status: TEMPORARY, purpose, expiresAt: { gt: now } }`. -/
def Upload.attachable (now : ℤ) (id : String) (purpose : MediaAssetPurpose) (upload : Upload) :
    Bool :=
  upload.id = id && upload.temporary && upload.purpose = purpose && now < upload.expiresAt

def Catalogue.attachMedia (now : ℤ) (id : String) (purpose : MediaAssetPurpose)
    (c : Catalogue φ) : Except CreateError (Catalogue φ) :=
  if c.uploads.any (Upload.attachable now id purpose) then
    .ok
      { c with
        uploads := c.uploads.map fun upload =>
          if upload.attachable now id purpose then { upload with temporary := false } else upload }
  else .error (.badRequest ("Image " ++ id ++ " cannot be attached as " ++ purpose.text))

def Catalogue.addVariant (moment : Moment) (c : Catalogue φ) (entry : VariantInput × ℕ) :
    Except CreateError (Catalogue φ) :=
  let sku := entry.1.storedSku
  if sku.isSome && c.variants.any (fun variant => variant.sku = sku) then .error .unique
  else
    let c :=
      { c with
        variants := c.variants ++
          [{ id := moment.variantId entry.2, productId := moment.uuid, sku := sku }] }
    match entry.1.imageUploadId with
    | none => .ok c
    | some id => c.attachMedia moment.now id .variant

def Catalogue.waitingFor (c : Catalogue φ) (request : CreateRequest) : List String :=
  (c.lines.filter fun line => request.skus.any (line.takenBy env)).map LineRow.id

def Catalogue.productRow (c : Catalogue φ) (request : CreateRequest) (uuid : String) :
    ProductRow φ where
  id := uuid
  idempotencyKey := some request.idempotencyKey
  idempotencyFingerprint := some (env.createFingerprint request)
  origin := some request
  waiting := c.waitingFor env request

/-- **The transaction of `create` and of `createBundle`.** -/
def Catalogue.create (moment : Moment) (c : Catalogue φ) :
    Except CreateError (Catalogue φ) := do
  if (c.findByKey request.idempotencyKey).isSome || c.products.any (·.id = moment.uuid) then
    throw .unique
  let row := c.productRow env request moment.uuid
  let c ← request.variants.zipIdx.foldlM (Catalogue.addVariant moment)
    { c with products := c.products ++ [row] }
  if moment.collides then throw .unique
  let c ← c.attachMedia moment.now request.mainImageUploadId .productMain
  request.galleryImageUploadIds.foldlM
    (fun c id => c.attachMedia moment.now id .productGallery) c

/-! ### Calls -/

inductive Phase
  | finding
  | checking
  | checkingUploads
  | committing
  /-- After a unique key was violated. -/
  | retrying
  | readingVariants (productId : String)
  /-- The lines of delivered orders are linked to a variant. -/
  | marking (productId variantId sku : String) (rest : List (String × String))
  /-- The other lines are. -/
  | linking (productId variantId sku : String) (rest : List (String × String))
  | returned (productId : String)
  | rejected (error : CreateError)
  /-- The process stopped, or the database failed. -/
  | stopped
  deriving DecidableEq

structure Call where
  request : CreateRequest
  phase : Phase := .finding
  created : Option String := none

def Call.goTo (call : Call) (phase : Phase) : Call := { call with phase }

def nextVariant (productId : String) : List (String × String) → Phase
  | [] => .returned productId
  | (variantId, sku) :: rest => .marking productId variantId sku rest

section Runs

variable [DecidableEq φ]

/-- `assertMatchingIdempotency`. -/
def ProductRow.matches (product : ProductRow φ) (request : CreateRequest) : Bool :=
  product.idempotencyFingerprint.all fun fingerprint =>
    fingerprint = env.createFingerprint request

def ProductRow.answer (product : ProductRow φ) (request : CreateRequest) : Phase :=
  if product.matches env request then .returned product.id
  else
    .rejected (.conflict "Idempotency key was already used with a different product request")

def WarehouseProductKind.inUse : WarehouseProductKind → String
  | .standard => "A barcode, SKU, product code, or idempotency key is already in use"
  | .bundle => "A bundle SKU, product code, or idempotency key is already in use"

def CreateRequest.uploadProblem (now : ℤ) (uploads : List Upload) : Option CreateError :=
  match request.kind with
  | .standard =>
    if ¬ request.mediaIds.Nodup then
      some (.badRequest "The same uploaded image cannot be attached twice")
    else if (uploads.filter fun upload =>
        upload.id ∈ request.mediaIds ∧ upload.temporary ∧ now < upload.expiresAt).length ≠
          request.mediaIds.length then
      some (.badRequest "One or more image uploads are invalid or expired")
    else none
  | .bundle =>
    if uploads.any (Upload.attachable now request.mainImageUploadId .productMain) then none
    else some (.badRequest "The bundle image upload is invalid or expired")

variable (c : Catalogue φ)

def Catalogue.skusOf (productId : String) : List (String × String) :=
  c.variants.filterMap fun variant =>
    if variant.productId = productId then
      (JsText.truthy variant.sku).map fun sku => (variant.id, sku)
    else none

/-- The first of the two updates of a variant: lines of delivered orders. -/
def LineRow.mark (variantId sku : String) (line : LineRow) : LineRow :=
  if line.takenBy env sku && line.delivered then
    { line with warehouseVariantId := some variantId, stockStatus := some .delivered }
  else line

def LineRow.link (variantId sku : String) (line : LineRow) : LineRow :=
  if line.takenBy env sku then { line with warehouseVariantId := some variantId } else line

def Call.turn (moment : Moment) (c : Catalogue φ) (call : Call) : Catalogue φ × Call :=
  match call.phase with
  | .finding =>
    (c, call.goTo
      (match c.findByKey call.request.idempotencyKey with
      | some product => product.answer env call.request
      | none => .checking))
  | .checking =>
    (c, call.goTo
      (match moment.refusal with
      | some error => .rejected error
      | none => .checkingUploads))
  | .checkingUploads =>
    (c, call.goTo
      (match call.request.uploadProblem moment.now c.uploads with
      | some error => .rejected error
      | none => .committing))
  | .committing =>
    match c.create env call.request moment with
    | .ok c => (c, { call with phase := .readingVariants moment.uuid, created := moment.uuid })
    | .error .unique => (c, call.goTo .retrying)
    | .error error => (c, call.goTo (.rejected error))
  | .retrying =>
    (c, call.goTo
      (match c.findByKey call.request.idempotencyKey with
      | some product => product.answer env call.request
      | none => .rejected (.conflict call.request.kind.inUse)))
  | .readingVariants productId => (c, call.goTo (nextVariant productId (c.skusOf productId)))
  | .marking productId variantId sku rest =>
    ({ c with lines := c.lines.map (LineRow.mark env variantId sku) },
      call.goTo (.linking productId variantId sku rest))
  | .linking productId variantId sku rest =>
    ({ c with lines := c.lines.map (LineRow.link env variantId sku) },
      call.goTo (nextVariant productId rest))
  | .returned _ | .rejected _ | .stopped => (c, call)

/-! ### Runs -/

inductive Action
  | start (request : CreateRequest)
  | turn (i : ℕ) (moment : Moment)
  | stop (i : ℕ)

abbrev Pool (φ : Type) := ThreadPool (Catalogue φ) Call

variable (w : Pool φ)

def step : Action → Pool φ
  | .start request => w.spawn { request }
  | .turn i moment =>
    match w.threads[i]? with
    | none => w
    | some call =>
      let turn := call.turn env moment w.shared
      w.move i turn.1 turn.2
  | .stop i =>
    match w.threads[i]? with
    | none => w
    | some call => w.move i w.shared (call.goTo .stopped)

def Catalogue.Linked (productId : String) (line : LineRow) : Prop :=
  ∃ variant ∈ c.variants, variant.productId = productId ∧
    line.warehouseVariantId = some variant.id

/-- **What is expected of every state**: one product of a key; a call answers the product of its own
request, with the waiting lines linked; a rejected call has created nothing. -/
structure Sound : Prop where
  once : ∀ product ∈ w.shared.products, ∀ other ∈ w.shared.products,
    product.idempotencyKey ≠ none → product.idempotencyKey = other.idempotencyKey →
      product = other
  returned : ∀ call ∈ w.threads, ∀ productId, call.phase = .returned productId →
    ∃ product ∈ w.shared.products, product.id = productId ∧
      product.idempotencyKey = some call.request.idempotencyKey ∧
      product.origin = some call.request ∧
      ∀ line ∈ w.shared.lines, line.id ∈ product.waiting → w.shared.Linked productId line
  rejected : ∀ call ∈ w.threads, ∀ error, call.phase = .rejected error → call.created = none

/-- **A retry is answered**: no call is rejected once its request has created a product. -/
def RetryAnswered : Action → Prop
  | .turn i moment =>
    match w.threads[i]? with
    | none => True
    | some call =>
      ∀ error, (call.turn env moment w.shared).2.phase = .rejected error →
        call.phase ≠ .rejected error →
        ∀ product ∈ w.shared.products, product.origin ≠ some call.request
  | _ => True

def Catalogue.servedFor (request : CreateRequest) : Bool :=
  (c.findByKey request.idempotencyKey).all fun product =>
    !product.matches env request ||
      c.lines.all fun line => !decide (line.id ∈ product.waiting) || line.warehouseVariantId.isSome

/-- The lines that a statement for a product takes were not waiting for another one. -/
def Catalogue.takesOwn (productId sku : String) : Bool :=
  c.products.all fun product => product.id = productId ||
    c.lines.all fun line => !(line.takenBy env sku && decide (line.id ∈ product.waiting))

/-- **Calls do not overlap where it matters.** A stored product answers once its waiting lines are
linked; a call does its checks before its request created a product in another call, and takes no
line that waits for another's product. -/
def undisturbed : Action → Bool
  | .turn i _ =>
    match w.threads[i]? with
    | none => true
    | some call =>
      match call.phase with
      | .finding | .retrying => w.shared.servedFor env call.request
      | .checking | .checkingUploads =>
        w.shared.products.all fun product => product.origin ≠ some call.request
      | .marking productId _ sku _ | .linking productId _ sku _ =>
        w.shared.takesOwn env productId sku
      | _ => true
  | _ => true

abbrev Undisturbed (action : Action) : Prop := undisturbed env w action = true

end Runs

/-! ### What a creation writes -/

variable {env} {c c' : Catalogue φ}

theorem attachMedia_ok {now : ℤ} {id : String} {purpose : MediaAssetPurpose}
    (h : c.attachMedia now id purpose = .ok c') :
    c'.products = c.products ∧ c'.variants = c.variants ∧ c'.lines = c.lines := by
  rw [Catalogue.attachMedia] at h
  split at h
  · obtain rfl := Except.ok.inj h
    exact ⟨rfl, rfl, rfl⟩
  · cases h

theorem attachAll_ok {now : ℤ} {purpose : MediaAssetPurpose} {ids : List String}
    (h : ids.foldlM (fun c id => c.attachMedia now id purpose) c = .ok c') :
    c'.products = c.products ∧ c'.variants = c.variants ∧ c'.lines = c.lines := by
  induction ids generalizing c with
  | nil =>
    obtain rfl := Except.ok.inj h
    exact ⟨rfl, rfl, rfl⟩
  | cons id ids ih =>
    rw [List.foldlM_cons] at h
    obtain ⟨middle, hmiddle, hrest⟩ := Except.bind_eq_ok h
    obtain ⟨hproducts, hvariants, hlines⟩ := ih hrest
    obtain ⟨hproducts', hvariants', hlines'⟩ := attachMedia_ok hmiddle
    exact ⟨hproducts.trans hproducts', hvariants.trans hvariants', hlines.trans hlines'⟩

def Moment.variantRow (moment : Moment) (entry : VariantInput × ℕ) : VariantRow where
  id := moment.variantId entry.2
  productId := moment.uuid
  sku := entry.1.storedSku

variable {moment : Moment}

theorem addVariant_ok {entry : VariantInput × ℕ} (h : c.addVariant moment entry = .ok c') :
    c'.products = c.products ∧ c'.variants = c.variants ++ [moment.variantRow entry] ∧
      c'.lines = c.lines := by
  rw [Catalogue.addVariant] at h
  dsimp only at h
  split at h
  · cases h
  · cases himage : entry.1.imageUploadId with
    | none =>
      rw [himage] at h
      obtain rfl := Except.ok.inj h
      exact ⟨rfl, rfl, rfl⟩
    | some id =>
      rw [himage] at h
      exact attachMedia_ok h

theorem addVariants_ok {entries : List (VariantInput × ℕ)}
    (h : entries.foldlM (Catalogue.addVariant moment) c = .ok c') :
    c'.products = c.products ∧ c'.variants = c.variants ++ entries.map moment.variantRow ∧
      c'.lines = c.lines := by
  induction entries generalizing c with
  | nil =>
    obtain rfl := Except.ok.inj h
    exact ⟨rfl, (List.append_nil _).symm, rfl⟩
  | cons entry entries ih =>
    rw [List.foldlM_cons] at h
    obtain ⟨middle, hmiddle, hrest⟩ := Except.bind_eq_ok h
    obtain ⟨hproducts, hvariants, hlines⟩ := ih hrest
    obtain ⟨hproducts', hvariants', hlines'⟩ := addVariant_ok hmiddle
    refine ⟨hproducts.trans hproducts', ?_, hlines.trans hlines'⟩
    rw [hvariants, hvariants', List.append_assoc, List.map_cons, List.singleton_append]

theorem create_ok {request : CreateRequest} (h : c.create env request moment = .ok c') :
    c.findByKey request.idempotencyKey = none ∧
      (∀ product ∈ c.products, product.id ≠ moment.uuid) ∧
      c'.products = c.products ++ [c.productRow env request moment.uuid] ∧
      c'.variants = c.variants ++ request.variants.zipIdx.map moment.variantRow ∧
      c'.lines = c.lines := by
  rw [Catalogue.create] at h
  split at h
  · cases h
  · rename_i hnew
    rw [Bool.or_eq_true, not_or, Bool.not_eq_true, Bool.not_eq_true, Option.isSome_eq_false_iff,
      Option.isNone_iff_eq_none, List.any_eq_false] at hnew
    obtain ⟨withVariants, hvariants, h⟩ := Except.bind_eq_ok h
    split at h
    · cases h
    · obtain ⟨withMain, hmain, hgallery⟩ := Except.bind_eq_ok h
      obtain ⟨hproducts₁, hvariants₁, hlines₁⟩ := addVariants_ok hvariants
      obtain ⟨hproducts₂, hvariants₂, hlines₂⟩ := attachMedia_ok hmain
      obtain ⟨hproducts₃, hvariants₃, hlines₃⟩ := attachAll_ok hgallery
      refine ⟨hnew.1, fun product hproduct => by simpa using hnew.2 product hproduct, ?_, ?_, ?_⟩
      · exact hproducts₃.trans (hproducts₂.trans hproducts₁)
      · exact hvariants₃.trans (hvariants₂.trans hvariants₁)
      · exact hlines₃.trans (hlines₂.trans hlines₁)

/-! ### What the rows keep -/

/-- Ids and keys are unique, a key comes with its request, and a line that was waiting for a product
has one of its SKUs, and no product but that one. -/
structure WellFormed (env : Environment φ) (c : Catalogue φ) : Prop where
  ids : (c.products.map ProductRow.id).Nodup
  lineIds : (c.lines.map LineRow.id).Nodup
  once : ∀ product ∈ c.products, ∀ other ∈ c.products,
    product.idempotencyKey ≠ none → product.idempotencyKey = other.idempotencyKey →
      product = other
  keyed : ∀ product ∈ c.products, ∀ key, product.idempotencyKey = some key →
    ∃ request, product.origin = some request ∧ request.idempotencyKey = key ∧
      product.idempotencyFingerprint = some (env.createFingerprint request)
  origin : ∀ product ∈ c.products, ∀ request, product.origin = some request →
    product.idempotencyKey = some request.idempotencyKey
  offered : ∀ product ∈ c.products, ∀ line ∈ c.lines, line.id ∈ product.waiting →
    ∃ pair ∈ c.skusOf product.id, line.has env pair.2
  served : ∀ product ∈ c.products, ∀ line ∈ c.lines, line.id ∈ product.waiting →
    line.warehouseVariantId = none ∨ c.Linked product.id line

theorem findByKey_some {key : String} {product : ProductRow φ}
    (h : c.findByKey key = some product) :
    product ∈ c.products ∧ product.idempotencyKey = some key :=
  ⟨List.mem_of_find?_eq_some h, by simpa using List.find?_some h⟩

theorem findByKey_none {key : String} (h : c.findByKey key = none) :
    ∀ product ∈ c.products, product.idempotencyKey ≠ some key := by
  simpa [Catalogue.findByKey] using h

variable {productId : String}

theorem mem_skusOf {pair : String × String} :
    pair ∈ c.skusOf productId ↔ ∃ variant ∈ c.variants, variant.productId = productId ∧
      variant.id = pair.1 ∧ JsText.truthy variant.sku = some pair.2 := by
  rw [Catalogue.skusOf, List.mem_filterMap]
  constructor
  · rintro ⟨variant, hvariant, heq⟩
    split at heq
    · obtain ⟨sku, hsku, rfl⟩ := Option.map_eq_some_iff.1 heq
      exact ⟨variant, hvariant, ‹_›, rfl, hsku⟩
    · cases heq
  · rintro ⟨variant, hvariant, rfl, hid, hsku⟩
    refine ⟨variant, hvariant, ?_⟩
    rw [if_pos rfl, hsku, hid]
    rfl

theorem Catalogue.Linked.mono {line line' : LineRow} (h : c.Linked productId line)
    (hvariants : ∀ variant ∈ c.variants, variant ∈ c'.variants)
    (hline : line'.warehouseVariantId = line.warehouseVariantId) : c'.Linked productId line' := by
  obtain ⟨variant, hvariant, hproduct, hlink⟩ := h
  exact ⟨variant, hvariants variant hvariant, hproduct, hline.trans hlink⟩

theorem storedSku_truthy {input : VariantInput} {sku : String} (h : input.storedSku = some sku) :
    JsText.truthy (some sku) = some sku := by
  rw [JsText.truthy, if_neg (JsText.truthy_some h).2]

/-- **A creation** keeps the rows well formed. -/
theorem WellFormed.create (h : WellFormed env c) {request : CreateRequest}
    (hcreate : c.create env request moment = .ok c') : WellFormed env c' := by
  obtain ⟨hfree, hfresh, hproducts, hvariants, hlines⟩ := create_ok hcreate
  have hvariants' : ∀ variant ∈ c.variants, variant ∈ c'.variants := fun variant hvariant =>
    hvariants ▸ List.mem_append_left _ hvariant
  have hcases : ∀ product ∈ c'.products,
      product ∈ c.products ∨ product = c.productRow env request moment.uuid := by
    intro product hproduct
    rw [hproducts] at hproduct
    exact (List.mem_append.1 hproduct).imp_right List.mem_singleton.1
  -- a line waiting for the new product has no product
  have hwaiting : ∀ line ∈ c.lines, line.id ∈ c.waitingFor env request →
      request.skus.any (line.takenBy env) := by
    intro line hline hmem
    obtain ⟨other, hother, hid⟩ := List.mem_map.1 hmem
    rw [List.mem_filter] at hother
    obtain rfl : other = line := List.inj_on_of_nodup_map h.lineIds hother.1 hline hid
    exact hother.2
  refine ⟨?_, hlines ▸ h.lineIds, ?_, ?_, ?_, ?_, ?_⟩
  · rw [hproducts]
    exact KeyedRows.nodup_concat _ h.ids hfresh
  · intro product hproduct other hother hkey hsame
    rcases hcases product hproduct with hold | rfl
    · rcases hcases other hother with hold' | rfl
      · exact h.once product hold other hold' hkey hsame
      · exact absurd hsame (findByKey_none hfree product hold)
    · rcases hcases other hother with hold' | rfl
      · exact absurd hsame.symm (findByKey_none hfree other hold')
      · rfl
  · intro product hproduct key hkey
    rcases hcases product hproduct with hold | rfl
    · exact h.keyed product hold key hkey
    · exact ⟨request, rfl, Option.some.inj hkey, rfl⟩
  · intro product hproduct origin horigin
    rcases hcases product hproduct with hold | rfl
    · exact h.origin product hold origin horigin
    · rw [← Option.some.inj horigin]
      rfl
  · intro product hproduct line hline hmem
    rw [hlines] at hline
    rcases hcases product hproduct with hold | rfl
    · obtain ⟨pair, hpair, hhas⟩ := h.offered product hold line hline hmem
      obtain ⟨variant, hvariant, hrest⟩ := mem_skusOf.1 hpair
      exact ⟨pair, mem_skusOf.2 ⟨variant, hvariants' variant hvariant, hrest⟩, hhas⟩
    · obtain ⟨sku, hsku, htaken⟩ := List.any_eq_true.1 (hwaiting line hline hmem)
      obtain ⟨input, hinput, hstored⟩ := List.mem_filterMap.1 hsku
      obtain ⟨i, hi, hget⟩ := List.mem_iff_getElem.1 hinput
      have hentry : (input, i) ∈ request.variants.zipIdx := by
        rw [List.mem_zipIdx_iff_getElem?]
        exact List.getElem?_eq_some_iff.2 ⟨hi, hget⟩
      refine ⟨(moment.variantId i, sku), mem_skusOf.2 ⟨moment.variantRow (input, i), ?_, rfl, rfl,
        ?_⟩, (Bool.and_eq_true_iff.1 htaken).2⟩
      · rw [hvariants]
        exact List.mem_append_right _ (List.mem_map_of_mem hentry)
      · rw [Moment.variantRow, hstored, storedSku_truthy hstored]
  · intro product hproduct line hline hmem
    rw [hlines] at hline
    rcases hcases product hproduct with hold | rfl
    · exact (h.served product hold line hline hmem).imp_right fun hlinked =>
        hlinked.mono hvariants' rfl
    · obtain ⟨sku, -, htaken⟩ := List.any_eq_true.1 (hwaiting line hline hmem)
      exact .inl (Option.isNone_iff_eq_none.1 (Bool.and_eq_true_iff.1 htaken).1)

/-- One of the two updates of a variant: some of the lines that have no product and the SKU get it,
the others stay. -/
structure Links (env : Environment φ) (variantId sku : String) (f : LineRow → LineRow) : Prop where
  keepsId : ∀ line, (f line).id = line.id
  keepsSku : ∀ line, (f line).sku = line.sku
  cases : ∀ line, f line = line ∨
    line.takenBy env sku ∧ (f line).warehouseVariantId = some variantId

theorem links_mark (variantId sku : String) :
    Links env variantId sku (LineRow.mark env variantId sku) := by
  refine ⟨fun line => ?_, fun line => ?_, fun line => ?_⟩
  · rw [LineRow.mark]
    split <;> rfl
  · rw [LineRow.mark]
    split <;> rfl
  · rw [LineRow.mark]
    split
    · exact .inr ⟨(Bool.and_eq_true_iff.1 ‹_›).1, rfl⟩
    · exact .inl rfl

theorem links_link (variantId sku : String) :
    Links env variantId sku (LineRow.link env variantId sku) := by
  refine ⟨fun line => ?_, fun line => ?_, fun line => ?_⟩
  · rw [LineRow.link]
    split <;> rfl
  · rw [LineRow.link]
    split <;> rfl
  · rw [LineRow.link]
    split
    · exact .inr ⟨‹_›, rfl⟩
    · exact .inl rfl

theorem Links.kept {variantId sku : String} {f : LineRow → LineRow} (h : Links env variantId sku f)
    {line : LineRow} (hlinked : line.warehouseVariantId ≠ none) : f line = line := by
  rcases h.cases line with hsame | ⟨htaken, -⟩
  · exact hsame
  · exact absurd (Option.isNone_iff_eq_none.1 (Bool.and_eq_true_iff.1 htaken).1) hlinked

theorem WellFormed.links (h : WellFormed env c) {variantId sku : String} {f : LineRow → LineRow}
    (hf : Links env variantId sku f)
    (hvariant : ∃ variant ∈ c.variants, variant.id = variantId ∧ variant.productId = productId)
    (hown : c.takesOwn env productId sku) : WellFormed env { c with lines := c.lines.map f } := by
  refine ⟨h.ids, ?_, h.once, h.keyed, h.origin, ?_, ?_⟩
  · rw [List.map_map]
    have hids : LineRow.id ∘ f = LineRow.id := funext hf.keepsId
    rw [hids]
    exact h.lineIds
  · intro product hproduct line hline hmem
    obtain ⟨old, hold, rfl⟩ := List.mem_map.1 hline
    rw [hf.keepsId] at hmem
    obtain ⟨pair, hpair, hhas⟩ := h.offered product hproduct old hold hmem
    refine ⟨pair, hpair, ?_⟩
    rw [LineRow.has, hf.keepsSku]
    exact hhas
  · intro product hproduct line hline hmem
    obtain ⟨old, hold, rfl⟩ := List.mem_map.1 hline
    rw [hf.keepsId] at hmem
    rcases hf.cases old with hsame | ⟨htaken, hlink⟩
    · rw [hsame]
      exact h.served product hproduct old hold hmem
    · -- the line was waiting for this product, and not for another
      have hsame : product.id = productId := by
        have hproducts := List.all_eq_true.1 hown product hproduct
        rcases Bool.or_eq_true_iff.1 hproducts with hid | hall
        · exact of_decide_eq_true hid
        · have hnot := List.all_eq_true.1 hall old hold
          rw [htaken, decide_eq_true hmem] at hnot
          cases hnot
      obtain ⟨variant, hvariant, hid, hproductId⟩ := hvariant
      exact .inr ⟨variant, hvariant, hproductId.trans hsame.symm, hlink.trans (by rw [hid])⟩

end Zomaal.ProductCreation
