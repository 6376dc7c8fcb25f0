/-
**Stock in the shop: never negative, mirrored, and given back.**

The stock of a product with options is a second copy of the sum of its options' stock.  It goes
wrong in three ways: an order of a product all of whose options are switched off takes stock from
the product only; a cancelled order gives stock back to the product only when the ordered option is
gone and the product has others; and a list of options may name one option twice.

Main results:

* `Shop.shop_stock` — **stock is never negative, mirrored, and given back exactly**;
* `Shop.shop_stock_unmirrored` — what a cancelled order of a deleted option does.
-/

import Zomaal.MachineRun
import Zomaal.ShopCheckout

set_option autoImplicit false

namespace Zomaal.Shop

namespace ShopDb

/-! ### Reading the stock -/

def stockOfVariant (db : ShopDb) (variantId : String) : ℤ :=
  ((db.findVariant variantId).map (·.stock)).getD 0

def stockOfProduct (db : ShopDb) (productId : String) : ℤ :=
  ((db.products productId).map (·.stock)).getD 0

/-- A pair of references, as foreign keys allow it: to a product, and to an option of it. -/
def Refers (db : ShopDb) (productId variantId : Option String) : Prop :=
  (∀ p, productId = some p → (db.products p).isSome) ∧
    ∀ v, variantId = some v → ∃ p, productId = some p ∧ db.owner v = some p

end ShopDb

/-- The unique columns and the references of the shop's tables. -/
structure WellFormed (db : ShopDb) : Prop where
  variantIds : (db.variants.map (·.id)).Nodup
  orderIds : (db.orders.map (·.id)).Nodup
  owned : ∀ variant ∈ db.variants, (db.products variant.productId).isSome
  carts : ∀ storeId, ∀ item ∈ db.carts storeId, db.Refers (some item.productId) item.variantId
  orders : ∀ order ∈ db.orders, ∀ item ∈ order.items, db.Refers item.productId item.variantId

structure NonNegative (db : ShopDb) : Prop where
  variants : ∀ variant ∈ db.variants, 0 ≤ variant.stock
  products : ∀ productId product, db.products productId = some product → 0 ≤ product.stock

def Mirrored (db : ShopDb) : Prop :=
  ∀ productId product, db.products productId = some product → db.variantsOf productId ≠ [] →
    product.stock = db.variantStock productId

/-! ### What an operation does to the stock -/

/-- Rows are neither added nor removed, and no option changes hands. -/
structure SameShape (db db' : ShopDb) : Prop where
  variants : db'.variants.map (fun v => (v.id, v.productId)) =
    db.variants.map fun v => (v.id, v.productId)
  products : ∀ productId, (db'.products productId).isSome = (db.products productId).isSome

namespace SameShape

variable {db db' db'' : ShopDb}

theorem refl (db : ShopDb) : SameShape db db := ⟨rfl, fun _ => rfl⟩

theorem trans (h : SameShape db db') (h' : SameShape db' db'') : SameShape db db'' :=
  ⟨h'.variants.trans h.variants, fun p => (h'.products p).trans (h.products p)⟩

theorem ids (h : SameShape db db') : db'.variants.map (·.id) = db.variants.map (·.id) := by
  have hmap := congrArg (List.map Prod.fst) h.variants
  rw [List.map_map, List.map_map] at hmap
  exact hmap

theorem owner (h : SameShape db db') (variantId : String) :
    db'.owner variantId = db.owner variantId := by
  have hfind : ∀ variants : List ShopProductVariant,
      (variants.find? fun v => v.id = variantId).map (·.productId) =
        ((variants.map fun v => (v.id, v.productId)).find? fun pair => pair.1 = variantId).map
          Prod.snd := by
    intro variants
    rw [List.find?_map, Option.map_map]
    rfl
  rw [ShopDb.owner, ShopDb.findVariant, hfind, h.variants, ← hfind]
  rfl

theorem refers (h : SameShape db db') {productId variantId : Option String} :
    db'.Refers productId variantId ↔ db.Refers productId variantId := by
  simp only [ShopDb.Refers, h.products, h.owner]

theorem variantsOf (h : SameShape db db') (productId : String) :
    db'.variantsOf productId = [] ↔ db.variantsOf productId = [] := by
  have hnil : ∀ variants : List ShopProductVariant,
      (variants.filter fun v => v.productId = productId) = [] ↔
        ∀ pair ∈ variants.map fun v => (v.id, v.productId), pair.2 ≠ productId := by
    intro variants
    simp [List.filter_eq_nil_iff]
  rw [ShopDb.variantsOf, hnil, h.variants, ← hnil]
  rfl

end SameShape

/-- What an operation does to the stock of the options, to the sums of their stock, and to the stock
of the products.  It touches nothing else. -/
structure StockChange (db db' : ShopDb) (variant sum product : String → ℤ) : Prop where
  shape : SameShape db db'
  books : db'.toShopBooks = db.toShopBooks
  carts : db'.carts = db.carts
  variant : ∀ v, db'.stockOfVariant v = db.stockOfVariant v + variant v
  sum : ∀ p, db'.variantStock p = db.variantStock p + sum p
  product : ∀ p, db'.stockOfProduct p = db.stockOfProduct p + product p

namespace StockChange

variable {db db' db'' : ShopDb} {variant sum product variant' sum' product' : String → ℤ}

theorem refl (db : ShopDb) : StockChange db db (fun _ => 0) (fun _ => 0) (fun _ => 0) :=
  ⟨.refl db, rfl, rfl, fun _ => (add_zero _).symm, fun _ => (add_zero _).symm,
    fun _ => (add_zero _).symm⟩

theorem trans (h : StockChange db db' variant sum product)
    (h' : StockChange db' db'' variant' sum' product') :
    StockChange db db'' (fun v => variant v + variant' v) (fun p => sum p + sum' p)
      (fun p => product p + product' p) :=
  ⟨h.shape.trans h'.shape, h'.books.trans h.books, h'.carts.trans h.carts,
    fun v => by rw [h'.variant, h.variant, add_assoc], fun p => by rw [h'.sum, h.sum, add_assoc],
    fun p => by rw [h'.product, h.product, add_assoc]⟩

theorem congr (h : StockChange db db' variant sum product) (hv : ∀ v, variant v = variant' v)
    (hs : ∀ p, sum p = sum' p) (hp : ∀ p, product p = product' p) :
    StockChange db db' variant' sum' product' := by
  rw [← funext hv, ← funext hs, ← funext hp]
  exact h

end StockChange

theorem asInt32_ok {n m : ℤ} (h : asInt32 n = .ok m) : m = n := by
  rw [asInt32] at h
  split at h
  · exact (Except.ok.inj h).symm
  · cases h

namespace ShopDb

variable {db db' : ShopDb}

variable {variantId : String}

theorem findVariant_some {variant : ShopProductVariant}
    (h : db.findVariant variantId = some variant) :
    variant ∈ db.variants ∧ variant.id = variantId :=
  KeyedRows.lookup_some ShopProductVariant.id h

variable {quantity : ℤ}

theorem addVariantStock_ok {variant : ShopProductVariant} (hnodup : (db.variants.map (·.id)).Nodup)
    (hfound : db.findVariant variantId = some variant)
    (h : db.addVariantStock variantId quantity = .ok db') :
    StockChange db db' (fun v => if v = variantId then quantity else 0)
      (fun p => if variant.productId = p then quantity else 0) (fun _ => 0) := by
  rw [addVariantStock, hfound] at h
  obtain ⟨stock, hstock, hdb⟩ := Except.bind_eq_ok h
  obtain rfl := asInt32_ok hstock
  obtain rfl := Except.ok.inj hdb
  have hid := (findVariant_some hfound).2
  let f : ShopProductVariant → ShopProductVariant :=
    fun v => { v with stock := variant.stock + quantity }
  have hf : ∀ v, (f v).id = v.id := fun _ => rfl
  refine ⟨⟨?_, fun _ => rfl⟩, rfl, rfl, fun v => ?_, fun p => ?_, fun _ => (add_zero _).symm⟩
  · rw [updateVariant, List.map_map]
    refine List.map_congr_left fun v _ => ?_
    simp only [Function.comp_apply]
    split <;> rfl
  · have hlook : (db.updateVariant variantId f).findVariant v = _ :=
      KeyedRows.lookup_change ShopProductVariant.id hf db.variants
    change ((db.updateVariant variantId f).stockOfVariant v) = _
    rw [stockOfVariant, hlook, stockOfVariant]
    by_cases hv : v = variantId
    · subst hv
      have hfound' : KeyedRows.lookup ShopProductVariant.id v db.variants = some variant := hfound
      rw [hfound', hfound]
      simp [f]
    · simp only [if_neg hv, Option.map_id', add_zero]
      rfl
  · have htotal := KeyedRows.total_change ShopProductVariant.id (·.stock)
      (fun v : ShopProductVariant => v.productId = p) (f := f) hnodup
      (show KeyedRows.lookup ShopProductVariant.id variantId db.variants = some variant from hfound)
    change Ledger.total (·.stock) (fun v : ShopProductVariant => v.productId = p)
      (KeyedRows.change ShopProductVariant.id variantId f db.variants) =
        Ledger.total (·.stock) (fun v : ShopProductVariant => v.productId = p) db.variants + _
    by_cases hp : variant.productId = p
    · have hafter : (f variant).stock = variant.stock + quantity := rfl
      rw [if_pos (decide_eq_true hp), if_pos (decide_eq_true hp), hafter] at htotal
      rw [if_pos hp]
      omega
    · simp only [f, hp, decide_false] at htotal
      rw [if_neg hp]
      simpa using htotal

variable {productId : String}

theorem setProduct_ok {product : ShopProduct} (hfound : db.products productId = some product)
    (stock : ℤ) :
    StockChange db (db.setProduct productId { product with stock }) (fun _ => 0) (fun _ => 0)
      (fun p => if p = productId then stock - product.stock else 0) := by
  refine ⟨⟨rfl, fun p => ?_⟩, rfl, rfl, fun _ => (add_zero _).symm, fun _ => (add_zero _).symm,
    fun p => ?_⟩
  · by_cases hp : p = productId
    · subst hp
      simp [setProduct, hfound]
    · simp [setProduct, hp]
  · rw [stockOfProduct, stockOfProduct]
    by_cases hp : p = productId
    · subst hp
      simp [setProduct, hfound]
    · simp [setProduct, hp]

theorem addProductStock_ok (hexists : (db.products productId).isSome)
    (h : db.addProductStock productId quantity = .ok db') :
    StockChange db db' (fun _ => 0) (fun _ => 0)
      (fun p => if p = productId then quantity else 0) := by
  obtain ⟨product, hfound⟩ := Option.isSome_iff_exists.1 hexists
  rw [addProductStock, hfound] at h
  obtain ⟨stock, hstock, hdb⟩ := Except.bind_eq_ok h
  obtain rfl := asInt32_ok hstock
  obtain rfl := Except.ok.inj hdb
  refine (setProduct_ok hfound _).congr (fun _ => rfl) (fun _ => rfl) fun p => ?_
  simp

/-! ### No stock is negative -/

theorem addVariantStock_nonneg (hnn : NonNegative db)
    (hroom : ∀ variant, db.findVariant variantId = some variant → 0 ≤ variant.stock + quantity)
    (h : db.addVariantStock variantId quantity = .ok db') : NonNegative db' := by
  rw [addVariantStock] at h
  split at h
  · exact Except.ok.inj h ▸ hnn
  · rename_i variant hfound
    obtain ⟨stock, hstock, hdb⟩ := Except.bind_eq_ok h
    obtain rfl := asInt32_ok hstock
    obtain rfl := Except.ok.inj hdb
    refine ⟨fun changed hchanged => ?_, hnn.products⟩
    obtain ⟨old, hold, rfl⟩ := List.mem_map.1 hchanged
    split
    · exact hroom variant hfound
    · exact hnn.variants old hold

theorem setProduct_nonneg (hnn : NonNegative db) {product : ShopProduct}
    (hstock : 0 ≤ product.stock) : NonNegative (db.setProduct productId product) := by
  refine ⟨hnn.variants, fun p found hfound => ?_⟩
  by_cases hp : p = productId
  · subst hp
    have hself : (db.setProduct p product).products p = some product := Function.update_self ..
    rw [hself] at hfound
    obtain rfl := Option.some.inj hfound
    exact hstock
  · exact hnn.products p found ((Function.update_of_ne hp _ _).symm.trans hfound)

theorem addProductStock_nonneg (hnn : NonNegative db)
    (hroom : ∀ product, db.products productId = some product → 0 ≤ product.stock + quantity)
    (h : db.addProductStock productId quantity = .ok db') : NonNegative db' := by
  rw [addProductStock] at h
  split at h
  · exact Except.ok.inj h ▸ hnn
  · rename_i product hfound
    obtain ⟨stock, hstock, hdb⟩ := Except.bind_eq_ok h
    obtain rfl := asInt32_ok hstock
    obtain rfl := Except.ok.inj hdb
    exact setProduct_nonneg hnn (hroom product hfound)

theorem variantStock_nonneg (hnn : NonNegative db) (productId : String) :
    0 ≤ db.variantStock productId := by
  refine List.sum_nonneg fun stock hstock => ?_
  obtain ⟨variant, hvariant, rfl⟩ := List.mem_map.1 hstock
  exact hnn.variants variant (List.mem_filter.1 hvariant).1

theorem reserveLine_nonneg (hnn : NonNegative db) {row : CartRow}
    (h : db.reserveLine row = .ok db') : NonNegative db' := by
  rw [reserveLine] at h
  split at h
  · rename_i variantId _
    split at h
    · rename_i variant hfound
      split at h
      · rename_i hroom
        rw [Bool.and_eq_true, decide_eq_true_eq] at hroom
        refine addVariantStock_nonneg hnn (fun other hother => ?_) h
        rw [hfound] at hother
        obtain rfl := Option.some.inj hother
        omega
      · cases h
    · cases h
  · split at h
    · rename_i product hfound
      split at h
      · rename_i hroom
        refine addProductStock_nonneg hnn (fun other hother => ?_) h
        rw [hfound] at hother
        obtain rfl := Option.some.inj hother
        omega
      · cases h
    · cases h

theorem mirrorStock_nonneg (hnn : NonNegative db) (h : db.mirrorStock productId = .ok db') :
    NonNegative db' := by
  rw [mirrorStock] at h
  split at h
  · cases h
  · obtain ⟨stock, hstock, hdb⟩ := Except.bind_eq_ok h
    obtain rfl := asInt32_ok hstock
    obtain rfl := Except.ok.inj hdb
    exact setProduct_nonneg hnn (variantStock_nonneg hnn productId)

theorem reserveStock_nonneg (hnn : NonNegative db) {rows : List CartRow}
    (h : db.reserveStock rows = .ok db') : NonNegative db' := by
  obtain ⟨reserved, hreserved, hmirrored⟩ := Except.bind_eq_ok h
  have hmid : NonNegative reserved :=
    Except.foldlM_keeps (fun _ _ _ hb hstep => reserveLine_nonneg hb hstep) hnn hreserved
  exact Except.foldlM_keeps (fun _ _ _ hb hstep => mirrorStock_nonneg hb hstep) hmid hmirrored

theorem restockItem_nonneg (hnn : NonNegative db) {item : ShopOrderItem}
    (h : db.restockItem item = .ok db') : NonNegative db' := by
  have hpos := item.quantity_pos
  obtain ⟨db₁, hvariant, hproduct⟩ := Except.bind_eq_ok h
  have hnn₁ : NonNegative db₁ := by
    rw [restockVariant] at hvariant
    split at hvariant
    · refine addVariantStock_nonneg hnn (fun variant hfound => ?_) hvariant
      have hstock := hnn.variants variant (findVariant_some hfound).1
      omega
    · exact Except.ok.inj hvariant ▸ hnn
  rw [restockProduct] at hproduct
  split at hproduct
  · refine addProductStock_nonneg hnn₁ (fun product hfound => ?_) hproduct
    have hstock := hnn₁.products _ product hfound
    omega
  · exact Except.ok.inj hproduct ▸ hnn₁

end ShopDb

/-! ### Units -/

def ShopOrderItem.variantUnits (v : String) (item : ShopOrderItem) : ℤ :=
  if item.variantId = some v then item.quantity else 0

def ShopOrderItem.productUnits (p : String) (item : ShopOrderItem) : ℤ :=
  if item.productId = some p then item.quantity else 0

def ShopOrderItem.optionUnits (p : String) (item : ShopOrderItem) : ℤ :=
  if item.variantId.isSome ∧ item.productId = some p then item.quantity else 0

variable (units : ShopOrderItem → ℤ)

def unitsOf (items : List ShopOrderItem) : ℤ := (items.map units).sum

theorem unitsOf_nil : unitsOf units [] = 0 := rfl

theorem unitsOf_cons (item : ShopOrderItem) (items : List ShopOrderItem) :
    unitsOf units (item :: items) = units item + unitsOf units items := by
  rw [unitsOf, List.map_cons, List.sum_cons, unitsOf]

namespace ShopDb

variable {db db' : ShopDb}

/-! ### Giving stock back -/

theorem restockItem_ok (hnodup : (db.variants.map (·.id)).Nodup) {item : ShopOrderItem}
    (hrefers : db.Refers item.productId item.variantId) (h : db.restockItem item = .ok db') :
    StockChange db db' (fun v => item.variantUnits v) (fun p => item.optionUnits p)
      (fun p => item.productUnits p) := by
  obtain ⟨db₁, hvariant, hproduct⟩ := Except.bind_eq_ok h
  have hfirst : StockChange db db₁ (fun v => item.variantUnits v) (fun p => item.optionUnits p)
      (fun _ => 0) := by
    cases hv : item.variantId with
    | none =>
      rw [restockVariant, hv] at hvariant
      obtain rfl := Except.ok.inj hvariant
      refine (StockChange.refl db).congr (fun v => ?_) (fun p => ?_) fun _ => rfl
      · rw [ShopOrderItem.variantUnits, hv, if_neg nofun]
      · rw [ShopOrderItem.optionUnits, hv, if_neg nofun]
    | some variantId =>
      rw [restockVariant, hv] at hvariant
      obtain ⟨p, hp, howner⟩ := hrefers.2 variantId hv
      obtain ⟨variant, hfound, hpid⟩ := Option.map_eq_some_iff.1 howner
      refine (addVariantStock_ok hnodup hfound hvariant).congr (fun v => ?_) (fun q => ?_)
        fun _ => rfl
      · rw [ShopOrderItem.variantUnits, hv]
        exact if_congr ⟨fun heq => heq ▸ rfl, fun heq => (Option.some.inj heq).symm⟩ rfl rfl
      · rw [ShopOrderItem.optionUnits, hv, hp, hpid]
        refine if_congr ⟨fun heq => ⟨rfl, heq ▸ rfl⟩, fun heq => Option.some.inj heq.2⟩ rfl rfl
  have hsecond : StockChange db₁ db' (fun _ => 0) (fun _ => 0) (fun p => item.productUnits p) := by
    cases hp : item.productId with
    | none =>
      rw [restockProduct, hp] at hproduct
      obtain rfl := Except.ok.inj hproduct
      refine (StockChange.refl _).congr (fun _ => rfl) (fun _ => rfl) fun p => ?_
      rw [ShopOrderItem.productUnits, hp, if_neg nofun]
    | some productId =>
      rw [restockProduct, hp] at hproduct
      have hexists : (db₁.products productId).isSome := by
        rw [hfirst.shape.products]
        exact hrefers.1 productId hp
      refine (addProductStock_ok hexists hproduct).congr (fun _ => rfl) (fun _ => rfl) fun p => ?_
      rw [ShopOrderItem.productUnits, hp]
      exact if_congr ⟨fun heq => heq ▸ rfl, fun heq => (Option.some.inj heq).symm⟩ rfl rfl
  exact (hfirst.trans hsecond).congr (fun _ => add_zero _) (fun _ => add_zero _)
    fun _ => zero_add _

theorem restock_ok {items : List ShopOrderItem} (hnodup : (db.variants.map (·.id)).Nodup)
    (hrefers : ∀ item ∈ items, db.Refers item.productId item.variantId)
    (h : db.restock items = .ok db') :
    StockChange db db' (fun v => unitsOf (·.variantUnits v) items)
      (fun p => unitsOf (·.optionUnits p) items) (fun p => unitsOf (·.productUnits p) items) := by
  induction items generalizing db with
  | nil =>
    obtain rfl := Except.ok.inj h
    exact .refl db
  | cons item items ih =>
    rw [restock, List.foldlM_cons] at h
    obtain ⟨db₁, hturn, hrest⟩ := Except.bind_eq_ok h
    have hfirst := restockItem_ok hnodup (hrefers item (List.mem_cons_self ..)) hturn
    have hlater := ih (hfirst.shape.ids ▸ hnodup)
      (fun other hother => hfirst.shape.refers.2
        (hrefers other (List.mem_cons_of_mem _ hother))) hrest
    exact (hfirst.trans hlater).congr (fun _ => (unitsOf_cons ..).symm)
      (fun _ => (unitsOf_cons ..).symm) fun _ => (unitsOf_cons ..).symm

/-! ### Taking stock -/

theorem reserveLine_ok (hnodup : (db.variants.map (·.id)).Nodup) {row : CartRow}
    (hrefers : db.Refers (some row.item.productId) row.item.variantId)
    (h : db.reserveLine row = .ok db') :
    StockChange db db' (fun v => -row.orderItem.variantUnits v)
      (fun p => -row.orderItem.optionUnits p)
      (fun p => -(row.orderItem.productUnits p - row.orderItem.optionUnits p)) := by
  rw [reserveLine] at h
  cases hv : row.item.variantId with
  | some variantId =>
    rw [hv] at h
    dsimp only at h
    split at h
    · rename_i variant hfound
      split at h
      · obtain ⟨p, hp, howner⟩ := hrefers.2 variantId hv
        obtain rfl := Option.some.inj hp
        obtain ⟨found, hfound', hpid⟩ := Option.map_eq_some_iff.1 howner
        rw [hfound] at hfound'
        obtain rfl := Option.some.inj hfound'
        refine (addVariantStock_ok hnodup hfound h).congr (fun v => ?_) (fun q => ?_) fun q => ?_
        · rw [ShopOrderItem.variantUnits, CartRow.orderItem, hv, apply_ite Neg.neg, neg_zero]
          exact if_congr ⟨fun heq => heq ▸ rfl, fun heq => (Option.some.inj heq).symm⟩ rfl rfl
        · rw [ShopOrderItem.optionUnits, CartRow.orderItem, hv, hpid, apply_ite Neg.neg, neg_zero]
          exact if_congr ⟨fun heq => ⟨rfl, heq ▸ rfl⟩, fun heq => Option.some.inj heq.2⟩ rfl rfl
        · rw [ShopOrderItem.optionUnits, ShopOrderItem.productUnits, CartRow.orderItem, hv]
          simp
      · cases h
    · cases h
  | none =>
    rw [hv] at h
    dsimp only at h
    split at h
    · rename_i product hfound
      split at h
      · have hexists : (db.products row.item.productId).isSome := by rw [hfound]; rfl
        refine (addProductStock_ok hexists h).congr (fun v => ?_) (fun q => ?_) fun q => ?_
        · rw [ShopOrderItem.variantUnits, CartRow.orderItem, hv, if_neg nofun, neg_zero]
        · rw [ShopOrderItem.optionUnits, CartRow.orderItem, hv, if_neg nofun, neg_zero]
        · have hnone : row.orderItem.optionUnits q = 0 := by
            rw [ShopOrderItem.optionUnits, CartRow.orderItem, hv, if_neg nofun]
          rw [hnone, sub_zero, ShopOrderItem.productUnits, CartRow.orderItem, apply_ite Neg.neg,
            neg_zero]
          exact if_congr ⟨fun heq => heq ▸ rfl, fun heq => (Option.some.inj heq).symm⟩ rfl rfl
      · cases h
    · cases h

theorem reserveLines_ok {rows : List CartRow} (hnodup : (db.variants.map (·.id)).Nodup)
    (hrefers : ∀ row ∈ rows, db.Refers (some row.item.productId) row.item.variantId)
    (h : rows.foldlM reserveLine db = .ok db') :
    StockChange db db' (fun v => -unitsOf (·.variantUnits v) (rows.map CartRow.orderItem))
      (fun p => -unitsOf (·.optionUnits p) (rows.map CartRow.orderItem))
      (fun p => -(unitsOf (·.productUnits p) (rows.map CartRow.orderItem) -
        unitsOf (·.optionUnits p) (rows.map CartRow.orderItem))) := by
  induction rows generalizing db with
  | nil =>
    obtain rfl := Except.ok.inj h
    exact .refl db
  | cons row rows ih =>
    rw [List.foldlM_cons] at h
    obtain ⟨db₁, hturn, hrest⟩ := Except.bind_eq_ok h
    have hfirst := reserveLine_ok hnodup (hrefers row (List.mem_cons_self ..)) hturn
    have hlater := ih (hfirst.shape.ids ▸ hnodup)
      (fun other hother => hfirst.shape.refers.2
        (hrefers other (List.mem_cons_of_mem _ hother))) hrest
    refine (hfirst.trans hlater).congr (fun v => ?_) (fun p => ?_) fun p => ?_
    · rw [List.map_cons, unitsOf_cons, neg_add]
    · rw [List.map_cons, unitsOf_cons, neg_add]
    · rw [List.map_cons, unitsOf_cons, unitsOf_cons]
      ring

theorem mirrorStocks_ok {ps : List String} (h : ps.foldlM mirrorStock db = .ok db') :
    StockChange db db' (fun _ => 0) (fun _ => 0)
      (fun p => if p ∈ ps then db.variantStock p - db.stockOfProduct p else 0) := by
  induction ps generalizing db with
  | nil =>
    obtain rfl := Except.ok.inj h
    exact (StockChange.refl db).congr (fun _ => rfl) (fun _ => rfl) fun p => by simp
  | cons q ps ih =>
    rw [List.foldlM_cons] at h
    obtain ⟨db₁, hturn, hrest⟩ := Except.bind_eq_ok h
    have hfirst : StockChange db db₁ (fun _ => 0) (fun _ => 0)
        (fun p => if p = q then db.variantStock q - db.stockOfProduct q else 0) := by
      rw [mirrorStock] at hturn
      split at hturn
      · cases hturn
      · rename_i product hfound
        obtain ⟨stock, hstock, hdb⟩ := Except.bind_eq_ok hturn
        obtain rfl := asInt32_ok hstock
        obtain rfl := Except.ok.inj hdb
        refine (setProduct_ok hfound _).congr (fun _ => rfl) (fun _ => rfl) fun p => ?_
        rw [stockOfProduct, hfound]
        rfl
    refine (hfirst.trans (ih hrest)).congr (fun _ => rfl) (fun _ => rfl) fun p => ?_
    have hsum := hfirst.sum p
    have hstock := hfirst.product p
    by_cases hp : p = q
    · subst hp
      rw [if_pos rfl] at hstock ⊢
      rw [if_pos (List.mem_cons_self ..)]
      split <;> omega
    · rw [if_neg hp] at hstock ⊢
      rw [zero_add]
      refine if_congr ⟨List.mem_cons_of_mem _, fun hmem => ?_⟩ (by omega) rfl
      exact (List.mem_cons.1 hmem).resolve_left hp

end ShopDb

/-! ### The mirror -/

variable {items : List ShopOrderItem}

theorem unitsOf_congr {f g : ShopOrderItem → ℤ} (h : ∀ item ∈ items, f item = g item) :
    unitsOf f items = unitsOf g items := by
  rw [unitsOf, unitsOf, List.map_congr_left h]

theorem unitsOf_eq_zero {f : ShopOrderItem → ℤ} (h : ∀ item ∈ items, f item = 0) :
    unitsOf f items = 0 := by
  rw [unitsOf_congr h, unitsOf]
  simp

def NamesOptions (db : ShopDb) (items : List ShopOrderItem) : Prop :=
  ∀ item ∈ items, item.variantId = none → ∀ p, item.productId = some p → db.variantsOf p = []

theorem NamesOptions.optionUnits_eq {db : ShopDb} (h : NamesOptions db items) {p : String}
    (hp : db.variantsOf p ≠ []) :
    unitsOf (·.optionUnits p) items = unitsOf (·.productUnits p) items := by
  refine unitsOf_congr fun item hitem => ?_
  rw [ShopOrderItem.optionUnits, ShopOrderItem.productUnits]
  refine if_congr ⟨And.right, fun hproduct => ⟨?_, hproduct⟩⟩ rfl rfl
  cases hv : item.variantId with
  | none => exact absurd (h item hitem hv p hproduct) hp
  | some variantId => rfl

namespace Mirrored

variable {db db' : ShopDb} {variant sum product : String → ℤ}

theorem eq (h : Mirrored db) {p : String} (hexists : (db.products p).isSome)
    (hp : db.variantsOf p ≠ []) : db.stockOfProduct p = db.variantStock p := by
  obtain ⟨found, hfound⟩ := Option.isSome_iff_exists.1 hexists
  rw [ShopDb.stockOfProduct, hfound]
  exact h p found hfound hp

theorem change (h : Mirrored db) (hchange : StockChange db db' variant sum product)
    (heq : ∀ p, db.variantsOf p ≠ [] → sum p = product p) : Mirrored db' := by
  intro p found hfound hp
  have hold : db.variantsOf p ≠ [] := fun hnil => hp ((hchange.shape.variantsOf p).2 hnil)
  have hexists : (db.products p).isSome := by
    rw [← hchange.shape.products, hfound]
    rfl
  have hstock := hchange.product p
  rw [ShopDb.stockOfProduct, hfound] at hstock
  rw [hchange.sum, ← h.eq hexists hold, heq p hold]
  exact hstock

end Mirrored

/-- **`reserveStock` on a mirrored catalogue** takes the units of the lines from the options and from
the products. -/
theorem ShopDb.reserveStock_ok {db db' : ShopDb} {rows : List CartRow}
    (hnodup : (db.variants.map (·.id)).Nodup)
    (hrefers : ∀ row ∈ rows, db.Refers (some row.item.productId) row.item.variantId)
    (hmirror : Mirrored db) (hnames : NamesOptions db (rows.map CartRow.orderItem))
    (h : db.reserveStock rows = .ok db') :
    StockChange db db' (fun v => -unitsOf (·.variantUnits v) (rows.map CartRow.orderItem))
      (fun p => -unitsOf (·.optionUnits p) (rows.map CartRow.orderItem))
      (fun p => -unitsOf (·.productUnits p) (rows.map CartRow.orderItem)) := by
  obtain ⟨reserved, hreserved, hmirrored⟩ := Except.bind_eq_ok h
  have hfirst := reserveLines_ok hnodup hrefers hreserved
  refine (hfirst.trans (mirrorStocks_ok hmirrored)).congr (fun _ => add_zero _)
    (fun _ => add_zero _) fun p => ?_
  have hsum := hfirst.sum p
  have hstock := hfirst.product p
  by_cases hp : p ∈ touchedProducts rows
  · rw [if_pos hp]
    obtain ⟨row, hrow, rfl⟩ := List.mem_map.1 (List.mem_eraseDups.1 hp)
    obtain ⟨hmem, hoption⟩ := List.mem_filter.1 hrow
    obtain ⟨variantId, hv⟩ := Option.isSome_iff_exists.1 hoption
    obtain ⟨p, hpid, howner⟩ := (hrefers row hmem).2 variantId hv
    obtain rfl := Option.some.inj hpid
    obtain ⟨variant, hfound, hproduct⟩ := Option.map_eq_some_iff.1 howner
    have hhas : db.variantsOf row.item.productId ≠ [] := by
      refine List.ne_nil_of_mem (List.mem_filter.2 ⟨(findVariant_some hfound).1, ?_⟩)
      exact decide_eq_true hproduct
    have heq := hmirror.eq ((hrefers row hmem).1 _ rfl) hhas
    have hunits := hnames.optionUnits_eq hhas
    omega
  · rw [if_neg hp, add_zero]
    have hzero : unitsOf (·.optionUnits p) (rows.map CartRow.orderItem) = 0 := by
      refine unitsOf_eq_zero fun item hitem => ?_
      obtain ⟨row, hrow, rfl⟩ := List.mem_map.1 hitem
      rw [ShopOrderItem.optionUnits, if_neg]
      rintro ⟨hoption, hproduct⟩
      refine hp (List.mem_eraseDups.2 (List.mem_map.2 ⟨row, ?_, Option.some.inj hproduct⟩))
      exact List.mem_filter.2 ⟨hrow, hoption⟩
    rw [hzero, sub_zero]

/-! ### Placing an order -/

theorem WellFormed.change {db db' : ShopDb} {variant sum product : String → ℤ} (h : WellFormed db)
    (hchange : StockChange db db' variant sum product) : WellFormed db' := by
  refine ⟨hchange.shape.ids ▸ h.variantIds, hchange.books ▸ h.orderIds, fun v hv => ?_,
    fun storeId item hitem => ?_, fun order horder item hitem => ?_⟩
  · have hpair : (v.id, v.productId) ∈ db'.variants.map fun v => (v.id, v.productId) :=
      List.mem_map_of_mem hv
    rw [hchange.shape.variants] at hpair
    obtain ⟨old, hold, heq⟩ := List.mem_map.1 hpair
    have hproduct : old.productId = v.productId := congrArg Prod.snd heq
    rw [hchange.shape.products, ← hproduct]
    exact h.owned old hold
  · exact hchange.shape.refers.2 (h.carts storeId item (hchange.carts ▸ hitem))
  · exact hchange.shape.refers.2 (h.orders order (hchange.books ▸ horder) item hitem)

variable {productId : String}

theorem WellFormed.setProduct {db : ShopDb} (h : WellFormed db) {found : ShopProduct}
    (hfound : db.products productId = some found) (product : ShopProduct) :
    WellFormed (db.setProduct productId product) := by
  have hshape : SameShape db (db.setProduct productId product) := by
    refine ⟨rfl, fun p => ?_⟩
    by_cases hp : p = productId
    · subst hp
      simp [ShopDb.setProduct, hfound]
    · simp [ShopDb.setProduct, hp]
  refine ⟨h.variantIds, h.orderIds, fun v hv => ?_,
    fun storeId item hitem => hshape.refers.2 (h.carts storeId item hitem),
    fun order horder item hitem => hshape.refers.2 (h.orders order horder item hitem)⟩
  rw [hshape.products]
  exact h.owned v hv

variable {request : CheckoutRequest}

theorem ShopBooks.bookOrder_ok {books books' : ShopBooks} {rows : List CartRow} {subtotal : Decimal}
    (h : books.bookOrder request rows subtotal = .ok books') :
    (∀ order ∈ books.orders, order.id ≠ request.orderId) ∧
      ∃ promo, books'.orders = books.orders ++ [newOrder request rows promo] := by
  rw [ShopBooks.bookOrder] at h
  split at h
  · obtain ⟨hfresh, rfl⟩ := ShopBooks.createOrder_ok h
    exact ⟨hfresh, none, rfl⟩
  · rename_i promo _
    obtain ⟨current, _, hcreated⟩ := Except.bind_eq_ok h
    obtain ⟨hfresh, rfl⟩ := ShopBooks.createOrder_ok hcreated
    exact ⟨hfresh, some promo, rfl⟩

theorem ShopDb.checkout_ok {db : ShopDb} {priced : List CartRow × PricingResult}
    (h : db.checkout request = .ok priced) :
    priced.1 = db.cartRows request.storeId ∧ ∀ row ∈ priced.1, db.lineProblem row = none := by
  rw [ShopDb.checkout] at h
  split at h
  · cases h
  · split at h
    · cases h
    · split at h
      · cases h
      · rename_i hproblem
        split at h
        · cases h
        · obtain rfl := Except.ok.inj h
          refine ⟨rfl, fun row hrow => ?_⟩
          have hnone := List.findSome?_eq_none_iff.1 hproblem row hrow
          exact Option.map_eq_none_iff.1 hnone

theorem ShopDb.mem_cartRows {db : ShopDb} {storeId : String} {row : CartRow}
    (h : row ∈ db.cartRows storeId) :
    row.item ∈ db.carts storeId ∧ row.variant = row.item.variantId.bind db.findVariant := by
  obtain ⟨item, hitem, hrow⟩ := List.mem_filterMap.1 h
  obtain ⟨product, _, rfl⟩ := Option.map_eq_some_iff.1 hrow
  exact ⟨hitem, rfl⟩

theorem ShopDb.lineProblem_none {db : ShopDb} {row : CartRow} (h : db.lineProblem row = none)
    (hvariant : row.variant = none) :
    (db.variantsOf row.item.productId).any (·.isActive) = false := by
  rw [ShopDb.lineProblem, evaluateLine, hvariant] at h
  split at h
  · cases h
  · split at h
    · cases h
    · split at h
      · cases h
      · rename_i hcount
        simpa [List.countP_eq_zero] using hcount

/-- No cart line of a product that has options, all of them switched off, leaves the option open. -/
def CartNamesOptions (db : ShopDb) (storeId : String) : Prop :=
  ∀ item ∈ db.carts storeId, item.variantId = none →
    db.variantsOf item.productId = [] ∨ (db.variantsOf item.productId).any (·.isActive) = true

theorem ShopDb.placeOrder_ok {db db' : ShopDb} (hwf : WellFormed db) (hmirror : Mirrored db)
    (hnames : CartNamesOptions db request.storeId) (h : db.placeOrder request = .ok db') :
    ∃ stocked promo, (∀ order ∈ db.orders, order.id ≠ request.orderId) ∧
      (NonNegative db → NonNegative stocked) ∧
      NamesOptions db ((db.cartRows request.storeId).map CartRow.orderItem) ∧
      StockChange (db.setCart request.storeId []) stocked
        (fun v => -unitsOf (·.variantUnits v) ((db.cartRows request.storeId).map CartRow.orderItem))
        (fun p => -unitsOf (·.optionUnits p) ((db.cartRows request.storeId).map CartRow.orderItem))
        (fun p => -unitsOf (·.productUnits p)
          ((db.cartRows request.storeId).map CartRow.orderItem)) ∧
      db'.products = stocked.products ∧ db'.variants = stocked.variants ∧
      db'.carts = stocked.carts ∧
      db'.orders = db.orders ++ [newOrder request (db.cartRows request.storeId) promo] := by
  obtain ⟨priced, hpriced, hrest⟩ := Except.bind_eq_ok h
  obtain ⟨stocked, hstocked, hrest⟩ := Except.bind_eq_ok hrest
  obtain ⟨books, hbooks, hdone⟩ := Except.bind_eq_ok hrest
  obtain rfl := Except.ok.inj hdone
  obtain ⟨hrows, hproblem⟩ := ShopDb.checkout_ok hpriced
  rw [hrows] at hstocked hbooks hproblem
  have hrefers : ∀ row ∈ db.cartRows request.storeId,
      db.Refers (some row.item.productId) row.item.variantId := fun row hrow =>
    hwf.carts request.storeId row.item (mem_cartRows hrow).1
  have hlines : NamesOptions db ((db.cartRows request.storeId).map CartRow.orderItem) := by
    rintro item hitem hv p hp
    obtain ⟨row, hrow, rfl⟩ := List.mem_map.1 hitem
    obtain rfl := Option.some.inj hp
    obtain ⟨hmem, hvariant⟩ := mem_cartRows hrow
    have hvid : row.item.variantId = none := hv
    rw [hvid] at hvariant
    have hinactive := lineProblem_none (hproblem row hrow) hvariant
    rcases hnames row.item hmem hvid with hnil | hactive
    · exact hnil
    · rw [hinactive] at hactive
      cases hactive
  have hchange : StockChange (db.setCart request.storeId []) stocked _ _ _ :=
    ShopDb.reserveStock_ok hwf.variantIds hrefers hmirror hlines hstocked
  obtain ⟨hfresh, promo, horders⟩ := ShopBooks.bookOrder_ok hbooks
  rw [hchange.books] at hfresh horders
  refine ⟨stocked, promo, hfresh, fun hnn => ?_, hlines, hchange, rfl, rfl, rfl, horders⟩
  have hclaimed : NonNegative (db.setCart request.storeId []) := ⟨hnn.variants, hnn.products⟩
  exact ShopDb.reserveStock_nonneg hclaimed hstocked

/-! ### Cancelling an order -/

variable {cancelledBy : ShopOrderCancelledBy} {orderId : String}

theorem ShopDb.cancel_ok {db db' : ShopDb} (hwf : WellFormed db)
    (h : db.cancel orderId cancelledBy = .ok db') :
    ∃ order stocked, db.findOrder orderId = some order ∧ order.status ∈ cancelledBy.allowedFrom ∧
      (NonNegative db → NonNegative stocked) ∧
      StockChange (db.withBooks (db.setStatus orderId .cancelled)) stocked
        (fun v => unitsOf (·.variantUnits v) order.items)
        (fun p => unitsOf (·.optionUnits p) order.items)
        (fun p => unitsOf (·.productUnits p) order.items) ∧
      db'.products = stocked.products ∧ db'.variants = stocked.variants ∧
      db'.carts = stocked.carts ∧ db'.orders = (db.setStatus orderId .cancelled).orders := by
  obtain ⟨flipped, hflipped, hrest⟩ := Except.bind_eq_ok h
  obtain ⟨stocked, hstocked, hdone⟩ := Except.bind_eq_ok hrest
  obtain rfl := Except.ok.inj hdone
  obtain ⟨hfound, hallowed, hbooks⟩ := ShopBooks.flipCancelled_ok hflipped
  rw [hbooks] at hstocked
  have hrefers := hwf.orders flipped.1 (ShopBooks.findOrder_some hfound).1
  have hchange : StockChange (db.withBooks (db.setStatus orderId .cancelled)) stocked _ _ _ :=
    restock_ok hwf.variantIds hrefers hstocked
  refine ⟨flipped.1, stocked, hfound, hallowed, fun hnn => ?_, hchange, rfl, rfl, rfl, ?_⟩
  · have hstart : NonNegative (db.withBooks (db.setStatus orderId .cancelled)) :=
      ⟨hnn.variants, hnn.products⟩
    exact Except.foldlM_keeps (fun _ _ _ hb hturn => restockItem_nonneg hb hturn) hstart hstocked
  · rw [ShopDb.withBooks_toShopBooks, ShopBooks.releaseHeld_orders, hchange.books]
    rfl

/-! ### The operations as actions -/

inductive ShopAction
  /-- whatever a merchant puts in the cart -/
  | setCart (storeId : String) (items : List ShopCartItem)
  | placeOrder (request : CheckoutRequest)
  | cancel (orderId : String) (cancelledBy : ShopOrderCancelledBy)
  | replaceVariants (productId : String) (variants : List ShopProductVariantInput)
  | updateProduct (productId : String) (stock : Option ℕ) (isVisible : Option Bool)

/-- Whether the references of a cart line exist, and belong together. -/
def ShopDb.admits (db : ShopDb) (item : ShopCartItem) : Bool :=
  (db.products item.productId).isSome &&
    item.variantId.all fun variantId => db.owner variantId = some item.productId

def committed (db : ShopDb) : Except ShopError ShopDb → ShopDb
  | .ok db' => db'
  | .error _ => db

def ShopAction.step (toLowerCase : String → String) (db : ShopDb) : ShopAction → ShopDb
  | .setCart storeId items =>
    if items.all db.admits then (db.setCart storeId items) else db
  | .placeOrder request => committed db (db.placeOrder request)
  | .cancel orderId cancelledBy => committed db (db.cancel orderId cancelledBy)
  | .replaceVariants productId variants =>
    committed db (db.replaceVariants toLowerCase productId variants)
  | .updateProduct productId stock isVisible =>
    committed db (db.updateProduct productId stock isVisible)

def ShopAction.isOrdering : ShopAction → Bool
  | .setCart _ _ | .placeOrder _ | .cancel _ _ => true
  | .replaceVariants _ _ | .updateProduct _ _ _ => false

def ListedOnce : List ShopProductVariantInput → Prop
  | [] => True
  | input :: inputs =>
    (∀ id, input.id = some id → id ∈ inputs.filterMap (·.id) → input.stock = 0) ∧
      ListedOnce inputs

/-- **An operation that keeps the mirror**: the cart names the options of products whose options are
all off, a cancelled order still names options, and none is listed twice with stock. -/
def KeepsMirror (db : ShopDb) : ShopAction → Prop
  | .placeOrder request => CartNamesOptions db request.storeId
  | .cancel orderId cancelledBy => ∀ order, db.findOrder orderId = some order →
      order.status ∈ cancelledBy.allowedFrom → NamesOptions db order.items
  | .replaceVariants _ variants => ListedOnce variants
  | .setCart _ _ | .updateProduct _ _ _ => True

/-! ### The invariant -/

structure ShopInv (db : ShopDb) : Prop where
  wellFormed : WellFormed db
  nonNegative : NonNegative db
  mirrored : Mirrored db

section Unchanged

variable {db db' : ShopDb} (hproducts : db'.products = db.products)
  (hvariants : db'.variants = db.variants)

include hproducts hvariants

theorem NonNegative.of_eq (h : NonNegative db) : NonNegative db' := by
  refine ⟨fun v hv => h.variants v (hvariants ▸ hv), fun p product hp => ?_⟩
  rw [hproducts] at hp
  exact h.products p product hp

theorem Mirrored.of_eq (h : Mirrored db) : Mirrored db' := by
  intro p product hp hhas
  rw [ShopDb.variantStock, ShopDb.variantsOf, hvariants]
  rw [hproducts] at hp
  rw [ShopDb.variantsOf, hvariants] at hhas
  exact h p product hp hhas

theorem refers_of_eq {productId variantId : Option String} :
    db'.Refers productId variantId ↔ db.Refers productId variantId := by
  rw [ShopDb.Refers, ShopDb.Refers, hproducts]
  simp only [ShopDb.owner, ShopDb.findVariant, hvariants]

end Unchanged

/-! ### Merchants keep the invariant -/

variable {db : ShopDb}

theorem ShopInv.setCart (h : ShopInv db) {storeId : String} {items : List ShopCartItem}
    (hadmits : items.all db.admits = true) : ShopInv (db.setCart storeId items) := by
  refine ⟨⟨h.wellFormed.variantIds, h.wellFormed.orderIds, h.wellFormed.owned,
    fun other item hitem => ?_, h.wellFormed.orders⟩, ⟨h.nonNegative.variants,
      h.nonNegative.products⟩, h.mirrored⟩
  rw [ShopDb.setCart_carts] at hitem
  split at hitem
  · have hitem' := List.all_eq_true.1 hadmits item hitem
    rw [ShopDb.admits, Bool.and_eq_true] at hitem'
    refine ⟨fun p hp => ?_, fun v hv => ⟨item.productId, rfl, ?_⟩⟩
    · obtain rfl := Option.some.inj hp
      exact hitem'.1
    · have howner := hitem'.2
      rw [hv] at howner
      exact of_decide_eq_true howner
  · exact h.wellFormed.carts other item hitem

variable {db' : ShopDb}

theorem ShopInv.placeOrder (h : ShopInv db) (hnames : CartNamesOptions db request.storeId)
    (hrun : db.placeOrder request = .ok db') : ShopInv db' := by
  obtain ⟨stocked, promo, hfresh, hnn, hlines, hchange, hproducts, hvariants, hcarts, horders⟩ :=
    ShopDb.placeOrder_ok h.wellFormed h.mirrored hnames hrun
  have hclaimed : ShopInv (db.setCart request.storeId []) := h.setCart rfl
  have hwf := hclaimed.wellFormed.change hchange
  refine ⟨⟨hvariants ▸ hwf.variantIds, ?_, fun v hv => ?_, fun storeId item hitem => ?_,
    fun order horder item hitem => ?_⟩, (hnn h.nonNegative).of_eq hproducts hvariants, ?_⟩
  · rw [horders]
    exact KeyedRows.nodup_concat ShopOrder.id h.wellFormed.orderIds hfresh
  · rw [hproducts]
    exact hwf.owned v (hvariants ▸ hv)
  · exact (refers_of_eq hproducts hvariants).2 (hwf.carts storeId item (hcarts ▸ hitem))
  · refine (refers_of_eq hproducts hvariants).2 (hchange.shape.refers.2 ?_)
    rw [horders] at horder
    rcases Ledger.mem_concat.1 horder with hold | hnew
    · exact h.wellFormed.orders order hold item hitem
    · rw [hnew] at hitem
      obtain ⟨row, hrow, rfl⟩ := List.mem_map.1 hitem
      exact h.wellFormed.carts request.storeId row.item (ShopDb.mem_cartRows hrow).1
  · refine Mirrored.of_eq hproducts hvariants (hclaimed.mirrored.change hchange fun p hp => ?_)
    rw [hlines.optionUnits_eq hp]

theorem ShopInv.cancel (h : ShopInv db) (hkeeps : KeepsMirror db (.cancel orderId cancelledBy))
    (hrun : db.cancel orderId cancelledBy = .ok db') : ShopInv db' := by
  obtain ⟨order, stocked, hfound, hallowed, hnn, hchange, hproducts, hvariants, hcarts, horders⟩ :=
    ShopDb.cancel_ok h.wellFormed hrun
  have hlines := hkeeps order hfound hallowed
  have hflipped : ShopInv (db.withBooks (db.setStatus orderId .cancelled)) := by
    refine ⟨⟨h.wellFormed.variantIds, ?_, h.wellFormed.owned, h.wellFormed.carts,
      fun other hother item hitem => ?_⟩, ⟨h.nonNegative.variants, h.nonNegative.products⟩,
        h.mirrored⟩
    · rw [ShopDb.withBooks_toShopBooks, ShopBooks.setStatus_ids]
      exact h.wellFormed.orderIds
    · obtain ⟨old, hold, hitems⟩ := ShopBooks.mem_setStatus hother
      exact h.wellFormed.orders old hold item (hitems ▸ hitem)
  have hwf := hflipped.wellFormed.change hchange
  refine ⟨⟨hvariants ▸ hwf.variantIds, ?_, fun v hv => ?_, fun storeId item hitem => ?_,
    fun other hother item hitem => ?_⟩, (hnn h.nonNegative).of_eq hproducts hvariants, ?_⟩
  · rw [horders, ShopBooks.setStatus_ids]
    exact h.wellFormed.orderIds
  · rw [hproducts]
    exact hwf.owned v (hvariants ▸ hv)
  · exact (refers_of_eq hproducts hvariants).2 (hwf.carts storeId item (hcarts ▸ hitem))
  · refine (refers_of_eq hproducts hvariants).2 (hwf.orders other ?_ item hitem)
    rw [hchange.books, ShopDb.withBooks_toShopBooks, ← horders]
    exact hother
  · refine Mirrored.of_eq hproducts hvariants (hflipped.mirrored.change hchange fun p hp => ?_)
    exact hlines.optionUnits_eq hp

/-! ### Administrators keep the invariant -/

/-- What the stock that is already settled adds up to, while the options that are still to come are
left out. -/
def settledStock (db : ShopDb) (productId : String) (todo : List ShopProductVariantInput) : ℤ :=
  Ledger.total (·.stock) (fun v : ShopProductVariant =>
    v.productId = productId && v.id ∉ todo.filterMap (·.id)) db.variants

/-- What a turn of the loop over the listed options keeps. -/
structure VariantsWritten (productId : String) (db db' : ShopDb) : Prop where
  books : db'.toShopBooks = db.toShopBooks
  carts : db'.carts = db.carts
  products : db'.products = db.products
  ids : (db.variants.map (·.id)).Nodup → (db'.variants.map (·.id)).Nodup
  owner : ∀ v p, db.owner v = some p → db'.owner v = some p
  variants : ∀ variant ∈ db'.variants, 0 ≤ variant.stock ∧ variant.productId = productId ∨
    ∃ old ∈ db.variants, old.stock = variant.stock ∧ old.productId = variant.productId
  others : ∀ p, p ≠ productId → db'.variantsOf p = db.variantsOf p

theorem VariantsWritten.refl (productId : String) (db : ShopDb) : VariantsWritten productId db db :=
  ⟨rfl, rfl, rfl, id, fun _ _ h => h, fun v hv => Or.inr ⟨v, hv, rfl, rfl⟩, fun _ _ => rfl⟩

theorem VariantsWritten.trans {db'' : ShopDb} (h : VariantsWritten productId db db')
    (h' : VariantsWritten productId db' db'') : VariantsWritten productId db db'' := by
  refine ⟨h'.books.trans h.books, h'.carts.trans h.carts, h'.products.trans h.products,
    fun hn => h'.ids (h.ids hn), fun v p hp => h'.owner v p (h.owner v p hp), fun v hv => ?_,
    fun p hp => (h'.others p hp).trans (h.others p hp)⟩
  rcases h'.variants v hv with hnew | ⟨old, hold, hstock, hproduct⟩
  · exact Or.inl hnew
  · rcases h.variants old hold with ⟨hpos, hpid⟩ | ⟨older, holder, hstock', hproduct'⟩
    · exact Or.inl ⟨hstock ▸ hpos, hproduct ▸ hpid⟩
    · exact Or.inr ⟨older, holder, hstock'.trans hstock, hproduct'.trans hproduct⟩

theorem filter_change {variants : List ShopProductVariant} {id p : String}
    {f : ShopProductVariant → ShopProductVariant} (hf : ∀ v, (f v).productId = v.productId)
    (h : ∀ v ∈ variants, v.id = id → v.productId ≠ p) :
    (KeyedRows.change ShopProductVariant.id id f variants).filter (fun v => v.productId = p) =
      variants.filter fun v => v.productId = p := by
  induction variants with
  | nil => rfl
  | cons v variants ih =>
    have hrest := ih fun other hother => h other (List.mem_cons_of_mem _ hother)
    rw [KeyedRows.change] at hrest
    rw [KeyedRows.change, List.map_cons, List.filter_cons, List.filter_cons, hrest]
    by_cases hv : v.id = id
    · have hne := h v (List.mem_cons_self ..) hv
      rw [if_pos hv, hf, if_neg (by simpa using hne), if_neg (by simpa using hne)]
    · rw [if_neg hv]

theorem ShopDb.writeVariant_ok {input : ShopProductVariantInput}
    {todo : List ShopProductVariantInput} (hnodup : (db.variants.map (·.id)).Nodup)
    (howned : ∀ id ∈ (input :: todo).filterMap (·.id), db.owner id = some productId)
    (honce : ∀ id, input.id = some id → id ∈ todo.filterMap (·.id) → input.stock = 0)
    (h : db.writeVariant productId input = .ok db') :
    VariantsWritten productId db db' ∧
      settledStock db' productId todo = settledStock db productId (input :: todo) + input.stock := by
  rw [ShopDb.writeVariant] at h
  cases hid : input.id with
  | some id =>
    rw [hid] at h
    dsimp only at h
    split at h
    · cases h
    · obtain rfl := Except.ok.inj h
      let f : ShopProductVariant → ShopProductVariant := fun v => input.row v.id v.productId
      have hidf : ∀ v, (f v).id = v.id := fun _ => rfl
      have howner := howned id (by simp [hid])
      obtain ⟨variant, hfound, hproduct⟩ := Option.map_eq_some_iff.1 howner
      have hlook : KeyedRows.lookup ShopProductVariant.id id db.variants = some variant := hfound
      have hof : ∀ v ∈ db.variants, v.id = id → v = variant := by
        intro v hv hvid
        have hself := KeyedRows.lookup_of_mem ShopProductVariant.id hnodup hv
        rw [hvid, hlook] at hself
        exact (Option.some.inj hself).symm
      refine ⟨⟨rfl, rfl, rfl, fun hn => ?_, fun v p hp => ?_, fun v hv => ?_, fun p hp => ?_⟩, ?_⟩
      · exact (KeyedRows.map_key_change ShopProductVariant.id hidf db.variants).symm ▸ hn
      · obtain ⟨old, hold, hpid⟩ := Option.map_eq_some_iff.1 hp
        have hnew : (db.updateVariant id f).findVariant v = _ :=
          KeyedRows.lookup_change ShopProductVariant.id hidf db.variants
        have hold' : KeyedRows.lookup ShopProductVariant.id v db.variants = some old := hold
        rw [hold', Option.map_some] at hnew
        change ((db.updateVariant id f).findVariant v).map (·.productId) = some p
        rw [hnew, ← hpid]
        split <;> rfl
      · obtain ⟨old, hold, rfl⟩ := List.mem_map.1 hv
        split
        · rename_i hvid
          refine Or.inl ⟨Int.natCast_nonneg input.stock, ?_⟩
          exact (congrArg (·.productId) (hof old hold hvid)).trans hproduct
        · exact Or.inr ⟨old, hold, rfl, rfl⟩
      · refine filter_change (f := f) (fun _ => rfl) fun v hv hvid => ?_
        rw [hof v hv hvid, hproduct]
        exact Ne.symm hp
      · have hsel : ∀ v : ShopProductVariant,
            (decide (v.productId = productId) &&
              decide (v.id ∉ (input :: todo).filterMap (·.id))) =
            ((decide (v.productId = productId) && decide (v.id ∉ todo.filterMap (·.id))) &&
              decide (v.id ≠ id)) := by
          intro v
          rw [List.filterMap_cons, hid]
          simp only [List.mem_cons, not_or, Bool.decide_and]
          cases decide (v.productId = productId) with
          | false => rfl
          | true =>
            rw [Bool.true_and, Bool.true_and]
            exact Bool.and_comm ..
        have hnew : (db.updateVariant id f).findVariant id = some (f variant) := by
          have hchanged : KeyedRows.lookup ShopProductVariant.id id
              (KeyedRows.change ShopProductVariant.id id f db.variants) = _ :=
            KeyedRows.lookup_change ShopProductVariant.id hidf db.variants
          rw [hlook, Option.map_some, if_pos rfl] at hchanged
          exact hchanged
        have hnodup' : ((db.updateVariant id f).variants.map (·.id)).Nodup :=
          (KeyedRows.map_key_change ShopProductVariant.id hidf db.variants).symm ▸ hnodup
        have hsplit := KeyedRows.total_split ShopProductVariant.id (·.stock)
          (fun v : ShopProductVariant => decide (v.productId = productId) &&
            decide (v.id ∉ todo.filterMap (·.id))) (k := id) hnodup'
          (show KeyedRows.lookup ShopProductVariant.id id _ = some (f variant) from hnew)
        have hrest := KeyedRows.total_change_unselected ShopProductVariant.id
          (·.stock) (fun v : ShopProductVariant =>
            (decide (v.productId = productId) && decide (v.id ∉ todo.filterMap (·.id))) &&
              decide (v.id ≠ id)) (k := id) (f := f) db.variants
          (fun v _ hvid => by constructor <;> simp [f, ShopProductVariantInput.row, hvid])
        have hstock : (f variant).stock = input.stock := rfl
        have hpid : (f variant).productId = productId := hproduct
        have hvid : (f variant).id = id := (ShopDb.findVariant_some hfound).2
        change Ledger.total _ _ (db.updateVariant id f).variants = _
        rw [hsplit]
        change Ledger.total _ _ (KeyedRows.change ShopProductVariant.id id f db.variants) + _ = _
        rw [hrest, settledStock, funext hsel, hstock, hpid, hvid]
        by_cases hlater : id ∈ todo.filterMap (·.id)
        · rw [honce id hid hlater]
          simp
        · simp [hlater]
  | none =>
    rw [hid] at h
    dsimp only at h
    split at h
    · cases h
    · rename_i hfresh
      obtain rfl := Except.ok.inj h
      have hnone : db.findVariant input.newId = none := by simpa using hfresh
      have hnew : ∀ v ∈ db.variants, v.id ≠ input.newId :=
        (KeyedRows.lookup_none ShopProductVariant.id).1 hnone
      refine ⟨⟨rfl, rfl, rfl, fun hn => ?_, fun v p hp => ?_, fun v hv => ?_, fun p hp => ?_⟩, ?_⟩
      · exact KeyedRows.nodup_concat ShopProductVariant.id hn hnew
      · obtain ⟨old, hold, hpid⟩ := Option.map_eq_some_iff.1 hp
        have hfound : ShopDb.findVariant { db with
            variants := db.variants ++ [input.row input.newId productId] } v = some old := by
          rw [ShopDb.findVariant, List.find?_append]
          have hold' : db.variants.find? (fun w => w.id = v) = some old := hold
          rw [hold']
          rfl
        rw [ShopDb.owner, hfound, ← hpid]
        rfl
      · rcases Ledger.mem_concat.1 hv with hold | hadded
        · exact Or.inr ⟨v, hold, rfl, rfl⟩
        · rw [hadded]
          exact Or.inl ⟨Int.natCast_nonneg input.stock, rfl⟩
      · rw [ShopDb.variantsOf, List.filter_append]
        have hnil : [input.row input.newId productId].filter
            (fun v => decide (v.productId = p)) = [] := by
          simp [ShopProductVariantInput.row, Ne.symm hp]
        rw [hnil, List.append_nil]
        rfl
      · rw [settledStock, Ledger.total_concat, settledStock, List.filterMap_cons, hid]
        have hlater : input.newId ∉ todo.filterMap (·.id) := by
          intro hmem
          have howner := howned input.newId (by simpa [hid] using hmem)
          rw [ShopDb.owner, hnone] at howner
          cases howner
        congr 1
        rw [if_pos (by simp [ShopProductVariantInput.row, hlater])]
        rfl

variable {inputs : List ShopProductVariantInput}

theorem ShopDb.writeVariants_ok (hnodup : (db.variants.map (·.id)).Nodup)
    (howned : ∀ id ∈ inputs.filterMap (·.id), db.owner id = some productId)
    (honce : ListedOnce inputs)
    (h : inputs.foldlM (fun db input => ShopDb.writeVariant db productId input) db = .ok db') :
    VariantsWritten productId db db' ∧ db'.variantStock productId =
      settledStock db productId inputs + (inputs.map fun input => (input.stock : ℤ)).sum := by
  induction inputs generalizing db with
  | nil =>
    obtain rfl := Except.ok.inj h
    refine ⟨.refl productId db, ?_⟩
    have hall : settledStock db productId [] = db.variantStock productId :=
      Ledger.total_congr fun v _ => by simp
    rw [hall]
    simp
  | cons input inputs ih =>
    rw [List.foldlM_cons] at h
    obtain ⟨db₁, hturn, hrest⟩ := Except.bind_eq_ok h
    obtain ⟨hwritten, hsettled⟩ := ShopDb.writeVariant_ok hnodup howned honce.1 hturn
    obtain ⟨hlater, hstock⟩ := ih (hwritten.ids hnodup) (fun id hid =>
      hwritten.owner id productId (howned id (by
        rw [List.filterMap_cons]
        split
        · exact hid
        · exact List.mem_cons_of_mem _ hid))) honce.2 hrest
    refine ⟨hwritten.trans hlater, ?_⟩
    rw [hstock, hsettled, List.map_cons, List.sum_cons, add_assoc]

variable {toLowerCase : String → String}

theorem ShopDb.checkVariants_ok (hnodup : (db.variants.map (·.id)).Nodup)
    (h : db.checkVariants toLowerCase productId inputs = .ok ()) :
    (db.products productId).isSome ∧
      ∀ id ∈ inputs.filterMap (·.id), db.owner id = some productId := by
  rw [ShopDb.checkVariants] at h
  split at h
  · cases h
  · rename_i hproduct
    split at h
    · cases h
    · split at h
      · cases h
      · split at h
        · cases h
        · rename_i hbelongs
          refine ⟨Option.isSome_iff_ne_none.2 (by simpa using hproduct), fun id hid => ?_⟩
          obtain ⟨input, hinput, hinputId⟩ := List.mem_filterMap.1 hid
          have hsome : ∃ variant ∈ db.variantsOf productId, variant.id = id := by
            by_contra hnone
            refine hbelongs (List.any_eq_true.2 ⟨input, hinput, ?_⟩)
            rw [hinputId, Option.any_some, List.all_eq_true]
            exact fun variant hv => decide_eq_true fun heq => hnone ⟨variant, hv, heq⟩
          obtain ⟨variant, hv, rfl⟩ := hsome
          obtain ⟨hmem, hpid⟩ := List.mem_filter.1 hv
          have hfound : db.findVariant variant.id = some variant :=
            KeyedRows.lookup_of_mem ShopProductVariant.id hnodup hmem
          rw [ShopDb.owner, hfound, Option.map_some, of_decide_eq_true hpid]

theorem ShopDb.deleteVariants_owner (hnodup : (db.variants.map (·.id)).Nodup)
    {keepIds : List String} {v p : String} (howner : db.owner v = some p)
    (hkept : db.drops productId keepIds v = false) :
    (db.deleteVariants productId keepIds).owner v = some p := by
  obtain ⟨variant, hfound, hpid⟩ := Option.map_eq_some_iff.1 howner
  obtain ⟨hmem, rfl⟩ := ShopDb.findVariant_some hfound
  have hstays : variant ∈ (db.deleteVariants productId keepIds).variants :=
    List.mem_filter.2 ⟨hmem, by rw [hkept]; rfl⟩
  have hnodup' : ((db.deleteVariants productId keepIds).variants.map (·.id)).Nodup :=
    (List.filter_sublist.map _).nodup hnodup
  have hfound' : (db.deleteVariants productId keepIds).findVariant variant.id = some variant :=
    KeyedRows.lookup_of_mem ShopProductVariant.id hnodup' hstays
  rw [ShopDb.owner, hfound', ← hpid]
  rfl

theorem ShopDb.deleteVariants_refers (hnodup : (db.variants.map (·.id)).Nodup)
    {keepIds : List String} {p v : Option String} (hrefers : db.Refers p v)
    (hkept : v.any (db.drops productId keepIds) = false) :
    (db.deleteVariants productId keepIds).Refers p v := by
  refine ⟨hrefers.1, fun variantId hv => ?_⟩
  obtain ⟨q, hq, howner⟩ := hrefers.2 variantId hv
  rw [hv] at hkept
  exact ⟨q, hq, ShopDb.deleteVariants_owner hnodup howner hkept⟩

theorem WellFormed.owner (h : WellFormed db) {variant : ShopProductVariant}
    (hv : variant ∈ db.variants) : db.owner variant.id = some variant.productId := by
  have hfound : db.findVariant variant.id = some variant :=
    KeyedRows.lookup_of_mem ShopProductVariant.id h.variantIds hv
  rw [ShopDb.owner, hfound]
  rfl

theorem ShopDb.deleteVariants_ok (hwf : WellFormed db) (hnn : NonNegative db) (productId : String)
    (keepIds : List String) :
    WellFormed (db.deleteVariants productId keepIds) ∧
      NonNegative (db.deleteVariants productId keepIds) ∧
      (∀ variant ∈ (db.deleteVariants productId keepIds).variants,
        variant.productId = productId → variant.id ∈ keepIds) ∧
      ∀ p, p ≠ productId → (db.deleteVariants productId keepIds).variantsOf p = db.variantsOf p := by
  refine ⟨⟨(List.filter_sublist.map _).nodup hwf.variantIds, ?_, fun v hv => ?_,
    fun storeId item hitem => ?_, fun order horder item hitem => ?_⟩,
    ⟨fun v hv => hnn.variants v (List.mem_filter.1 hv).1, hnn.products⟩,
    fun v hv hpid => ?_, fun p hp => ?_⟩
  · rw [ShopDb.deleteVariants, List.map_map]
    exact hwf.orderIds
  · exact hwf.owned v (List.mem_filter.1 hv).1
  · obtain ⟨hmem, hkept⟩ := List.mem_filter.1 hitem
    rw [Bool.not_eq_true'] at hkept
    exact ShopDb.deleteVariants_refers hwf.variantIds (hwf.carts storeId item hmem) hkept
  · obtain ⟨old, hold, rfl⟩ := List.mem_map.1 horder
    obtain ⟨line, hline, rfl⟩ := List.mem_map.1 hitem
    have hrefers := hwf.orders old hold line hline
    by_cases hdrop : line.variantId.any (db.drops productId keepIds) = true
    · dsimp only
      rw [if_pos hdrop]
      exact ⟨hrefers.1, fun _ hv => nomatch hv⟩
    · dsimp only
      rw [if_neg hdrop]
      exact ShopDb.deleteVariants_refers hwf.variantIds hrefers (Bool.eq_false_iff.2 hdrop)
  · obtain ⟨hmem, hkept⟩ := List.mem_filter.1 hv
    rw [ShopDb.drops, hwf.owner hmem, hpid] at hkept
    simpa using hkept
  · rw [ShopDb.variantsOf, ShopDb.deleteVariants, List.filter_filter]
    refine List.filter_congr fun v hv => ?_
    by_cases hvp : v.productId = p
    · have hkept : db.drops productId keepIds v.id = false := by
        rw [ShopDb.drops, hwf.owner hv, hvp]
        simp [hp]
      simp [hvp, hkept]
    · simp [hvp]

theorem ListedOnce.clean (h : ListedOnce inputs) :
    ListedOnce (inputs.map ShopProductVariantInput.clean) := by
  induction inputs with
  | nil => trivial
  | cons input inputs ih =>
    refine ⟨fun id hid hmem => h.1 id hid ?_, ih h.2⟩
    rw [List.filterMap_map] at hmem
    exact hmem

theorem ShopInv.replaceVariants (h : ShopInv db) {variants : List ShopProductVariantInput}
    (honce : ListedOnce variants)
    (hrun : db.replaceVariants toLowerCase productId variants = .ok db') : ShopInv db' := by
  obtain ⟨_, hcheck, hrest⟩ := Except.bind_eq_ok hrun
  obtain ⟨written, hwritten, hset⟩ := Except.bind_eq_ok hrest
  clear hrun hrest
  generalize hinputs : variants.map ShopProductVariantInput.clean = inputs at hcheck hwritten hset
  obtain ⟨hproduct, howned⟩ := ShopDb.checkVariants_ok h.wellFormed.variantIds hcheck
  obtain ⟨hwf, hnn, honly, hothers⟩ := ShopDb.deleteVariants_ok h.wellFormed h.nonNegative
    productId (inputs.filterMap (·.id))
  have howned' : ∀ id ∈ inputs.filterMap (·.id),
      (db.deleteVariants productId (inputs.filterMap (·.id))).owner id = some productId := by
    intro id hid
    refine ShopDb.deleteVariants_owner h.wellFormed.variantIds (howned id hid) ?_
    rw [ShopDb.drops, decide_eq_false (not_not_intro hid), Bool.false_and]
  obtain ⟨hv, hstock⟩ := ShopDb.writeVariants_ok hwf.variantIds howned' (hinputs ▸ honce.clean)
    hwritten
  -- everything that is left of the product's options is listed
  have hsettled : settledStock (db.deleteVariants productId (inputs.filterMap (·.id))) productId
      inputs = 0 := by
    refine Ledger.total_eq_zero fun v hv => ?_
    by_cases hpid : v.productId = productId
    · simpa [hpid] using honly v hv hpid
    · simp [hpid]
  rw [hsettled, zero_add] at hstock
  have hproducts : written.products = db.products := hv.products
  have hwf' : WellFormed written := by
    refine ⟨hv.ids hwf.variantIds, hv.books ▸ hwf.orderIds, fun v hmem => ?_,
      fun storeId item hitem => ?_, fun order horder item hitem => ?_⟩
    · rw [hproducts]
      rcases hv.variants v hmem with ⟨_, hpid⟩ | ⟨old, hold, _, hpid⟩
      · rw [hpid]
        exact hproduct
      · rw [← hpid]
        exact hwf.owned old hold
    · obtain ⟨hp, ho⟩ := hwf.carts storeId item (hv.carts ▸ hitem)
      refine ⟨fun p hpe => hproducts ▸ hp p hpe, fun v hve => ?_⟩
      obtain ⟨p, hpe, howner⟩ := ho v hve
      exact ⟨p, hpe, hv.owner v p howner⟩
    · obtain ⟨hp, ho⟩ := hwf.orders order (hv.books ▸ horder) item hitem
      refine ⟨fun p hpe => hproducts ▸ hp p hpe, fun v hve => ?_⟩
      obtain ⟨p, hpe, howner⟩ := ho v hve
      exact ⟨p, hpe, hv.owner v p howner⟩
  have hnn' : NonNegative written := by
    refine ⟨fun v hmem => ?_, fun p product hp => ?_⟩
    · rcases hv.variants v hmem with ⟨hpos, _⟩ | ⟨old, hold, hs, _⟩
      · exact hpos
      · exact hs ▸ hnn.variants old hold
    · rw [hproducts] at hp
      exact h.nonNegative.products p product hp
  have helse : ∀ p product, p ≠ productId → written.products p = some product →
      written.variantsOf p ≠ [] → product.stock = written.variantStock p := by
    intro p product hp hfound hhas
    have hsame : written.variantsOf p = db.variantsOf p := (hv.others p hp).trans (hothers p hp)
    rw [hproducts] at hfound
    rw [ShopDb.variantStock, hsame]
    exact h.mirrored p product hfound (hsame ▸ hhas)
  rw [ShopDb.setListedStock] at hset
  split at hset
  · rename_i hnil
    obtain rfl := Except.ok.inj hset
    refine ⟨hwf', hnn', fun p product hfound hhas => ?_⟩
    by_cases hp : p = productId
    · -- all the options are gone
      subst hp hnil
      obtain rfl := Except.ok.inj hwritten
      obtain ⟨v, hmem⟩ := List.exists_mem_of_ne_nil _ hhas
      obtain ⟨hmem, hpid⟩ := List.mem_filter.1 hmem
      exact absurd (honly v hmem (of_decide_eq_true hpid)) List.not_mem_nil
    · exact helse p product hp hfound hhas
  · split at hset
    · cases hset
    · rename_i product hfound
      obtain rfl := Except.ok.inj hset
      refine ⟨hwf'.setProduct hfound _, ShopDb.setProduct_nonneg hnn' ?_,
        fun p other hother hhas => ?_⟩
      · refine List.sum_nonneg fun stock hmem => ?_
        obtain ⟨input, _, rfl⟩ := List.mem_map.1 hmem
        exact Int.natCast_nonneg input.stock
      · by_cases hp : p = productId
        · subst hp
          have hself : (written.setProduct p { product with
              stock := (inputs.map fun input => (input.stock : ℤ)).sum }).products p = some _ :=
            Function.update_self ..
          rw [hself] at hother
          obtain rfl := Option.some.inj hother
          exact hstock.symm
        · have hsame := (Function.update_of_ne hp _ _).symm.trans hother
          exact helse p other hp hsame hhas

theorem ShopInv.updateProduct (h : ShopInv db) {stock : Option ℕ} {isVisible : Option Bool}
    (hrun : db.updateProduct productId stock isVisible = .ok db') : ShopInv db' := by
  rw [ShopDb.updateProduct] at hrun
  split at hrun
  · cases hrun
  · rename_i product hfound
    split at hrun
    · cases hrun
    · rename_i hallowed
      obtain rfl := Except.ok.inj hrun
      have hnonneg := h.nonNegative.products productId product hfound
      -- the stock of a product with options stays what it is
      have hkept : db.variantsOf productId ≠ [] →
          (stock.map fun stock => (stock : ℤ)).getD product.stock = product.stock := by
        intro hhas
        cases stock with
        | none => rfl
        | some stock => simpa [hhas] using hallowed
      refine ⟨h.wellFormed.setProduct hfound _, ShopDb.setProduct_nonneg h.nonNegative ?_,
        fun p other hother hhas => ?_⟩
      · cases stock with
        | none => exact hnonneg
        | some stock => exact Int.natCast_nonneg stock
      · by_cases hp : p = productId
        · subst hp
          have hself : (db.setProduct p { product with
              stock := (stock.map fun stock => (stock : ℤ)).getD product.stock
              isVisible := isVisible.getD product.isVisible }).products p = some _ :=
            Function.update_self ..
          rw [hself] at hother
          obtain rfl := Option.some.inj hother
          exact (hkept hhas).trans (h.mirrored p product hfound hhas)
        · have hsame := (Function.update_of_ne hp _ _).symm.trans hother
          exact h.mirrored p other hsame hhas

theorem ShopInv.step (h : ShopInv db) {action : ShopAction} (hkeeps : KeepsMirror db action) :
    ShopInv (action.step toLowerCase db) := by
  have hcommit : ∀ {result : Except ShopError ShopDb}, (∀ db', result = .ok db' → ShopInv db') →
      ShopInv (committed db result) := by
    intro result hok
    cases result with
    | ok db' => exact hok db' rfl
    | error error => exact h
  cases action with
  | setCart storeId items =>
    rw [ShopAction.step]
    split
    · exact h.setCart ‹_›
    · exact h
  | placeOrder request => exact hcommit fun db' hrun => h.placeOrder hkeeps hrun
  | cancel orderId cancelledBy => exact hcommit fun db' hrun => h.cancel hkeeps hrun
  | replaceVariants productId variants =>
    exact hcommit fun db' hrun => h.replaceVariants hkeeps hrun
  | updateProduct productId stock isVisible => exact hcommit fun db' hrun => h.updateProduct hrun

/-! ### Stock and orders together -/

def ShopOrder.isLive (order : ShopOrder) : Bool := order.status ≠ .cancelled

def ShopDb.othersHold (db : ShopDb) (orderId : String) (units : ShopOrderItem → ℤ) : ℤ :=
  Ledger.total (fun order => unitsOf units order.items)
    (fun order : ShopOrder => order.isLive && order.id ≠ orderId) db.orders

def ShopDb.held (db : ShopDb) (units : ShopOrderItem → ℤ) : ℤ :=
  Ledger.total (fun order => unitsOf units order.items) ShopOrder.isLive db.orders

theorem ShopDb.othersHold_eq (h : ∀ order ∈ db.orders, order.id = orderId → order.isLive = false) :
    db.othersHold orderId units = db.held units := by
  refine Ledger.total_congr fun order horder => ?_
  by_cases hid : order.id = orderId
  · rw [h order horder hid, Bool.false_and]
  · simp [hid]

/-- What is in stock and what the orders hold add up to the same. -/
structure Conserved (db db' : ShopDb) : Prop where
  variant : ∀ v, db'.stockOfVariant v + db'.held (·.variantUnits v) =
    db.stockOfVariant v + db.held (·.variantUnits v)
  product : ∀ p, db'.stockOfProduct p + db'.held (·.productUnits p) =
    db.stockOfProduct p + db.held (·.productUnits p)

theorem Conserved.refl (db : ShopDb) : Conserved db db := ⟨fun _ => rfl, fun _ => rfl⟩

theorem Conserved.trans {db'' : ShopDb} (h : Conserved db db') (h' : Conserved db' db'') :
    Conserved db db'' :=
  ⟨fun v => (h'.variant v).trans (h.variant v), fun p => (h'.product p).trans (h.product p)⟩

theorem ShopDb.stockOfVariant_of_eq (h : db'.variants = db.variants) (v : String) :
    db'.stockOfVariant v = db.stockOfVariant v := by
  rw [ShopDb.stockOfVariant, ShopDb.findVariant, h]
  rfl

theorem ShopDb.stockOfProduct_of_eq (h : db'.products = db.products) (p : String) :
    db'.stockOfProduct p = db.stockOfProduct p := by
  rw [ShopDb.stockOfProduct, h]
  rfl

theorem Conserved.placeOrder (h : ShopInv db) (hnames : CartNamesOptions db request.storeId)
    (hrun : db.placeOrder request = .ok db') : Conserved db db' := by
  obtain ⟨stocked, promo, _, _, _, hchange, hproducts, hvariants, _, horders⟩ :=
    ShopDb.placeOrder_ok h.wellFormed h.mirrored hnames hrun
  have hheld : ∀ units, db'.held units = db.held units +
      unitsOf units ((db.cartRows request.storeId).map CartRow.orderItem) := by
    intro units
    rw [ShopDb.held, horders, Ledger.total_concat]
    exact congrArg _ (if_pos rfl)
  refine ⟨fun v => ?_, fun p => ?_⟩
  · rw [ShopDb.stockOfVariant_of_eq hvariants, hchange.variant, hheld]
    change db.stockOfVariant v + _ + _ = _
    ring
  · rw [ShopDb.stockOfProduct_of_eq hproducts, hchange.product, hheld]
    change db.stockOfProduct p + _ + _ = _
    ring

theorem isLive_of_allowedFrom {order : ShopOrder} (h : order.status ∈ cancelledBy.allowedFrom) :
    order.isLive = true := by
  rw [ShopOrder.isLive, decide_eq_true_eq]
  intro heq
  rw [heq] at h
  cases cancelledBy <;> simp [ShopOrderCancelledBy.allowedFrom] at h

theorem Conserved.cancel (h : ShopInv db) (hrun : db.cancel orderId cancelledBy = .ok db') :
    Conserved db db' := by
  obtain ⟨order, stocked, hfound, hallowed, _, hchange, hproducts, hvariants, _, horders⟩ :=
    ShopDb.cancel_ok h.wellFormed hrun
  have hheld : ∀ units, db'.held units + unitsOf units order.items = db.held units := by
    intro units
    have htotal := KeyedRows.total_change ShopOrder.id
      (fun order => unitsOf units order.items) ShopOrder.isLive
      (f := fun order => { order with status := .cancelled }) h.wellFormed.orderIds
      (show KeyedRows.lookup ShopOrder.id orderId db.orders = some order from hfound)
    have hdead : ShopOrder.isLive { order with status := .cancelled } = false := rfl
    rw [if_pos (isLive_of_allowedFrom hallowed), hdead, if_neg Bool.false_ne_true,
      add_zero] at htotal
    rw [ShopDb.held, horders]
    exact htotal
  refine ⟨fun v => ?_, fun p => ?_⟩
  · rw [ShopDb.stockOfVariant_of_eq hvariants, hchange.variant, ← hheld]
    change db.stockOfVariant v + _ + _ = _
    ring
  · rw [ShopDb.stockOfProduct_of_eq hproducts, hchange.product, ← hheld]
    change db.stockOfProduct p + _ + _ = _
    ring

theorem Conserved.step (h : ShopInv db) {action : ShopAction} (hordering : action.isOrdering = true)
    (hkeeps : KeepsMirror db action) : Conserved db (action.step toLowerCase db) := by
  have hcommit : ∀ {result : Except ShopError ShopDb}, (∀ db', result = .ok db' →
      Conserved db db') → Conserved db (committed db result) := by
    intro result hok
    cases result with
    | ok db' => exact hok db' rfl
    | error error => exact .refl db
  cases action with
  | setCart storeId items =>
    rw [ShopAction.step]
    split <;> exact ⟨fun _ => rfl, fun _ => rfl⟩
  | placeOrder request => exact hcommit fun db' hrun => .placeOrder h hkeeps hrun
  | cancel orderId cancelledBy => exact hcommit fun db' hrun => .cancel h hrun
  | replaceVariants productId variants => cases hordering
  | updateProduct productId stock isVisible => cases hordering

theorem Conserved.run (h : ShopInv db) {acts : List ShopAction}
    (hordering : ∀ action ∈ acts, action.isOrdering = true)
    (halong : Machine.Along (ShopAction.step toLowerCase) KeepsMirror db
      acts) : Conserved db (Machine.run (ShopAction.step toLowerCase) db acts) := by
  induction acts generalizing db with
  | nil => exact .refl db
  | cons action acts ih =>
    obtain ⟨hkeeps, hrest⟩ := halong
    have hfirst : Conserved db (action.step toLowerCase db) :=
      .step h (hordering action (List.mem_cons_self ..)) hkeeps
    exact hfirst.trans (ih (h.step hkeeps)
      (fun other hother => hordering other (List.mem_cons_of_mem _ hother)) hrest)

/-! ### The stock of the shop -/

/-- What two states have in stock, when the one comes after an order that was placed and cancelled
and the other is from before: only what other orders took or gave back meanwhile differs. -/
structure Restored (orderId : String) (before after : ShopDb) : Prop where
  variant : ∀ v, after.stockOfVariant v + after.othersHold orderId (·.variantUnits v) =
    before.stockOfVariant v + before.othersHold orderId (·.variantUnits v)
  product : ∀ p, after.stockOfProduct p + after.othersHold orderId (·.productUnits p) =
    before.stockOfProduct p + before.othersHold orderId (·.productUnits p)

theorem restored_of_cancel {placed restored : ShopDb} (h : ShopInv db) {others : List ShopAction}
    (halong : Machine.Along (ShopAction.step toLowerCase) KeepsMirror db
      (.placeOrder request :: others)) (hplaced : db.placeOrder request = .ok placed)
    (hordering : ∀ action ∈ others, action.isOrdering = true)
    (hrestored : (Machine.run (ShopAction.step toLowerCase) placed others).cancel request.orderId
      cancelledBy = .ok restored) : Restored request.orderId db restored := by
  obtain ⟨hnames, hlater⟩ := halong
  have hstep : ShopAction.step toLowerCase db (.placeOrder request) = placed := by
    rw [ShopAction.step, hplaced, committed]
  rw [hstep] at hlater
  have hplacedInv := h.placeOrder hnames hplaced
  have hreached := Machine.run_keeps_along (I := ShopInv) (fun _ _ hdb => hdb.step) hplacedInv
    hlater
  have hconserved := ((Conserved.placeOrder h hnames hplaced).trans
    (.run hplacedInv hordering hlater)).trans (.cancel hreached hrestored)
  -- the order itself holds nothing, neither before nor after
  obtain ⟨_, _, hfresh, _⟩ := ShopDb.placeOrder_ok h.wellFormed h.mirrored hnames hplaced
  obtain ⟨_, _, _, _, _, _, _, _, _, horders⟩ := ShopDb.cancel_ok hreached.wellFormed hrestored
  have hbefore : ∀ order ∈ db.orders, order.id = request.orderId → order.isLive = false :=
    fun order horder hid => absurd hid (hfresh order horder)
  have hafter : ∀ order ∈ restored.orders, order.id = request.orderId → order.isLive = false := by
    intro order horder hid
    rw [horders] at horder
    obtain ⟨old, _, rfl⟩ := List.mem_map.1 horder
    by_cases hold : old.id = request.orderId
    · rw [if_pos hold]
      rfl
    · rw [if_neg hold] at hid
      exact absurd hid hold
  refine ⟨fun v => ?_, fun p => ?_⟩
  · rw [ShopDb.othersHold_eq _ hbefore, ShopDb.othersHold_eq _ hafter]
    exact hconserved.variant v
  · rw [ShopDb.othersHold_eq _ hbefore, ShopDb.othersHold_eq _ hafter]
    exact hconserved.product p

/-- **Stock in the shop.**  In every run of operations that keep the mirror, no stock is ever
negative, the stock of a product with options is the sum of theirs, and an order that is placed and
later cancelled, with only merchants at work in between, gives back exactly what it took. -/
theorem shop_stock (toLowerCase : String → String) {db : ShopDb} (hwf : WellFormed db)
    (hnn : NonNegative db) (hmirror : Mirrored db) {acts : List ShopAction}
    (halong : Machine.Along (ShopAction.step toLowerCase) KeepsMirror db acts) :
    NonNegative (Machine.run (ShopAction.step toLowerCase) db acts) ∧
      Mirrored (Machine.run (ShopAction.step toLowerCase) db acts) ∧
      ∀ earlier request others cancelledBy later placed restored,
        acts = earlier ++ .placeOrder request :: others ++ .cancel request.orderId cancelledBy ::
          later →
        (Machine.run (ShopAction.step toLowerCase) db earlier).placeOrder request = .ok placed →
        (∀ action ∈ others, action.isOrdering = true) →
        (Machine.run (ShopAction.step toLowerCase) placed others).cancel request.orderId
          cancelledBy = .ok restored →
        Restored request.orderId (Machine.run (ShopAction.step toLowerCase) db earlier)
          restored := by
  have hinv : ShopInv db := ⟨hwf, hnn, hmirror⟩
  have hreached := Machine.run_keeps_along (I := ShopInv) (fun _ _ hdb => hdb.step) hinv halong
  refine ⟨hreached.nonNegative, hreached.mirrored, ?_⟩
  rintro earlier request others cancelledBy later placed restored rfl hplaced hordering hrestored
  obtain ⟨hbefore, _⟩ := Machine.Along.append.1 halong
  obtain ⟨hearlier, hthese⟩ := Machine.Along.append.1 hbefore
  exact restored_of_cancel (Machine.run_keeps_along (I := ShopInv) (fun _ _ hdb => hdb.step) hinv
    hearlier) hthese hplaced hordering hrestored

def tshirts : ShopDb :=
  { products := fun productId =>
      if productId = "tshirt" then some { name := "T-shirt", stock := 5 } else none
    variants := [{ id := "medium", productId := "tshirt", size := some "M", stock := 5 }] }

def twoTshirts : ShopCartItem :=
  { id := "line", productId := "tshirt", variantId := some "medium", quantity := 2
    quantity_pos := pair_pos }

theorem tshirts_wellFormed : WellFormed tshirts := by
  refine ⟨by decide, by decide, fun v hv => ?_, fun _ _ h => absurd h List.not_mem_nil,
    fun _ h => absurd h List.not_mem_nil⟩
  rw [List.mem_singleton.1 hv]
  rfl

theorem tshirts_nonNegative : NonNegative tshirts := by
  refine ⟨by decide, fun p product hp => ?_⟩
  rw [tshirts] at hp
  dsimp only at hp
  split at hp
  · obtain rfl := Option.some.inj hp
    decide
  · cases hp

theorem tshirts_mirrored : Mirrored tshirts := by
  intro p product hp _
  rw [tshirts] at hp
  dsimp only at hp
  split at hp
  · rename_i hpid
    obtain rfl := Option.some.inj hp
    rw [hpid]
    decide
  · cases hp

def orderAndCancel : List ShopAction :=
  [.setCart "store" [twoTshirts], .placeOrder { storeId := "store", orderId := "order" },
    .cancel "order" .merchant]

theorem shop_stock_tshirts :
    let reached := Machine.run (ShopAction.step id) tshirts orderAndCancel
    NonNegative reached ∧ Mirrored reached ∧ reached.stockOfProduct "tshirt" = 5 := by
  intro reached
  have halong : Machine.Along (ShopAction.step id) KeepsMirror tshirts orderAndCancel := by
    refine ⟨trivial, fun item hitem hnone => ?_, fun order horder _ item hitem hnone => ?_, trivial⟩
    · have hnamed : ∀ item ∈ (ShopAction.step id tshirts (.setCart "store" [twoTshirts])).carts
          "store", item.variantId ≠ none := by decide +kernel
      exact absurd hnone (hnamed item hitem)
    · have hnamed : ∀ order ∈ (Machine.run (ShopAction.step id) tshirts
          (orderAndCancel.take 2)).orders, ∀ item ∈ order.items, item.variantId ≠ none := by
        decide +kernel
      exact absurd hnone (hnamed order (ShopBooks.findOrder_some horder).1 item hitem)
  have hstock := shop_stock id tshirts_wellFormed tshirts_nonNegative tshirts_mirrored halong
  exact ⟨hstock.1, hstock.2.1, by decide +kernel⟩

/-- Two are ordered, the option gives way to another, and then the order is cancelled. -/
def orderOfDeletedOption : List ShopAction :=
  [.setCart "store" [twoTshirts], .placeOrder { storeId := "store", orderId := "order" },
    .replaceVariants "tshirt" [{ newId := "large", size := some "L", stock := 7 }],
    .cancel "order" .merchant]

/-- **The product gets back what its options do not**: nine against seven. -/
theorem shop_stock_unmirrored :
    ¬ ∀ (toLowerCase : String → String) (db : ShopDb), WellFormed db → NonNegative db →
      Mirrored db → ∀ acts, Mirrored (Machine.run (ShopAction.step toLowerCase) db acts) := by
  intro h
  have hmirror := h id tshirts tshirts_wellFormed tshirts_nonNegative tshirts_mirrored
    orderOfDeletedOption
  have heq := hmirror.eq (p := "tshirt") (by decide +kernel) (by decide +kernel)
  revert heq
  decide +kernel

end Zomaal.Shop
