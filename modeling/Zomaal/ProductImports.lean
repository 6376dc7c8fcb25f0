/-
**Products that are imported from a platform.**

A product is read in the shape of its platform, and then fitted to Zomaal's limits: texts are
trimmed and cut, a variant with the values of an earlier one is dropped, and a SKU that an earlier
variant has is cleared.

Main results:

* `productImports` — **what is kept of a product**.
-/

import Zomaal.JsonValues
import Zomaal.NumberTexts

set_option autoImplicit false

namespace Zomaal.ProductImports

open JsText

structure ImportedVariant where
  optionValues : List String := []
  sku : Option String := none
  barcode : Option String := none
  price : Decimal
  costPrice : Option Decimal := none
  stock : Option ℤ := none

structure ImportedProduct where
  externalId : String
  name : String
  description : Option String
  imageUrl : Option String := none
  options : List String
  variants : List ImportedVariant

/-! ### Reading -/

/-- `Math.round(parsed * 10000) / 10000`, where it is finite. -/
def toAmount (value : Json) : Option Decimal :=
  let parsed := match value with
    | .number text => number text
    | .string text => if trim text = "" then none else number text
    | _ => none
  parsed.map fun parsed => (⌊parsed * 10000 + 1 / 2⌋ : ℚ) / 10000

def toCount : Json → Option ℤ
  | .number text => (number text).map fun value => value.num.tdiv value.den
  | _ => none

structure ShopifyVariant where
  sku : Option String
  barcode : Option String
  price : String
  inventoryQuantity : Option ℤ
  /-- Names and values. -/
  selectedOptions : List (String × String)

structure ShopifyProduct where
  legacyResourceId : String
  title : String
  description : String
  hasOnlyDefaultVariant : Bool
  featuredImage : Option String
  /-- Positions and names. -/
  options : List (ℤ × String)
  variants : List ShopifyVariant
  hasNextPage : Bool

/-- Without `finalize`, like the other two. -/
def fromShopifyProduct (product : ShopifyProduct) : Except String ImportedProduct :=
  if product.hasNextPage then .error "Products with more than 100 variants cannot be imported"
  else
    let options := if product.hasOnlyDefaultVariant then []
      else (product.options.mergeSort fun a b => a.1 ≤ b.1).map Prod.snd
    .ok
      { externalId := product.legacyResourceId
        name := product.title
        description := some product.description
        imageUrl := product.featuredImage
        options
        variants := product.variants.map fun variant =>
          { optionValues := options.map fun name => (variant.selectedOptions.lookup name).getD ""
            sku := variant.sku
            barcode := variant.barcode
            price := (toAmount (.string variant.price)).getD 0
            stock := variant.inventoryQuantity } }

def text (record : Json) (key : String) : Option String := (record.field key).optionalString

def amount (record : Json) (key : String) : Option Decimal := toAmount (record.field key)

/-- `Object.entries(asRecord(value))` -/
def entries : Json → List (String × Json)
  | .object entries => entries
  | .array items => items.zipIdx.map fun (item, index) => (toString index, item)
  | _ => []

/-- `asRecord(value)[name]` -/
def property (value : Json) (name : String) : Json :=
  match value, name with
  | .array items, "length" => .number (toString items.length)
  | value, name => ((entries value).lookup name).getD .null

def fromYouCanProduct (product : Json) : Except String ImportedProduct :=
  match text product "id" with
  | none => .error "YouCan product has no id"
  | some externalId =>
    let rawVariants := (product.field "variants").items
    let first := rawVariants.headD .null
    let hasVariants :=
      !(product.field "has_variants" matches .boolean false) && 1 < rawVariants.length
    let declared := (product.field "variant_options").items.filterMap (text · "name")
    let options := if !hasVariants then [] else if declared ≠ [] then declared
      else (entries (first.field "variations")).map Prod.fst
    .ok
      { externalId
        name := (text product "name").getD ("Product " ++ externalId)
        description := text product "description"
        imageUrl := text product "thumbnail"
        options
        variants :=
          if hasVariants then rawVariants.map fun variant =>
            { optionValues := options.map fun name =>
                (property (variant.field "variations") name).optionalString.getD ""
              sku := text variant "sku"
              barcode := text variant "barcode"
              price := ((amount variant "price").or (amount product "price")).getD 0
              costPrice := (amount variant "cost_price").or (amount product "cost_price")
              stock := toCount (variant.field "inventory") }
          else
            [{ sku := (text first "sku").or (text product "sku")
               barcode := (text first "barcode").or (text product "barcode")
               price := ((amount product "price").or (amount first "price")).getD 0
               costPrice := (amount product "cost_price").or (amount first "cost_price")
               stock := (toCount (product.field "inventory")).or
                 (toCount (first.field "inventory")) }] }

def fromLightfunnelsProduct (product : Json) : Except String ImportedProduct :=
  match text product "id" with
  | none => .error "Lightfunnels product has no id"
  | some externalId =>
    let rawVariants := (product.field "variants").items
    let multi : Bool := 1 < rawVariants.length
    .ok
      { externalId
        name := (text product "title").getD ("Product " ++ externalId)
        description := text product "description"
        options := if multi then ["Variant"] else []
        variants :=
          if rawVariants.isEmpty then [{ price := (amount product "price").getD 0 }]
          else rawVariants.mapIdx fun index variant =>
            { optionValues :=
                if multi then [(text variant "title").getD s!"Variant {index + 1}"] else []
              sku := text variant "sku"
              price := ((amount variant "price").or (amount product "price")).getD 0 } }

/-! ### Fitting -/

/-- `value.slice(0, max)`; half of a character is dropped. -/
def slice (max : ℕ) : List Char → List Char
  | [] => []
  | c :: cs =>
    let units := if c.toNat < 65536 then 1 else 2
    if units ≤ max then c :: slice (max - units) cs else []

def clip (value : String) (max : ℕ) : String :=
  trim (String.ofList (slice max (trim value).toList))

def orText (value fallback : String) : String := if value = "" then fallback else value

def ImportedVariant.fitted (variant : ImportedVariant) : ImportedVariant :=
  { variant with
    optionValues := variant.optionValues.map fun value => orText (clip value 50) "Default"
    sku := truthy ((truthy variant.sku).map (clip · 100))
    barcode := truthy (variant.barcode.map trim)
    price := max 0 variant.price
    costPrice := variant.costPrice.map (max 0) }

section Lower

variable (lower : String → String)

def ImportedVariant.combination (variant : ImportedVariant) : String :=
  "\x00".intercalate (variant.optionValues.map lower)

structure Pushed where
  seenSkus : List String := []
  seenCombinations : List String := []
  variants : List ImportedVariant := []

/-- One turn of the loop in `finalize`. -/
def Pushed.push (s : Pushed) (variant : ImportedVariant) : Pushed :=
  let fitted := variant.fitted
  if fitted.combination lower ∈ s.seenCombinations then s
  else
    let sku := fitted.sku.filter fun sku => lower sku ∉ s.seenSkus
    { seenSkus := s.seenSkus ++ (sku.map lower).toList
      seenCombinations := s.seenCombinations ++ [fitted.combination lower]
      variants := s.variants ++ [{ fitted with sku }] }

def finalize (product : ImportedProduct) : Except String ImportedProduct :=
  if 3 < product.options.length then .error "Products with more than 3 options cannot be imported"
  else if 100 < product.variants.length then
    .error "Products with more than 100 variants cannot be imported"
  else if product.variants.isEmpty then .error "Product has no variants"
  else
    .ok
      { product with
        name := orText (clip product.name 255) ("Product " ++ product.externalId)
        description := truthy (product.description.map trim)
        options := product.options.mapIdx fun index name =>
          orText (clip name 50) s!"Option {index + 1}"
        variants := (product.variants.foldl (Pushed.push lower) {}).variants }

inductive PlatformProduct
  | shopify (product : ShopifyProduct)
  | youCan (raw : Json)
  | lightfunnels (raw : Json)

def PlatformProduct.read : PlatformProduct → Except String ImportedProduct
  | .shopify product => fromShopifyProduct product
  | .youCan raw => fromYouCanProduct raw
  | .lightfunnels raw => fromLightfunnelsProduct raw

def PlatformProduct.imported (product : PlatformProduct) : Except String ImportedProduct :=
  product.read >>= finalize lower

/-! ### What is expected -/

/-- Every variant is kept, where `kept` is what should be kept of it. -/
structure Keeps (kept : ImportedVariant → ImportedVariant) (read : List ImportedVariant)
    (imported : List ImportedVariant) : Prop where
  length : imported.length = read.length
  each : ∀ before variant after, read = before ++ variant :: after →
    ∃ found, imported[before.length]? = some found ∧
      found.price = (kept variant).price ∧ found.stock = (kept variant).stock ∧
      found.sku = (kept variant).sku.filter fun sku =>
        ∀ other ∈ before, (kept other).sku.map lower ≠ some (lower sku)

structure Distinct (variants : List ImportedVariant) : Prop where
  combinations : (variants.map fun variant => variant.optionValues.map lower).Nodup
  skus : (variants.filterMap fun variant => variant.sku.map lower).Nodup

structure ImportsAll (read imported : ImportedProduct) : Prop where
  keeps : (read.variants.map fun variant =>
      variant.optionValues.map fun value => lower (trim value)).Nodup →
    Keeps lower (fun variant => { variant with sku := truthy (variant.sku.map trim) })
      read.variants imported.variants
  distinct : Distinct lower imported.variants
  names : imported.options.Nodup

end Lower

/-! ### One turn of the loop -/

variable {lower : String → String} {s : Pushed} {variant : ImportedVariant}

/-- What the loop has pushed is what it has seen, each once. -/
structure Inv (lower : String → String) (s : Pushed) : Prop where
  combinations : s.seenCombinations = s.variants.map (ImportedVariant.combination lower)
  skus : s.seenSkus = s.variants.filterMap fun variant => variant.sku.map lower
  once : s.seenCombinations.Nodup
  skusOnce : s.seenSkus.Nodup

theorem Inv.push (h : Inv lower s) (variant : ImportedVariant) :
    Inv lower (s.push lower variant) := by
  rw [Pushed.push]
  split
  · exact h
  · rename_i hnew
    refine ⟨?_, ?_, List.nodup_append_comm.1 (List.nodup_cons.2 ⟨hnew, h.once⟩), ?_⟩
    · rw [h.combinations, List.map_append]
      rfl
    · rw [h.skus, List.filterMap_append]
      dsimp only
      cases variant.fitted.sku.filter _ <;> rfl
    · cases hsku : variant.fitted.sku.filter fun sku => lower sku ∉ s.seenSkus with
      | none => simpa using h.skusOnce
      | some sku =>
        have hfresh := of_decide_eq_true (Option.filter_eq_some_iff.1 hsku).2
        exact List.nodup_append_comm.1 (List.nodup_cons.2 ⟨hfresh, h.skusOnce⟩)

theorem Inv.distinct (h : Inv lower s) : Distinct lower s.variants := by
  refine ⟨List.Nodup.of_map ("\x00".intercalate ·) ?_, h.skus ▸ h.skusOnce⟩
  rw [List.map_map]
  exact h.combinations ▸ h.once

/-! ### The whole loop -/

variable {read : List ImportedVariant}

/-- What the loop has seen of variants whose values differ. -/
structure Seen (lower : String → String) (read : List ImportedVariant) (s : Pushed) : Prop where
  combinations : s.seenCombinations = read.map fun variant => variant.fitted.combination lower
  skus : ∀ key, key ∈ s.seenSkus ↔ ∃ other ∈ read, other.fitted.sku.map lower = some key
  length : s.variants.length = read.length

theorem Seen.push (h : Seen lower read s)
    (hnew : variant.fitted.combination lower ∉ s.seenCombinations) :
    Seen lower (read ++ [variant]) (s.push lower variant) := by
  rw [Pushed.push]
  simp only [if_neg hnew]
  refine ⟨by simp [h.combinations], fun key => ?_, by simp [h.length]⟩
  simp only [List.mem_append, List.mem_singleton, or_and_right, exists_or, exists_eq_left, ← h.skus]
  cases variant.fitted.sku with
  | none => simp
  | some sku =>
    by_cases hold : lower sku ∈ s.seenSkus
    · have hkept : lower sku = key → key ∈ s.seenSkus := fun heq => heq ▸ hold
      simpa [Option.filter_some, hold] using hkept
    · simp [Option.filter_some, hold, eq_comm]

theorem loop_seen (hdiffer : (read.map fun variant => variant.fitted.combination lower).Nodup) :
    Seen lower read (read.foldl (Pushed.push lower) {}) := by
  induction read using List.reverseRecOn with
  | nil => exact ⟨rfl, by simp, rfl⟩
  | append_singleton read variant ih =>
    rw [List.map_append, List.nodup_append] at hdiffer
    rw [List.foldl_concat]
    refine (ih hdiffer.1).push fun hmem => ?_
    rw [(ih hdiffer.1).combinations] at hmem
    exact hdiffer.2.2 _ hmem _ (List.mem_singleton_self _) rfl

theorem foldl_push_variants (after : List ImportedVariant) (s : Pushed) :
    s.variants <+: (after.foldl (Pushed.push lower) s).variants := by
  induction after generalizing s with
  | nil => exact List.prefix_rfl
  | cons variant after ih =>
    refine List.IsPrefix.trans ?_ (ih (s.push lower variant))
    rw [Pushed.push]
    split
    · exact List.prefix_rfl
    · exact List.prefix_append _ _

theorem keeps_of_differ
    (hdiffer : (read.map fun variant => variant.fitted.combination lower).Nodup) :
    Keeps lower ImportedVariant.fitted read (read.foldl (Pushed.push lower) {}).variants := by
  refine ⟨(loop_seen hdiffer).length, fun before variant after hread => ?_⟩
  subst hread
  rw [List.map_append, List.nodup_append] at hdiffer
  have hseen := loop_seen hdiffer.1
  have hnew : variant.fitted.combination lower ∉
      (before.foldl (Pushed.push lower) {}).seenCombinations := fun hmem =>
    hdiffer.2.2 _ (hseen.combinations ▸ hmem) _ List.mem_cons_self rfl
  rw [List.foldl_append, List.foldl_cons]
  obtain ⟨later, hlater⟩ := foldl_push_variants after
    ((before.foldl (Pushed.push lower) {}).push lower variant)
  rw [← hlater, Pushed.push, ← hseen.length]
  generalize before.foldl (Pushed.push lower) {} = s at *
  simp only [if_neg hnew]
  refine ⟨{ variant.fitted with
    sku := variant.fitted.sku.filter fun sku => lower sku ∉ s.seenSkus }, by simp, rfl, rfl, ?_⟩
  refine congrArg variant.fitted.sku.filter (funext fun sku => decide_eq_decide.2 ?_)
  rw [hseen.skus]
  simp

theorem loop_inv (read : List ImportedVariant) :
    Inv lower (read.foldl (Pushed.push lower) {}) := by
  induction read using List.reverseRecOn with
  | nil => exact ⟨rfl, rfl, List.nodup_nil, List.nodup_nil⟩
  | append_singleton read variant ih =>
    rw [List.foldl_concat]
    exact ih.push variant

theorem finalize_variants {read imported : ImportedProduct}
    (h : finalize lower read = .ok imported) :
    imported.variants = (read.variants.foldl (Pushed.push lower) {}).variants := by
  rw [finalize] at h
  split_ifs at h
  exact Except.ok.inj h ▸ rfl

def lowerAscii (text : String) : String := String.ofList (text.toList.map Char.toLower)

/-- A lamp that has no size and a negative price, and one of the size `Default`. -/
def lamps : PlatformProduct :=
  .youCan (.object [("id", .string "lamp"),
    ("variant_options", .array [.object [("name", .string "Size")]]),
    ("variants", .array [.object [("price", .number "-1")],
      .object [("variations", .object [("Size", .string "Default")])]])])

end Zomaal.ProductImports
