/-
**The variants of a product.**

A request lists options, such as sizes and colours, and supplies the variants, in any order and any
spelling; `prepareProduct` finds for each combination of values the variant that was supplied for
it, by a key: the values of the combination, joined by a separator.

Main results:

* `ProductVariants.productVariants` — **which requests are accepted**.
-/

import Zomaal.Barcodes
import Zomaal.KeyedRows

set_option autoImplicit false

namespace Zomaal.ProductVariants

open JsText (trim truthy)

/-! ### Combinations -/

section Combinations

variable {α β : Type*} {groups : List (List α)}

/-- **The combinations of one element of each group**, in lexicographic order. -/
def combinations : List (List α) → List (List α)
  | [] => [[]]
  | group :: groups => group.flatMap fun value => (combinations groups).map (value :: ·)

theorem mem_combinations {c : List α} :
    c ∈ combinations groups ↔ List.Forall₂ (· ∈ ·) c groups := by
  induction groups generalizing c with
  | nil => simp [combinations]
  | cons group groups ih =>
    rw [combinations, List.mem_flatMap]
    constructor
    · rintro ⟨value, hvalue, hc⟩
      obtain ⟨rest, hrest, rfl⟩ := List.mem_map.1 hc
      exact .cons hvalue (ih.1 hrest)
    · rintro (_ | ⟨hvalue, hrest⟩)
      exact ⟨_, hvalue, List.mem_map_of_mem (ih.2 hrest)⟩

theorem map_combinations (f : α → β) (groups : List (List α)) :
    (combinations groups).map (List.map f) = combinations (groups.map (List.map f)) := by
  induction groups with
  | nil => rfl
  | cons group groups ih =>
    rw [combinations, List.map_cons, combinations, ← ih, List.map_flatMap, List.flatMap_map]
    simp only [List.map_map, Function.comp_def, List.map_cons]

theorem nodup_combinations (h : ∀ group ∈ groups, group.Nodup) : (combinations groups).Nodup := by
  induction groups with
  | nil => exact List.nodup_singleton _
  | cons group groups ih =>
    obtain ⟨hgroup, hgroups⟩ := List.forall_mem_cons.1 h
    rw [combinations, List.nodup_flatMap]
    refine ⟨fun value _ => (ih hgroups).map fun _ _ heq => (List.cons.inj heq).2,
      hgroup.imp fun hne c hc hc' => ?_⟩
    obtain ⟨_, _, rfl⟩ := List.mem_map.1 hc
    obtain ⟨_, _, heq⟩ := List.mem_map.1 hc'
    exact hne (List.cons.inj heq).1.symm

theorem combinations_ne_nil (h : ∀ group ∈ groups, group ≠ []) : combinations groups ≠ [] := by
  induction groups with
  | nil => exact List.cons_ne_nil _ _
  | cons group groups ih =>
    obtain ⟨hgroup, hgroups⟩ := List.forall_mem_cons.1 h
    obtain ⟨value, hvalue⟩ := List.exists_mem_of_ne_nil _ hgroup
    obtain ⟨c, hc⟩ := List.exists_mem_of_ne_nil _ (ih hgroups)
    exact List.ne_nil_of_mem (List.mem_flatMap.2 ⟨value, hvalue, List.mem_map_of_mem hc⟩)

/-- `cartesian`: the combinations grow by one group after the other. -/
def cartesian (groups : List (List α)) : List (List α) :=
  groups.foldl (fun combinations group =>
    combinations.flatMap fun combination => group.map fun value => combination ++ [value]) [[]]

theorem cartesian_eq (groups : List (List α)) : cartesian groups = combinations groups := by
  have hfold : ∀ (groups : List (List α)) (begun : List (List α)),
      groups.foldl (fun combinations group => combinations.flatMap fun combination =>
        group.map fun value => combination ++ [value]) begun =
      begun.flatMap fun c => (combinations groups).map (c ++ ·) := by
    intro groups
    induction groups with
    | nil => simp [combinations]
    | cons group groups ih =>
      intro begun
      rw [List.foldl_cons, ih, List.flatMap_assoc]
      simp only [combinations, List.flatMap_map, List.map_flatMap, List.map_map,
        Function.comp_def, List.append_assoc, List.singleton_append]
  rw [cartesian, hfold]
  simp

end Combinations

/-! ### Requests -/

structure ProductOptionInputDto where
  name : String
  values : List String
  deriving DecidableEq

structure ProductVariantInputDto where
  optionValues : List String
  sku : Option String := none
  barcode : Option String := none
  barcodeType : Option Barcodes.InventoryBarcodeType := none
  price : Decimal
  costPrice : Option Decimal := none
  stockQuantity : ℕ
  lowStockAlertThreshold : Option ℕ := none
  imageUploadId : Option String := none
  deriving DecidableEq

structure PreparedVariant where
  optionValues : List String
  sku : Option String := none
  barcode : Option String := none
  barcodeType : Option Barcodes.InventoryBarcodeType := none
  price : Decimal
  costPrice : Decimal
  stockQuantity : ℕ
  lowStockAlertThreshold : ℕ
  imageUploadId : Option String := none
  deriving DecidableEq

/-- What `prepareProduct` reads of a request. -/
structure CreateWarehouseProductDto where
  basePrice : Decimal := 0
  costPrice : Decimal := 0
  stockQuantity : ℕ := 0
  lowStockAlertThreshold : Option ℕ := none
  sku : Option String := none
  barcode : Option String := none
  barcodeType : Option Barcodes.InventoryBarcodeType := none
  options : Option (List ProductOptionInputDto) := none
  variants : Option (List ProductVariantInputDto) := none

namespace CreateWarehouseProductDto

variable (dto : CreateWarehouseProductDto)

def optionList : List ProductOptionInputDto := dto.options.getD []

def variantList : List ProductVariantInputDto := dto.variants.getD []

def defaultVariant : PreparedVariant where
  optionValues := []
  sku := dto.sku
  barcode := dto.barcode
  barcodeType := dto.barcodeType
  price := dto.basePrice
  costPrice := dto.costPrice
  stockQuantity := dto.stockQuantity
  lowStockAlertThreshold := dto.lowStockAlertThreshold.getD 5

def complete (variant : ProductVariantInputDto) : PreparedVariant where
  optionValues := variant.optionValues
  sku := variant.sku
  barcode := variant.barcode
  barcodeType := variant.barcodeType
  price := variant.price
  costPrice := variant.costPrice.getD dto.costPrice
  stockQuantity := variant.stockQuantity
  lowStockAlertThreshold :=
    (variant.lowStockAlertThreshold <|> dto.lowStockAlertThreshold).getD 5
  imageUploadId := variant.imageUploadId

end CreateWarehouseProductDto

/-! ### `prepareProduct` -/

section Prepare

-- `toLocaleLowerCase('en-US')`
variable (lower : String → String)

def normalizeKey (value : String) : String := lower (trim value)

def combinationKey (values : List String) : String :=
  "\x1f".intercalate (values.map (normalizeKey lower))

def ProductOptionInputDto.tidy (option : ProductOptionInputDto) : ProductOptionInputDto :=
  { name := trim option.name, values := option.values.map trim }

def normalizeOptions (names : List String) :
    List ProductOptionInputDto → Except String (List ProductOptionInputDto)
  | [] => .ok []
  | option :: options => do
    let name := trim option.name
    let nameKey := normalizeKey lower name
    if nameKey ∈ names then .error "Option names must be unique"
    else do
      let values := option.values.map trim
      if (values.map (normalizeKey lower)).Nodup then do
        let rest ← normalizeOptions (nameKey :: names) options
        return { name, values } :: rest
      else .error s!"Option {name} contains duplicate values"

def canonicalValue (option : ProductOptionInputDto) (value : String) : Except String String :=
  match truthy (option.values.find? fun candidate =>
      normalizeKey lower candidate = normalizeKey lower value) with
  | some found => .ok found
  | none => .error s!"{value} is not valid for option {option.name}"

def canonicalValues : List ProductOptionInputDto → List String → Except String (List String)
  | option :: options, value :: values => do
    let found ← canonicalValue lower option value
    let rest ← canonicalValues options values
    return found :: rest
  | _, _ => .ok []

def suppliedEntry (options : List ProductOptionInputDto) (variant : ProductVariantInputDto) :
    Except String (String × ProductVariantInputDto) :=
  if variant.optionValues.length ≠ options.length then
    .error "Variant option value count does not match product options"
  else do
    let canonical ← canonicalValues lower options variant.optionValues
    return (combinationKey lower canonical, { variant with optionValues := canonical })

def supply (options : List ProductOptionInputDto)
    (supplied : List (String × ProductVariantInputDto)) (variant : ProductVariantInputDto) :
    Except String (List (String × ProductVariantInputDto)) := do
  let entry ← suppliedEntry lower options variant
  if entry.1 ∈ supplied.map Prod.fst then .error "Duplicate variant combination"
  else return supplied ++ [entry]

def variantOf (dto : CreateWarehouseProductDto)
    (supplied : List (String × ProductVariantInputDto)) (combination : List String) :
    Except String PreparedVariant :=
  match KeyedRows.lookup Prod.fst (combinationKey lower combination) supplied with
  | some entry => .ok (dto.complete entry.2)
  | none => .error ("Missing variant " ++ " / ".intercalate combination)

def prepareProduct (dto : CreateWarehouseProductDto) :
    Except String (List ProductOptionInputDto × List PreparedVariant) := do
  let options ← normalizeOptions lower [] dto.optionList
  if options = [] then
    if dto.variantList ≠ [] then .error "Variants require at least one product option"
    else return (options, [dto.defaultVariant])
  else do
    let combinations := cartesian (options.map (·.values))
    if 100 < combinations.length then
      .error "Product options generate more than 100 variants"
    else if dto.variants.map List.length ≠ some combinations.length then
      .error s!"Exactly {combinations.length} variant configurations are required"
    else do
      let supplied ← dto.variantList.foldlM (supply lower options) []
      let variants ← combinations.mapM (variantOf lower dto supplied)
      return (options, variants)

/-! ### What is expected -/

/-- The values of the options up to case and surrounding spaces, and those of the variants. -/
def optionKeys (dto : CreateWarehouseProductDto) : List (List String) :=
  dto.optionList.map fun option => option.values.map (normalizeKey lower)

def suppliedKeys (dto : CreateWarehouseProductDto) : List (List String) :=
  dto.variantList.map fun variant => variant.optionValues.map (normalizeKey lower)

/-- **A request as it should be**: the supplied variants are the combinations, up to case and
surrounding spaces. -/
structure Valid (dto : CreateWarehouseProductDto) : Prop where
  names : (dto.optionList.map fun option => normalizeKey lower option.name).Nodup
  values : ∀ values ∈ optionKeys lower dto, values.Nodup
  count : (combinations (optionKeys lower dto)).length ≤ 100
  variants : (suppliedKeys lower dto).Perm (combinations (optionKeys lower dto))

/-- **What is prepared as it should be**: the combinations in their order, each once, with the data
of its own variant. -/
structure Listed (dto : CreateWarehouseProductDto)
    (prepared : List ProductOptionInputDto × List PreparedVariant) : Prop where
  options : prepared.1 = dto.optionList.map ProductOptionInputDto.tidy
  order : prepared.2.map (·.optionValues) =
    combinations (dto.optionList.map fun option => option.values.map trim)
  once : (prepared.2.map fun p => p.optionValues.map (normalizeKey lower)).Nodup
  supplied : ∀ p ∈ prepared.2, ∃ variant ∈ dto.variantList,
    variant.optionValues.map (normalizeKey lower) = p.optionValues.map (normalizeKey lower)
  own : ∀ p ∈ prepared.2, ∀ variant ∈ dto.variantList,
    variant.optionValues.map (normalizeKey lower) = p.optionValues.map (normalizeKey lower) →
      p = dto.complete { variant with optionValues := p.optionValues }

/-- No value is blank, and no two combinations have the same values once these are joined. -/
structure Unambiguous (dto : CreateWarehouseProductDto) : Prop where
  nonblank : ∀ option ∈ dto.optionList, ∀ value ∈ option.values, trim value ≠ ""
  apart : ((combinations (optionKeys lower dto)).map ("\x1f".intercalate ·)).Nodup

end Prepare

/-! ### What an accepted request goes through -/

section Spec

variable {lower : String → String} {dto : CreateWarehouseProductDto}
  {options : List ProductOptionInputDto} {variant : ProductVariantInputDto}
  {variants : List ProductVariantInputDto} {canonical values : List String}
  {supplied entries : List (String × ProductVariantInputDto)}

@[simp] theorem normalizeKey_trim (value : String) :
    normalizeKey lower (trim value) = normalizeKey lower value := by
  rw [normalizeKey, normalizeKey, JsText.trim_trim]

theorem map_key_trim (values : List String) :
    (values.map trim).map (normalizeKey lower) = values.map (normalizeKey lower) := by
  rw [List.map_map]
  exact List.map_congr_left fun value _ => normalizeKey_trim value

theorem normalizeOptions_eq_ok {names : List String} {normalized : List ProductOptionInputDto} :
    normalizeOptions lower names options = .ok normalized ↔
      normalized = options.map ProductOptionInputDto.tidy ∧
        (options.map fun option => normalizeKey lower option.name).Nodup ∧
        (∀ option ∈ options, normalizeKey lower option.name ∉ names) ∧
        ∀ option ∈ options, (option.values.map (normalizeKey lower)).Nodup := by
  induction options generalizing names normalized with
  | nil => simp [normalizeOptions, eq_comm]
  | cons option options ih =>
    rw [normalizeOptions]
    simp only [normalizeKey_trim, map_key_trim]
    by_cases hname : normalizeKey lower option.name ∈ names
    · rw [if_pos hname]
      exact iff_of_false (fun h => nomatch h) fun h => h.2.2.1 option List.mem_cons_self hname
    rw [if_neg hname]
    by_cases hnodup : (option.values.map (normalizeKey lower)).Nodup
    · rw [if_pos hnodup]
      simp only [List.map_cons, List.nodup_cons, List.forall_mem_cons, List.mem_map, not_exists,
        not_and]
      constructor
      · intro h
        obtain ⟨rest, hrest, h⟩ := Except.bind_eq_ok h
        obtain rfl := Except.ok.inj h
        obtain ⟨rfl, hnames, hfree, hall⟩ := ih.1 hrest
        exact ⟨rfl, ⟨fun other hother heq => hfree other hother (heq ▸ List.mem_cons_self), hnames⟩,
          ⟨hname, fun other hother hin => hfree other hother (List.mem_cons_of_mem _ hin)⟩,
          hnodup, hall⟩
      · rintro ⟨rfl, ⟨hfirst, hnames⟩, ⟨-, hfree⟩, -, hall⟩
        rw [ih.2 ⟨rfl, hnames, fun other hother hin => ?_, hall⟩]
        · rfl
        · rcases List.mem_cons.1 hin with heq | hin
          · exact hfirst other hother heq
          · exact hfree other hother hin
    · rw [if_neg hnodup]
      exact iff_of_false (fun h => nomatch h) fun h => hnodup (h.2.2.2 option List.mem_cons_self)

theorem canonicalValue_ok {option : ProductOptionInputDto} {value found : String}
    (h : canonicalValue lower option value = .ok found) :
    found ∈ option.values ∧ normalizeKey lower found = normalizeKey lower value := by
  rw [canonicalValue] at h
  split at h
  · rename_i hfound
    obtain rfl := Except.ok.inj h
    have hfind := (JsText.truthy_some hfound).1
    exact ⟨List.mem_of_find?_eq_some hfind, by simpa using List.find?_some hfind⟩
  · cases h

theorem canonicalValues_ok (hlength : values.length = options.length)
    (h : canonicalValues lower options values = .ok canonical) :
    List.Forall₂ (fun found option => found ∈ option.values) canonical options ∧
      canonical.map (normalizeKey lower) = values.map (normalizeKey lower) := by
  induction options generalizing values canonical with
  | nil =>
    obtain rfl := List.eq_nil_of_length_eq_zero hlength
    obtain rfl := Except.ok.inj h
    exact ⟨.nil, rfl⟩
  | cons option options ih =>
    cases values with
    | nil => cases hlength
    | cons value values =>
      rw [canonicalValues] at h
      obtain ⟨found, hfound, h⟩ := Except.bind_eq_ok h
      obtain ⟨rest, hrest, h⟩ := Except.bind_eq_ok h
      obtain rfl := Except.ok.inj h
      obtain ⟨hin, hkey⟩ := canonicalValue_ok hfound
      obtain ⟨hall, hkeys⟩ := ih (Nat.succ.inj hlength) hrest
      exact ⟨.cons hin hall, congrArg₂ List.cons hkey hkeys⟩

theorem exists_canonicalValues (hnonblank : ∀ option ∈ options, "" ∉ option.values)
    (h : List.Forall₂ (· ∈ ·) (values.map (normalizeKey lower))
      (options.map fun option => option.values.map (normalizeKey lower))) :
    ∃ canonical, canonicalValues lower options values = .ok canonical := by
  induction options generalizing values with
  | nil => exact ⟨[], by cases values <;> rfl⟩
  | cons option options ih =>
    cases values with
    | nil => cases h
    | cons value values =>
      cases h with
      | cons hvalue hvalues =>
        obtain ⟨hfirst, hrest⟩ := List.forall_mem_cons.1 hnonblank
        obtain ⟨candidate, hin, hkey⟩ := List.mem_map.1 hvalue
        obtain ⟨rest, hcanonical⟩ := ih hrest hvalues
        cases hfind : option.values.find? fun candidate =>
            normalizeKey lower candidate = normalizeKey lower value with
        | none => exact absurd hkey (by simpa using List.find?_eq_none.1 hfind candidate hin)
        | some found =>
          have hne : found ≠ "" := fun heq => hfirst (heq ▸ List.mem_of_find?_eq_some hfind)
          refine ⟨found :: rest, ?_⟩
          rw [canonicalValues, canonicalValue, hfind, truthy, if_neg hne, hcanonical]
          rfl

structure EntryOf (lower : String → String) (options : List ProductOptionInputDto)
    (variant : ProductVariantInputDto) (entry : String × ProductVariantInputDto) : Prop where
  key : entry.1 = combinationKey lower entry.2.optionValues
  data : entry.2 = { variant with optionValues := entry.2.optionValues }
  combination : entry.2.optionValues ∈ combinations (options.map (·.values))
  same : entry.2.optionValues.map (normalizeKey lower) =
    variant.optionValues.map (normalizeKey lower)

theorem suppliedEntry_ok {entry : String × ProductVariantInputDto}
    (h : suppliedEntry lower options variant = .ok entry) :
    EntryOf lower options variant entry := by
  rw [suppliedEntry] at h
  split at h
  · cases h
  · rename_i hlength
    obtain ⟨canonical, hcanonical, h⟩ := Except.bind_eq_ok h
    obtain rfl := Except.ok.inj h
    obtain ⟨hall, hkeys⟩ := canonicalValues_ok (not_not.1 hlength) hcanonical
    exact ⟨rfl, rfl, mem_combinations.2 (List.forall₂_map_right_iff.2 hall), hkeys⟩

theorem exists_suppliedEntry (hnonblank : ∀ option ∈ options, "" ∉ option.values)
    (h : variant.optionValues.map (normalizeKey lower) ∈
      combinations (options.map fun option => option.values.map (normalizeKey lower))) :
    ∃ entry, suppliedEntry lower options variant = .ok entry := by
  have hall := mem_combinations.1 h
  have hlength := hall.length_eq
  rw [List.length_map, List.length_map] at hlength
  obtain ⟨canonical, hcanonical⟩ := exists_canonicalValues hnonblank hall
  exact ⟨_, by rw [suppliedEntry, if_neg (not_not.2 hlength), hcanonical]; rfl⟩

theorem supplyAll_ok {all : List (String × ProductVariantInputDto)}
    (h : variants.foldlM (supply lower options) supplied = .ok all)
    (hnodup : (supplied.map Prod.fst).Nodup) :
    ∃ entries, List.Forall₂ (fun variant entry => suppliedEntry lower options variant = .ok entry)
      variants entries ∧ all = supplied ++ entries ∧ (all.map Prod.fst).Nodup := by
  induction variants generalizing supplied with
  | nil =>
    obtain rfl := Except.ok.inj h
    exact ⟨[], .nil, (List.append_nil _).symm, hnodup⟩
  | cons variant variants ih =>
    rw [List.foldlM_cons] at h
    obtain ⟨next, hnext, h⟩ := Except.bind_eq_ok h
    obtain ⟨entry, hentry, hnext⟩ := Except.bind_eq_ok hnext
    split at hnext
    · cases hnext
    · rename_i hfresh
      obtain rfl := Except.ok.inj hnext
      obtain ⟨entries, hall, rfl, hnodup⟩ := ih h (KeyedRows.nodup_append Prod.fst hnodup hfresh)
      exact ⟨entry :: entries, .cons hentry hall, (List.append_cons ..).symm, hnodup⟩

theorem supplyAll_of_nodup
    (h : List.Forall₂ (fun variant entry => suppliedEntry lower options variant = .ok entry)
      variants entries) (hnodup : ((supplied ++ entries).map Prod.fst).Nodup) :
    variants.foldlM (supply lower options) supplied = .ok (supplied ++ entries) := by
  induction h generalizing supplied with
  | nil => simp [pure, Except.pure]
  | @cons variant entry variants entries hentry _ ih =>
    have hfresh : entry.1 ∉ supplied.map Prod.fst := by
      rw [List.map_append, List.map_cons, List.nodup_append] at hnodup
      exact fun hin => hnodup.2.2 _ hin _ List.mem_cons_self rfl
    rw [List.append_cons] at hnodup ⊢
    rw [List.foldlM_cons, supply, hentry]
    change (if entry.1 ∈ supplied.map Prod.fst then _ else _) >>= _ = _
    rw [if_neg hfresh]
    exact ih hnodup

/-! ### Accepted requests -/

def combinationsOf (dto : CreateWarehouseProductDto) : List (List String) :=
  combinations ((dto.optionList.map ProductOptionInputDto.tidy).map (·.values))

/-- **A request with options that is accepted**, with the map of its supplied variants. -/
structure Accepted (lower : String → String) (dto : CreateWarehouseProductDto)
    (entries : List (String × ProductVariantInputDto))
    (prepared : List ProductOptionInputDto × List PreparedVariant) : Prop where
  names : (dto.optionList.map fun option => normalizeKey lower option.name).Nodup
  values : ∀ option ∈ dto.optionList, (option.values.map (normalizeKey lower)).Nodup
  count : (combinationsOf dto).length ≤ 100
  supplied : dto.variants.map List.length = some (combinationsOf dto).length
  found : List.Forall₂ (fun variant entry =>
    suppliedEntry lower (dto.optionList.map ProductOptionInputDto.tidy) variant = .ok entry)
      dto.variantList entries
  once : (entries.map Prod.fst).Nodup
  options : prepared.1 = dto.optionList.map ProductOptionInputDto.tidy
  variants : (combinationsOf dto).mapM (variantOf lower dto entries) = .ok prepared.2

variable {prepared : List ProductOptionInputDto × List PreparedVariant}

theorem prepareProduct_eq_ok (hne : dto.optionList ≠ []) :
    prepareProduct lower dto = .ok prepared ↔ ∃ entries, Accepted lower dto entries prepared := by
  rw [prepareProduct]
  simp only [cartesian_eq]
  constructor
  · intro h
    obtain ⟨options, hoptions, h⟩ := Except.bind_eq_ok h
    obtain ⟨rfl, hnames, -, hvalues⟩ := normalizeOptions_eq_ok.1 hoptions
    rw [if_neg (mt List.map_eq_nil_iff.1 hne)] at h
    split at h
    · cases h
    · rename_i hcount
      split at h
      · cases h
      · rename_i hsupplied
        obtain ⟨supplied, hsupply, h⟩ := Except.bind_eq_ok h
        obtain ⟨variants, hvariants, h⟩ := Except.bind_eq_ok h
        obtain rfl := Except.ok.inj h
        obtain ⟨entries, hentries, hall, honce⟩ := supplyAll_ok hsupply List.nodup_nil
        rw [List.nil_append] at hall
        subst hall
        exact ⟨_, hnames, hvalues, not_lt.1 hcount, not_not.1 hsupplied, hentries, honce, rfl,
          hvariants⟩
  · rintro ⟨entries, h⟩
    have hoptions := normalizeOptions_eq_ok.2 ⟨rfl, h.names, fun _ _ => List.not_mem_nil, h.values⟩
    have hsupply : dto.variantList.foldlM (supply lower _) [] = .ok entries :=
      supplyAll_of_nodup h.found h.once
    have hcount := h.count
    have hsupplied := h.supplied
    have hvariants := h.variants
    rw [combinationsOf] at hcount hsupplied hvariants
    rw [hoptions]
    change (if _ then _ else _) = _
    rw [if_neg (mt List.map_eq_nil_iff.1 hne), if_neg (not_lt.2 hcount),
      if_neg (not_not.2 hsupplied), hsupply]
    change ((combinations _).mapM (variantOf lower dto entries) >>= _) = _
    rw [hvariants]
    exact congrArg Except.ok (Prod.ext h.options.symm rfl)

theorem map_key_combinationsOf :
    (combinationsOf dto).map (List.map (normalizeKey lower)) =
      combinations (optionKeys lower dto) := by
  rw [combinationsOf, map_combinations, optionKeys, List.map_map, List.map_map]
  exact congrArg _ (List.map_congr_left fun option _ => map_key_trim _)

theorem values_perm {combos : List (List String)}
    (hcombos : combos = combinations (options.map (·.values)))
    (hentries : ∀ entry ∈ entries, ∃ variant, EntryOf lower options variant entry)
    (honce : (entries.map Prod.fst).Nodup) (hlength : combos.length ≤ entries.length) :
    (entries.map (·.2.optionValues)).Perm combos := by
  have hkeys : entries.map Prod.fst =
      (entries.map (·.2.optionValues)).map (combinationKey lower) := by
    rw [List.map_map]
    refine List.map_congr_left fun entry hentry => ?_
    obtain ⟨_, hentry⟩ := hentries entry hentry
    exact hentry.key
  have hnodup : (entries.map (·.2.optionValues)).Nodup := (hkeys ▸ honce).of_map
  refine (List.subperm_of_subset hnodup fun values hvalues => ?_).perm_of_length_le (by simpa)
  obtain ⟨entry, hentry, rfl⟩ := List.mem_map.1 hvalues
  obtain ⟨_, hentry⟩ := hentries entry hentry
  exact hcombos ▸ hentry.combination

namespace Accepted

variable (h : Accepted lower dto entries prepared)

include h

theorem entryOf {entry} (hentry : entry ∈ entries) :
    ∃ variant ∈ dto.variantList,
      EntryOf lower (dto.optionList.map ProductOptionInputDto.tidy) variant entry := by
  obtain ⟨variant, hvariant, hentry⟩ := Except.exists_of_forall₂ h.found.flip hentry
  exact ⟨variant, hvariant, suppliedEntry_ok hentry⟩

theorem perm :
    (entries.map (·.2.optionValues)).Perm (combinationsOf dto) := by
  refine @values_perm lower _ _ _ rfl (fun entry hentry => ?_) h.once ?_
  · obtain ⟨variant, -, hentry⟩ := h.entryOf hentry
    exact ⟨variant, hentry⟩
  · obtain ⟨variants, hvariants, hlength⟩ := Option.map_eq_some_iff.1 h.supplied
    rw [← h.found.length_eq, CreateWarehouseProductDto.variantList, hvariants, Option.getD_some,
      hlength]

theorem valid : Valid lower dto where
  names := h.names
  values values hvalues := by
    obtain ⟨option, hoption, rfl⟩ := List.mem_map.1 hvalues
    exact h.values option hoption
  count := by
    rw [← map_key_combinationsOf, List.length_map]
    exact h.count
  variants := by
    have hkeys : suppliedKeys lower dto =
        (entries.map (·.2.optionValues)).map (List.map (normalizeKey lower)) := by
      rw [suppliedKeys, List.map_map, ← List.forall₂_eq_eq_eq, List.forall₂_map_left_iff,
        List.forall₂_map_right_iff]
      exact h.found.imp fun _ _ hentry => (suppliedEntry_ok hentry).same.symm
    rw [hkeys, ← map_key_combinationsOf]
    exact h.perm.map _

theorem of_variantOf {combination : List String} (hcombination : combination ∈ combinationsOf dto)
    {p : PreparedVariant} (hp : variantOf lower dto entries combination = .ok p) :
    ∃ entry ∈ entries, p = dto.complete entry.2 ∧ p.optionValues = combination := by
  rw [variantOf] at hp
  split at hp
  · rename_i entry hlookup
    obtain rfl := Except.ok.inj hp
    obtain ⟨hentry, hkey⟩ := KeyedRows.lookup_some Prod.fst hlookup
    obtain ⟨other, hother, rfl⟩ := List.mem_map.1 (h.perm.mem_iff.2 hcombination)
    obtain ⟨_, -, hof⟩ := h.entryOf hother
    obtain rfl := List.inj_on_of_nodup_map h.once hentry hother (hkey.trans hof.key.symm)
    exact ⟨entry, hentry, rfl, rfl⟩
  · cases hp

theorem listed : Listed lower dto prepared := by
  have hall := Except.mapM_eq_ok h.variants
  have horder : prepared.2.map (·.optionValues) = combinationsOf dto := by
    rw [← List.forall₂_eq_eq_eq, List.forall₂_map_left_iff]
    refine (List.forall₂_iff_get.2 ⟨hall.length_eq, fun i hi hi' => ?_⟩).flip
    obtain ⟨_, -, -, hvalues⟩ := h.of_variantOf (List.get_mem _ _) (hall.get hi hi')
    exact hvalues
  have hsource : ∀ p ∈ prepared.2, ∃ entry ∈ entries, p = dto.complete entry.2 := by
    intro p hp
    obtain ⟨combination, hcombination, hp⟩ := Except.exists_of_forall₂ hall.flip hp
    obtain ⟨entry, hentry, hdata, -⟩ := h.of_variantOf hcombination hp
    exact ⟨entry, hentry, hdata⟩
  refine ⟨h.options, ?_, ?_, fun p hp => ?_, fun p hp variant hvariant hsame => ?_⟩
  · rw [horder, combinationsOf, List.map_map]
    rfl
  · have hmap : (prepared.2.map fun p => p.optionValues.map (normalizeKey lower)) =
        combinations (optionKeys lower dto) := by
      rw [← map_key_combinationsOf, ← horder, List.map_map]
      rfl
    rw [hmap]
    exact nodup_combinations h.valid.values
  · obtain ⟨entry, hentry, rfl⟩ := hsource p hp
    obtain ⟨variant, hvariant, hof⟩ := h.entryOf hentry
    exact ⟨variant, hvariant, hof.same.symm⟩
  · obtain ⟨entry, hentry, rfl⟩ := hsource p hp
    obtain ⟨_, -, hof⟩ := h.entryOf hentry
    obtain ⟨other, hother, hok⟩ := Except.exists_of_forall₂ h.found hvariant
    have hother' := suppliedEntry_ok hok
    have hkey : other.1 = entry.1 := by
      rw [hother'.key, hof.key, combinationKey, combinationKey, hother'.same, hsame]
      rfl
    obtain rfl := List.inj_on_of_nodup_map h.once hother hentry hkey
    exact congrArg dto.complete hother'.data

end Accepted

theorem exists_accepted (hvalues : ∀ option ∈ dto.optionList, option.values ≠ [])
    (hvalid : Valid lower dto) (h : Unambiguous lower dto) :
    ∃ entries prepared, Accepted lower dto entries prepared := by
  set options := dto.optionList.map ProductOptionInputDto.tidy with hoptions
  have hkeys : (options.map fun option => option.values.map (normalizeKey lower)) =
      optionKeys lower dto := by
    rw [hoptions, List.map_map]
    exact List.map_congr_left fun option _ => map_key_trim _
  have hnonblank : ∀ option ∈ options, "" ∉ option.values := by
    intro stored hstored hblank
    obtain ⟨option, hoption, rfl⟩ := List.mem_map.1 hstored
    obtain ⟨value, hvalue, htrim⟩ := List.mem_map.1 hblank
    exact h.nonblank option hoption value hvalue htrim
  obtain ⟨entries, hentries⟩ : ∃ entries,
      dto.variantList.mapM (suppliedEntry lower options) = .ok entries := by
    refine Except.exists_mapM_ok fun variant hvariant => exists_suppliedEntry hnonblank ?_
    rw [hkeys, ← hvalid.variants.mem_iff]
    exact List.mem_map_of_mem hvariant
  have hall := Except.mapM_eq_ok hentries
  have honce : (entries.map Prod.fst).Nodup := by
    have hjoined : entries.map Prod.fst =
        (suppliedKeys lower dto).map ("\x1f".intercalate ·) := by
      rw [suppliedKeys, List.map_map, ← List.forall₂_eq_eq_eq, List.forall₂_map_left_iff,
        List.forall₂_map_right_iff]
      refine hall.flip.imp fun entry variant hentry => ?_
      have hof := suppliedEntry_ok hentry
      rw [hof.key, combinationKey, hof.same]
      rfl
    rw [hjoined, (hvalid.variants.map _).nodup_iff]
    exact h.apart
  have hlength : dto.variantList.length = (combinationsOf dto).length := by
    have := hvalid.variants.length_eq
    rwa [suppliedKeys, List.length_map, ← map_key_combinationsOf, List.length_map] at this
  have hperm : (entries.map (·.2.optionValues)).Perm (combinationsOf dto) := by
    refine @values_perm lower _ _ _ rfl (fun entry hentry => ?_) honce ?_
    swap
    · rw [← hlength, hall.length_eq]
    obtain ⟨variant, -, hok⟩ := Except.exists_of_forall₂ hall.flip hentry
    exact ⟨variant, suppliedEntry_ok hok⟩
  obtain ⟨variants, hvariants⟩ : ∃ variants,
      (combinationsOf dto).mapM (variantOf lower dto entries) = .ok variants := by
    refine Except.exists_mapM_ok fun combination hcombination => ?_
    obtain ⟨entry, hentry, rfl⟩ := List.mem_map.1 (hperm.mem_iff.2 hcombination)
    obtain ⟨variant, -, hok⟩ := Except.exists_of_forall₂ hall.flip hentry
    refine ⟨dto.complete entry.2, ?_⟩
    rw [variantOf, ← (suppliedEntry_ok hok).key, KeyedRows.lookup_of_mem Prod.fst honce hentry]
  refine ⟨entries, (options, variants), hvalid.names, fun option hoption =>
    hvalid.values _ (List.mem_map_of_mem hoption), ?_, ?_, hall, honce, rfl, hvariants⟩
  · have := hvalid.count
    rwa [← map_key_combinationsOf, List.length_map] at this
  · rw [← hlength, CreateWarehouseProductDto.variantList]
    cases hsupplied : dto.variants with
    | some variants => rfl
    | none =>
      -- there is at least one combination
      rw [CreateWarehouseProductDto.variantList, hsupplied] at hlength
      refine absurd (List.eq_nil_of_length_eq_zero hlength.symm) (combinations_ne_nil ?_)
      intro values hin
      obtain ⟨_, hstored, rfl⟩ := List.mem_map.1 hin
      obtain ⟨option, hoption, rfl⟩ := List.mem_map.1 hstored
      exact mt List.map_eq_nil_iff.1 (hvalues option hoption)

theorem prepareProduct_of_no_options (h : dto.optionList = []) :
    prepareProduct lower dto = .ok prepared ↔
      dto.variantList = [] ∧ prepared = ([], [dto.defaultVariant]) := by
  rw [prepareProduct, h]
  by_cases hvariants : dto.variantList = []
  · simp [normalizeOptions, hvariants, eq_comm, bind, Except.bind, pure, Except.pure]
  · simp [normalizeOptions, hvariants, bind, Except.bind]

/-- **Which requests are accepted, and what is prepared of them**: with options, the supplied
variants are the combinations, and each is prepared once, in order, with its own data; without
options, there is the one variant of the product. -/
theorem productVariants (lower : String → String) (dto : CreateWarehouseProductDto)
    (hvalues : ∀ option ∈ dto.optionList, option.values ≠ []) :
    (dto.optionList ≠ [] →
      (∀ prepared, prepareProduct lower dto = .ok prepared →
        Valid lower dto ∧ Listed lower dto prepared) ∧
      (Unambiguous lower dto → Valid lower dto →
        ∃ prepared, prepareProduct lower dto = .ok prepared)) ∧
    (dto.optionList = [] → ∀ prepared, prepareProduct lower dto = .ok prepared ↔
      dto.variantList = [] ∧ prepared = ([], [dto.defaultVariant])) := by
  refine ⟨fun hne => ⟨fun prepared h => ?_, fun h hvalid => ?_⟩,
    fun hnil prepared => prepareProduct_of_no_options hnil⟩
  · obtain ⟨entries, h⟩ := (prepareProduct_eq_ok hne).1 h
    exact ⟨h.valid, h.listed⟩
  · obtain ⟨entries, prepared, h⟩ := exists_accepted hvalues hvalid h
    exact ⟨prepared, (prepareProduct_eq_ok hne).2 ⟨entries, h⟩⟩

end Spec

/-! ### A shirt, and a product without options -/

def shirt : CreateWarehouseProductDto where
  options := some [{ name := "Size", values := ["S", "M"] }]
  variants := some [{ optionValues := ["m "], price := 12, stockQuantity := 4 },
    { optionValues := ["S"], price := 10, stockQuantity := 7 }]

theorem productVariants_shirt :
    ∃ prepared, prepareProduct String.toLower shirt = .ok prepared := by
  have hlower : String.toLower = fun text => .ofList (text.toList.map Char.toLower) :=
    funext fun _ => String.map_eq_internal
  rw [hlower]
  exact ((productVariants _ shirt (by decide)).1 (by decide)).2
    ⟨by decide +kernel, by decide +kernel⟩
    ⟨by decide +kernel, by decide +kernel, by decide +kernel, by decide +kernel⟩

theorem productVariants_no_options :
    ¬ ((∃ prepared, prepareProduct String.toLower {} = .ok prepared) ↔
      Valid String.toLower {}) := by
  intro h
  have hvariants := (h.1 ⟨_, rfl⟩).variants
  exact absurd hvariants.length_eq (by decide)

end Zomaal.ProductVariants
