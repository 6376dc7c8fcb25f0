/-
**An export that is imported again.**

Every row of an export is written into the product that the import matches it with: the one of its
SKU, or the oldest one of its name; a product ends up with what the last row about it says.

Main results:

* `Catalogue.importRows_settled` — **what the rows of an export leave**;
* `Catalogue.catalogueRoundTrip` — **when importing an export changes nothing**.
-/

import Mathlib.Data.List.Find
import Zomaal.CatalogueExport

set_option autoImplicit false

namespace Zomaal.Catalogue

open JsText ShopCatalogue

/-! ### One row -/

section Rows

variable {letters : Letters} {draws : Draws}

theorem importRow_found {s : Importing} {row : ImportRow} {category : ShopCategory}
    {existing : ShopProduct} {price : Decimal} {stock : ℤ}
    (hcategory : s.catalogue.categoryNamed letters row.categoryName = some category)
    (hmatched : s.catalogue.matched letters row = some existing)
    (hprice : asDecimal row.price = .ok price) (hstock : row.stockFor existing = .ok stock) :
    importRow letters draws s row = .ok
      { catalogue := s.catalogue.updateProduct existing.id (row.write category.id price stock)
        result := { s.result with updated := s.result.updated + 1 } } := by
  have hplaced : s.ensureCategory letters draws row.categoryName = .ok (category, s) := by
    rw [Importing.ensureCategory, hcategory]
  rw [importRow, hplaced]
  change s.writeProduct letters draws category row = _
  rw [Importing.writeProduct, hmatched]
  dsimp only
  rw [hprice, hstock]
  rfl

theorem importRow_ok {s t : Importing} {row : ImportRow}
    (h : importRow letters draws s row = .ok t) :
    s.drawn < t.drawn ∨ t.drawn = s.drawn ∧ ∃ category existing price stock,
      s.catalogue.categoryNamed letters row.categoryName = some category ∧
      s.catalogue.matched letters row = some existing ∧
      t.catalogue =
        s.catalogue.updateProduct existing.id (row.write category.id price stock) := by
  have hwrite : ∀ (s : Importing) (category : ShopCategory),
      s.writeProduct letters draws category row = .ok t → s.drawn < t.drawn ∨
        t.drawn = s.drawn ∧ ∃ existing price stock,
          s.catalogue.matched letters row = some existing ∧
          t.catalogue =
            s.catalogue.updateProduct existing.id (row.write category.id price stock) := by
    intro s category h
    rw [Importing.writeProduct] at h
    split at h
    · rename_i existing hmatched
      obtain ⟨price, -, h⟩ := Except.bind_eq_ok h
      obtain ⟨stock, -, h⟩ := Except.bind_eq_ok h
      obtain rfl := Except.ok.inj h
      exact .inr ⟨rfl, existing, price, stock, hmatched, rfl⟩
    · obtain ⟨price, -, h⟩ := Except.bind_eq_ok h
      obtain ⟨stock, -, h⟩ := Except.bind_eq_ok h
      obtain ⟨catalogue, -, h⟩ := Except.bind_eq_ok h
      obtain rfl := Except.ok.inj h
      refine .inl ?_
      dsimp only [Importing.drawn]
      omega
  rw [importRow] at h
  obtain ⟨⟨category, placed⟩, hplaced, h⟩ := Except.bind_eq_ok h
  have hnext := hwrite placed category h
  rw [Importing.ensureCategory] at hplaced
  split at hplaced
  · rename_i hcategory
    obtain ⟨rfl, rfl⟩ := Prod.mk.inj (Except.ok.inj hplaced)
    rcases hnext with hlt | ⟨hdrawn, existing, price, stock, hmatched, hnext⟩
    · exact .inl hlt
    · exact .inr ⟨hdrawn, _, existing, price, stock, hcategory, hmatched, hnext⟩
  · -- the category was inserted
    obtain ⟨catalogue, -, hplaced⟩ := Except.bind_eq_ok hplaced
    obtain ⟨-, rfl⟩ := Prod.mk.inj (Except.ok.inj hplaced)
    refine .inl ?_
    rcases hnext with hlt | ⟨hdrawn, -⟩
    · dsimp only [Importing.drawn] at hlt ⊢
      omega
    · dsimp only [Importing.drawn] at hdrawn ⊢
      omega

theorem drawn_le {rows : List ImportRow} {s t : Importing}
    (h : rows.foldlM (importRow letters draws) s = .ok t) : s.drawn ≤ t.drawn := by
  induction rows generalizing s with
  | nil =>
    obtain rfl := Except.ok.inj h
    exact le_rfl
  | cons row rows ih =>
    rw [List.foldlM_cons] at h
    obtain ⟨middle, hrow, hrest⟩ := Except.bind_eq_ok h
    have hle := ih hrest
    rcases importRow_ok hrow with hlt | ⟨heq, -⟩
    · omega
    · omega

variable (c : ShopCatalogue)

def ShopCatalogue.keys : List (String × Option String) :=
  c.products.map fun product => (product.id, product.sku)

def ShopCatalogue.PlainAt (id : String) : Prop :=
  ∀ product ∈ c.products, product.id = id → Plain product.name

theorem keys_updateProduct (id categoryId : String) (row : ImportRow) (price : Decimal) (stock : ℤ)
    : (c.updateProduct id (row.write categoryId price stock)).keys = c.keys := by
  rw [keys, keys, updateProduct, KeyedRows.change, List.map_map]
  refine List.map_congr_left fun product _ => ?_
  by_cases hid : product.id = id
  · rw [Function.comp_apply, if_pos hid]
    rfl
  · rw [Function.comp_apply, if_neg hid]

theorem importRows_kept {rows : List ImportRow} (hrows : ∀ row ∈ rows, Plain row.name)
    {s t : Importing} (h : rows.foldlM (importRow letters draws) s = .ok t)
    (hdrawn : t.drawn = s.drawn) :
    (∀ id, s.catalogue.PlainAt id → t.catalogue.PlainAt id) ∧
      ∀ row ∈ rows, ∀ sku ∈ row.sku, ∃ id, (id, some sku) ∈ s.catalogue.keys ∧
        t.catalogue.PlainAt id := by
  induction rows generalizing s with
  | nil =>
    obtain rfl := Except.ok.inj h
    exact ⟨fun _ hid => hid, fun _ hrow => (nomatch hrow)⟩
  | cons row rows ih =>
    rw [List.foldlM_cons] at h
    obtain ⟨middle, hrow, hrest⟩ := Except.bind_eq_ok h
    have hle := drawn_le hrest
    rcases importRow_ok hrow with
      hlt | ⟨heq, category, existing, price, stock, -, hmatched, hmiddle⟩
    · omega
    · obtain ⟨hkept, hfound⟩ :=
        ih (fun other hother => hrows other (List.mem_cons_of_mem _ hother)) hrest
          (hdrawn.trans heq.symm)
      have hkeys : middle.catalogue.keys = s.catalogue.keys := by
        rw [hmiddle, keys_updateProduct]
      -- the row leaves its own name behind, and no other one
      have hstep : ∀ id, existing.id = id ∨ s.catalogue.PlainAt id →
          middle.catalogue.PlainAt id := by
        intro id hid product hproduct hproductId
        rw [hmiddle] at hproduct
        obtain ⟨old, hold, rfl⟩ := List.mem_map.1 hproduct
        by_cases hsame : old.id = existing.id
        · rw [if_pos hsame]
          exact hrows row (List.mem_cons_self ..)
        · rw [if_neg hsame] at hproductId ⊢
          rcases hid with hid | hid
          · exact absurd (hproductId.trans hid.symm) hsame
          · exact hid old hold hproductId
      refine ⟨fun id hid => hkept id (hstep id (.inr hid)), fun other hother sku hsku => ?_⟩
      rcases List.mem_cons.1 hother with rfl | hother
      · rw [ShopCatalogue.matched, Option.mem_def.1 hsku] at hmatched
        have hexisting : s.catalogue.products.find? (fun product => product.sku = some sku) =
            some existing := hmatched
        refine ⟨existing.id, List.mem_map.2 ⟨existing, List.mem_of_find?_eq_some hexisting, ?_⟩,
          hkept _ (hstep _ (.inl rfl))⟩
        have hsku' : existing.sku = some sku := by simpa using List.find?_some hexisting
        rw [hsku']
      · rw [← hkeys]
        exact hfound other hother sku hsku

theorem nodup_exportedSkus {c : ShopCatalogue} (h : WellFormed c) :
    (((newestFirst c.products).map c.exportedRow).filterMap ImportRow.sku).Nodup ↔
      ∀ product ∈ c.products, ∀ other ∈ c.products, ∀ sku, product.sku.map comesBack = some sku →
        other.sku.map comesBack = some sku → product = other := by
  rw [List.filterMap_map, List.Nodup, List.pairwise_filterMap]
  constructor
  · intro hpairwise product hproduct other hother sku hsku hsku'
    by_contra hne
    have hsymm : Std.Symm fun product other : ShopProduct =>
        ∀ sku, (ImportRow.sku ∘ c.exportedRow) product = some sku →
          ∀ sku', (ImportRow.sku ∘ c.exportedRow) other = some sku' → sku ≠ sku' :=
      ⟨fun _ _ hapart sku hsku sku' hsku' => (hapart sku' hsku' sku hsku).symm⟩
    exact List.Pairwise.forall hpairwise (mem_newestFirst.2 hproduct) (mem_newestFirst.2 hother)
      hne sku hsku sku hsku' rfl
  · intro hsame
    have hnodup : (newestFirst c.products).Nodup :=
      (List.mergeSort_perm _ _).nodup_iff.2 (List.Nodup.of_map _ h.ids)
    refine hnodup.pairwise_of_forall_ne fun product hproduct other hother hne sku hsku sku' hsku' =>
      ?_
    rintro rfl
    exact hne (hsame product (mem_newestFirst.1 hproduct) other (mem_newestFirst.1 hother) sku
      hsku hsku')

theorem plain_of_import {c : ShopCatalogue} (h : WellFormed c)
    (hskus : (((newestFirst c.products).map c.exportedRow).filterMap ImportRow.sku).Nodup)
    {t : Importing} (himport : ((newestFirst c.products).map c.exportedRow).foldlM
      (importRow letters draws) { catalogue := c } = .ok t)
    (hdrawn : t.drawn = 0) (hsame : t.catalogue = c) :
    ∀ product ∈ c.products, ∀ sku ∈ product.sku, Plain sku ∧ Plain product.name := by
  intro product hproduct sku hsku
  obtain ⟨-, hfound⟩ := importRows_kept (fun row hrow => by
    obtain ⟨exported, -, rfl⟩ := List.mem_map.1 hrow
    exact plain_comesBack exported.name) himport hdrawn
  have hexported : (c.exportedRow product).sku = some (comesBack sku) := by
    rw [exportedRow, Option.mem_def.1 hsku, Option.map_some]
  obtain ⟨id, hkey, hplain⟩ := hfound (c.exportedRow product)
    (List.mem_map_of_mem (mem_newestFirst.2 hproduct)) (comesBack sku) hexported
  obtain ⟨other, hother, heq⟩ := List.mem_map.1 hkey
  obtain ⟨hid, hotherSku⟩ := Prod.mk.inj heq
  -- the row of the product found has the same SKU
  have hagain : other.sku.map comesBack = some (comesBack sku) := by
    rw [hotherSku, Option.map_some]
    exact congrArg some (plain_comesBack sku)
  obtain rfl := (nodup_exportedSkus h).1 hskus product hproduct other hother _ hexported hagain
  rw [Option.mem_def.1 hsku] at hotherSku
  exact ⟨(Option.some.inj hotherSku).symm, hplain product (hsame ▸ hproduct) hid⟩

end Rows

/-! ### What the rows of an export leave -/

section Settled

variable (letters : Letters) (c : ShopCatalogue)

def ShopCatalogue.isAbout (product exported : ShopProduct) : Bool :=
  (c.matched letters (c.exportedRow exported)).any fun found => found.id = product.id

def ShopCatalogue.placeOf (exported : ShopProduct) : Option ShopCategory :=
  c.categoryNamed letters (comesBack (c.categoryName exported))

variable (done : List ShopProduct)

def ShopCatalogue.lastAbout (product : ShopProduct) : Option ShopProduct :=
  done.reverse.find? (c.isAbout letters product)

def ShopCatalogue.overwritten (exported product : ShopProduct) : ShopProduct :=
  (c.exportedRow exported).write (((c.placeOf letters exported).map ShopCategory.id).getD "")
    (Shop.toDecimalPlaces2 exported.price)
    (if 0 < product.options then product.stock else exported.stock) product

def ShopCatalogue.settled (product : ShopProduct) : ShopProduct :=
  match c.lastAbout letters done product with
  | none => product
  | some exported => c.overwritten letters exported product

def ShopCatalogue.after : Importing where
  catalogue := { c with products := c.products.map (c.settled letters done) }
  result := { updated := done.length }

variable {letters c}

theorem after_nil : c.after letters [] = { catalogue := c } := by
  have hsame : c.products.map (c.settled letters []) = c.products := List.map_id _
  rw [after, hsame]
  rfl

theorem settled_append (exported product : ShopProduct) :
    c.settled letters (done ++ [exported]) product =
      if c.isAbout letters product exported then c.overwritten letters exported product
      else c.settled letters done product := by
  rw [settled, lastAbout, List.reverse_append, List.reverse_singleton, List.singleton_append,
    List.find?_cons]
  cases c.isAbout letters product exported with
  | true => rfl
  | false => rfl

theorem settled_kept (product : ShopProduct) :
    (c.settled letters done product).id = product.id ∧
      (c.settled letters done product).sku = product.sku ∧
      (c.settled letters done product).createdAt = product.createdAt ∧
      (c.settled letters done product).options = product.options ∧
      (0 < product.options → (c.settled letters done product).stock = product.stock) := by
  rw [settled]
  cases c.lastAbout letters done product with
  | none => exact ⟨rfl, rfl, rfl, rfl, fun _ => rfl⟩
  | some exported => exact ⟨rfl, rfl, rfl, rfl, fun hoptions => if_pos hoptions⟩

theorem isAbout_iff (h : WellFormed c) {product exported : ShopProduct}
    (hproduct : product ∈ c.products) :
    c.isAbout letters product exported ↔
      c.matched letters (c.exportedRow exported) = some product := by
  rw [isAbout]
  cases hmatched : c.matched letters (c.exportedRow exported) with
  | none => simp
  | some found =>
    have hfound : found ∈ c.products := by
      rw [matched] at hmatched
      split at hmatched
      · exact List.mem_of_find?_eq_some hmatched
      · exact List.mem_mergeSort.1 (List.mem_of_find?_eq_some hmatched)
    rw [Option.any_some, decide_eq_true_eq, Option.some_inj]
    exact ⟨List.inj_on_of_nodup_map h.ids hfound hproduct, congrArg ShopProduct.id⟩

/-- SKUs do not start like formulas, nor do the names of the products that have one. -/
def ShopCatalogue.PlainSkus (c : ShopCatalogue) : Prop :=
  ∀ product ∈ c.products, ∀ sku ∈ product.sku, Plain sku ∧ Plain product.name

theorem insensitive_settled (h : WellFormed c) (hplain : c.PlainSkus) {done : List ShopProduct}
    (hdone : done ⊆ c.products) {product : ShopProduct} (hproduct : product ∈ c.products) :
    letters.insensitive (c.settled letters done product).name =
      letters.insensitive product.name := by
  rw [settled]
  cases hlast : c.lastAbout letters done product with
  | none => rfl
  | some exported =>
    change letters.insensitive (comesBack exported.name) = _
    have hexported := hdone (List.mem_reverse.1 (List.mem_of_find?_eq_some hlast))
    have hmatched := (isAbout_iff h hproduct).1 (List.find?_some hlast)
    rw [matched] at hmatched
    cases hsku : exported.sku with
    | none =>
      simp only [exportedRow, hsku, Option.map_none] at hmatched
      have hname := List.find?_some hmatched
      exact (of_decide_eq_true hname).symm
    | some sku =>
      -- a row with a SKU is about its own product
      obtain ⟨hsame, hname⟩ := hplain exported hexported sku hsku
      simp only [exportedRow, hsku, Option.map_some] at hmatched
      have hfound := List.find?_some hmatched
      rw [decide_eq_true_eq, hsame] at hfound
      obtain rfl := h.skus exported hexported product hproduct (hsku ▸ rfl)
        (hfound.trans hsku.symm)
      rw [hname]

theorem matched_after (h : WellFormed c) (hplain : c.PlainSkus) {done : List ShopProduct}
    (hdone : done ⊆ c.products) (row : ImportRow) :
    (c.after letters done).catalogue.matched letters row =
      (c.matched letters row).map (c.settled letters done) := by
  rw [matched, matched]
  cases row.sku with
  | some sku =>
    refine List.find?_map.trans (congrArg _ (List.find?_congr fun product _ => ?_))
    rw [Function.comp_apply, (settled_kept done product).2.1]
  | none =>
    have hsorted : oldestFirst (c.after letters done).catalogue.products =
        (oldestFirst c.products).map (c.settled letters done) := by
      refine (List.map_mergeSort fun first _ second _ => ?_).symm
      rw [(settled_kept done first).2.2.1, (settled_kept done second).2.2.1]
    change (oldestFirst _).find? _ = ((oldestFirst c.products).find? _).map _
    rw [hsorted]
    refine List.find?_map.trans (congrArg _ (List.find?_congr fun product hproduct => ?_))
    rw [Function.comp_apply,
      insensitive_settled h hplain hdone (List.mem_mergeSort.1 hproduct)]

theorem asDecimal_toDecimalPlaces2 {price : Decimal} (h : 0 ≤ price ∧ price ≤ maxMoneyInput) :
    asDecimal (Shop.toDecimalPlaces2 price) = .ok (Shop.toDecimalPlaces2 price) := by
  rw [asDecimal, toFixed4_toDecimalPlaces2, if_pos (toDecimalPlaces2_bounds h).2]

theorem stockFor_settled {exported : ShopProduct} (hexported : exported.WellFormed)
    (done : List ShopProduct) (product : ShopProduct) :
    (c.exportedRow exported).stockFor (c.settled letters done product) =
      .ok (if 0 < product.options then product.stock else exported.stock) := by
  obtain ⟨-, -, -, hoptions, hstock⟩ := @settled_kept letters c done product
  rw [ImportRow.stockFor, hoptions]
  by_cases hsome : 0 < product.options
  · rw [if_pos hsome, if_pos hsome, hstock hsome]
  · rw [if_neg hsome, if_neg hsome, asInt]
    have hlow : (-2147483648 : ℤ) ≤ 0 := by norm_num
    exact if_pos ⟨hlow.trans hexported.stock.1, hexported.stock.2⟩

variable {draws : Draws}

theorem importRow_after (h : WellFormed c) (hplain : c.PlainSkus) {done : List ShopProduct}
    (hdone : done ⊆ c.products) {exported : ShopProduct} (hexported : exported ∈ c.products)
    (hplace : (c.placeOf letters exported).isSome)
    (hfound : (c.matched letters (c.exportedRow exported)).isSome) :
    importRow letters draws (c.after letters done) (c.exportedRow exported) =
      .ok (c.after letters (done ++ [exported])) := by
  obtain ⟨category, hcategory⟩ := Option.isSome_iff_exists.1 hplace
  obtain ⟨found, hmatched⟩ := Option.isSome_iff_exists.1 hfound
  have hwf := h.products exported hexported
  have hfirst : (c.after letters done).catalogue.categoryNamed letters
      (c.exportedRow exported).categoryName = some category := hcategory
  have hsecond : (c.after letters done).catalogue.matched letters (c.exportedRow exported) =
      some (c.settled letters done found) := by
    rw [matched_after h hplain hdone, hmatched, Option.map_some]
  have hprice : asDecimal (c.exportedRow exported).price =
      .ok (Shop.toDecimalPlaces2 exported.price) := asDecimal_toDecimalPlaces2 hwf.price
  rw [importRow_found hfirst hsecond hprice (stockFor_settled hwf done found)]
  refine congrArg Except.ok ?_
  have hproducts : KeyedRows.change ShopProduct.id (c.settled letters done found).id
      ((c.exportedRow exported).write category.id (Shop.toDecimalPlaces2 exported.price)
        (if 0 < found.options then found.stock else exported.stock))
      (c.products.map (c.settled letters done)) =
        c.products.map (c.settled letters (done ++ [exported])) := by
    rw [KeyedRows.change, List.map_map]
    refine List.map_congr_left fun product hproduct => ?_
    rw [settled_append, Function.comp_apply, (settled_kept done found).1,
      (settled_kept done product).1]
    by_cases hsame : c.isAbout letters product exported
    · -- the rest of the product is as it was
      obtain rfl := Option.some.inj (hmatched.symm.trans ((isAbout_iff h hproduct).1 hsame))
      obtain ⟨hid, hsku, hcreated, hoptions, -⟩ :=
        @settled_kept letters c done found
      rw [if_pos rfl, if_pos hsame, overwritten, hcategory, ImportRow.write, ImportRow.write, hid,
        hsku, hcreated, hoptions]
      rfl
    · have hne : product.id ≠ found.id := by
        intro heq
        rw [isAbout, hmatched, Option.any_some, heq] at hsame
        exact hsame (decide_eq_true rfl)
      rw [if_neg hne, if_neg hsame]
  rw [after, after, updateProduct, List.length_append]
  congr 1
  exact congrArg (fun products => { c with products }) hproducts

/-- **What the rows of an export leave**, if nothing is inserted. -/
theorem importRows_settled (h : WellFormed c) (hplain : c.PlainSkus) {rest : List ShopProduct}
    (hrest : rest ⊆ c.products) {done : List ShopProduct} (hdone : done ⊆ c.products)
    {t : Importing} :
    (rest.map c.exportedRow).foldlM (importRow letters draws) (c.after letters done) = .ok t ∧
        t.drawn = 0 ↔
      (∀ exported ∈ rest, (c.placeOf letters exported).isSome ∧
        (c.matched letters (c.exportedRow exported)).isSome) ∧
          t = c.after letters (done ++ rest) := by
  induction rest generalizing done with
  | nil =>
    rw [List.append_nil]
    constructor
    · rintro ⟨hok, -⟩
      exact ⟨fun _ hmem => (nomatch hmem), (Except.ok.inj hok).symm⟩
    · rintro ⟨-, rfl⟩
      exact ⟨rfl, rfl⟩
  | cons exported rest ih =>
    obtain ⟨hexported, hrest⟩ := List.cons_subset.1 hrest
    have hnext : done ++ [exported] ⊆ c.products :=
      List.append_subset.2 ⟨hdone, List.cons_subset.2 ⟨hexported, List.nil_subset _⟩⟩
    have happend : done ++ exported :: rest = done ++ [exported] ++ rest := by simp
    have hstep : ∀ hplace hfound, _ := fun hplace hfound =>
      @importRow_after letters c draws h hplain done hdone exported hexported hplace hfound
    rw [List.map_cons, List.foldlM_cons, List.forall_mem_cons, happend, and_assoc]
    constructor
    · rintro ⟨hok, hdrawn⟩
      obtain ⟨middle, hrow, hok⟩ := Except.bind_eq_ok hok
      have hle := drawn_le hok
      have hfound : (c.placeOf letters exported).isSome ∧
          (c.matched letters (c.exportedRow exported)).isSome := by
        rcases importRow_ok hrow with
          hlt | ⟨-, category, existing, price, stock, hcategory, hmatched, -⟩
        · omega
        · rw [matched_after h hplain hdone] at hmatched
          obtain ⟨found, hfound, -⟩ := Option.map_eq_some_iff.1 hmatched
          exact ⟨Option.isSome_iff_exists.2 ⟨category, hcategory⟩,
            Option.isSome_iff_exists.2 ⟨found, hfound⟩⟩
      rw [hstep hfound.1 hfound.2] at hrow
      obtain rfl := Except.ok.inj hrow
      exact ⟨hfound, (ih hrest hnext).1 ⟨hok, hdrawn⟩⟩
    · rintro ⟨⟨hplace, hfound⟩, hothers⟩
      rw [hstep hplace hfound]
      exact (ih hrest hnext).2 hothers

end Settled

/-! ### Importing an export -/

variable {letters : Letters} {draws : Draws} {c : ShopCatalogue}

/-- **Importing an export changes nothing**: no row is created, and every product stays as it was.
-/
def RoundTrips (letters : Letters) (draws : Draws) (c : ShopCatalogue) : Prop :=
  ∃ t, importProductsCsv letters draws (exportProductsCsv c) c = .ok t ∧
    t.result.created = 0 ∧ t.result.createdCategories = 0 ∧ t.catalogue = c

/-- The row of one product says what is stored of another one. -/
structure Repeats (letters : Letters) (c : ShopCatalogue) (exported product : ShopProduct) :
    Prop where
  name : comesBack exported.name = product.name
  place : (c.placeOf letters exported).map ShopCategory.id = some product.categoryId
  description : exported.description.map comesBack = product.description
  price : Shop.toDecimalPlaces2 exported.price = product.price
  status : exported.status = product.status
  stock : product.options = 0 → exported.stock = product.stock

/-- **The condition.** No SKU starts like a formula, every row finds its category and a product, and
the last row about each says what is stored. -/
structure Restores (letters : Letters) (c : ShopCatalogue) : Prop where
  some : c.products ≠ []
  named : c.Named
  skus : ∀ product ∈ c.products, ∀ sku ∈ product.sku, Plain sku
  found : ∀ exported ∈ c.products, (c.placeOf letters exported).isSome ∧
    (c.matched letters (c.exportedRow exported)).isSome
  last : ∀ product ∈ c.products,
    ∀ exported ∈ c.lastAbout letters (newestFirst c.products) product,
      Repeats letters c exported product

theorem overwritten_eq_iff {exported product : ShopProduct}
    (hplace : (c.placeOf letters exported).isSome) :
    c.overwritten letters exported product = product ↔ Repeats letters c exported product := by
  obtain ⟨category, hcategory⟩ := Option.isSome_iff_exists.1 hplace
  constructor
  · intro heq
    have hstatus : (c.overwritten letters exported product).status = product.status :=
      congrArg ShopProduct.status heq
    refine ⟨congrArg ShopProduct.name heq, ?_, congrArg ShopProduct.description heq,
      congrArg ShopProduct.price heq, hstatus, fun hoptions => ?_⟩
    · have hid := congrArg ShopProduct.categoryId heq
      rw [overwritten, hcategory] at hid
      rw [hcategory, Option.map_some]
      exact congrArg Option.some hid
    · have hstock := congrArg ShopProduct.stock heq
      rw [overwritten, ImportRow.write, hoptions] at hstock
      exact hstock
  · rintro ⟨hname, hid, hdescription, hprice, hstatus, hstock⟩
    have hkept : (if 0 < product.options then product.stock else exported.stock) =
        product.stock := by
      by_cases hoptions : 0 < product.options
      · exact if_pos hoptions
      · rw [if_neg hoptions]
        exact hstock (Nat.eq_zero_of_not_pos hoptions)
    rw [overwritten, hid, ImportRow.write, hkept, hprice]
    dsimp only [exportedRow]
    rw [hname, hdescription, hstatus]
    rfl

theorem Restores.plainSkus (h : WellFormed c) (hrestores : Restores letters c) : c.PlainSkus := by
  intro product hproduct sku hsku
  have hplain := hrestores.skus product hproduct sku hsku
  obtain ⟨found, hmatched⟩ := Option.isSome_iff_exists.1 (hrestores.found product hproduct).2
  have hown : c.isAbout letters product product := by
    have hexported : (c.exportedRow product).sku = product.sku := by
      rw [exportedRow, Option.mem_def.1 hsku, Option.map_some, hplain]
    rw [matched, hexported, Option.mem_def.1 hsku] at hmatched
    have hfound : c.products.find? (fun other => other.sku = Option.some sku) =
        Option.some found := hmatched
    have hsame : found.sku = Option.some sku := by simpa using List.find?_some hfound
    obtain rfl := h.skus product hproduct found (List.mem_of_find?_eq_some hfound)
      (Option.isSome_of_mem hsku) (hsame.trans (Option.mem_def.1 hsku).symm)
    rw [isAbout, matched, hexported, Option.mem_def.1 hsku]
    change (c.products.find? fun other => other.sku = Option.some sku).any _
    rw [hfound]
    exact decide_eq_true rfl
  have hsome : (c.lastAbout letters (newestFirst c.products) product).isSome :=
    List.find?_isSome.2 ⟨product, List.mem_reverse.2 (mem_newestFirst.2 hproduct), hown⟩
  obtain ⟨exported, hlast⟩ := Option.isSome_iff_exists.1 hsome
  rw [← (hrestores.last product hproduct exported hlast).name]
  exact ⟨hplain, plain_comesBack exported.name⟩

/-- **When importing an export changes nothing**, for every catalogue that is well-formed. -/
theorem roundTrips_iff (hheaders : ∀ header ∈ csvHeaders, letters.toLowerCase header = header)
    (h : WellFormed c) (hlimit : c.products.length ≤ maxImportRows) :
    RoundTrips letters draws c ↔ Restores letters c := by
  have hall : newestFirst c.products ⊆ c.products := fun product => mem_newestFirst.1
  have hstart := @after_nil letters c
  constructor
  · rintro ⟨t, himport, hcreated, hcategories, hsame⟩
    rw [importProductsCsv] at himport
    obtain ⟨rows, hread, hrows⟩ := Except.bind_eq_ok himport
    obtain ⟨hsome, hnamed, rfl, hskus⟩ := (readImport_export hheaders h hlimit).1 hread
    have hdrawn : t.drawn = 0 := by
      rw [Importing.drawn, hcreated, hcategories]
    have hplain := plain_of_import h hskus hrows hdrawn hsame
    rw [← hstart] at hrows
    obtain ⟨hfound, rfl⟩ :=
      (importRows_settled h hplain hall (List.nil_subset _)).1 ⟨hrows, hdrawn⟩
    refine ⟨hsome, hnamed, fun product hproduct sku hsku => (hplain product hproduct sku hsku).1,
      fun exported hexported => hfound exported (mem_newestFirst.2 hexported),
      fun product hproduct exported hlast => ?_⟩
    -- every product is what the rows leave of it
    have hproducts : c.products.map (c.settled letters (newestFirst c.products)) =
        c.products.map id := (congrArg ShopCatalogue.products hsame).trans (List.map_id _).symm
    have hsettled : c.settled letters (newestFirst c.products) product = product :=
      List.map_inj_left.1 hproducts product hproduct
    rw [settled, Option.mem_def.1 hlast] at hsettled
    refine (overwritten_eq_iff (hfound exported ?_).1).1 hsettled
    exact List.mem_reverse.1 (List.mem_of_find?_eq_some hlast)
  · intro hrestores
    have hplain := hrestores.plainSkus h
    have hskus := (nodup_exportedSkus h).2 fun product hproduct other hother sku hsku hsku' => by
      obtain ⟨text, htext, rfl⟩ := Option.map_eq_some_iff.1 hsku
      obtain ⟨text', htext', hsame⟩ := Option.map_eq_some_iff.1 hsku'
      have hplain' := (hplain other hother text' htext').1
      rw [(hplain product hproduct text htext).1, hplain'] at hsame
      exact (h.skus product hproduct other hother (Option.isSome_of_mem htext)
        (htext'.trans (hsame ▸ htext.symm))).symm
    have hread := (readImport_export hheaders h hlimit).2
      ⟨hrestores.some, hrestores.named, rfl, hskus⟩
    obtain ⟨hrows, -⟩ := (@importRows_settled letters c draws h hplain _ hall []
      (List.nil_subset _) _).2
        ⟨fun exported hexported => hrestores.found exported (hall hexported), rfl⟩
    rw [hstart] at hrows
    refine ⟨c.after letters ([] ++ newestFirst c.products), ?_, rfl, rfl, ?_⟩
    · rw [importProductsCsv, hread]
      exact hrows
    · have hsettled : c.products.map (c.settled letters (newestFirst c.products)) =
          c.products := by
        refine (List.map_congr_left fun product hproduct => ?_).trans (List.map_id _)
        rw [settled]
        cases hlast : c.lastAbout letters (newestFirst c.products) product with
        | none => rfl
        | some exported =>
          have hexported := hall (List.mem_reverse.1 (List.mem_of_find?_eq_some hlast))
          exact (overwritten_eq_iff (hrestores.found exported hexported).1).2
            (hrestores.last product hproduct exported hlast)
      rw [after, List.nil_append, hsettled]

/-! ### After every run -/

/-- **Importing an unmodified export**, whatever the administrators did before. -/
theorem catalogueRoundTrip (letters : Letters) (draws : Draws) (actions : List AdminAction)
    (hheaders : ∀ header ∈ csvHeaders, letters.toLowerCase header = header)
    (hlimit : (Machine.run (AdminAction.step letters) {} actions).products.length ≤
      maxImportRows) :
    RoundTrips letters draws (Machine.run (AdminAction.step letters) {} actions) ↔
      Restores letters (Machine.run (AdminAction.step letters) {} actions) :=
  roundTrips_iff hheaders (wellFormed_run letters actions) hlimit

def englishLetters : Letters where
  toLowerCase := String.toLower
  insensitive := String.toLower

def countedDraws : Draws where
  uuid n := "row-" ++ toString n
  now n := n

def oneProduct (name : String) (price : Decimal) : List AdminAction :=
  [.createCategory "supplies" "Packaging",
    .createProduct "first" 0
      { name := some name, categoryId := some "supplies", price := some price }]

theorem catalogueRoundTrip_labels :
    RoundTrips englishLetters countedDraws
        (Machine.run (AdminAction.step englishLetters) {} (oneProduct "A4 labels" 25)) ↔
      Restores englishLetters
        (Machine.run (AdminAction.step englishLetters) {} (oneProduct "A4 labels" 25)) :=
  catalogueRoundTrip englishLetters countedDraws (oneProduct "A4 labels" 25)
    (by decide +kernel) (by decide +kernel)

/-- A name that starts like a formula comes back as the name of another product; and a price of half
a cent comes back rounded. -/
theorem catalogueRoundTrip_changed :
    ¬ RoundTrips englishLetters countedDraws
        (Machine.run (AdminAction.step englishLetters) {} (oneProduct "=A4 labels" 25)) ∧
      ¬ RoundTrips englishLetters countedDraws
        (Machine.run (AdminAction.step englishLetters) {} (oneProduct "A4 labels" (1 / 200))) := by
  have hheaders : ∀ header ∈ csvHeaders, englishLetters.toLowerCase header = header := by
    decide +kernel
  refine ⟨fun h => ?_, fun h => ?_⟩
  · have hrestores := (roundTrips_iff hheaders (wellFormed_run _ _) (by decide +kernel)).1 h
    have hfound := fun product hproduct => (hrestores.found product hproduct).2
    revert hfound
    decide +kernel
  · have hrestores := (roundTrips_iff hheaders (wellFormed_run _ _) (by decide +kernel)).1 h
    have hprice := fun product hproduct exported hlast =>
      (hrestores.last product hproduct exported hlast).price
    revert hprice
    decide +kernel

end Zomaal.Catalogue
