/-
**An export, read as an import.**

The cells of an export come back trimmed as they were stored, except that one that starts like a
formula has an apostrophe before it, and that prices have two decimals.

Main results:

* `Catalogue.readImport_export` — **what the import reads**, and when it accepts it.
-/

import Zomaal.ShopCatalogue

set_option autoImplicit false

namespace Zomaal.Catalogue

open JsText ShopCatalogue

/-! ### Cells -/

def Plain (text : String) : Prop := comesBack text = text

theorem plain_comesBack (text : String) : Plain (comesBack text) := by
  have hfirst : (comesBack text).toList.head? ∉ [some '=', some '+', some '-', some '@'] := by
    rw [comesBack]
    split
    · have hcons : ("'" ++ text).toList = '\'' :: text.toList := String.toList_append
      rw [hcons, List.head?_cons]
      decide
    · assumption
  exact if_neg hfirst

variable {text : String}

theorem plain_of_digitEnds (h : DigitEnds text) : Plain text := by
  obtain ⟨⟨c, hhead, hdigit⟩, -⟩ := h
  refine if_neg fun hmem => ?_
  rw [hhead] at hmem
  simp only [List.mem_cons, Option.some_inj, List.not_mem_nil, or_false] at hmem
  rcases hmem with rfl | rfl | rfl | rfl <;> exact absurd hdigit (by decide)

theorem Trimmed.ends (h : Trimmed text) :
    (∀ c ∈ text.toList.head?, isSpace c = false) ∧
      ∀ c ∈ text.toList.getLast?, isSpace c = false := by
  have hlist : ((text.toList.dropWhile isSpace).reverse.dropWhile isSpace).reverse =
      text.toList := by
    have hsame := congrArg String.toList h
    rwa [trim, String.toList_ofList] at hsame
  have hlast : ∀ c ∈ text.toList.getLast?, isSpace c = false := by
    intro c hc
    rw [← hlist, List.getLast?_reverse] at hc
    have hstop := List.head?_dropWhile_not isSpace (text.toList.dropWhile isSpace).reverse
    rw [hc] at hstop
    exact hstop
  refine ⟨fun c hc => ?_, hlast⟩
  -- nothing was dropped at the start, because nothing is missing
  have hlength : text.toList.length ≤ (text.toList.dropWhile isSpace).length := by
    calc text.toList.length
        = ((text.toList.dropWhile isSpace).reverse.dropWhile isSpace).reverse.length := by
          rw [hlist]
      _ ≤ (text.toList.dropWhile isSpace).reverse.length := by
          rw [List.length_reverse]
          exact (List.dropWhile_sublist isSpace).length_le
      _ = (text.toList.dropWhile isSpace).length := List.length_reverse
  have hkept : text.toList.dropWhile isSpace = text.toList :=
    (List.dropWhile_sublist isSpace).eq_of_length_le hlength
  have hstop := List.head?_dropWhile_not isSpace text.toList
  rw [hkept, hc] at hstop
  exact hstop

theorem Trimmed.comesBack (h : Trimmed text) : Trimmed (comesBack text) := by
  rw [Zomaal.comesBack]
  split
  · rename_i hformula
    obtain ⟨-, hlast⟩ := h.ends
    have hne : text.toList ≠ [] := by
      rintro hnil
      rw [hnil] at hformula
      exact absurd hformula (by decide)
    refine trim_eq_self (fun c hc => ?_) fun c hc => ?_
    · rw [String.toList_append] at hc
      obtain rfl := Option.some.inj hc
      decide
    · rw [String.toList_append, List.getLast?_append_of_ne_nil _ hne] at hc
      exact hlast c hc
  · exact h

theorem comesBack_ne_empty (h : text ≠ "") : comesBack text ≠ "" := by
  rw [comesBack]
  split
  · intro hnil
    have hlist := congrArg String.toList hnil
    rw [String.toList_append] at hlist
    exact absurd hlist (by simp)
  · exact h

theorem comesBack_eq_empty_iff : comesBack text = "" ↔ text = "" := by
  constructor
  · intro h
    by_contra hne
    exact comesBack_ne_empty hne h
  · rintro rfl
    decide

/-! ### The export as a table -/

variable {c : ShopCatalogue}

def ShopCatalogue.textCells (c : ShopCatalogue) (product : ShopProduct) : List String :=
  (c.cells product).map fun cell => cell.getD ""

theorem exportProductsCsv_eq (c : ShopCatalogue) : exportProductsCsv c =
    toCsv ((csvHeaders :: (newestFirst c.products).map c.textCells).map (List.map some)) := by
  simp only [exportProductsCsv, toCsv, textCells, List.map_cons, List.map_map, Function.comp_def,
    Option.getD_some]

theorem parseCsv_export (c : ShopCatalogue) : parseCsv (exportProductsCsv c) =
    csvHeaders :: (newestFirst c.products).map fun product =>
      (c.textCells product).map comesBack := by
  have hheaders : csvHeaders.map comesBack = csvHeaders := by decide
  rw [exportProductsCsv_eq, csvRoundTrip, List.map_cons, hheaders, List.map_map]
  · rfl
  · intro row hrow
    rcases List.mem_cons.1 hrow with rfl | hrow
    · exact ⟨"name", by decide, by decide⟩
    · -- the status of a product is no blank cell
      obtain ⟨product, -, rfl⟩ := List.mem_map.1 hrow
      refine ⟨product.status.text, by simp [textCells, cells], ?_⟩
      cases product.status <;> decide
  · intro row hrow first hfirst
    obtain rfl := Option.some.inj hrow
    obtain rfl := Option.some.inj hfirst
    decide

/-! ### The rows of the export -/

def ShopCatalogue.exportedRow (c : ShopCatalogue) (product : ShopProduct) : ImportRow where
  name := comesBack product.name
  categoryName := comesBack (c.categoryName product)
  sku := product.sku.map comesBack
  description := product.description.map comesBack
  price := Shop.toDecimalPlaces2 product.price
  stock := product.stock
  status := product.status

theorem cell_export (c : ShopCatalogue) (product : ShopProduct) {i : ℕ} {column : String}
    (hcolumn : csvHeaders.idxOf? column = some i) :
    cell csvHeaders ((c.textCells product).map comesBack) column =
      trim (((c.textCells product).map comesBack).getD i "") := by
  rw [cell, hcolumn]

theorem truthy_cell {text : Option String} (h : TrimmedOrNull text) :
    truthy (some (trim (comesBack (text.getD "")))) = text.map comesBack := by
  cases text with
  | none =>
    have hempty : trim (comesBack "") = "" := by decide
    rw [Option.getD_none, hempty]
    rfl
  | some value =>
    obtain ⟨htrimmed, hne⟩ := h value rfl
    rw [Option.getD_some, htrimmed.comesBack, truthy, if_neg (comesBack_ne_empty hne),
      Option.map_some]

theorem toDecimalPlaces2_bounds {price : Decimal} (h : 0 ≤ price ∧ price ≤ maxMoneyInput) :
    0 ≤ Shop.toDecimalPlaces2 price ∧ Shop.toDecimalPlaces2 price ≤ maxMoneyInput := by
  rw [Shop.toDecimalPlaces2, if_pos h.1]
  have hlow : (0 : ℤ) ≤ ⌊price * 100 + 1 / 2⌋ := by
    have := h.1
    exact Int.floor_nonneg.2 (by positivity)
  have hhigh : ⌊price * 100 + 1 / 2⌋ ≤ 999999999999999800 := by
    rw [← Int.lt_add_one_iff, Int.floor_lt]
    have hmax := h.2
    rw [maxMoneyInput] at hmax
    push_cast
    linarith
  have hlow' : (0 : ℚ) ≤ (⌊price * 100 + 1 / 2⌋ : ℚ) := by exact_mod_cast hlow
  have hhigh' : (⌊price * 100 + 1 / 2⌋ : ℚ) ≤ 999999999999999800 := by exact_mod_cast hhigh
  rw [maxMoneyInput]
  constructor
  · positivity
  · linarith

theorem nonNegative_price {price : Decimal} (h : 0 ≤ price ∧ price ≤ maxMoneyInput) :
    nonNegative (Shop.toFixed2 price) = some (Shop.toDecimalPlaces2 price) := by
  obtain ⟨hlow, hhigh⟩ := toDecimalPlaces2_bounds h
  have hbound : Shop.toDecimalPlaces2 price < numberBound :=
    hhigh.trans_lt (by decide +kernel)
  rw [nonNegative, number_toFixed2 h.1 hbound, Option.filter_some, if_pos (decide_eq_true hlow)]

theorem readStock_toString {stock : ℤ} (h : 0 ≤ stock ∧ stock ≤ 2147483647) :
    readStock (toString stock) = some stock := by
  obtain ⟨n, rfl⟩ := Int.eq_ofNat_of_zero_le h.1
  have htext : toString (n : ℤ) = toString n := rfl
  have hbound : (n : ℚ) < numberBound := by
    have hsmall : (n : ℚ) ≤ 2147483647 := by exact_mod_cast h.2
    exact hsmall.trans_lt (by decide +kernel)
  have hne : toString n ≠ "" := fun hnil => toString_ne_nil n (by rw [hnil]; rfl)
  rw [htext, readStock, if_neg hne, nonNegative, number_toString hbound, Option.filter_some,
    if_pos (decide_eq_true n.cast_nonneg), Option.bind_some, if_pos (Rat.den_natCast n)]
  rfl

theorem readStatus_text (status : ShopProductStatus) :
    readStatus (upperCode (trim (comesBack status.text))) = some status := by
  cases status <;> decide

theorem parseRow_cells {product : ShopProduct} (h : product.WellFormed)
    (hcategory : Trimmed (c.categoryName product)) (line : ℕ) :
    (parseRow csvHeaders ((c.textCells product).map comesBack) line).2 = c.exportedRow product ∧
      ((parseRow csvHeaders ((c.textCells product).map comesBack) line).1 = [] ↔
        product.name ≠ "" ∧ c.categoryName product ≠ "") := by
  have hname : cell csvHeaders ((c.textCells product).map comesBack) "name" =
      comesBack product.name := by
    rw [cell_export c product (i := 0) rfl]
    exact h.name.comesBack
  have hplace : cell csvHeaders ((c.textCells product).map comesBack) "category" =
      comesBack (c.categoryName product) := by
    rw [cell_export c product (i := 1) rfl]
    exact hcategory.comesBack
  have hsku : truthy (some (cell csvHeaders ((c.textCells product).map comesBack) "sku")) =
      product.sku.map comesBack := by
    rw [cell_export c product (i := 2) rfl]
    exact truthy_cell h.sku
  have hdescription : truthy
      (some (cell csvHeaders ((c.textCells product).map comesBack) "description")) =
        product.description.map comesBack := by
    rw [cell_export c product (i := 6) rfl]
    exact truthy_cell h.description
  have hprice : cell csvHeaders ((c.textCells product).map comesBack) "price" =
      Shop.toFixed2 product.price := by
    rw [cell_export c product (i := 3) rfl]
    have hends := digitEnds_toFixed2 product.price
    change trim (comesBack (Shop.toFixed2 product.price)) = _
    rw [plain_of_digitEnds hends, hends.trim]
  have hstock : cell csvHeaders ((c.textCells product).map comesBack) "stock" =
      toString product.stock := by
    rw [cell_export c product (i := 4) rfl]
    change trim (comesBack (toString product.stock)) = _
    obtain ⟨n, hn⟩ := Int.eq_ofNat_of_zero_le h.stock.1
    rw [hn]
    have hends := digitEnds_toString n
    change trim (comesBack (toString n)) = toString n
    rw [plain_of_digitEnds hends, hends.trim]
  have hstatus : readStatus (upperCode
      (cell csvHeaders ((c.textCells product).map comesBack) "status")) = some product.status := by
    rw [cell_export c product (i := 5) rfl]
    exact readStatus_text product.status
  have hpriceText : Shop.toFixed2 product.price ≠ "" := by
    obtain ⟨⟨d, hhead, -⟩, -⟩ := digitEnds_toFixed2 product.price
    rintro hnil
    rw [hnil] at hhead
    cases hhead
  rw [parseRow, hname, hplace, hsku, hdescription, hprice, hstock, hstatus,
    if_neg hpriceText, nonNegative_price h.price, readStock_toString h.stock]
  refine ⟨rfl, ?_⟩
  dsimp only
  simp only [Option.isNone_some, Bool.false_eq_true, if_false, List.append_nil,
    decide_eq_true_eq, comesBack_eq_empty_iff, List.append_eq_nil_iff, ite_eq_right_iff,
    List.cons_ne_nil, imp_false]

/-! ### What the import reads -/

variable {rows : List ImportRow}

theorem skuErrors_eq_nil : skuErrors rows = [] ↔ (rows.filterMap ImportRow.sku).Nodup := by
  rw [skuErrors, List.map_eq_nil_iff, List.filter_eq_nil_iff, List.nodup_iff_count_le_one]
  constructor
  · intro h sku
    by_cases hmem : sku ∈ rows.filterMap ImportRow.sku
    · have hcount := h sku (List.mem_eraseDups.2 hmem)
      rwa [decide_eq_true_eq, not_lt] at hcount
    · rw [List.count_eq_zero_of_not_mem hmem]
      exact zero_le_one
  · intro h sku _
    rw [decide_eq_true_eq, not_lt]
    exact h sku

theorem map_mapIdx_eq {α β γ : Type} {f : ℕ → α → β} {g : β → γ} {k : α → γ} {l : List α}
    (h : ∀ i, ∀ a ∈ l, g (f i a) = k a) : (l.mapIdx f).map g = l.map k := by
  refine List.ext_getElem (by simp) fun i hi hi' => ?_
  rw [List.getElem_map, List.getElem_mapIdx, List.getElem_map]
  exact h i _ (List.getElem_mem _)

theorem mapIdx_of_map {α β γ : Type} (f : ℕ → β → γ) (g : α → β) (l : List α) :
    (l.map g).mapIdx f = l.mapIdx fun i a => f i (g a) :=
  List.ext_getElem (by simp) fun i hi hi' => by
    rw [List.getElem_mapIdx, List.getElem_map, List.getElem_mapIdx]

theorem mem_newestFirst {products : List ShopProduct} {product : ShopProduct} :
    product ∈ newestFirst products ↔ product ∈ products := List.mem_mergeSort

theorem length_newestFirst (products : List ShopProduct) :
    (newestFirst products).length = products.length := List.length_mergeSort _

theorem WellFormed.categoryName (h : WellFormed c) (product : ShopProduct) :
    Trimmed (c.categoryName product) := by
  rw [ShopCatalogue.categoryName]
  cases hfound : c.findCategory product.categoryId with
  | none => exact trimmed_trim ""
  | some category =>
    exact h.categoryNames category (KeyedRows.lookup_some ShopCategory.id hfound).1

def ShopCatalogue.Named (c : ShopCatalogue) : Prop :=
  ∀ product ∈ c.products, product.name ≠ "" ∧ c.categoryName product ≠ ""

section Read

variable {letters : Letters}

theorem readImport_table (hheaders : ∀ header ∈ csvHeaders, letters.toLowerCase header = header)
    {csvText : String} {table : List (List String)}
    (htable : parseCsv csvText = csvHeaders :: table) (hsome : table ≠ [])
    (hlimit : table.length ≤ maxImportRows) :
    readImport letters csvText = .ok rows ↔
      let parsed := table.mapIdx fun i row => parseRow csvHeaders row (i + 2)
      (∀ entry ∈ parsed, entry.1 = []) ∧ rows = parsed.map Prod.snd ∧
        (rows.filterMap ImportRow.sku).Nodup := by
  have hheader : csvHeaders.map (fun text => letters.toLowerCase (trim text)) = csvHeaders := by
    have htrim : ∀ header ∈ csvHeaders, trim header = header := by decide
    refine (List.map_congr_left fun header hheader => ?_).trans (List.map_id csvHeaders)
    rw [htrim header hheader]
    exact hheaders header hheader
  obtain ⟨first, rest, rfl⟩ := List.exists_cons_of_ne_nil hsome
  rw [readImport, htable]
  dsimp only
  have hcolumns : (["name", "category", "price"].find? fun column => column ∉ csvHeaders) =
      none := by
    decide
  rw [hheader, hcolumns]
  dsimp only
  rw [if_neg (not_lt.2 hlimit)]
  constructor
  · intro h
    split at h
    · rename_i herrors
      obtain rfl := Except.ok.inj h
      rw [List.append_eq_nil_iff, List.flatMap_eq_nil_iff, skuErrors_eq_nil] at herrors
      exact ⟨herrors.1, rfl, herrors.2⟩
    · cases h
  · rintro ⟨hnone, rfl, hskus⟩
    rw [if_pos (List.append_eq_nil_iff.2 ⟨List.flatMap_eq_nil_iff.2 hnone,
      skuErrors_eq_nil.2 hskus⟩)]

theorem readImport_export (hheaders : ∀ header ∈ csvHeaders, letters.toLowerCase header = header)
    (h : WellFormed c) (hlimit : c.products.length ≤ maxImportRows) :
    readImport letters (exportProductsCsv c) = .ok rows ↔
      c.products ≠ [] ∧ c.Named ∧ rows = (newestFirst c.products).map c.exportedRow ∧
        (rows.filterMap ImportRow.sku).Nodup := by
  have htable := parseCsv_export c
  by_cases hsome : c.products = []
  · have hnone : newestFirst c.products = [] := by
      rw [← List.length_eq_zero_iff, length_newestFirst, hsome]
      rfl
    rw [hnone] at htable
    rw [readImport, htable]
    exact ⟨fun hok => (by cases hok), fun hok => absurd hsome hok.1⟩
  · have hrow := fun product (hproduct : product ∈ newestFirst c.products) =>
      @parseRow_cells c product (h.products product (mem_newestFirst.1 hproduct))
        (h.categoryName product)
    have hne : newestFirst c.products ≠ [] := by
      intro hnil
      rw [← List.length_eq_zero_iff, length_newestFirst, List.length_eq_zero_iff] at hnil
      exact hsome hnil
    have hrows : (((newestFirst c.products).map fun product =>
        (c.textCells product).map comesBack).mapIdx fun i row =>
          parseRow csvHeaders row (i + 2)).map Prod.snd =
            (newestFirst c.products).map c.exportedRow := by
      rw [mapIdx_of_map]
      exact map_mapIdx_eq fun i product hproduct => (hrow product hproduct (i + 2)).1
    rw [readImport_table hheaders htable (by simpa using hne)
      (by rwa [List.length_map, length_newestFirst])]
    dsimp only
    rw [hrows]
    have hnamed : (∀ entry ∈ (((newestFirst c.products).map fun product =>
        (c.textCells product).map comesBack).mapIdx fun i row =>
          parseRow csvHeaders row (i + 2)), entry.1 = []) ↔ c.Named := by
      rw [mapIdx_of_map]
      constructor
      · intro hnone product hproduct
        obtain ⟨i, hi, rfl⟩ := List.mem_iff_getElem.1 (mem_newestFirst.2 hproduct)
        refine (hrow _ (List.getElem_mem hi) (i + 2)).2.1 (hnone _ ?_)
        exact List.mem_mapIdx.2 ⟨i, hi, rfl⟩
      · intro hnamed entry hentry
        obtain ⟨i, hi, rfl⟩ := List.mem_mapIdx.1 hentry
        exact (hrow _ (List.getElem_mem hi) (i + 2)).2.2
          (hnamed _ (mem_newestFirst.1 (List.getElem_mem hi)))
    rw [hnamed]
    exact ⟨fun hok => ⟨hsome, hok⟩, fun hok => hok.2⟩

end Read

end Zomaal.Catalogue
