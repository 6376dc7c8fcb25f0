/-
**The cost of a bundle is the cost of its components, as long as no update reads what another one is
changing.**

An update that runs alone keeps the costs of bundles derived.  Two that overlap may each compute
from rows the other is about to change; they cannot when everything an update has read is still so
at its commit.

Main results:

* `Catalogue.update_alone` — an update that runs alone keeps costs derived;
* `Catalogue.bundleCosts` — **and so does every run whose updates commit while what they read is
  still so**.
-/

import Zomaal.ProductUpdates

set_option autoImplicit false

namespace Zomaal.Catalogue

open Purchasing (StoredMoney store4)
open ReadCommitted (Program)

/-! ### Sums of costs -/

theorem store4_costSum (costs : List (StoredMoney × ℕ)) :
    (store4 (costSum costs)).1 = costSum costs := by
  refine toFixed4_sum fun x hx => ?_
  obtain ⟨cost, -, rfl⟩ := List.mem_map.1 hx
  exact toFixed4_mul_natCast cost.1.2 cost.2

/-! ### Costs are set -/

namespace Products

variable (c : Products)

def recost (f : WarehouseVariant → StoredMoney) : Products :=
  { c with variants := c.variants.map fun v => { v with costPrice := f v } }

theorem setCost_eq (variantId : String) (cost : Option Decimal) :
    c.setCost variantId cost = c.recost fun v =>
      if v.id = variantId then (cost.map store4).getD v.costPrice else v.costPrice := by
  rw [setCost, recost, KeyedRows.change]
  congr 1
  refine List.map_congr_left fun v _ => ?_
  split
  · rfl
  · rfl

theorem setDefaultCost_eq (productId : String) (cost : Decimal) :
    c.setDefaultCost productId cost = c.recost fun v =>
      if v.productId = productId ∧ v.isDefault then store4 cost else v.costPrice := by
  rw [setDefaultCost, recost]
  congr 1
  refine List.map_congr_left fun v _ => ?_
  split
  · rfl
  · rfl

theorem costOf_recost (f : WarehouseVariant → StoredMoney) (variantId : String) :
    (c.recost f).costOf variantId =
      ((KeyedRows.lookup WarehouseVariant.id variantId c.variants).map f).getD
        ⟨0, toFixed4_zero⟩ := by
  have hlookup : KeyedRows.lookup WarehouseVariant.id variantId
      (c.variants.map fun v => { v with costPrice := f v }) =
      (KeyedRows.lookup WarehouseVariant.id variantId c.variants).map fun v =>
        { v with costPrice := f v } :=
    KeyedRows.lookup_map WarehouseVariant.id (fun _ => rfl) variantId c.variants
  rw [costOf, recost, hlookup, Option.map_map]
  rfl

theorem componentCost_recost {f : WarehouseVariant → StoredMoney} {bundleProductId : String}
    (hkept : ∀ row ∈ c.components, row.bundleProductId = bundleProductId → ∀ v ∈ c.variants,
      v.id = row.componentVariantId → f v = v.costPrice) :
    (c.recost f).componentCost bundleProductId = c.componentCost bundleProductId := by
  rw [componentCost, componentCost]
  congr 1
  refine List.map_congr_left fun row hrow => ?_
  obtain ⟨hrow, hbundle⟩ := List.mem_filter.1 hrow
  rw [costOf_recost, costOf]
  congr 2
  refine Option.map_congr fun v hv => ?_
  obtain ⟨hmem, hid⟩ := KeyedRows.lookup_some _ hv
  exact hkept row hrow (by simpa using hbundle) v hmem hid

end Products

/-! ### What updates keep -/

/-- The components of bundles are variants of standard products. -/
structure Sound (c : Products) : Prop where
  variantIds : (c.variants.map WarehouseVariant.id).Nodup
  bundles : ∀ row ∈ c.components, c.kindOf row.bundleProductId = some .bundle
  standard : ∀ row ∈ c.components, ∀ v ∈ c.variants, v.id = row.componentVariantId →
    c.kindOf v.productId = some .standard

structure DerivedBut (stale : List String) (c : Products) : Prop extends Sound c where
  derived : ∀ v ∈ c.variants, v.isDefault = true → c.kindOf v.productId = some .bundle →
    v.productId ∉ stale → v.costPrice.1 = c.componentCost v.productId

namespace DerivedBut

variable {c : Products} {stale : List String}

theorem weaken (h : DerivedBut [] c) : DerivedBut stale c :=
  ⟨h.toSound, fun v hv hdefault hkind _ => h.derived v hv hdefault hkind (by simp)⟩

theorem recost {stale' : List String} (h : DerivedBut stale c) {f : WarehouseVariant → StoredMoney}
    (hkept : ∀ row ∈ c.components, row.bundleProductId ∉ stale' → ∀ v ∈ c.variants,
      v.id = row.componentVariantId → f v = v.costPrice)
    (hderived : ∀ v ∈ c.variants, v.isDefault = true → c.kindOf v.productId = some .bundle →
      v.productId ∉ stale' → (f v).1 = c.componentCost v.productId) :
    DerivedBut stale' (c.recost f) where
  variantIds := by
    rw [Products.recost, List.map_map]
    exact h.variantIds
  bundles := h.bundles
  standard row hrow v hv hid := by
    obtain ⟨old, hold, rfl⟩ := List.mem_map.1 hv
    exact h.standard row hrow old hold hid
  derived v hv hdefault hkind hfresh := by
    obtain ⟨old, hold, rfl⟩ := List.mem_map.1 hv
    rw [c.componentCost_recost fun row hrow hbundle => hkept row hrow (hbundle ▸ hfresh)]
    exact hderived old hold hdefault hkind hfresh

theorem setCost (h : DerivedBut stale c) {variantId : String} {cost : Option Decimal}
    (husage : cost.isSome → ∀ row ∈ c.components, row.componentVariantId = variantId →
      row.bundleProductId ∈ stale)
    (hkind : cost.isSome → ∀ v ∈ c.variants, v.id = variantId →
      c.kindOf v.productId ≠ some .bundle) : DerivedBut stale (c.setCost variantId cost) := by
  rw [c.setCost_eq]
  refine h.recost (fun row hrow hfresh v _ hid => ?_) fun v hv hdefault hbundle hfresh => ?_
  · cases cost with
    | none => simp
    | some cost =>
      rw [if_neg]
      exact fun heq => hfresh (husage rfl row hrow (hid ▸ heq))
  · have hsame : (if v.id = variantId then (cost.map store4).getD v.costPrice else v.costPrice) =
        v.costPrice := by
      cases cost with
      | none => simp
      | some cost => exact if_neg fun heq => hkind rfl v hv heq hbundle
    rw [hsame]
    exact h.derived v hv hdefault hbundle hfresh

theorem setDefaultCost {bundle : String} (h : DerivedBut (bundle :: stale) c)
    (hkind : c.kindOf bundle = some .bundle) :
    DerivedBut stale (c.setDefaultCost bundle (c.componentCost bundle)) := by
  rw [c.setDefaultCost_eq]
  refine h.recost (fun row hrow _ v hv hid => ?_) fun v hv hdefault hbundle hfresh => ?_
  · rw [if_neg]
    rintro ⟨hproduct, -⟩
    have hstandard := h.standard row hrow v hv hid
    rw [hproduct, hkind] at hstandard
    cases hstandard
  · by_cases hproduct : v.productId = bundle
    · rw [if_pos ⟨hproduct, hdefault⟩, hproduct]
      exact store4_costSum _
    · rw [if_neg fun hboth => hproduct hboth.1]
      refine h.derived v hv hdefault hbundle fun hmem => ?_
      rcases List.mem_cons.1 hmem with heq | hmem
      · exact hproduct heq
      · exact hfresh hmem

end DerivedBut

/-! ### The statements of an update, alone -/

variable (writes : List (String × Option Decimal))

theorem writeCosts_alone (next : ProductProgram) (c : Products) :
    (writeCosts writes next).alone c =
      next.alone (writes.foldl (fun c write => c.setCost write.1 write.2) c) := by
  induction writes generalizing c with
  | nil => rfl
  | cons write writes ih => exact ih _

theorem foldl_setCost_frame (c : Products) :
    (writes.foldl (fun c write => c.setCost write.1 write.2) c).components = c.components ∧
    (writes.foldl (fun c write => c.setCost write.1 write.2) c).products = c.products := by
  induction writes generalizing c with
  | nil => exact ⟨rfl, rfl⟩
  | cons write writes ih => exact ih _

variable {c : Products}

theorem foldl_setCost_derived {stale : List String} (h : DerivedBut stale c)
    (husage : ∀ write ∈ writes, write.2.isSome → ∀ row ∈ c.components,
      row.componentVariantId = write.1 → row.bundleProductId ∈ stale)
    (hkind : ∀ write ∈ writes, write.2.isSome → ∀ v ∈ c.variants, v.id = write.1 →
      c.kindOf v.productId ≠ some .bundle) :
    DerivedBut stale (writes.foldl (fun c write => c.setCost write.1 write.2) c) := by
  induction writes generalizing c with
  | nil => exact h
  | cons write writes ih =>
    refine ih (h.setCost (husage _ (List.mem_cons_self ..)) (hkind _ (List.mem_cons_self ..)))
      (fun other hmem => husage other (List.mem_cons_of_mem _ hmem))
      fun other hmem hsome v hv hid => ?_
    dsimp only at hv
    rw [c.setCost_eq] at hv
    obtain ⟨old, hold, rfl⟩ := List.mem_map.1 hv
    exact hkind other (List.mem_cons_of_mem _ hmem) hsome old hold hid

theorem foldl_setCost_none {writes : List (String × Option Decimal)}
    (hnone : ∀ write ∈ writes, write.2 = none) (c : Products) :
    writes.foldl (fun c write => c.setCost write.1 write.2) c = c := by
  induction writes generalizing c with
  | nil => rfl
  | cons write writes ih =>
    have hsame : c.setCost write.1 write.2 = c := by
      rw [Products.setCost, hnone write (List.mem_cons_self ..), KeyedRows.change]
      simp
    rw [List.foldl_cons, hsame]
    exact ih (fun other hmem => hnone other (List.mem_cons_of_mem _ hmem)) c

theorem refreshEach_alone (bundles : List String) {c' : Products} (h : DerivedBut bundles c)
    (hkind : ∀ bundle ∈ bundles, c.kindOf bundle = some .bundle)
    (halone : (refreshEach bundles .done).alone c = some c') : DerivedBut [] c' := by
  induction bundles generalizing c with
  | nil =>
    obtain rfl := Option.some.inj halone
    exact h
  | cons bundle bundles ih =>
    have hcost : costSum (List.zip ((c.componentsOf bundle).map fun row =>
        c.costOf row.componentVariantId) ((c.componentsOf bundle).map
          ProductBundleComponent.quantity)) = c.componentCost bundle := by
      rw [List.zip_map', Products.componentCost]
    change (refreshEach bundles .done).alone (c.setDefaultCost bundle (costSum _)) = _ at halone
    rw [hcost] at halone
    exact ih (h.setDefaultCost (hkind bundle (List.mem_cons_self ..)))
      (fun other hmem => hkind other (List.mem_cons_of_mem _ hmem)) halone

theorem changeCosts_alone {c' : Products} (h : DerivedBut [] c)
    (hkind : ∀ write ∈ writes, write.2.isSome → ∀ v ∈ c.variants, v.id = write.1 →
      c.kindOf v.productId ≠ some .bundle)
    (halone : (writeCosts writes (refreshBundleCosts (changedCosts writes) .done)).alone c =
      some c') : DerivedBut [] c' := by
  rw [writeCosts_alone] at halone
  obtain ⟨hcomponents, hproducts⟩ := foldl_setCost_frame writes c
  have hchanged : DerivedBut (c.usages (changedCosts writes))
      (writes.foldl (fun c write => c.setCost write.1 write.2) c) := by
    refine foldl_setCost_derived writes h.weaken (fun write hwrite hsome row hrow hid => ?_) hkind
    refine List.mem_dedup.2 (List.mem_map.2 ⟨row, List.mem_filter.2 ⟨hrow, ?_⟩, rfl⟩)
    rw [hid, decide_eq_true_eq]
    exact List.mem_map_of_mem (List.mem_filter.2 ⟨hwrite, hsome⟩)
  · set d := writes.foldl (fun c write => c.setCost write.1 write.2) c
    rw [refreshBundleCosts] at halone
    split at halone
    · rename_i hnone
      obtain rfl := Option.some.inj halone
      rw [hnone] at hchanged
      simpa [Products.usages] using hchanged
    · have husages : d.usages (changedCosts writes) = c.usages (changedCosts writes) := by
        rw [Products.usages, hcomponents, Products.usages]
      change (refreshEach (d.usages (changedCosts writes)) .done).alone d = _ at halone
      rw [husages] at halone
      refine refreshEach_alone _ hchanged (fun bundle hmem => ?_) halone
      obtain ⟨row, hrow, rfl⟩ := List.mem_map.1 (List.mem_dedup.1 hmem)
      rw [Products.kindOf, hproducts]
      exact h.bundles row (List.mem_filter.1 hrow).1

/-! ### Components are replaced -/

theorem found_spec (hnodup : (c.variants.map WarehouseVariant.id).Nodup) {ids : List String}
    (hall : (c.standardVariants ids).length = ids.length) {id : String} (hid : id ∈ ids) :
    ∃ v ∈ c.variants, v.id = id ∧ c.kindOf v.productId = some .standard ∧
      foundCost ((c.standardVariants ids).map fun v => (v.id, v.costPrice)) id = c.costOf id := by
  have hsublist : (c.standardVariants ids).Sublist c.variants := List.filter_sublist
  have hfound : ((c.standardVariants ids).map WarehouseVariant.id).Nodup :=
    hnodup.sublist (hsublist.map _)
  have hsub : (c.standardVariants ids).map WarehouseVariant.id ⊆ ids := by
    intro other hmem
    obtain ⟨v, hv, rfl⟩ := List.mem_map.1 hmem
    have hboth := (List.mem_filter.1 hv).2
    rw [decide_eq_true_eq] at hboth
    exact hboth.1
  -- as many as were asked for, so all of them
  have hperm : ((c.standardVariants ids).map WarehouseVariant.id).Perm ids :=
    (List.subperm_of_subset hfound hsub).perm_of_length_le (by rw [List.length_map, hall])
  obtain ⟨v, hv, rfl⟩ := List.mem_map.1 (hperm.mem_iff.2 hid)
  obtain ⟨hmem, hboth⟩ := List.mem_filter.1 hv
  rw [decide_eq_true_eq] at hboth
  refine ⟨v, hmem, rfl, hboth.2, ?_⟩
  have hpair : (v.id, v.costPrice) ∈ (c.standardVariants ids).map fun v => (v.id, v.costPrice) :=
    List.mem_map.2 ⟨v, hv, rfl⟩
  have hpairs :
      (((c.standardVariants ids).map fun v => (v.id, v.costPrice)).map Prod.fst).Nodup := by
    rw [List.map_map]
    exact hfound
  have hlookup : KeyedRows.lookup Prod.fst v.id
      ((c.standardVariants ids).map fun v => (v.id, v.costPrice)) = some (v.id, v.costPrice) :=
    KeyedRows.lookup_of_mem Prod.fst hpairs hpair
  rw [foundCost, ← KeyedRows.lookup, hlookup, Products.costOf,
    KeyedRows.lookup_of_mem WarehouseVariant.id hnodup hmem]
  rfl

theorem replaceComponents_alone {c' : Products} (h : DerivedBut [] c) {bundle : String}
    (hkind : c.kindOf bundle = some .bundle) {inputs : List ProductBundleComponentInputDto}
    {cost : Decimal} (hinputs : ∀ input ∈ inputs, ∀ v ∈ c.variants, v.id = input.variantId →
      c.kindOf v.productId = some .standard)
    (hcost : cost = costSum (inputs.map fun input => (c.costOf input.variantId, input.quantity)))
    (halone : (applyComponents bundle (some (inputs, cost))).alone c = some c') :
    DerivedBut [] c' := by
  obtain rfl := Option.some.inj halone
  set d := (c.deleteComponents bundle).createComponents bundle inputs
  have hmem : ∀ row ∈ d.components, (row ∈ c.components ∧ row.bundleProductId ≠ bundle) ∨
      (row.bundleProductId = bundle ∧
        ∃ input ∈ inputs, row.componentVariantId = input.variantId) := by
    intro row hrow
    rcases List.mem_append.1 hrow with hrow | hrow
    · exact Or.inl ⟨(List.mem_filter.1 hrow).1, by simpa using (List.mem_filter.1 hrow).2⟩
    · obtain ⟨input, hinput, rfl⟩ := List.mem_map.1 hrow
      exact Or.inr ⟨rfl, input, hinput, rfl⟩
  have hothers : ∀ other, other ≠ bundle → d.componentsOf other = c.componentsOf other := by
    intro other hne
    simp only [d, Products.componentsOf, Products.createComponents, Products.deleteComponents,
      List.filter_append, List.filter_filter, List.filter_map]
    have hnone : (inputs.filter ((fun row : ProductBundleComponent =>
        decide (row.bundleProductId = other)) ∘ fun input =>
          { bundleProductId := bundle, componentVariantId := input.variantId
            quantity := input.quantity })) = [] :=
      List.filter_eq_nil_iff.2 fun input _ => by simp [hne.symm]
    rw [hnone, List.map_nil, List.append_nil]
    refine List.filter_congr fun row _ => ?_
    by_cases hrow : row.bundleProductId = other
    · simp [hrow, hne]
    · simp [hrow]
  have hself : d.componentsOf bundle = inputs.map fun input =>
      { bundleProductId := bundle, componentVariantId := input.variantId
        quantity := input.quantity } := by
    simp only [d, Products.componentsOf, Products.createComponents, Products.deleteComponents,
      List.filter_append, List.filter_filter, List.filter_map]
    have hnone : (c.components.filter fun row => decide (row.bundleProductId = bundle) &&
        decide (row.bundleProductId ≠ bundle)) = [] :=
      List.filter_eq_nil_iff.2 fun row _ => by simp
    have hall : (inputs.filter ((fun row : ProductBundleComponent =>
        decide (row.bundleProductId = bundle)) ∘ fun input =>
          { bundleProductId := bundle, componentVariantId := input.variantId
            quantity := input.quantity })) = inputs :=
      List.filter_eq_self.2 fun input _ => by simp
    rw [hnone, hall, List.nil_append]
  have hd : DerivedBut [bundle] d :=
    { variantIds := h.variantIds
      bundles := fun row hrow => by
        rcases hmem row hrow with ⟨hrow, -⟩ | ⟨hrow, -⟩
        · exact h.bundles row hrow
        · rw [hrow]
          exact hkind
      standard := fun row hrow v hv hid => by
        rcases hmem row hrow with ⟨hrow, -⟩ | ⟨-, input, hinput, hinputId⟩
        · exact h.standard row hrow v hv hid
        · exact hinputs input hinput v hv (hid.trans hinputId)
      derived := fun v hv hdefault hbundle hfresh => by
        have hne : v.productId ≠ bundle := by simpa using hfresh
        rw [Products.componentCost, hothers _ hne]
        exact h.derived v hv hdefault hbundle (by simp) }
  have hdCost : cost = d.componentCost bundle := by
    rw [hcost, Products.componentCost, hself, List.map_map]
    rfl
  change DerivedBut [] (d.setDefaultCost bundle cost)
  rw [hdCost]
  exact hd.setDefaultCost hkind

/-! ### An update, alone -/

theorem kindOf_bump (c : Products) (dto : UpdateWarehouseProductDto) (productId : String) :
    (c.bump dto).kindOf productId = c.kindOf productId := by
  simp only [Products.kindOf, Products.bump]
  by_cases heq : productId = dto.productId
  · subst heq
    simp [Option.map_map, Function.comp_def]
  · rw [Function.update_of_ne heq]

theorem DerivedBut.bump {stale : List String} (h : DerivedBut stale c)
    (dto : UpdateWarehouseProductDto) : DerivedBut stale (c.bump dto) where
  variantIds := h.variantIds
  bundles row hrow := by
    rw [kindOf_bump]
    exact h.bundles row hrow
  standard row hrow v hv hid := by
    rw [kindOf_bump]
    exact h.standard row hrow v hv hid
  derived v hv hdefault hbundle := by
    rw [kindOf_bump] at hbundle
    exact h.derived v hv hdefault hbundle

theorem checkUpdate_writes {dto : UpdateWarehouseProductDto} {kind : WarehouseProductKind}
    {variantIds : List String} (h : checkUpdate dto kind variantIds = none) :
    (∀ write ∈ variantWrites dto variantIds, write.1 ∈ variantIds ∧
      (kind = .bundle → write.2 = none)) ∧
    (dto.bundleComponents.isSome → kind = .bundle) := by
  unfold checkUpdate at h
  split_ifs at h with hboth hmany hcost hnodup howned hbundle hcomponents
  refine ⟨fun write hwrite => ?_, fun hsome => by_contra fun hne => hbundle ⟨hsome, hne⟩⟩
  rcases List.mem_append.1 hwrite with hwrite | hwrite
  · split at hwrite
    · obtain ⟨id, hid, rfl⟩ := List.mem_map.1 hwrite
      refine ⟨List.mem_of_mem_take hid, fun hkind => ?_⟩
      exact Option.not_isSome_iff_eq_none.1 fun hsome => hcost ⟨hkind, Or.inl hsome⟩
    · cases hwrite
  · obtain ⟨v, hv, rfl⟩ := List.mem_map.1 hwrite
    refine ⟨by_contra fun hnot => howned ⟨v, hv, hnot⟩, fun hkind => ?_⟩
    exact Option.not_isSome_iff_eq_none.1 fun hsome => hcost ⟨hkind, Or.inr ⟨v, hv, hsome⟩⟩

/-- **An update that runs alone keeps the costs of bundles derived.** -/
theorem update_alone (dto : UpdateWarehouseProductDto) (c c' : Products) (h : DerivedBut [] c)
    (halone : (update dto).alone c = some c') : DerivedBut [] c' := by
  simp only [update, Program.alone] at halone
  split at halone
  · cases halone
  · rename_i kind hkind
    split at halone
    · cases halone
    · rename_i hcheck
      obtain ⟨hwrites, hbundle⟩ := checkUpdate_writes hcheck
      have hbumped := h.bump dto
      rw [prepareContentEdit] at halone
      split at halone
      · -- no components: costs of a product may change that is no bundle
        refine changeCosts_alone _ hbumped (fun write hwrite hsome v hv hid hsame => ?_) halone
        obtain ⟨howned, hnone⟩ := hwrites write hwrite
        obtain ⟨own, hown, hownId⟩ := List.mem_map.1 howned
        obtain ⟨hown, hproduct⟩ := List.mem_filter.1 hown
        have hv : v = own :=
          List.inj_on_of_nodup_map h.variantIds hv hown (hid.trans hownId.symm)
        rw [kindOf_bump, hv, of_decide_eq_true hproduct, hkind] at hsame
        rw [hnone (Option.some.inj hsame)] at hsome
        cases hsome
      · -- a bundle: no cost of its own changes
        rename_i inputs hinputs
        obtain rfl := hbundle (by rw [hinputs]; rfl)
        simp only [Program.alone] at halone
        split at halone
        · cases halone
        · rename_i hall
          rw [List.length_map, not_not] at hall
          have hfound := fun input (hinput : input ∈ inputs) => found_spec h.variantIds hall
            (List.mem_map_of_mem (f := ProductBundleComponentInputDto.variantId) hinput)
          have hnone : ∀ write ∈ variantWrites dto (c.variantIds dto.productId), write.2 = none :=
            fun write hwrite => (hwrites write hwrite).2 rfl
          have hchanged : changedCosts (variantWrites dto (c.variantIds dto.productId)) = [] := by
            rw [changedCosts, List.filter_eq_nil_iff.2 fun write hwrite => by
              simp [hnone write hwrite]]
            rfl
          simp only [transaction, Program.alone] at halone
          rw [writeCosts_alone, foldl_setCost_none hnone, hchanged, refreshBundleCosts,
            if_pos rfl] at halone
          refine replaceComponents_alone hbumped (by rw [kindOf_bump, hkind])
            (fun input hinput v hv hid => ?_) ?_ halone
          · obtain ⟨found, hmem, hfoundId, hstandard, -⟩ := hfound input hinput
            have hv : v = found :=
              List.inj_on_of_nodup_map h.variantIds hv hmem (hid.trans hfoundId.symm)
            rw [kindOf_bump, hv]
            exact hstandard
          · congr 1
            refine List.map_congr_left fun input hinput => ?_
            obtain ⟨-, -, -, -, hcost⟩ := hfound input hinput
            rw [hcost]
            rfl

/-! ### Updates that overlap -/

theorem derivedBut_nil_iff : DerivedBut [] c ↔ Sound c ∧ c.Derived :=
  ⟨fun h => ⟨h.toSound, fun v hv hdefault hkind => h.derived v hv hdefault hkind (by simp)⟩,
    fun h => ⟨h.1, fun v hv hdefault hkind _ => h.2 v hv hdefault hkind⟩⟩

/-- **The cost of every bundle is the cost of its components**, after every run of updates, failing
or not, each of which commits only while what it read is still so. -/
theorem bundleCosts {c : Products} (hsound : Sound c) (hderived : c.Derived)
    {actions : List (ReadCommitted.Action UpdateWarehouseProductDto UpdateError)}
    (h : Machine.Along (ReadCommitted.step update) ReadCommitted.StillCurrent { shared := c }
      actions) :
    (Machine.run (ReadCommitted.step update) { shared := c } actions).shared.Derived :=
  (derivedBut_nil_iff.1 (ReadCommitted.run_keeps update_alone
    (derivedBut_nil_iff.2 ⟨hsound, hderived⟩) h)).2

instance (c : Products) : Decidable c.Derived :=
  inferInstanceAs (Decidable (∀ v ∈ c.variants, v.isDefault = true →
    c.kindOf v.productId = some .bundle → v.costPrice.1 = c.componentCost v.productId))

def kitStore : Products :=
  { products := fun id =>
      if id = "kit" then some { kind := .bundle }
      else if id = "mouse" ∨ id = "pad" then some { kind := .standard }
      else none
    variants :=
      [{ id := "mouse variant", productId := "mouse", isDefault := true, costPrice := store4 10 },
        { id := "pad variant", productId := "pad", isDefault := true, costPrice := store4 5 },
        { id := "kit variant", productId := "kit", isDefault := true, costPrice := store4 15 }]
    components :=
      [{ bundleProductId := "kit", componentVariantId := "mouse variant", quantity := 1 },
        { bundleProductId := "kit", componentVariantId := "pad variant", quantity := 1 }] }

theorem kitStore_sound : Sound kitStore where
  variantIds := by decide
  bundles := by decide
  standard := by decide

def mouseCosts : UpdateWarehouseProductDto :=
  { productId := "mouse", version := 1, costPrice := some 12 }

def padCosts : UpdateWarehouseProductDto :=
  { productId := "pad", version := 1, costPrice := some 7 }

/-- The pad's update begins before the mouse's ends, and reads the costs when it has ended. -/
def inTurn : List (ReadCommitted.Action UpdateWarehouseProductDto UpdateError) :=
  [.start mouseCosts, .start padCosts] ++ List.replicate 6 (.turn 0) ++
    List.replicate 2 (.turn 1) ++ List.replicate 2 (.turn 0) ++ List.replicate 6 (.turn 1)

theorem bundleCosts_inTurn :
    ((Machine.run (ReadCommitted.step update) { shared := kitStore } inTurn).shared.variants.map
      fun v => v.costPrice.1) = [12, 7, 19] ∧
    (Machine.run (ReadCommitted.step update) { shared := kitStore } inTurn).shared.Derived :=
  ⟨by decide +kernel,
    bundleCosts kitStore_sound (by decide +kernel) (by decide +kernel)⟩

def overlapping : List (ReadCommitted.Action UpdateWarehouseProductDto UpdateError) :=
  [.start mouseCosts, .start padCosts] ++ List.replicate 6 (.turn 0) ++
    List.replicate 6 (.turn 1) ++ List.replicate 2 (.turn 0) ++ List.replicate 2 (.turn 1)

/-- **Two updates of different components** leave the kit with the cost it has with the old mouse.
-/
theorem bundleCosts_overlapping :
    Sound kitStore ∧ kitStore.Derived ∧
    ReadCommitted.Quiet (Machine.run (ReadCommitted.step update) { shared := kitStore }
      overlapping) ∧
    ((Machine.run (ReadCommitted.step update) { shared := kitStore }
      overlapping).shared.variants.map fun v => v.costPrice.1) = [12, 7, 17] ∧
    ¬ (Machine.run (ReadCommitted.step update) { shared := kitStore } overlapping).shared.Derived :=
  ⟨kitStore_sound, by decide +kernel, by decide +kernel, by decide +kernel, by decide +kernel⟩

end Zomaal.Catalogue
