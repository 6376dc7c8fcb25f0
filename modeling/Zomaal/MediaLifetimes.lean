/-
**An attached upload is there as long as it is attached, except for two late deletions.**

An upload that an owner holds has its row and its object, if it is not attached between the look
that `removeTemporary` takes at its status and the deletion of its object.

Main results:

* `MediaUploads.Phase.turn_spec` — what a turn does;
* `MediaUploads.attachedUploads` — **the theorem for runs**;
* `MediaUploads.attachedUploads_lost` — a receipt that is lost.
-/

import Zomaal.MediaUploads

set_option autoImplicit false

namespace Zomaal.MediaUploads

variable {m m' m'' : Media} {env : Environment}

/-! ### Transactions -/

theorem Later.trans {added : List String} (h : Later added m m') (h' : Later added m' m'') :
    Later added m m'' where
  clock := h.clock.trans h'.clock
  named id hid := h'.named id (h.named id hid)
  inserted id hid := h'.inserted id (h.inserted id hid)
  new id hid := (h'.new id hid).elim (h.new id) .inr
  objects id hid hobject := h.objects id hid (h'.objects id (h.inserted id hid) hobject)
  rows := by
    intro asset'' hasset'' hinserted
    obtain ⟨asset', hasset', hsame', hdead', howner'⟩ :=
      h'.rows asset'' hasset'' (h.inserted _ hinserted)
    obtain ⟨asset, hasset, hsame, hdead, howner⟩ := h.rows asset' hasset' (hsame'.symm ▸ hinserted)
    refine ⟨asset, hasset, hsame.trans hsame', fun hgone => hdead' (hdead hgone),
      fun owner hown => ?_⟩
    rcases howner owner hown with hstill | hgone
    · exact howner' owner hstill
    · exact .inr (hdead' hgone)

theorem mem_held_detach {target : Target} {ids : List String} {id expenseId : String}
    (h : (id, .expense expenseId) ∈ m.held) :
    (id, .expense expenseId) ∈ (m.detach target ids).held :=
  List.mem_filter.2 ⟨h, rfl⟩

theorem Kept.applyEdits {edits : List (ImageEdit × List String)} (h : Kept m)
    (hown : ∀ edit ∈ edits, ∀ id ∈ edit.2, m.BelongsTo (.target edit.1.target) id)
    (hstored : ∀ edit ∈ edits, m.stored edit.1.assetId = true)
    (happly : m.applyEdits edits = some m') :
    Kept m' ∧ (∀ added, Later added m m') ∧ m'.expenses = m.expenses ∧
      (∀ edit ∈ edits, ∀ id ∈ edit.2, m'.Dead id) ∧
      ∀ id expenseId, (id, .expense expenseId) ∈ m.held → (id, .expense expenseId) ∈ m'.held := by
  induction edits generalizing m with
  | nil =>
    obtain rfl := Option.some.inj happly
    exact ⟨h, Later.refl m, rfl, fun _ hedit => absurd hedit List.not_mem_nil,
      fun _ _ hheld => hheld⟩
  | cons edit edits ih =>
    obtain ⟨after, hedit, hrest⟩ := Option.bind_eq_some_iff.1 happly
    obtain ⟨hdetached, hlater, hdead, hkeep⟩ := h.detach (hown edit List.mem_cons_self)
    obtain ⟨hattached, hlater', hexpenses, hheld, hkeep'⟩ :=
      hdetached.attach (hkeep _ (hstored edit List.mem_cons_self)) hedit
    have hlaterEdit := fun added => (hlater added).trans (hlater' added)
    obtain ⟨hkept, hlaterRest, hexpensesRest, hdeadRest, hheldRest⟩ := ih hattached
      (fun other hother id hid =>
        (hown other (List.mem_cons_of_mem _ hother) id hid).later (hlaterEdit []))
      (fun other hother => hkeep' _ (hkeep _ (hstored other (List.mem_cons_of_mem _ hother))))
      hrest
    refine ⟨hkept, fun added => (hlaterEdit added).trans (hlaterRest added),
      hexpensesRest.trans hexpenses, fun other hother id hid => ?_, fun id expenseId hold => ?_⟩
    · rcases List.mem_cons.1 hother with rfl | hrest
      · exact ((hdead id hid).later (hlater' [])).later (hlaterRest [])
      · exact hdeadRest other hrest id hid
    · refine hheldRest id expenseId ?_
      rw [hheld]
      exact List.mem_append_left _ (mem_held_detach hold)

theorem receiptPreviewPath_injective : Function.Injective receiptPreviewPath := by
  intro assetId other h
  exact (String.append_right_inj "/expenses/receipts/").1 h

theorem head?_toList_append (text rest : String) (h : text.toList ≠ []) :
    (text ++ rest).toList.head? = text.toList.head? := by
  rw [String.toList_append, List.head?_append_of_ne_nil _ h]

theorem Environment.ne_receiptPreviewPath {url : String} (h : env.isUrl url = true)
    (assetId : String) : url ≠ receiptPreviewPath assetId := by
  have hpath : (receiptPreviewPath assetId).toList.head? = some '/' :=
    head?_toList_append "/expenses/receipts/" assetId (by decide)
  have hurl : url.toList.head? = some 'h' := by
    obtain ⟨rest, rfl | rfl⟩ := env.protocol url h
    · exact head?_toList_append "http://" rest (by decide)
    · exact head?_toList_append "https://" rest (by decide)
  intro hsame
  rw [hsame, hpath] at hurl
  exact absurd hurl (by decide)

variable {dto : ReceiptUpdate}

theorem ReceiptUpdate.stored_eq {before : Option String} {assetId : String}
    (hvalid : dto.valid env = true) (h : dto.stored before = some (receiptPreviewPath assetId)) :
    dto.receiptAssetId = some assetId ∨
      dto.receiptAssetId = none ∧ dto.receiptUrl = none ∧
        before = some (receiptPreviewPath assetId) := by
  rw [stored] at h
  split at h
  · rename_i given hgiven
    exact .inl (hgiven.trans (congrArg some (receiptPreviewPath_injective (Option.some.inj h))))
  · rename_i hgiven
    cases hurl : dto.receiptUrl with
    | none =>
      rw [hurl, Option.getD_none] at h
      exact .inr ⟨hgiven, rfl, h⟩
    | some given =>
      rw [hurl, Option.getD_some] at h
      rw [valid, hurl, h] at hvalid
      exact absurd rfl (env.ne_receiptPreviewPath hvalid assetId)

theorem WellFormed.createExpense (h : WellFormed m) {id : String} (hvalid : dto.valid env = true)
    (hstored : ∀ assetId ∈ dto.receiptAssetId, m.stored assetId = true)
    (hcreate : m.createExpense id dto = some m') : WellFormed m' ∧ ∀ added, Later added m m' := by
  rw [Media.createExpense] at hcreate
  split at hcreate
  · cases hcreate
  · have hkept :
        Kept { m with expenses := m.expenses ++ [{ id, receiptUrl := dto.stored none }] } :=
      { h.toKept with }
    have hlater : ∀ added, Later added m
        { m with expenses := m.expenses ++ [{ id, receiptUrl := dto.stored none }] } :=
      fun added => { Later.refl m added with }
    cases hasset : dto.receiptAssetId with
    | none =>
      rw [hasset] at hcreate
      obtain rfl := Option.some.inj hcreate
      refine ⟨{ hkept with receipts := fun expense hexpense assetId hurl => ?_ }, hlater⟩
      rcases Ledger.mem_concat.1 hexpense with hold | rfl
      · exact h.receipts expense hold assetId hurl
      · rcases dto.stored_eq hvalid hurl with hgiven | ⟨-, -, hbefore⟩
        · cases hasset.symm.trans hgiven
        · cases hbefore
    | some given =>
      rw [hasset] at hcreate
      obtain ⟨hattached, hlater', hexpenses, hheld, -⟩ :=
        hkept.attach (hstored given hasset) hcreate
      refine ⟨{ hattached with receipts := fun expense hexpense assetId hurl => ?_ },
        fun added => (hlater added).trans (hlater' added)⟩
      rw [hexpenses] at hexpense
      rw [hheld]
      rcases Ledger.mem_concat.1 hexpense with hold | rfl
      · exact List.mem_append_left _ (h.receipts expense hold assetId hurl)
      · rcases dto.stored_eq hvalid hurl with hgiven | ⟨hnone, -, -⟩
        · obtain rfl := Option.some.inj (hasset.symm.trans hgiven)
          exact List.mem_append_right _ (List.mem_singleton.2 rfl)
        · cases hasset.symm.trans hnone

theorem Kept.replaceReceipt (h : Kept m) {id : String}
    (hstored : ∀ assetId ∈ dto.receiptAssetId, m.stored assetId = true)
    (hreplace : m.replaceReceipt id dto = some m') :
    Kept m' ∧ (∀ added, Later added m m') ∧ m'.expenses = m.expenses ∧
      (m.detaches id dto = true → ∀ assetId, m.receiptOf id = some assetId → m'.Dead assetId) ∧
      (∀ entry ∈ m.held, entry.2 ≠ .expense id ∨ m.detaches id dto = false → entry ∈ m'.held) ∧
      ∀ assetId, dto.receiptAssetId = some assetId → (assetId, .expense id) ∈ m'.held := by
  -- the rows after the upload was detached, if it was
  have hafter : ∃ after, (if m.detaches id dto then m.detachReceipt id else m) = after ∧
      Kept after ∧ (∀ added, Later added m after) ∧ after.expenses = m.expenses ∧
      (m.detaches id dto = true → ∀ assetId, m.receiptOf id = some assetId → after.Dead assetId) ∧
      (∀ entry ∈ m.held, entry.2 ≠ .expense id ∨ m.detaches id dto = false → entry ∈ after.held) ∧
      ∀ other, m.stored other = true → after.stored other = true := by
    refine ⟨_, rfl, ?_⟩
    obtain ⟨hkept, hlater, hdead, hkeep⟩ := h.detachReceipt id
    split
    · rename_i hdetaches
      refine ⟨hkept, hlater, rfl, fun _ => hdead, fun entry hentry hwhy => ?_, hkeep⟩
      rcases hwhy with hother | hnot
      · exact List.mem_filter.2 ⟨hentry, decide_eq_true hother⟩
      · cases hdetaches.symm.trans hnot
    · rename_i hdetaches
      exact ⟨h, Later.refl m, rfl, fun hdoes => absurd hdoes hdetaches, fun _ hentry _ => hentry,
        fun _ hother => hother⟩
  obtain ⟨after, heq, hkept, hlater, hexpenses, hdead, hheld, hkeep⟩ := hafter
  rw [Media.replaceReceipt, heq] at hreplace
  cases hasset : dto.receiptAssetId with
  | none =>
    rw [hasset] at hreplace
    obtain rfl := Option.some.inj hreplace
    exact ⟨hkept, hlater, hexpenses, hdead, hheld, fun _ hnone => nomatch hnone⟩
  | some given =>
    rw [hasset] at hreplace
    dsimp only at hreplace
    split at hreplace
    · obtain ⟨hattached, hlater', hexpenses', hheld', -⟩ :=
        hkept.attach (hkeep given (hstored given hasset)) hreplace
      refine ⟨hattached, fun added => (hlater added).trans (hlater' added),
        hexpenses'.trans hexpenses, fun hdetaches assetId hid =>
          (hdead hdetaches assetId hid).later (hlater' []), fun entry hentry hwhy => ?_,
        fun assetId hid => ?_⟩
      · rw [hheld']
        exact List.mem_append_left _ (hheld entry hentry hwhy)
      · obtain rfl := Option.some.inj hid
        rw [hheld']
        exact List.mem_append_right _ (List.mem_singleton.2 rfl)
    · -- the request names the upload that the expense has
      rename_i hsame
      obtain rfl := Option.some.inj hreplace
      refine ⟨hkept, hlater, hexpenses, hdead, hheld, fun assetId hid => ?_⟩
      obtain rfl := Option.some.inj hid
      have hcurrent : m.receiptOf id = some given := by
        rw [Media.replaces, hasset, Option.any_some, decide_eq_true_eq, not_not] at hsame
        exact hsame
      have hdetaches : m.detaches id dto = false := by
        rw [Media.detaches, hasset, Bool.eq_false_iff.2 hsame]
        rfl
      obtain ⟨found, hfind, rfl⟩ := Option.map_eq_some_iff.1 hcurrent
      have howner : found.owner = some (.expense id) := by simpa using List.find?_some hfind
      exact hheld _ (h.owned found (List.mem_of_find?_eq_some hfind) _ howner) (.inr hdetaches)

theorem WellFormed.updateExpense (h : WellFormed m) {id : String} {released : Option String}
    (hvalid : dto.valid env = true)
    (hstored : ∀ assetId ∈ dto.receiptAssetId, m.stored assetId = true)
    (hupdate : m.updateExpense id dto = some (m', released)) :
    WellFormed m' ∧ (∀ added, Later added m m') ∧ ∀ assetId ∈ released, m'.Dead assetId := by
  rw [Media.updateExpense] at hupdate
  split at hupdate
  · obtain ⟨after, hreplace, heq⟩ := Option.map_eq_some_iff.1 hupdate
    obtain ⟨rfl, rfl⟩ := Prod.mk.inj heq
    obtain ⟨hkept, hlater, hexpenses, hdead, hheld, hgiven⟩ :=
      h.toKept.replaceReceipt hstored hreplace
    refine ⟨{ hkept with receipts := fun expense hexpense assetId hurl => ?_ },
      fun added => { hlater added with }, fun assetId hassetId => ?_⟩
    · obtain ⟨before, hbefore, rfl⟩ := List.mem_map.1 hexpense
      rw [hexpenses] at hbefore
      rw [ExpenseRow.update] at hurl ⊢
      split
      · rename_i hid
        rw [if_pos hid] at hurl
        obtain rfl := hid
        rcases dto.stored_eq hvalid hurl with hnamed | ⟨hnone, habsent, hurlBefore⟩
        · exact hgiven assetId hnamed
        · refine hheld _ (h.receipts before hbefore assetId hurlBefore) (.inr ?_)
          rw [Media.detaches, Media.replaces, hnone, habsent]
          rfl
      · rename_i hid
        rw [if_neg hid] at hurl
        exact hheld _ (h.receipts before hbefore assetId hurl)
          (.inl fun hsame => hid (Owner.expense.inj hsame))
    · split at hassetId
      · rename_i hdetaches
        exact hdead hdetaches assetId hassetId
      · cases hassetId
  · cases hupdate

theorem WellFormed.removeExpense (h : WellFormed m) {id : String} {released : Option String}
    (hremove : m.removeExpense id = some (m', released)) :
    WellFormed m' ∧ (∀ added, Later added m m') ∧ ∀ assetId ∈ released, m'.Dead assetId := by
  rw [Media.removeExpense] at hremove
  split at hremove
  · obtain ⟨rfl, rfl⟩ := Prod.mk.inj (Option.some.inj hremove)
    obtain ⟨hkept, hlater, hdead, -⟩ := h.toKept.detachReceipt id
    refine ⟨{ hkept with receipts := fun expense hexpense assetId hurl => ?_ },
      fun added => { hlater added with }, hdead⟩
    obtain ⟨hmem, hother⟩ := List.mem_filter.1 hexpense
    refine List.mem_filter.2 ⟨h.receipts expense hmem assetId hurl, decide_eq_true fun hsame => ?_⟩
    exact of_decide_eq_true hother (Owner.expense.inj hsame)
  · cases hremove

/-! ### What calls know -/

def Phase.uploading : Phase → Option String
  | .saving id _ | .inserting id _ | .discarding id => some id
  | _ => none

def Phase.KnowsIn (env : Environment) (m : Media) : Phase → Prop
  | .saving id _ | .inserting id _ | .discarding id => id ∈ m.named ∧ id ∉ m.inserted
  | .removingObject id => id ∈ m.inserted
  | .removingRow id => id ∈ m.inserted ∧ id ∉ m.objects
  | .sweepingObject id _ => m.Dead id
  | .editing edits => ∀ edit ∈ edits, ∀ id ∈ edit.2, m.BelongsTo (.target edit.1.target) id
  | .creating _ dto | .updating _ dto => dto.valid env = true
  | .releasing ids => ∀ id ∈ ids, m.Dead id
  | .releasingObject id ids | .releasingRow id ids => ∀ other ∈ id :: ids, m.Dead other
  | _ => True

def Phase.Apart (phase other : Phase) : Prop := ∀ id, phase.uploading = some id →
  other.uploading ≠ some id

theorem Phase.KnowsIn.later {added : List String} {phase : Phase} (h : phase.KnowsIn env m)
    (hlater : Later added m m') (hapart : ∀ id ∈ added, phase.uploading ≠ some id) :
    phase.KnowsIn env m' := by
  have hnew : ∀ id, id ∈ m.named ∧ id ∉ m.inserted → phase.uploading = some id →
      id ∈ m'.named ∧ id ∉ m'.inserted := by
    intro id hid huploading
    refine ⟨hlater.named id hid.1, fun hinserted => ?_⟩
    rcases hlater.new id hinserted with hbefore | hadded
    · exact hid.2 hbefore
    · exact hapart id hadded huploading
  cases phase with
  | saving id _ => exact hnew id h rfl
  | inserting id _ => exact hnew id h rfl
  | discarding id => exact hnew id h rfl
  | removingObject id => exact hlater.inserted id h
  | removingRow id =>
    exact ⟨hlater.inserted id h.1, fun hobject => h.2 (hlater.objects id h.1 hobject)⟩
  | sweepingObject id ids => exact Media.Dead.later h hlater
  | editing edits => exact fun edit hedit id hid => (h edit hedit id hid).later hlater
  | releasing ids => exact fun id hid => (h id hid).later hlater
  | releasingObject id ids => exact fun other hother => (h other hother).later hlater
  | releasingRow id ids => exact fun other hother => (h other hother).later hlater
  | creating _ _ | updating _ _ => exact h
  | naming _ | checking _ | finding _ | sweeping _ | readingProduct _ | removing _ | ended =>
    exact trivial

/-- **The condition on a turn**: no upload is attached whose object `removeTemporary` deletes, and
none whose object it has deleted. -/
def timely (m : Media) : Phase → Bool
  | .removingObject id => m.assets.all fun asset => asset.id ≠ id || asset.owner.isNone
  | .editing edits => edits.all fun edit => m.stored edit.1.assetId
  | .creating _ dto | .updating _ dto => dto.receiptAssetId.all m.stored
  | _ => true

/-! ### Turns -/

/-- **What a turn keeps**, and what the call knows after it. -/
structure TurnSpec (env : Environment) (m : Media) (phase : Phase) (after : Media × Phase) :
    Prop where
  well : WellFormed after.1
  knows : after.2.KnowsIn env after.1
  later : Later phase.uploading.toList m after.1
  uploading : ∀ id, after.2.uploading = some id → phase.uploading = some id ∨ id ∉ m.named

theorem BelongsTo.of_current (h : WellFormed m) {edit : ImageEdit} {id : String}
    (hid : id ∈ m.currentOf edit) : m.BelongsTo (.target edit.target) id := by
  rw [Media.currentOf] at hid
  split at hid
  · obtain ⟨found, hmem, rfl⟩ := List.mem_map.1 hid
    obtain ⟨hfound, hwhich⟩ := List.mem_filter.1 hmem
    refine ⟨h.inserted found hfound, fun asset hasset hsame => .inl ?_⟩
    rw [List.inj_on_of_nodup_map h.ids hasset hfound hsame]
    exact (of_decide_eq_true hwhich).1
  · cases hid

theorem Phase.run_spec (h : WellFormed m) {phase : Phase} (hknows : phase.KnowsIn env m)
    (htimely : timely m phase = true) (uuid : String) :
    TurnSpec env m phase (phase.run uuid m) := by
  cases phase with
  | naming purpose =>
    rw [run]
    split
    · exact ⟨h, trivial, Later.refl m _, fun _ hnone => nomatch hnone⟩
    · rename_i hfresh
      refine ⟨{ h with named := fun id hid => List.mem_append_left _ (h.named id hid) },
        ⟨List.mem_append_right _ (List.mem_singleton.2 rfl),
          fun hid => hfresh (h.named uuid hid)⟩,
        { Later.refl m _ with named := fun id hid => List.mem_append_left _ hid },
        fun id hid => ?_⟩
      obtain rfl := Option.some.inj hid
      exact .inr hfresh
  | saving id purpose =>
    refine ⟨{ h with held := fun entry hentry => ?_ }, hknows,
      { Later.refl m _ with objects := fun other hother hobject => ?_ }, fun _ hid => .inl hid⟩
    · obtain ⟨hobject, hrow⟩ := h.held entry hentry
      exact ⟨List.mem_append_left _ hobject, hrow⟩
    · rcases Ledger.mem_concat.1 hobject with hold | hnew
      · exact hold
      · exact absurd (hnew ▸ hother) hknows.2
  | inserting id purpose =>
    have hfresh : ∀ asset ∈ m.assets, asset.id ≠ id := fun asset hasset hid =>
      hknows.2 (hid ▸ h.inserted asset hasset)
    refine ⟨?_, trivial, ?_, fun _ hnone => nomatch hnone⟩
    · constructor
      · constructor
        case ids =>
          exact KeyedRows.nodup_concat MediaAsset.id h.ids hfresh
        case inserted =>
          intro asset hasset
          rcases Ledger.mem_concat.1 hasset with hold | rfl
          · exact List.mem_append_left _ (h.inserted asset hold)
          · exact List.mem_append_right _ (List.mem_singleton.2 rfl)
        case named =>
          intro other hother
          rcases Ledger.mem_concat.1 hother with hold | hnew
          · exact h.named other hold
          · exact hnew ▸ hknows.1
        case free =>
          intro asset hasset htemporary
          rcases Ledger.mem_concat.1 hasset with hold | rfl
          · exact h.free asset hold htemporary
          · rfl
        case owned =>
          intro asset hasset owner howner
          rcases Ledger.mem_concat.1 hasset with hold | rfl
          · exact h.owned asset hold owner howner
          · cases howner
        case held =>
          intro entry hentry
          obtain ⟨hobject, asset, hasset, hrest⟩ := h.held entry hentry
          exact ⟨hobject, asset, List.mem_append_left _ hasset, hrest⟩
      · exact h.receipts
    · refine { Later.refl m [id] with
        inserted := fun other hother => List.mem_append_left _ hother
        new := fun other hother => ?_
        rows := fun asset hasset hinserted => ?_ }
      · rcases List.mem_append.1 hother with hold | hnew
        · exact .inl hold
        · exact .inr hnew
      · rcases Ledger.mem_concat.1 hasset with hold | rfl
        · exact ⟨asset, hold, rfl, fun hdead => hdead, fun _ howner => .inl howner⟩
        · exact absurd hinserted hknows.2
  | discarding id =>
    refine ⟨h.dropObject fun owner hheld => ?_, trivial, later_dropObject m id _,
      fun _ hnone => nomatch hnone⟩
    obtain ⟨-, asset, hasset, hid, -⟩ := h.held _ hheld
    obtain rfl : asset.id = id := hid
    exact hknows.2 (h.inserted asset hasset)
  | checking id =>
    refine ⟨h, ?_, Later.refl m _, fun other hother => ?_⟩
    · dsimp only [run]
      split
      · rename_i hany
        obtain ⟨asset, hasset, hwhich⟩ := List.any_eq_true.1 hany
        obtain ⟨hid, -⟩ := Bool.and_eq_true_iff.1 hwhich
        exact (of_decide_eq_true hid : asset.id = id) ▸ h.inserted asset hasset
      · exact trivial
    · dsimp only [run] at hother
      split at hother <;> cases hother
  | removingObject id =>
    refine ⟨h.dropObject fun owner hheld => ?_, ⟨hknows, fun hobject => ?_⟩,
      later_dropObject m id _, fun _ hnone => nomatch hnone⟩
    · -- this is where the condition is needed
      obtain ⟨-, asset, hasset, hid, howner⟩ := h.held _ hheld
      have hfree := List.all_eq_true.1 htimely asset hasset
      rw [howner, Option.isNone_some, Bool.or_false] at hfree
      exact of_decide_eq_true hfree hid
    · exact of_decide_eq_true (List.mem_filter.1 hobject).2 rfl
  | removingRow id =>
    refine ⟨h.dropRows fun asset hasset hid => ?_, trivial, later_dropRows m _ _,
      fun _ hnone => nomatch hnone⟩
    cases howner : asset.owner with
    | none => rfl
    | some owner =>
      obtain ⟨hobject, -⟩ := h.held _ (h.owned asset hasset owner howner)
      exact absurd ((of_decide_eq_true hid : asset.id = id) ▸ hobject) hknows.2
  | finding limit => exact ⟨h, trivial, Later.refl m _, fun _ hnone => nomatch hnone⟩
  | sweeping ids =>
    cases ids with
    | nil => exact ⟨h, trivial, Later.refl m _, fun _ hnone => nomatch hnone⟩
    | cons id ids =>
      rw [run]
      split
      · rename_i hany
        obtain ⟨found, hfound, hwhich⟩ := List.any_eq_true.1 hany
        obtain ⟨hid, -⟩ := Bool.and_eq_true_iff.1 hwhich
        obtain rfl : found.id = id := of_decide_eq_true hid
        refine ⟨h.dropRows fun asset hasset hexpired => ?_,
          ⟨h.inserted found hfound, fun asset hasset hsame => ?_⟩, later_dropRows m _ _,
          fun _ hnone => nomatch hnone⟩
        · obtain ⟨-, hexpired⟩ := Bool.and_eq_true_iff.1 hexpired
          exact h.free asset hasset (Bool.and_eq_true_iff.1 hexpired).1
        · -- the only row with the id is the one that was deleted
          obtain ⟨hmem, hkept⟩ := List.mem_filter.1 hasset
          obtain rfl := List.inj_on_of_nodup_map h.ids hmem hfound hsame
          dsimp only at hkept
          rw [hwhich] at hkept
          cases hkept
      · exact ⟨h, trivial, Later.refl m _, fun _ hnone => nomatch hnone⟩
  | sweepingObject id ids =>
    exact ⟨h.dropObject (h.toKept.not_held hknows), trivial, later_dropObject m id _,
      fun _ hnone => nomatch hnone⟩
  | readingProduct edits =>
    refine ⟨h, fun edit hedit id hid => ?_, Later.refl m _, fun _ hnone => nomatch hnone⟩
    obtain ⟨image, -, rfl⟩ := List.mem_map.1 hedit
    exact BelongsTo.of_current h hid
  | editing edits =>
    rw [run]
    split
    · rename_i after happly
      obtain ⟨hkept, hlater, hexpenses, hdead, hheld⟩ := h.toKept.applyEdits hknows
        (fun edit hedit => List.all_eq_true.1 htimely edit hedit) happly
      refine ⟨{ hkept with receipts := fun expense hexpense assetId hurl => ?_ },
        fun id hid => ?_, hlater _, fun _ hnone => nomatch hnone⟩
      · rw [hexpenses] at hexpense
        exact hheld _ _ (h.receipts expense hexpense assetId hurl)
      · obtain ⟨edit, hedit, hid⟩ := List.mem_flatMap.1 hid
        exact hdead edit hedit id hid
    · exact ⟨h, trivial, Later.refl m _, fun _ hnone => nomatch hnone⟩
  | creating id dto =>
    rw [run]
    split
    · rename_i after hcreate
      obtain ⟨hwell, hlater⟩ := h.createExpense hknows
        (fun assetId hgiven => Option.all_eq_true _ _ |>.1 htimely assetId hgiven) hcreate
      exact ⟨hwell, trivial, hlater _, fun _ hnone => nomatch hnone⟩
    · exact ⟨h, trivial, Later.refl m _, fun _ hnone => nomatch hnone⟩
  | updating id dto =>
    rw [run]
    split
    · rename_i after released hupdate
      obtain ⟨hwell, hlater, hdead⟩ := h.updateExpense hknows
        (fun assetId hgiven => Option.all_eq_true _ _ |>.1 htimely assetId hgiven) hupdate
      exact ⟨hwell, fun id hid => hdead id (Option.mem_toList.1 hid), hlater _,
        fun _ hnone => nomatch hnone⟩
    · exact ⟨h, trivial, Later.refl m _, fun _ hnone => nomatch hnone⟩
  | removing id =>
    rw [run]
    split
    · rename_i after released hremove
      obtain ⟨hwell, hlater, hdead⟩ := h.removeExpense hremove
      exact ⟨hwell, fun id hid => hdead id (Option.mem_toList.1 hid), hlater _,
        fun _ hnone => nomatch hnone⟩
    · exact ⟨h, trivial, Later.refl m _, fun _ hnone => nomatch hnone⟩
  | releasing ids =>
    cases ids with
    | nil => exact ⟨h, trivial, Later.refl m _, fun _ hnone => nomatch hnone⟩
    | cons id ids =>
      refine ⟨h, ?_, Later.refl m _, fun other hother => ?_⟩
      · dsimp only [run]
        split
        · exact hknows
        · exact fun other hother => hknows other (List.mem_cons_of_mem _ hother)
      · dsimp only [run] at hother
        split at hother <;> cases hother
  | releasingObject id ids =>
    refine ⟨h.dropObject (h.toKept.not_held (hknows id List.mem_cons_self)),
      fun other hother => (hknows other hother).later (later_dropObject m id []),
      later_dropObject m id _, fun _ hnone => nomatch hnone⟩
  | releasingRow id ids =>
    refine ⟨h.dropRows fun asset hasset hid => ?_, fun other hother => ?_, later_dropRows m _ _,
      fun _ hnone => nomatch hnone⟩
    · exact ((hknows id List.mem_cons_self).2 asset hasset (of_decide_eq_true hid)).owner
    · exact (hknows other (List.mem_cons_of_mem _ hother)).later (later_dropRows m _ [])
  | ended => exact ⟨h, trivial, Later.refl m _, fun _ hnone => nomatch hnone⟩

/-- **What a turn does.** -/
theorem Phase.turn_spec (h : WellFormed m) {phase : Phase} (hknows : phase.KnowsIn env m)
    {failure : Bool} (htimely : failure = false → timely m phase = true) (uuid : String) :
    TurnSpec env m phase (phase.turn uuid failure m) := by
  cases failure with
  | false => exact run_spec h hknows (htimely rfl) uuid
  | true =>
    refine ⟨h, ?_, Later.refl m _, fun id hid => ?_⟩
    · cases phase with
      | inserting id _ => exact hknows
      | releasingObject id ids => exact hknows
      | releasingRow id ids =>
        exact fun other hother => hknows other (List.mem_cons_of_mem _ hother)
      | _ => exact trivial
    · cases phase with
      | inserting id _ => exact .inl hid
      | _ => cases hid

/-! ### Runs -/

inductive Action
  | upload (purpose : MediaAssetPurpose)
  | removeTemporary (assetId : String)
  | cleanupExpired (limit : ℕ)
  | saveProduct (edits : List ImageEdit)
  | createExpense (id : String) (dto : ReceiptUpdate)
  | updateExpense (id : String) (dto : ReceiptUpdate)
  | removeExpense (id : String)
  | tick (duration : ℕ)
  | turn (i : ℕ) (uuid : String) (failure : Bool)

def Action.phase (env : Environment) : Action → Option Phase
  | .upload purpose => some (.naming purpose)
  | .removeTemporary assetId => some (.checking assetId)
  | .cleanupExpired limit => some (.finding limit)
  | .saveProduct edits => some (.readingProduct edits)
  | .createExpense id dto => some (if dto.valid env then .creating id dto else .ended)
  | .updateExpense id dto => some (if dto.valid env then .updating id dto else .ended)
  | .removeExpense id => some (.removing id)
  | .tick _ | .turn _ _ _ => none

abbrev Pool := ThreadPool Media Phase

def step (env : Environment) (w : Pool) (act : Action) : Pool :=
  match act with
  | .tick duration => w.write { w.shared with clock := w.shared.clock + duration }
  | .turn i uuid failure =>
    match w.threads[i]? with
    | none => w
    | some phase =>
      w.move i (phase.turn uuid failure w.shared).1 (phase.turn uuid failure w.shared).2
  | act => w.spawn ((act.phase env).getD .ended)

/-- **What is expected of every state**: an upload that an owner holds is there, and so is the
upload that an expense shows as its receipt. -/
structure Sound (m : Media) : Prop where
  held : ∀ entry ∈ m.held, entry.1 ∈ m.objects ∧
    ∃ asset ∈ m.assets, asset.id = entry.1 ∧ asset.owner = some entry.2
  receipts : ∀ expense ∈ m.expenses, ∀ assetId,
    expense.receiptUrl = some (receiptPreviewPath assetId) →
    assetId ∈ m.objects ∧ ∃ asset ∈ m.assets, asset.id = assetId

theorem WellFormed.sound (h : WellFormed m) : Sound m := by
  refine ⟨h.held, fun expense hexpense assetId hurl => ?_⟩
  obtain ⟨hobject, asset, hasset, hid, -⟩ := h.held _ (h.receipts expense hexpense assetId hurl)
  exact ⟨hobject, asset, hasset, hid⟩

def timelyStep (w : Pool) : Action → Bool
  | .turn i _ failure => failure || (w.threads[i]?).all (timely w.shared)
  | _ => true

abbrev Inv (env : Environment) (w : Pool) : Prop :=
  ThreadPool.Inv WellFormed (fun m phase => phase.KnowsIn env m) Phase.Apart w

theorem Phase.Apart.symm {phase other : Phase} (h : phase.Apart other) : other.Apart phase :=
  fun id hother hphase => h id hphase hother

theorem later_tick (m : Media) (duration : ℕ) :
    Later [] m { m with clock := m.clock + duration } := by
  have hle : m.clock ≤ m.clock + duration :=
    Int.le_add_of_nonneg_right (Int.natCast_nonneg duration)
  refine { Later.refl m [] with clock := hle, rows := fun asset hasset _ => ?_ }
  refine ⟨asset, hasset, rfl, fun hdead => ⟨hdead.owner, fun htemporary => ?_⟩,
    fun _ howner => .inl howner⟩
  obtain ⟨expiresAt, hexpires, hpast⟩ := hdead.expired htemporary
  exact ⟨expiresAt, hexpires, hpast.trans hle⟩

theorem Inv.begin {w : Pool} (h : Inv env w) {phase : Phase} (hknows : phase.KnowsIn env w.shared)
    (hnone : phase.uploading = none) : Inv env (w.spawn phase) :=
  h.spawn (fun _ _ => Phase.Apart.symm) hknows fun _ _ _ huploading =>
    nomatch hnone.symm.trans huploading

theorem Inv.step {w : Pool} (h : Inv env w) (act : Action) (htimely : timelyStep w act = true) :
    Inv env (MediaUploads.step env w act) := by
  cases act with
  | tick duration =>
    refine h.write { h.shared with } fun phase hphase hknows => ?_
    exact hknows.later (later_tick w.shared duration) fun _ hadded =>
      absurd hadded List.not_mem_nil
  | turn i uuid failure =>
    rw [MediaUploads.step]
    split
    · exact h
    · rename_i phase hphase
      have hturn : failure = false → timely w.shared phase = true := by
        rintro rfl
        exact Option.all_eq_true _ _ |>.1 htimely phase hphase
      obtain ⟨hwell, hknows, hlater, huploading⟩ :=
        Phase.turn_spec h.shared (h.thread i phase hphase) hturn uuid
      refine h.move (fun _ _ => Phase.Apart.symm) hphase hwell hknows
        fun other hother hknown hapart =>
          ⟨hknown.later hlater fun id hadded => ?_, fun id hnew hsame => ?_⟩
      · exact hapart id (Option.mem_toList.1 hadded)
      · rcases huploading id hnew with hbefore | hfresh
        · exact hapart id hbefore hsame
        · -- an id that another call uploads was drawn before
          cases other with
          | saving _ _ | inserting _ _ | discarding _ =>
            obtain rfl := Option.some.inj hsame
            exact hfresh hknown.1
          | _ => cases hsame
  | upload purpose => exact h.begin trivial rfl
  | removeTemporary assetId => exact h.begin trivial rfl
  | cleanupExpired limit => exact h.begin trivial rfl
  | saveProduct edits => exact h.begin trivial rfl
  | createExpense id dto =>
    have hknows : Phase.KnowsIn env w.shared
        (if dto.valid env then .creating id dto else .ended) := by
      split
      · assumption
      · exact trivial
    have hnone : Phase.uploading (if dto.valid env then .creating id dto else .ended) = none := by
      split <;> rfl
    exact h.begin hknows hnone
  | updateExpense id dto =>
    have hknows : Phase.KnowsIn env w.shared
        (if dto.valid env then .updating id dto else .ended) := by
      split
      · assumption
      · exact trivial
    have hnone : Phase.uploading (if dto.valid env then .updating id dto else .ended) = none := by
      split <;> rfl
    exact h.begin hknows hnone
  | removeExpense id => exact h.begin trivial rfl

/-- **An attached upload is there as long as it is attached**, after every step of a run whose turns
attach no upload that `removeTemporary` is deleting. -/
theorem attachedUploads (hm : WellFormed m) {acts : List Action}
    (h : Machine.Along (step env) (fun w act => timelyStep w act = true) { shared := m } acts) :
    Machine.Along (step env) (fun w act => Sound (step env w act).shared) { shared := m } acts := by
  have hstart : Inv env { shared := m } := ThreadPool.Inv.start hm
  exact Machine.Along.of_keeps (fun w act hw htimely => hw.step act htimely)
    (fun w act hw htimely => (hw.step act htimely).shared.sound) hstart h

/-! ### A receipt that is lost -/

def invoiceUrl : Environment where
  isUrl := fun text => text == "https://files.example.org/facture.pdf"
  protocol := fun _ h => ⟨"files.example.org/facture.pdf", .inr (eq_of_beq h)⟩

def receiptId : String := "7f3a2c10-52c4-4f0e-8a2b-6f1f0a9be001"

def uploadReceipt : List Action :=
  [.upload .receipt, .turn 0 receiptId false, .turn 0 "" false, .turn 0 "" false]

/-- It is attached; then it is looked at, the cleanup finds nothing, and the receipt is replaced. -/
def replaceUpload : List Action :=
  uploadReceipt ++
    [.createExpense "loyer" { receiptAssetId := some receiptId }, .turn 1 "" false,
      .removeTemporary receiptId, .turn 2 "" false, .tick 86400000, .cleanupExpired 100,
      .turn 3 "" false, .turn 3 "" false,
      .updateExpense "loyer" { receiptUrl := some (some "https://files.example.org/facture.pdf") },
      .turn 4 "" false, .turn 4 "" false, .turn 4 "" false, .turn 4 "" false]

theorem WellFormed.empty : WellFormed {} := ⟨by constructor <;> simp, by simp⟩

theorem attachedUploads_replaced :
    Machine.Along (step invoiceUrl) (fun w act => Sound (step invoiceUrl w act).shared)
      { shared := {} } replaceUpload :=
  attachedUploads WellFormed.empty (by decide +kernel)

/-- Its removal as a temporary upload is asked for; before its object is deleted, an expense
attaches it. -/
def removeAndAttach : List Action :=
  uploadReceipt ++
    [.removeTemporary receiptId, .turn 1 "" false,
      .createExpense "loyer" { receiptAssetId := some receiptId }, .turn 2 "" false]

def afterRemoval : Media :=
  (Machine.run (step invoiceUrl) { shared := {} } (removeAndAttach ++ [.turn 1 "" false])).shared

theorem afterRemoval_lost :
    (receiptId, .expense "loyer") ∈ afterRemoval.held ∧ receiptId ∉ afterRemoval.objects := by
  decide +kernel

/-- **A receipt can be lost**: its expense holds it, its object is deleted. -/
theorem attachedUploads_lost : ¬ ∀ acts : List Action,
    Machine.Along (step invoiceUrl) (fun w act => Sound (step invoiceUrl w act).shared)
      { shared := {} } acts := by
  intro h
  have hlast := ((Machine.Along.append.1 (h (removeAndAttach ++ [.turn 1 "" false]))).2).1
  obtain ⟨hheld, hobject⟩ := afterRemoval_lost
  rw [afterRemoval, Machine.run_append] at hheld hobject
  exact hobject (hlast.held _ hheld).1

end Zomaal.MediaUploads
