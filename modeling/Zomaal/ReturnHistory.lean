/-
**Any history of return conditions ends in the last one.**

A correction is split into up to three movements of an item, ordered so that each finds the stock it
needs: damaged stock that is not damaged after all first, then what is on hand, then newly damaged
stock.  As long as nothing else moves the items of the line, no movement of any correction is cut
short.

Main results:

* `returnDeltas_covered` — the order of the changes of an item works;
* `returnHistory` — **any history of allocations ends in the targets of the last one**.
-/

import Zomaal.ReturnReconciliation

set_option autoImplicit false

namespace Zomaal

/-! ### Changes that the stock covers -/

variable (balance : BalanceQuantities)

def changed (change : InventoryBucket × ℤ) : BalanceQuantities :=
  setBucketField (bucketField change.1 balance + change.2) change.1 balance

/-- None of the changes is cut short when they are made one after the other. -/
def DeltasCovered : BalanceQuantities → List (InventoryBucket × ℤ) → Prop
  | _, [] => True
  | balance, change :: changes =>
    clampDelta balance change.1 change.2 = change.2 ∧
      DeltasCovered (changed balance change) changes

/-- What a reconciliation of an item needs: the damaged stock that goes down is there, and what is
available covers what goes off hand or up damaged. -/
structure Covers (target : ReturnTarget) (onHand damaged : ℤ) :
    Prop where
  damaged_le : damaged - target.damaged ≤ balance.damaged
  onHand_le : onHand - target.onHand ≤
    availableQuantity balance + (damaged - min damaged target.damaged)
  damaged_up : target.damaged - damaged ≤
    availableQuantity balance + (target.onHand - onHand)

theorem returnDeltas_covered {balance : BalanceQuantities} {target : ReturnTarget}
    {onHand damaged : ℤ} (hvalid : ValidBalance balance)
    (h : Covers balance target onHand damaged) :
    DeltasCovered balance (returnDeltas target onHand damaged) := by
  obtain ⟨h₁, h₂, h₃⟩ := h
  have hcoupled := hvalid.coupled
  rw [returnDeltas]
  rcases lt_trichotomy target.damaged damaged with hlt | heq | hgt
  · -- damaged stock goes down first, which frees it
    rw [if_pos hlt, if_neg hlt.le.not_gt, List.append_nil, List.singleton_append]
    refine ⟨clampDelta_eq_self (fun hpos => ?_) (fun _ hb => ?_) (fun _ _ => ?_), ?_, trivial⟩
    · omega
    · cases hb
    · simp only [bucketField]
      omega
    · refine clampDelta_eq_self (fun _ hb => ?_) (fun _ _ => ?_) (fun _ hb => absurd rfl hb)
      · simp at hb
      · simp only [changed, setBucketField, bucketField, availableQuantity] at h₂ ⊢
        omega
  · rw [if_neg (by omega), if_neg (by omega), List.append_nil, List.nil_append]
    refine ⟨clampDelta_eq_self (fun _ hb => ?_) (fun _ _ => ?_) (fun _ hb => absurd rfl hb),
      trivial⟩
    · simp at hb
    · simp only
      omega
  · -- newly damaged stock comes last: what came back on hand makes room for it
    rw [if_neg hgt.le.not_gt, if_pos hgt, List.nil_append, List.singleton_append]
    refine ⟨clampDelta_eq_self (fun _ hb => ?_) (fun _ _ => ?_) (fun _ hb => absurd rfl hb),
      clampDelta_eq_self (fun _ _ => ?_) (fun hneg => ?_) (fun hneg => ?_), trivial⟩
    · simp at hb
    · simp only
      omega
    · simp only [changed, setBucketField, bucketField, availableQuantity] at h₃ ⊢
      omega
    · omega
    · omega

/-! ### Movements of the full amount -/

abbrev ItemInput := String × MoveInput

def FullMovement (asked : ItemInput) (movement : InventoryMovement) : Prop :=
  movement = asked.2.movement asked.1 asked.2.delta movement.resultingQuantity

def askedTotal (asked : List ItemInput) (item : String) (bucket : InventoryBucket) : ℤ :=
  Ledger.total (fun input : ItemInput => input.2.delta)
    (fun input => input.1 = item && input.2.bucket = bucket) asked

/-- **The movements asked for were written, each of its full amount**, and nothing else was. -/
structure Carried (asked : List ItemInput) (s t : Store) : Prop where
  sameBut : s.SameBut t
  warnings : t.warnings = s.warnings
  balance : ∀ item bucket, bucketField bucket (t.balanceOf item) =
    bucketField bucket (s.balanceOf item) + askedTotal asked item bucket
  movements : ∃ written, t.movements = s.movements ++ written ∧
    List.Forall₂ FullMovement asked written

theorem askedTotal_append (asked asked' : List ItemInput) (item : String)
    (bucket : InventoryBucket) :
    askedTotal (asked ++ asked') item bucket =
      askedTotal asked item bucket + askedTotal asked' item bucket :=
  Ledger.total_append ..

theorem askedTotal_singleton (input : ItemInput) (item : String) (bucket : InventoryBucket) :
    askedTotal [input] item bucket =
      if input.1 = item ∧ input.2.bucket = bucket then input.2.delta else 0 := by
  rw [askedTotal, Ledger.total_cons, Ledger.total_nil, add_zero]
  simp

theorem Carried.refl (s : Store) : Carried [] s s :=
  ⟨Store.SameBut.refl s, rfl, fun _ _ => (add_zero _).symm, [], (List.append_nil _).symm, .nil⟩

theorem Carried.trans {asked asked' : List ItemInput} {s t u : Store} (h : Carried asked s t)
    (h' : Carried asked' t u) : Carried (asked ++ asked') s u := by
  refine ⟨h.sameBut.trans h'.sameBut, h'.warnings.trans h.warnings, fun item bucket => ?_, ?_⟩
  · rw [h'.balance, h.balance, askedTotal_append, add_assoc]
  · obtain ⟨written, hwritten, hfull⟩ := h.movements
    obtain ⟨written', hwritten', hfull'⟩ := h'.movements
    refine ⟨written ++ written', ?_, List.rel_append hfull hfull'⟩
    rw [hwritten', hwritten, List.append_assoc]

theorem Carried.of_moved {s t : Store} {item : String} {input : MoveInput}
    (h : s.Moved t item input input.delta) : Carried [(item, input)] s t := by
  refine ⟨h.sameBut, ?_, fun other bucket => ?_, _, h.movements, .cons rfl .nil⟩
  · rw [h.warnings, if_pos rfl]
  · rw [h.balanceOf, askedTotal_singleton]
    by_cases hitem : other = item
    · subst hitem
      by_cases hbucket : bucket = input.bucket
      · subst hbucket
        simp
      · rw [if_pos rfl, bucketField_set_of_ne hbucket, if_neg fun hand => hbucket hand.2.symm,
          add_zero]
    · rw [if_neg hitem, if_neg fun hand => hitem hand.1.symm, add_zero]

theorem askedTotal_eq_zero {asked : List ItemInput} {item : String} {bucket : InventoryBucket}
    (h : ∀ input ∈ asked, input.1 = item → input.2.bucket ≠ bucket) :
    askedTotal asked item bucket = 0 := by
  refine Ledger.total_eq_zero fun input hinput => ?_
  by_cases hitem : input.1 = item
  · simp [hitem, h input hinput hitem]
  · simp [hitem]

theorem Carried.balanceOf_of_notMem {asked : List ItemInput} {s t : Store}
    (h : Carried asked s t) {item : String} (hnot : ∀ input ∈ asked, input.1 ≠ item) :
    t.balanceOf item = s.balanceOf item := by
  refine BalanceQuantities.ext_buckets fun bucket => ?_
  rw [h.balance, askedTotal_eq_zero fun input hinput heq => absurd heq (hnot input hinput),
    add_zero]

theorem exists_asked {asked : List ItemInput} {written : List InventoryMovement}
    (h : List.Forall₂ FullMovement asked written) {movement : InventoryMovement}
    (hm : movement ∈ written) : ∃ input ∈ asked, FullMovement input movement := by
  induction h with
  | nil => simp at hm
  | cons hfirst _ ih =>
    rcases List.mem_cons.1 hm with rfl | hm
    · exact ⟨_, List.mem_cons_self .., hfirst⟩
    · obtain ⟨input, hinput, hfull⟩ := ih hm
      exact ⟨input, List.mem_cons_of_mem _ hinput, hfull⟩

theorem Carried.findMovement_eq_none {asked : List ItemInput} {s t : Store}
    (h : Carried asked s t) {item key : String} (hs : s.findMovement item key = none)
    (hnot : ∀ input ∈ asked, input.1 = item → input.2.idempotencyKey ≠ key) :
    t.findMovement item key = none := by
  obtain ⟨written, hwritten, hfull⟩ := h.movements
  rw [Store.findMovement, List.find?_eq_none] at hs ⊢
  intro movement hm
  rw [hwritten] at hm
  rcases List.mem_append.1 hm with hm | hm
  · exact hs movement hm
  · obtain ⟨input, hinput, hmovement⟩ := exists_asked hfull hm
    rw [hmovement]
    simpa [MoveInput.movement] using fun hitem => hnot input hinput hitem

def AllReturns (lineId : String) (asked : List ItemInput) : Prop :=
  ∀ input ∈ asked, input.2.lineId = lineId ∧ input.2.type ∈ returnMovementTypes

theorem Carried.returned {asked : List ItemInput} {s t : Store} (h : Carried asked s t)
    {lineId : String} (hreturns : AllReturns lineId asked) (item : String)
    (bucket : InventoryBucket) :
    t.returned lineId item bucket = s.returned lineId item bucket +
      askedTotal asked item bucket := by
  obtain ⟨written, hwritten, hfull⟩ := h.movements
  rw [Store.returned, Store.sumMovements, hwritten, Ledger.total_append]
  refine congrArg _ ?_
  clear h hwritten
  induction hfull with
  | nil => rfl
  | @cons input movement asked written hfirst _ ih =>
    have htail : AllReturns lineId asked := fun i hi =>
      hreturns i (List.mem_cons_of_mem _ hi)
    obtain ⟨hline, htype⟩ := hreturns input (List.mem_cons_self ..)
    rw [Ledger.total_cons, askedTotal, Ledger.total_cons, ih htail, askedTotal]
    refine congrArg (· + _) ?_
    rw [hfirst]
    simp [InventoryMovement.returns, InventoryMovement.refersTo, MoveInput.movement, hline, htype]

theorem Carried.noLegacyReturns {asked : List ItemInput} {s t : Store} (h : Carried asked s t)
    {orderId : String} (hs : s.NoLegacyReturns orderId) : t.NoLegacyReturns orderId := by
  obtain ⟨written, hwritten, hfull⟩ := h.movements
  intro movement hm
  rw [hwritten] at hm
  rcases List.mem_append.1 hm with hm | hm
  · exact hs movement hm
  · obtain ⟨input, -, hmovement⟩ := exists_asked hfull hm
    have htype : orderLineReference ∉ legacyReturnReferences := by decide
    rw [hmovement]
    simp [InventoryMovement.legacyReturn, MoveInput.movement, htype]

/-! ### One item -/

def itemAsked (input : ReconcileInput) (item : String)
    (changes : List ((InventoryBucket × ℤ) × ℕ)) : List ItemInput :=
  (changes.filter fun change => change.1.2 ≠ 0).map fun change =>
    (item, returnDeltaInput input item change)

def entryAsked (input : ReconcileInput) (s : Store) (entry : String × ReturnTarget) :
    List ItemInput :=
  itemAsked input entry.1 (returnDeltas entry.2
    (s.netReturned input.orderId input.lineId entry.1 .onHand)
    (s.netReturned input.orderId input.lineId entry.1 .damaged)).zipIdx

def DeltasFit : BalanceQuantities → List (InventoryBucket × ℤ) → Prop
  | _, [] => True
  | balance, change :: changes =>
    bucketField change.1 balance + change.2 ≤ maxQuantity ∧
      DeltasFit (changed balance change) changes

theorem itemAsked_returns (input : ReconcileInput) (item : String)
    (changes : List ((InventoryBucket × ℤ) × ℕ)) :
    AllReturns input.lineId (itemAsked input item changes) := by
  intro asked hasked
  obtain ⟨change, -, rfl⟩ := List.mem_map.1 hasked
  exact ⟨rfl, returnDeltaInput_type input item change⟩

theorem itemAsked_key {input : ReconcileInput} {item : String}
    {changes : List ((InventoryBucket × ℤ) × ℕ)} {asked : ItemInput}
    (h : asked ∈ itemAsked input item changes) :
    asked.1 = item ∧ ∃ change ∈ changes, asked.2.idempotencyKey = input.key item change.2 := by
  obtain ⟨change, hchange, rfl⟩ := List.mem_map.1 h
  exact ⟨rfl, change, List.mem_of_mem_filter hchange, rfl⟩

theorem askedTotal_itemAsked (input : ReconcileInput) (item : String)
    (changes : List ((InventoryBucket × ℤ) × ℕ)) (bucket : InventoryBucket) :
    askedTotal (itemAsked input item changes) item bucket =
      Ledger.total Prod.snd (fun change : InventoryBucket × ℤ => change.1 = bucket)
        (changes.map Prod.fst) := by
  induction changes with
  | nil => rfl
  | cons change changes ih =>
    rw [List.map_cons, Ledger.total_cons, ← ih]
    by_cases hzero : change.1.2 = 0
    · rw [itemAsked, List.filter_cons_of_neg (by simp [hzero]), hzero, ite_self, zero_add,
        itemAsked]
    · rw [itemAsked, List.filter_cons_of_pos (by simp [hzero]), List.map_cons, askedTotal,
        Ledger.total_cons, itemAsked, askedTotal]
      have hsel : (decide (item = item) && decide ((returnDeltaInput input item change).bucket =
          bucket)) = decide (change.1.1 = bucket) := by
        rw [decide_eq_true rfl, Bool.true_and]
        rfl
      rw [hsel]
      rfl

theorem changed_zero {change : InventoryBucket × ℤ} (h : change.2 = 0)
    : changed balance change = balance := by
  rw [changed, h, add_zero]
  cases change.1 <;> rfl

theorem Store.Moved.balanceOf_self {s t : Store} {item : String} {input : MoveInput}
    (h : s.Moved t item input input.delta) :
    t.balanceOf item = changed (s.balanceOf item) (input.bucket, input.delta) := by
  rw [h.balanceOf, if_pos rfl]
  rfl

theorem applyReturnDelta_covered {input : ReconcileInput} {item : String}
    {change : (InventoryBucket × ℤ) × ℕ} {s : Store}
    (hfresh : change.1.2 ≠ 0 → s.findMovement item (input.key item change.2) = none)
    (hcovered : clampDelta (s.balanceOf item) change.1.1 change.1.2 = change.1.2) :
    (∃ moved t, applyReturnDelta input item change s = (.ok moved, t) ∧
      Carried (itemAsked input item [change]) s t ∧
      t.balanceOf item = changed (s.balanceOf item) change.1) ∨
    (∃ t, applyReturnDelta input item change s = (.error .integerOutOfRange, t) ∧
      maxQuantity < bucketField change.1.1 (s.balanceOf item) + change.1.2) := by
  rw [applyReturnDelta]
  by_cases hzero : change.1.2 = 0
  · rw [if_pos hzero, itemAsked, List.filter_cons_of_neg (by simp [hzero])]
    exact Or.inl ⟨false, s, rfl, Carried.refl s, (changed_zero _ hzero).symm⟩
  · rw [if_neg hzero, itemAsked, List.filter_cons_of_pos (by simp [hzero])]
    rcases move_cases item (returnDeltaInput input item change) s with
      ⟨duplicate, hused, -⟩ | ⟨t, -, hnothing, -⟩ | ⟨applied, t, hm, hmove⟩ |
      ⟨t, hlarge, -, hmove⟩
    · have hnone : s.findMovement item (input.key item change.2) = some duplicate := hused
      rw [hfresh hzero] at hnone
      cases hnone
    · exact absurd (hcovered.symm.trans hnothing) hzero
    · obtain rfl : applied = change.1.2 := hm.clamped.trans hcovered
      exact Or.inl ⟨_, t, Command.bind_of_ok hmove, Carried.of_moved hm, hm.balanceOf_self⟩
    · refine Or.inr ⟨t, Command.bind_of_error hmove, ?_⟩
      change maxQuantity < bucketField change.1.1 (s.balanceOf item) +
        clampDelta (s.balanceOf item) change.1.1 change.1.2 at hlarge
      rwa [hcovered] at hlarge

theorem anyEach_applyReturnDelta_covered {input : ReconcileInput} {item : String} :
    ∀ {changes : List ((InventoryBucket × ℤ) × ℕ)} {s : Store},
      (changes.map Prod.snd).Nodup →
      (∀ change ∈ changes, change.1.2 ≠ 0 →
        s.findMovement item (input.key item change.2) = none) →
      DeltasCovered (s.balanceOf item) (changes.map Prod.fst) →
      (∃ moved t, Command.anyEach changes (applyReturnDelta input item) s = (.ok moved, t) ∧
        Carried (itemAsked input item changes) s t) ∨
      (∃ t, Command.anyEach changes (applyReturnDelta input item) s =
          (.error .integerOutOfRange, t) ∧
        ¬ DeltasFit (s.balanceOf item) (changes.map Prod.fst)) := by
  intro changes
  induction changes with
  | nil => exact fun {s} _ _ _ => Or.inl ⟨false, s, rfl, Carried.refl s⟩
  | cons change changes ih =>
    intro s hindexes hfresh hcovered
    rw [List.map_cons, List.nodup_cons] at hindexes
    obtain ⟨hfirst, hrest⟩ := hcovered
    rcases applyReturnDelta_covered (hfresh _ (List.mem_cons_self ..)) hfirst with
      ⟨moved, t, hrun, hone, hbalance⟩ | ⟨t, hrun, hlarge⟩
    · -- the other changes have keys of their own, which are still unused
      have hlater : ∀ c ∈ changes, c.1.2 ≠ 0 →
          t.findMovement item (input.key item c.2) = none := by
        intro c hc hne
        refine hone.findMovement_eq_none (hfresh c (List.mem_cons_of_mem _ hc) hne) ?_
        intro asked hasked _ hkey
        obtain ⟨-, c', hc', hkey'⟩ := itemAsked_key hasked
        obtain rfl := List.mem_singleton.1 hc'
        have hindex := (returnAllocationKey_inj (hkey'.symm.trans hkey)).2.2
        exact hindexes.1 (hindex ▸ List.mem_map_of_mem hc)
      rw [← hbalance] at hrest
      rcases ih hindexes.2 hlater hrest with ⟨moved', u, hloop, hall⟩ | ⟨u, hloop, hunfit⟩
      · refine Or.inl ⟨moved || moved', u, ?_, ?_⟩
        · rw [Command.anyEach, Command.bind_of_ok hrun, Command.bind_of_ok hloop]
          rfl
        · have happend : itemAsked input item (change :: changes) =
              itemAsked input item [change] ++ itemAsked input item changes := by
            rw [itemAsked, itemAsked, itemAsked, ← List.map_append, ← List.filter_append,
              List.singleton_append]
          rw [happend]
          exact hone.trans hall
      · refine Or.inr ⟨u, ?_, fun hfit => hunfit (hbalance ▸ hfit.2)⟩
        rw [Command.anyEach, Command.bind_of_ok hrun, Command.bind_of_error hloop]
    · refine Or.inr ⟨t, ?_, fun hfit => absurd hlarge (not_lt.2 hfit.1)⟩
      rw [Command.anyEach, Command.bind_of_error hrun]

theorem returnDeltas_fit {balance : BalanceQuantities} {target : ReturnTarget}
    {onHand damaged : ℤ} (hvalid : ValidBalance balance)
    (h : Covers balance target onHand damaged)
    (hfits : balance.onHand + (target.onHand - onHand) ≤ maxQuantity) :
    DeltasFit balance (returnDeltas target onHand damaged) := by
  obtain ⟨h₁, h₂, h₃⟩ := h
  obtain ⟨hv₁, hv₂, hv₃, hv₄, hv₅, hv₆, hv₇⟩ := hvalid
  rw [returnDeltas]
  rcases lt_trichotomy target.damaged damaged with hlt | heq | hgt
  · rw [if_pos hlt, if_neg hlt.le.not_gt, List.append_nil, List.singleton_append]
    refine ⟨?_, ?_, trivial⟩ <;> simp only [changed, setBucketField, bucketField] <;> omega
  · rw [if_neg (by omega), if_neg (by omega), List.append_nil, List.nil_append]
    exact ⟨hfits, trivial⟩
  · rw [if_neg hgt.le.not_gt, if_pos hgt, List.nil_append, List.singleton_append]
    refine ⟨hfits, ?_, trivial⟩
    simp only [changed, setBucketField, bucketField, availableQuantity] at h₃ ⊢
    omega

/-- An item is ready to be reconciled: its balance covers the changes, and the keys of the
allocation are unused unless nothing changes. -/
structure ItemReady (input : ReconcileInput) (s : Store) (entry : String × ReturnTarget) :
    Prop where
  valid : ValidBalance (s.balanceOf entry.1)
  unused : entry.2.onHand ≠ s.netReturned input.orderId input.lineId entry.1 .onHand ∨
      entry.2.damaged ≠ s.netReturned input.orderId input.lineId entry.1 .damaged →
    ∀ index, s.findMovement entry.1 (input.key entry.1 index) = none
  covers : Covers (s.balanceOf entry.1) entry.2
    (s.netReturned input.orderId input.lineId entry.1 .onHand)
    (s.netReturned input.orderId input.lineId entry.1 .damaged)

def Outgrows (input : ReconcileInput) (s : Store) (entry : String × ReturnTarget) : Prop :=
  maxQuantity < (s.balanceOf entry.1).onHand + (entry.2.onHand -
    s.netReturned input.orderId input.lineId entry.1 .onHand)

theorem returnDeltas_ne_zero {target : ReturnTarget} {onHand damaged : ℤ}
    {change : InventoryBucket × ℤ} (h : change ∈ returnDeltas target onHand damaged)
    (hne : change.2 ≠ 0) : target.onHand ≠ onHand ∨ target.damaged ≠ damaged := by
  by_contra hsame
  rw [not_or, not_not, not_not] at hsame
  rw [returnDeltas, hsame.1, hsame.2] at h
  simp only [lt_self_iff_false, if_false, sub_self, List.nil_append, List.append_nil,
    List.mem_singleton] at h
  exact hne (congrArg Prod.snd h)

theorem reconcileItem_ready {input : ReconcileInput} {s : Store} {entry : String × ReturnTarget}
    (h : ItemReady input s entry) :
    (∃ moved t, reconcileItem input entry s = (.ok moved, t) ∧
      Carried (entryAsked input s entry) s t) ∨
    (∃ t, reconcileItem input entry s = (.error .integerOutOfRange, t) ∧
      Outgrows input s entry) := by
  set changes := returnDeltas entry.2
    (s.netReturned input.orderId input.lineId entry.1 .onHand)
    (s.netReturned input.orderId input.lineId entry.1 .damaged) with hchanges
  have hrun : reconcileItem input entry s =
      Command.anyEach changes.zipIdx (applyReturnDelta input entry.1) s := rfl
  have hindexes : (changes.zipIdx.map Prod.snd).Nodup := by
    rw [List.zipIdx_map_snd]
    exact List.nodup_range' _
  have hcovered : DeltasCovered (s.balanceOf entry.1) (changes.zipIdx.map Prod.fst) := by
    rw [List.zipIdx_map_fst]
    exact returnDeltas_covered h.valid h.covers
  have hfresh : ∀ change ∈ changes.zipIdx, change.1.2 ≠ 0 →
      s.findMovement entry.1 (input.key entry.1 change.2) = none := fun change hchange hne =>
    h.unused (returnDeltas_ne_zero (List.fst_mem_of_mem_zipIdx hchange) hne) change.2
  rcases anyEach_applyReturnDelta_covered hindexes hfresh hcovered with
    ⟨moved, t, hloop, hcarried⟩ | ⟨t, hloop, hunfit⟩
  · exact Or.inl ⟨moved, t, hrun.trans hloop, hcarried⟩
  · refine Or.inr ⟨t, hrun.trans hloop, ?_⟩
    rw [List.zipIdx_map_fst] at hunfit
    by_contra hfits
    exact hunfit (returnDeltas_fit h.valid h.covers (not_lt.1 hfits))

/-! ### The items of a line -/

def returnsAsked (input : ReconcileInput) (s : Store) (targets : ReturnTargets) :
    List ItemInput :=
  targets.flatMap (entryAsked input s)

theorem entryAsked_item {input : ReconcileInput} {s : Store} {entry : String × ReturnTarget}
    {asked : ItemInput} (h : asked ∈ entryAsked input s entry) : asked.1 = entry.1 :=
  (itemAsked_key h).1

theorem returnsAsked_returns (input : ReconcileInput) (s : Store) (targets : ReturnTargets) :
    AllReturns input.lineId (returnsAsked input s targets) := by
  intro asked hasked
  obtain ⟨entry, -, hentry⟩ := List.mem_flatMap.1 hasked
  exact itemAsked_returns _ _ _ asked hentry

theorem ItemReady.carried {input : ReconcileInput} {asked : List ItemInput} {s t : Store}
    {entry : String × ReturnTarget} (hcarried : Carried asked s t)
    (hreturns : AllReturns input.lineId asked) (hlegacy : s.NoLegacyReturns input.orderId)
    (hnot : ∀ a ∈ asked, a.1 ≠ entry.1) (h : ItemReady input s entry) :
    ItemReady input t entry ∧ entryAsked input t entry = entryAsked input s entry ∧
      (Outgrows input t entry ↔ Outgrows input s entry) := by
  have hbalance := hcarried.balanceOf_of_notMem hnot
  have hnet : ∀ bucket, t.netReturned input.orderId input.lineId entry.1 bucket =
      s.netReturned input.orderId input.lineId entry.1 bucket := by
    intro bucket
    rw [Store.netReturned_eq (hcarried.noLegacyReturns hlegacy), Store.netReturned_eq hlegacy,
      hcarried.returned hreturns, askedTotal_eq_zero fun a ha heq => absurd heq (hnot a ha),
      add_zero]
  refine ⟨⟨hbalance ▸ h.valid, fun hne index => ?_, ?_⟩, ?_, ?_⟩
  · rw [hnet, hnet] at hne
    exact hcarried.findMovement_eq_none (h.unused hne index)
      fun a ha heq => absurd heq (hnot a ha)
  · rw [hbalance, hnet, hnet]
    exact h.covers
  · rw [entryAsked, hnet, hnet, entryAsked]
  · rw [Outgrows, hbalance, hnet, Outgrows]

/-- **Items that are ready are reconciled in full**, unless a quantity outgrows its column. -/
theorem anyEach_reconcileItem_ready {input : ReconcileInput} :
    ∀ {targets : ReturnTargets} {s : Store}, (targets.map Prod.fst).Nodup →
      s.NoLegacyReturns input.orderId → (∀ entry ∈ targets, ItemReady input s entry) →
      (∃ moved t, Command.anyEach targets (reconcileItem input) s = (.ok moved, t) ∧
        Carried (returnsAsked input s targets) s t) ∨
      (∃ t, Command.anyEach targets (reconcileItem input) s = (.error .integerOutOfRange, t) ∧
        ∃ entry ∈ targets, Outgrows input s entry) := by
  intro targets
  induction targets with
  | nil => exact fun {s} _ _ _ => Or.inl ⟨false, s, rfl, Carried.refl s⟩
  | cons entry targets ih =>
    intro s hnodup hlegacy hready
    rw [List.map_cons, List.nodup_cons] at hnodup
    rcases reconcileItem_ready (hready _ (List.mem_cons_self ..)) with
      ⟨moved, t, hrun, hone⟩ | ⟨t, hrun, hlarge⟩
    · have hreturns := itemAsked_returns input entry.1 (returnDeltas entry.2
        (s.netReturned input.orderId input.lineId entry.1 .onHand)
        (s.netReturned input.orderId input.lineId entry.1 .damaged)).zipIdx
      have hother : ∀ e ∈ targets, ∀ a ∈ entryAsked input s entry, a.1 ≠ e.1 := by
        intro e he a ha heq
        exact hnodup.1 ((entryAsked_item ha).symm.trans heq ▸ List.mem_map_of_mem he)
      have hlater := fun e (he : e ∈ targets) => ItemReady.carried hone hreturns hlegacy
        (hother e he) (hready e (List.mem_cons_of_mem _ he))
      have hsame : returnsAsked input t targets = returnsAsked input s targets :=
        List.flatMap_congr fun e he => (hlater e he).2.1
      rcases ih hnodup.2 (hone.noLegacyReturns hlegacy) (fun e he => (hlater e he).1) with
        ⟨moved', u, hloop, hall⟩ | ⟨u, hloop, e, he, hlarge⟩
      · refine Or.inl ⟨moved || moved', u, ?_, ?_⟩
        · rw [Command.anyEach, Command.bind_of_ok hrun, Command.bind_of_ok hloop]
          rfl
        · rw [hsame] at hall
          exact hone.trans hall
      · refine Or.inr ⟨u, ?_, e, List.mem_cons_of_mem _ he, (hlater e he).2.2.1 hlarge⟩
        rw [Command.anyEach, Command.bind_of_ok hrun, Command.bind_of_error hloop]
    · refine Or.inr ⟨t, ?_, entry, List.mem_cons_self .., hlarge⟩
      rw [Command.anyEach, Command.bind_of_error hrun]

theorem askedTotal_returnsAsked {input : ReconcileInput} {s : Store} {targets : ReturnTargets}
    (hnodup : (targets.map Prod.fst).Nodup) {entry : String × ReturnTarget}
    (hentry : entry ∈ targets) (bucket : InventoryBucket) :
    askedTotal (returnsAsked input s targets) entry.1 bucket =
      askedTotal (entryAsked input s entry) entry.1 bucket := by
  obtain ⟨before, after, rfl⟩ := List.append_of_mem hentry
  rw [List.map_append, List.map_cons, List.nodup_append, List.nodup_cons] at hnodup
  have hzero : ∀ others : ReturnTargets, (∀ e ∈ others, e.1 ≠ entry.1) →
      askedTotal (returnsAsked input s others) entry.1 bucket = 0 := by
    intro others hothers
    refine askedTotal_eq_zero fun a ha heq => ?_
    obtain ⟨e, he, hin⟩ := List.mem_flatMap.1 ha
    exact absurd ((entryAsked_item hin).symm.trans heq) (hothers e he)
  have hsplit : returnsAsked input s (before ++ entry :: after) =
      returnsAsked input s before ++ (entryAsked input s entry ++
        returnsAsked input s after) := by
    rw [returnsAsked, List.flatMap_append, List.flatMap_cons]
    rfl
  rw [hsplit, askedTotal_append, askedTotal_append, hzero before fun e he heq => ?_,
    hzero after fun e he heq => hnodup.2.1.1 (heq ▸ List.mem_map_of_mem he), zero_add, add_zero]
  exact hnodup.2.2 e.1 (List.mem_map_of_mem he) entry.1 (List.mem_cons_self ..) heq

theorem askedTotal_entryAsked (input : ReconcileInput) (s : Store)
    (entry : String × ReturnTarget) (bucket : InventoryBucket) :
    askedTotal (entryAsked input s entry) entry.1 bucket =
      match bucket with
      | .onHand => entry.2.onHand - s.netReturned input.orderId input.lineId entry.1 .onHand
      | .damaged => entry.2.damaged - s.netReturned input.orderId input.lineId entry.1 .damaged
      | .reserved | .incoming => 0 := by
  rw [entryAsked, askedTotal_itemAsked, List.zipIdx_map_fst, returnDeltas]
  rcases lt_trichotomy entry.2.damaged
    (s.netReturned input.orderId input.lineId entry.1 .damaged) with hlt | heq | hgt
  · rw [if_pos hlt, if_neg hlt.le.not_gt]
    cases bucket <;> simp [Ledger.total_cons]
  · rw [if_neg (by omega), if_neg (by omega)]
    cases bucket <;> simp [Ledger.total_cons, heq]
  · rw [if_neg hgt.le.not_gt, if_pos hgt]
    cases bucket <;> simp [Ledger.total_cons]

/-! ### Releasing a line first -/

/-- **Reservations of a line may have been released, and nothing else has changed**: less is
reserved, and the returns of the line are as they were. -/
structure Freed (line : OrderLine) (s t : Store) : Prop where
  returns : SameReturns line.id s t
  valid : ∀ item, ValidBalance (t.balanceOf item)
  onHand : ∀ item, (t.balanceOf item).onHand = (s.balanceOf item).onHand
  damaged : ∀ item, (t.balanceOf item).damaged = (s.balanceOf item).damaged
  reserved : ∀ item, (t.balanceOf item).reserved ≤ (s.balanceOf item).reserved

theorem Freed.refl (line : OrderLine) {s : Store} (h : ∀ item, ValidBalance (s.balanceOf item)) :
    Freed line s s :=
  ⟨SameReturns.refl line.id s, h, fun _ => rfl, fun _ => rfl, fun _ => le_rfl⟩

theorem Freed.settle {line : OrderLine} {s : Store} (label item : String) {reserved : ℤ}
    (hpos : 0 < reserved) :
    Command.Ensures (Freed line s) (move item ((releaseSettlement label).input line.id reserved))
      (fun _ => Freed line s) := by
  intro t h
  have hinput : LineInput line.id item ((releaseSettlement label).input line.id reserved) :=
    .settleRelease label reserved
  have hno : ((releaseSettlement label).input line.id reserved).type ∉ returnMovementTypes := by
    simp [Settlement.input, releaseSettlement, returnMovementTypes]
  rcases move_cases item ((releaseSettlement label).input line.id reserved) t with
    ⟨duplicate, -, hrun⟩ | ⟨u, -, -, hq, -, hrun⟩ | ⟨applied, u, hm, hrun⟩ | ⟨u, hlarge, -, -⟩
  · exact ⟨_, t, hrun, h⟩
  · refine ⟨_, u, hrun, h.returns.trans (.of_movements hq.movements), fun i => ?_, fun i => ?_,
      fun i => ?_, fun i => ?_⟩ <;> rw [hq.balanceOf]
    · exact h.valid i
    · exact h.onHand i
    · exact h.damaged i
    · exact h.reserved i
  · have hbucket : ((releaseSettlement label).input line.id reserved).bucket = .reserved := rfl
    have hsign := (clampDelta_bounds (t.balanceOf item) .reserved (-reserved)).2 (by omega)
    have happlied : applied ≤ 0 := hm.clamped.trans_le hsign.2
    have hvalid := (h.valid item).clamped .reserved (-reserved) (by
      have hfits := hm.fits
      rw [hm.clamped] at hfits
      exact hfits)
    have hbalance : ∀ i, u.balanceOf i =
        if i = item then { t.balanceOf item with
          reserved := (t.balanceOf item).reserved + applied } else t.balanceOf i := hm.balanceOf
    refine ⟨_, u, hrun, h.returns.moved hinput (Or.inr hno) hm, fun i => ?_, fun i => ?_,
      fun i => ?_, fun i => ?_⟩ <;> rw [hbalance] <;> split
    · rw [hm.clamped]
      exact hvalid
    · exact h.valid i
    · rename_i hi
      exact hi ▸ h.onHand item
    · exact h.onHand i
    · rename_i hi
      exact hi ▸ h.damaged item
    · exact h.damaged i
    · rename_i hi
      have := h.reserved item
      rw [hi]
      simp only
      omega
    · exact h.reserved i
  · exact absurd hlarge (not_lt.2 (clampDelta_fits (h.valid item) (Or.inr (Or.inl rfl))))

open Command in
theorem Freed.releaseIfReserved (label : String) (line : OrderLine) (s : Store) :
    Ensures (Freed line s) (Zomaal.releaseIfReserved label line) (fun _ => Freed line s) := by
  have hsettle : ∀ item, Ensures (Freed line s)
      (settleReserved (releaseSettlement label) line.id item) (fun _ => Freed line s) := by
    intro item
    refine Ensures.ask_bind fun reserved => ?_
    refine Ensures.conseq (P := Freed line s) ?_ (fun t ht => ht.1) fun _ _ ht => ht
    split
    · rename_i hpos
      exact (Freed.settle label item hpos).bind fun _ => Ensures.pure fun t ht => ht
    · exact Ensures.pure fun t ht => ht
  have hstatus : Ensures (Freed line s) (Zomaal.setStatus line.id .released)
      (fun _ => Freed line s) :=
    Ensures.modify fun t ht => ⟨ht.returns.trans (.of_movements rfl), ht.valid, ht.onHand,
      ht.damaged, ht.reserved⟩
  unfold Zomaal.releaseIfReserved
  split
  · refine (Ensures.forEach (I := fun _ => Freed line s) fun unit _ _ => hsettle _).bind
      fun _ => Ensures.ask_bind fun orphans => ?_
    intro t ht
    have hloop : Ensures (Freed line s) (Command.forEach orphans (releaseOrphan label line.id))
        (fun _ => Freed line s) := by
      refine Ensures.forEach (I := fun _ => Freed line s) fun orphan _ horphan => ?_
      have hpos := (Store.mem_orphanReservations.1 (ht.2 ▸ horphan)).2.1
      exact (Freed.settle label orphan.1 hpos).bind fun _ => Ensures.pure fun u hu => hu
    exact (hloop.bind fun _ => hstatus) t ht.1
  · exact Ensures.pure fun t ht => ht

/-- **The returns of a line are reconciled item by item**, once its reservation is released. -/
theorem reconcileReturnTargets_eq {input : ReconcileInput} {s : Store} {row : OrderLine}
    (hrow : s.lineOf input.orderId input.lineId = some row)
    (hvalid : ∀ item, ValidBalance (s.balanceOf item)) :
    ∃ order, s.findOrder input.orderId = some order ∧ ∃ v,
      (releaseIfReserved order.load.label row).final s = v ∧ Freed row s v ∧
      reconcileReturnTargets input s =
        Command.anyEach (input.targets.cover (v.returnedItems input.lineId))
          (reconcileItem input) v := by
  obtain ⟨order, horder, hline⟩ := Option.bind_eq_some_iff.1 hrow
  obtain ⟨_, v, hrun, hfreed⟩ :=
    Freed.releaseIfReserved order.load.label row s s (Freed.refl row hvalid)
  refine ⟨order, horder, v, by rw [Command.final, hrun], hfreed, ?_⟩
  rw [reconcileReturnTargets, loadOrder, Command.ask_bind_apply, horder]
  simp only [Option.map_some]
  rw [show order.load.lines.find? (fun line => line.id = input.lineId) = some row from hline]
  exact Command.bind_of_ok hrun

/-! ### What an allocation asks for -/

theorem returned_of_notMem {s : Store} {lineId item : String}
    (h : item ∉ s.returnedItems lineId) (bucket : InventoryBucket) :
    s.returned lineId item bucket = 0 := by
  refine Ledger.total_eq_zero fun movement hm => ?_
  by_contra hreturns
  rw [Bool.not_eq_false, InventoryMovement.returns] at hreturns
  simp only [Bool.and_eq_true, decide_eq_true_eq] at hreturns
  obtain ⟨hrefers, hitem, -, htype⟩ := hreturns
  refine h (List.mem_dedup.2 (List.mem_map.2 ⟨movement, List.mem_filter.2 ⟨hm, ?_⟩, hitem⟩))
  simp [hrefers, htype]

theorem effectTotal_bounds {entries : List StoredConditionEntry}
    (h : ∀ entry ∈ entries, ∀ unit ∈ entry.units, 0 ≤ unit.quantity) (item : String) :
    0 ≤ effectTotal true .damaged entries item ∧
      effectTotal true .damaged entries item ≤ effectTotal true .onHand entries item ∧
      effectTotal true .onHand entries item ≤ piecesOf entries item ∧
      0 ≤ effectTotal false .damaged entries item ∧
      effectTotal false .onHand entries item ≤ 0 ∧
      effectTotal false .damaged entries item - effectTotal false .onHand entries item ≤
        piecesOf entries item := by
  have hsign : ∀ condition, 0 ≤ conditionSign condition true .damaged ∧
      conditionSign condition true .damaged ≤ conditionSign condition true .onHand ∧
      conditionSign condition true .onHand ≤ 1 ∧
      0 ≤ conditionSign condition false .damaged ∧
      conditionSign condition false .onHand ≤ 0 ∧
      conditionSign condition false .damaged - conditionSign condition false .onHand ≤ 1 := by
    intro condition
    cases condition <;> decide
  induction entries with
  | nil => simp [effectTotal, piecesOf]
  | cons entry entries ih =>
    have hpieces := pieces_nonneg (h entry (List.mem_cons_self ..)) item
    obtain ⟨h₁, h₂, h₃, h₄, h₅, h₆⟩ := ih fun e he => h e (List.mem_cons_of_mem _ he)
    obtain ⟨s₁, s₂, s₃, s₄, s₅, s₆⟩ := hsign entry.condition
    simp only [effectTotal, piecesOf, List.map_cons, List.sum_cons] at h₁ h₂ h₃ h₄ h₅ h₆ ⊢
    have m₁ := mul_nonneg s₁ hpieces
    have m₂ := mul_le_mul_of_nonneg_right s₂ hpieces
    have m₃ := mul_le_mul_of_nonneg_right s₃ hpieces
    have m₄ := mul_nonneg s₄ hpieces
    have m₅ := mul_le_mul_of_nonneg_right s₅ hpieces
    have m₆ := mul_le_mul_of_nonneg_right s₆ hpieces
    rw [sub_mul] at m₆
    exact ⟨by omega, by omega, by omega, by omega, by omega, by omega⟩

/-! ### Histories -/

/-- A recorded allocation: its revision, its entries, and the items of the snapshot it replaces. -/
structure ReturnAllocation where
  revision : ℕ
  entries : List StoredConditionEntry
  replaced : List String := []

def OrderLine.isDelivered (line : OrderLine) : Bool := decide (line.stockStatus = some .delivered)

variable (orderId : String)

/-- What `record` hands to the reconciliation. -/
def ReturnAllocation.input (line : OrderLine) (allocation : ReturnAllocation) :
    ReconcileInput where
  orderId := orderId
  lineId := line.id
  revision := allocation.revision
  targets := (conditionTargets line.isDelivered allocation.entries).cover allocation.replaced

/-- The allocation covers no more pieces of an item than were ordered, in whatever conditions. -/
def ReturnAllocation.Fits (line : OrderLine) (allocation : ReturnAllocation) : Prop :=
  (∀ entry ∈ allocation.entries, ∀ unit ∈ entry.units, 0 ≤ unit.quantity) ∧
    ∀ item, piecesOf allocation.entries item ≤ productTotal line item

/-- A history of a line: the store, and the entries of the last allocation that was recorded. -/
structure ReturnBook where
  store : Store
  last : List StoredConditionEntry := []

structure ReturnTurn where
  allocation : ReturnAllocation
  meanwhile : Store → Store

def returnCall (line : OrderLine) (allocation : ReturnAllocation) : Service Bool :=
  withOrderTransaction (reconcileReturnTargets (allocation.input orderId line))

def returnStep (line : OrderLine) (book : ReturnBook) (turn : ReturnTurn) : ReturnBook :=
  match returnCall orderId line turn.allocation book.store with
  | (.ok _, t) => ⟨turn.meanwhile t, turn.allocation.entries⟩
  | (.error _, t) => ⟨turn.meanwhile t, book.last⟩

/-- **The first condition of a line is recorded**: no movement of a return of the line exists, no
key of an allocation is used, and every balance is valid. -/
structure FirstCondition (order : EcommerceOrder) (line : OrderLine) (s : Store) : Prop where
  found : s.findOrder order.id = some order
  row : s.lineOf order.id line.id = some line
  valid : ∀ item, ValidBalance (s.balanceOf item)
  unreturned : ∀ movement ∈ s.movements, movement.refersTo line.id = true →
    movement.type ∉ returnMovementTypes
  noLegacy : s.NoLegacyReturns order.id
  unused : ∀ item revision index, productTotal line item ≠ 0 →
    s.findMovement item (returnAllocationKey line.id revision item index) = none

/-- The units of the line are available, or they are once its own reservation is released. -/
def UnitsAvailable (order : EcommerceOrder) (line : OrderLine) (s : Store) : Prop :=
  ∀ item, productTotal line item ≤ availableQuantity (s.balanceOf item) ∨
    productTotal line item ≤
      availableQuantity (((releaseIfReserved order.load.label line).final s).balanceOf item)

/-- **Nothing else moved the items of the line in between**: the line is as delivered, its balances
are valid and unchanged, and the movements written are about other items and no returns of it. -/
structure Undisturbed (line : OrderLine) (s t : Store) : Prop where
  row : ∃ row, t.lineOf orderId line.id = some row ∧ row.isDelivered = line.isDelivered
  valid : ∀ item, ValidBalance (t.balanceOf item)
  balance : ∀ item, productTotal line item ≠ 0 → t.balanceOf item = s.balanceOf item
  movements : ∃ others, t.movements = s.movements ++ others ∧ ∀ movement ∈ others,
    productTotal line movement.inventoryItemId = 0 ∧
      (movement.refersTo line.id = true → movement.type ∉ returnMovementTypes) ∧
      movement.legacyReturn orderId = false

def TurnUndisturbed (line : OrderLine) (book : ReturnBook) (turn : ReturnTurn) : Prop :=
  Undisturbed orderId line ((returnCall orderId line turn.allocation).final book.store)
    (returnStep orderId line book turn).store

/-- **Where a line stands after some allocations**: what its returns add up to, what the balances
of its items are, and which revisions are still to come. -/
structure ReturnInv (order : EcommerceOrder) (line : OrderLine) (start : Store)
    (fresh : ℕ → Prop) (entries : List StoredConditionEntry) (s : Store) : Prop where
  row : ∃ row, s.lineOf order.id line.id = some row ∧ row.isDelivered = line.isDelivered
  valid : ∀ item, ValidBalance (s.balanceOf item)
  noLegacy : s.NoLegacyReturns order.id
  unused : ∀ item revision index, productTotal line item ≠ 0 → fresh revision →
    s.findMovement item (returnAllocationKey line.id revision item index) = none
  onHand : ∀ item, s.returned line.id item .onHand =
    effectTotal line.isDelivered .onHand entries item
  damaged : ∀ item, s.returned line.id item .damaged =
    effectTotal line.isDelivered .damaged entries item
  balance : ∀ item, productTotal line item ≠ 0 →
    (s.balanceOf item).onHand = (start.balanceOf item).onHand +
        effectTotal line.isDelivered .onHand entries item ∧
      (s.balanceOf item).damaged = (start.balanceOf item).damaged +
        effectTotal line.isDelivered .damaged entries item

/-- What is left of the stock at the start, however much is reserved now: of an undelivered line,
the units that did not leave. -/
def Room (line : OrderLine) (start s : Store) : Prop :=
  ∀ item, productTotal line item ≠ 0 →
    (if line.isDelivered then 0 else productTotal line item) ≤
      (start.balanceOf item).onHand - (start.balanceOf item).damaged - (s.balanceOf item).reserved

section Histories

variable {order : EcommerceOrder} {line : OrderLine} {start : Store} {fresh : ℕ → Prop}
  {entries : List StoredConditionEntry} {s : Store}

theorem FirstCondition.inv (h : FirstCondition order line start) (fresh : ℕ → Prop) :
    ReturnInv order line start fresh [] start := by
  have hreturned : ∀ item bucket, start.returned line.id item bucket = 0 := by
    intro item bucket
    refine Ledger.total_eq_zero fun movement hm => ?_
    by_contra hreturns
    rw [Bool.not_eq_false, InventoryMovement.returns] at hreturns
    simp only [Bool.and_eq_true, decide_eq_true_eq] at hreturns
    exact h.unreturned movement hm hreturns.1 hreturns.2.2.2
  refine ⟨⟨line, h.row, rfl⟩, h.valid, h.noLegacy, fun item revision index hitem _ =>
    h.unused item revision index hitem, fun item => hreturned item _, fun item => hreturned item _,
    fun item _ => ?_⟩
  simp [effectTotal]

theorem ReturnInv.freed {v : Store} {row : OrderLine}
    (h : ReturnInv order line start fresh entries s) (hid : row.id = line.id)
    (hfreed : Freed row s v)
    (hrow : ∃ row', v.lineOf order.id line.id = some row' ∧ row'.isDelivered = line.isDelivered) :
    ReturnInv order line start fresh entries v := by
  have hreturns := hid ▸ hfreed.returns
  refine ⟨hrow, hfreed.valid, hreturns.noLegacy _ h.noLegacy, fun item revision index hitem hf =>
    hreturns.unused item revision index (h.unused item revision index hitem hf), fun item => ?_,
    fun item => ?_, fun item hitem => ?_⟩
  · rw [hreturns.returned, h.onHand]
  · rw [hreturns.returned, h.damaged]
  · rw [hfreed.onHand, hfreed.damaged]
    exact h.balance item hitem

theorem Room.freed {v : Store} {row : OrderLine} (h : Room line start s)
    (hfreed : Freed row s v) : Room line start v := by
  intro item hitem
  have h₁ := h item hitem
  have h₂ := hfreed.reserved item
  omega

theorem effectTotal_of_zero (hnonneg : ∀ entry ∈ entries, ∀ unit ∈ entry.units, 0 ≤ unit.quantity)
    {item : String} (hpieces : piecesOf entries item ≤ 0) (delivered : Bool) :
    effectTotal delivered .onHand entries item = 0 ∧
      effectTotal delivered .damaged entries item = 0 := by
  obtain ⟨h₁, h₂, h₃, h₄, h₅, h₆⟩ := effectTotal_bounds hnonneg item
  cases delivered with
  | true => exact ⟨by omega, by omega⟩
  | false => exact ⟨by omega, by omega⟩

theorem ReturnInv.covers (h : ReturnInv order line start fresh entries s)
    (hstart : ∀ item, ValidBalance (start.balanceOf item)) (hroom : Room line start s)
    {old next : ReturnAllocation} (hentries : old.entries = entries) (hold : old.Fits line)
    (hnext : next.Fits line) (item : String) :
    Covers (s.balanceOf item) (effectTarget line.isDelivered next.entries item)
      (s.returned line.id item .onHand) (s.returned line.id item .damaged) := by
  subst hentries
  rw [h.onHand, h.damaged]
  obtain ⟨o₁, o₂, o₃, o₄, o₅, o₆⟩ := effectTotal_bounds hold.1 item
  obtain ⟨n₁, n₂, n₃, n₄, n₅, n₆⟩ := effectTotal_bounds hnext.1 item
  have hv := h.valid item
  have hv₃ := hv.damaged_nonneg
  have hv₅ := hv.coupled
  have hpo := hold.2 item
  have hpn := hnext.2 item
  by_cases hitem : productTotal line item = 0
  · have hzo := effectTotal_of_zero hold.1 (hitem ▸ hpo) line.isDelivered
    have hzn := effectTotal_of_zero hnext.1 (hitem ▸ hpn) line.isDelivered
    constructor <;> simp only [effectTarget, availableQuantity, hzo, hzn] <;> omega
  · obtain ⟨hb₁, hb₂⟩ := h.balance item hitem
    have hs₃ := (hstart item).damaged_nonneg
    have hleft := hroom item hitem
    rcases Bool.eq_false_or_eq_true line.isDelivered with hdelivered | hdelivered
    · -- what came back on hand leaves room for what of it is damaged
      rw [hdelivered] at hb₁ hb₂ hleft ⊢
      constructor <;> simp only [effectTarget, availableQuantity, if_true] at hleft ⊢ <;> omega
    · -- the units that never left were available at the start
      rw [hdelivered] at hb₁ hb₂ hleft ⊢
      constructor <;>
        simp only [effectTarget, availableQuantity, Bool.false_eq_true, if_false] at hleft ⊢ <;>
        omega

theorem askedTotal_targets {input : ReconcileInput} {effect : String → ReturnTarget}
    (hlegacy : s.NoLegacyReturns input.orderId) {targets : ReturnTargets}
    (hnodup : (targets.map Prod.fst).Nodup) (hget : ∀ item, targets.get item = effect item)
    (hkeys : ∀ item, item ∈ s.returnedItems input.lineId → item ∈ targets.map Prod.fst)
    (item : String) :
    askedTotal (returnsAsked input s targets) item .onHand =
        (effect item).onHand - s.returned input.lineId item .onHand ∧
      askedTotal (returnsAsked input s targets) item .damaged =
        (effect item).damaged - s.returned input.lineId item .damaged ∧
      askedTotal (returnsAsked input s targets) item .reserved = 0 := by
  by_cases hitem : item ∈ targets.map Prod.fst
  · obtain ⟨entry, hentry, rfl⟩ := List.mem_map.1 hitem
    have htarget : entry.2 = effect entry.1 := by
      rw [← ReturnTargets.get_of_mem hnodup hentry, hget]
    simp only [askedTotal_returnsAsked hnodup hentry, askedTotal_entryAsked, htarget,
      Store.netReturned_eq hlegacy, and_self]
  · have hzero : ∀ bucket, askedTotal (returnsAsked input s targets) item bucket = 0 := by
      intro bucket
      refine askedTotal_eq_zero fun asked ha heq => ?_
      obtain ⟨entry, he, hin⟩ := List.mem_flatMap.1 ha
      exact absurd (List.mem_map.2 ⟨entry, he, (entryAsked_item hin).symm.trans heq⟩) hitem
    have heffect : effect item = {} := (hget item).symm.trans (ReturnTargets.get_of_notMem hitem)
    have hnone := returned_of_notMem fun hin => hitem (hkeys item hin)
    simp only [hzero, heffect, hnone, sub_self, and_self]

theorem returnsAsked_key {input : ReconcileInput} {targets : ReturnTargets} {asked : ItemInput}
    (h : asked ∈ returnsAsked input s targets) {revision : ℕ} (hne : revision ≠ input.revision)
    (index : ℕ) :
    asked.2.idempotencyKey ≠ returnAllocationKey input.lineId revision asked.1 index := by
  obtain ⟨entry, -, hin⟩ := List.mem_flatMap.1 h
  obtain ⟨hitem, change, -, hkey⟩ := itemAsked_key hin
  intro heq
  rw [hkey, ReconcileInput.key, hitem] at heq
  exact hne (returnAllocationKey_inj heq).2.1.symm

theorem ReturnInv.carried {t : Store} {next : ReturnAllocation}
    (h : ReturnInv order line start fresh entries s) {targets : ReturnTargets}
    (hnodup : (targets.map Prod.fst).Nodup)
    (hget : ∀ item, targets.get item = effectTarget line.isDelivered next.entries item)
    (hkeys : ∀ item, item ∈ s.returnedItems line.id → item ∈ targets.map Prod.fst)
    (hcarried : Carried (returnsAsked (next.input order.id line) s targets) s t)
    (hvalid : ∀ item, ValidBalance (t.balanceOf item)) :
    ReturnInv order line start (fun revision => fresh revision ∧ revision ≠ next.revision)
      next.entries t ∧ ∀ item, (t.balanceOf item).reserved = (s.balanceOf item).reserved := by
  have hreturns : AllReturns line.id (returnsAsked (next.input order.id line) s targets) :=
    returnsAsked_returns (next.input order.id line) s targets
  have hasked : ∀ item,
      askedTotal (returnsAsked (next.input order.id line) s targets) item .onHand =
          effectTotal line.isDelivered .onHand next.entries item -
            s.returned line.id item .onHand ∧
        askedTotal (returnsAsked (next.input order.id line) s targets) item .damaged =
          effectTotal line.isDelivered .damaged next.entries item -
            s.returned line.id item .damaged ∧
        askedTotal (returnsAsked (next.input order.id line) s targets) item .reserved = 0 :=
    fun item => askedTotal_targets h.noLegacy hnodup hget hkeys item
  refine ⟨⟨?_, hvalid, hcarried.noLegacyReturns h.noLegacy, fun item revision index hitem hf => ?_,
    fun item => ?_, fun item => ?_, fun item hitem => ?_⟩, fun item => ?_⟩
  · rw [hcarried.sameBut.lineOf]
    exact h.row
  · exact hcarried.findMovement_eq_none (h.unused item revision index hitem hf.1)
      fun asked ha heq => heq ▸ returnsAsked_key ha hf.2 index
  · have hmoved := hcarried.returned hreturns item .onHand
    rw [(hasked item).1] at hmoved
    exact hmoved.trans (by omega)
  · have hmoved := hcarried.returned hreturns item .damaged
    rw [(hasked item).2.1] at hmoved
    exact hmoved.trans (by omega)
  · have h₁ : (t.balanceOf item).onHand = (s.balanceOf item).onHand + _ :=
      hcarried.balance item .onHand
    have h₂ : (t.balanceOf item).damaged = (s.balanceOf item).damaged + _ :=
      hcarried.balance item .damaged
    obtain ⟨hb₁, hb₂⟩ := h.balance item hitem
    rw [(hasked item).1, h.onHand] at h₁
    rw [(hasked item).2.1, h.damaged] at h₂
    exact ⟨by omega, by omega⟩
  · have h₃ : (t.balanceOf item).reserved = (s.balanceOf item).reserved + _ :=
      hcarried.balance item .reserved
    rw [h₃, (hasked item).2.2, add_zero]

theorem validBalances_stable :
    StockStable (fun _ => True) (fun s => ∀ item, ValidBalance (s.balanceOf item)) where
  quiet hq h item := hq.balanceOf item ▸ h item
  moved _ _ hm h item := by
    have hfits := hm.fits
    rw [hm.clamped] at hfits
    rw [hm.balanceOf, hm.clamped]
    split
    · exact (h _).clamped _ _ hfits
    · exact h item
  status _ _ h := h

/-- **An allocation is recorded in full**: once the line's reservation is released, every movement
of the reconciliation is of its full amount. -/
def RecordedInFull (line : OrderLine) (allocation : ReturnAllocation) (s t : Store) : Prop :=
  ∃ order row v, s.findOrder orderId = some order ∧ s.lineOf orderId line.id = some row ∧
    (releaseIfReserved order.load.label row).final s = v ∧
    Carried (returnsAsked (allocation.input orderId line) v
      ((allocation.input orderId line).targets.cover (v.returnedItems line.id))) v t

/-- **Recording an allocation**: it is carried out in full, or refused because a quantity on hand
does not fit its column. -/
theorem ReturnInv.call (h : ReturnInv order line start fresh entries s)
    (hstart : ∀ item, ValidBalance (start.balanceOf item))
    (hroom : ∀ loaded row, s.findOrder order.id = some loaded →
      s.lineOf order.id line.id = some row →
      Room line start ((releaseIfReserved loaded.load.label row).final s))
    {old next : ReturnAllocation} (hentries : old.entries = entries) (hold : old.Fits line)
    (hnext : next.Fits line) (hfresh : fresh next.revision) :
    (∃ moved t, returnCall order.id line next s = (.ok moved, t) ∧
      RecordedInFull order.id line next s t ∧
      ReturnInv order line start (fun revision => fresh revision ∧ revision ≠ next.revision)
        next.entries t ∧ Room line start t) ∨
    (∃ t, returnCall order.id line next s = (.error .integerOutOfRange, t) ∧
      (∀ item, t.balanceOf item = s.balanceOf item) ∧ t.movements = s.movements ∧
      t.orders = s.orders ∧
      ∃ item, maxQuantity < (start.balanceOf item).onHand +
        effectTotal line.isDelivered .onHand next.entries item) := by
  obtain ⟨row, hrow, hdelivered⟩ := h.row
  obtain ⟨loaded, hload, v, hrelease, hfreed, hrun⟩ :=
    @reconcileReturnTargets_eq (next.input order.id line) s row hrow h.valid
  change _ = Command.anyEach ((next.input order.id line).targets.cover
    (v.returnedItems line.id)) (reconcileItem (next.input order.id line)) v at hrun
  have hid : row.id = line.id := Store.lineOf_id hrow
  -- the release leaves the row, marked as released if it was reserved
  have hrow' : ∃ row', v.lineOf order.id line.id = some row' ∧
      row'.isDelivered = line.isDelivered := by
    obtain ⟨row', hreleased, hfound⟩ := releaseIfReserved_row loaded.load.label order.id row s
      ⟨row, .same, hid ▸ hrow⟩
    rw [hrelease, hid] at hfound
    refine ⟨row', hfound, hdelivered ▸ ?_⟩
    rw [OrderLine.isDelivered, OrderLine.isDelivered, decide_eq_decide]
    exact hreleased.delivered_iff
  have hv := h.freed hid hfreed hrow'
  have hvroom : Room line start v := hrelease ▸ hroom loaded row hload hrow
  -- the targets: one for each item, what the allocation asks for, and for all that returned
  obtain ⟨hget₁, hnodup₁, -⟩ := ReturnTargets.cover_spec next.replaced
    (conditionTargets line.isDelivered next.entries) conditionTargets_nodup
  obtain ⟨hget₂, hnodup₂, hkeys₂⟩ := ReturnTargets.cover_spec (v.returnedItems line.id)
    (next.input order.id line).targets hnodup₁
  have hget : ∀ item, ((next.input order.id line).targets.cover
      (v.returnedItems line.id)).get item = effectTarget line.isDelivered next.entries item :=
    fun item => (hget₂ item).trans ((hget₁ item).trans (conditionTargets_get _ _ _))
  have hnet : ∀ item bucket, v.netReturned order.id line.id item bucket =
      v.returned line.id item bucket := Store.netReturned_eq hv.noLegacy line.id
  have hzero : ∀ item, productTotal line item = 0 →
      effectTarget line.isDelivered next.entries item = {} ∧
        v.returned line.id item .onHand = 0 ∧ v.returned line.id item .damaged = 0 := by
    intro item hitem
    have hnone := effectTotal_of_zero hnext.1 (hitem ▸ hnext.2 item) line.isDelivered
    have hbefore := effectTotal_of_zero hold.1 (hitem ▸ hold.2 item) line.isDelivered
    rw [hentries] at hbefore
    rw [effectTarget, hnone.1, hnone.2, hv.onHand, hv.damaged]
    exact ⟨rfl, hbefore.1, hbefore.2⟩
  have hready : ∀ entry ∈ (next.input order.id line).targets.cover (v.returnedItems line.id),
      ItemReady (next.input order.id line) v entry := by
    intro entry hentry
    have htarget : entry.2 = effectTarget line.isDelivered next.entries entry.1 := by
      rw [← ReturnTargets.get_of_mem hnodup₂ hentry, hget]
    have hcovers := hv.covers hstart hvroom hentries hold hnext entry.1
    refine ⟨hv.valid entry.1, fun hne index => ?_, ?_⟩
    · refine hv.unused entry.1 next.revision index (fun hitem => ?_) hfresh
      obtain ⟨hnone, honHand, hdamaged⟩ := hzero entry.1 hitem
      rw [htarget, hnone] at hne
      exact hne.elim (fun hne => hne ((hnet _ _).trans honHand).symm)
        fun hne => hne ((hnet _ _).trans hdamaged).symm
    · rw [← htarget, ← hnet, ← hnet] at hcovers
      exact hcovers
  rcases anyEach_reconcileItem_ready hnodup₂ hv.noLegacy hready with
    ⟨moved, t, hloop, hcarried⟩ | ⟨t, hloop, entry, hentry, hlarge⟩
  · left
    have hvalid : ∀ item, ValidBalance (t.balanceOf item) := by
      have hkeeps : Command.Keeps (fun t => ∀ item, ValidBalance (t.balanceOf item))
          (reconcileReturnTargets (next.input order.id line)) :=
        validBalances_stable.moves.reconcileReturnTargets trivial
      have hkept := hkeeps s h.valid
      rwa [Command.final, hrun, hloop] at hkept
    obtain ⟨hinv, hreserved⟩ := hv.carried hnodup₂ hget
      (fun item hin => (hkeys₂ item).2 (Or.inr hin)) hcarried hvalid
    refine ⟨moved, t, Command.transaction_of_ok (hrun.trans hloop),
      ⟨loaded, row, v, hload, hrow, hrelease, hcarried⟩, hinv, fun item hitem => ?_⟩
    rw [hreserved]
    exact hvroom item hitem
  · right
    refine ⟨s.rollback t, Command.transaction_of_error (hrun.trans hloop), fun _ => rfl, rfl, rfl,
      entry.1, ?_⟩
    have htarget : entry.2 = effectTarget line.isDelivered next.entries entry.1 := by
      rw [← ReturnTargets.get_of_mem hnodup₂ hentry, hget]
    rw [Outgrows, htarget] at hlarge
    change maxQuantity < (v.balanceOf entry.1).onHand +
      (effectTotal line.isDelivered .onHand next.entries entry.1 -
        v.netReturned order.id line.id entry.1 .onHand) at hlarge
    rw [hnet] at hlarge
    by_cases hitem : productTotal line entry.1 = 0
    · obtain ⟨hnone, honHand, -⟩ := hzero entry.1 hitem
      have hnone : effectTotal line.isDelivered .onHand next.entries entry.1 = 0 :=
        congrArg ReturnTarget.onHand hnone
      have := (hv.valid entry.1).onHand_le
      omega
    · have hbalance := (hv.balance entry.1 hitem).1
      have honHand := hv.onHand entry.1
      omega

theorem ReturnInv.undisturbed {t : Store} (h : ReturnInv order line start fresh entries s)
    (hapart : Undisturbed order.id line s t) : ReturnInv order line start fresh entries t := by
  obtain ⟨others, hmovements, hothers⟩ := hapart.movements
  have hreturned : ∀ item bucket, t.returned line.id item bucket =
      s.returned line.id item bucket := by
    intro item bucket
    have hnone : Ledger.total InventoryMovement.quantityDelta
        (InventoryMovement.returns line.id item bucket) others = 0 := by
      refine Ledger.total_eq_zero fun movement hm => ?_
      by_contra hreturns
      rw [Bool.not_eq_false, InventoryMovement.returns] at hreturns
      simp only [Bool.and_eq_true, decide_eq_true_eq] at hreturns
      exact (hothers movement hm).2.1 hreturns.1 hreturns.2.2.2
    rw [Store.returned, Store.sumMovements, hmovements, Ledger.total_append, hnone, add_zero]
    rfl
  refine ⟨hapart.row, hapart.valid, fun movement hm => ?_, fun item revision index hitem hf => ?_,
    fun item => ?_, fun item => ?_, fun item hitem => ?_⟩
  · rw [hmovements] at hm
    exact (List.mem_append.1 hm).elim (h.noLegacy movement) fun hm => (hothers movement hm).2.2
  · have hs := h.unused item revision index hitem hf
    rw [Store.findMovement, List.find?_eq_none] at hs ⊢
    intro movement hm
    rw [hmovements] at hm
    rcases List.mem_append.1 hm with hm | hm
    · exact hs movement hm
    · intro hand
      simp only [decide_eq_true_eq] at hand
      exact hitem (hand.1 ▸ (hothers movement hm).1)
  · rw [hreturned, h.onHand]
  · rw [hreturned, h.damaged]
  · rw [hapart.balance item hitem]
    exact h.balance item hitem

theorem Room.undisturbed {t : Store} (h : Room line start s)
    (hapart : Undisturbed order.id line s t) : Room line start t := by
  intro item hitem
  rw [hapart.balance item hitem]
  exact h item hitem

theorem ReturnInv.of_same {t : Store} (h : ReturnInv order line start fresh entries s)
    (hbalance : ∀ item, t.balanceOf item = s.balanceOf item) (hmovements : t.movements = s.movements)
    (horders : t.orders = s.orders) : ReturnInv order line start fresh entries t := by
  have hsame : SameReturns line.id s t := .of_movements hmovements
  refine ⟨?_, fun item => hbalance item ▸ h.valid item, hsame.noLegacy _ h.noLegacy,
    fun item revision index hitem hf =>
      hsame.unused item revision index (h.unused item revision index hitem hf),
    fun item => (hsame.returned item _).trans (h.onHand item),
    fun item => (hsame.returned item _).trans (h.damaged item), fun item hitem => ?_⟩
  · rw [Store.lineOf, Store.findOrder, horders]
    exact h.row
  · rw [hbalance]
    exact h.balance item hitem

theorem ReturnInv.mono {fresh' : ℕ → Prop} (h : ReturnInv order line start fresh entries s)
    (hfresh : ∀ revision, fresh' revision → fresh revision) :
    ReturnInv order line start fresh' entries s :=
  ⟨h.row, h.valid, h.noLegacy, fun item revision index hitem hf =>
    h.unused item revision index hitem (hfresh revision hf), h.onHand, h.damaged, h.balance⟩

/-- **Where a history stands**: the line as its returns say, with room for any correction; or the
start, with the units of an undelivered line available. -/
structure BookInv (order : EcommerceOrder) (line : OrderLine) (start : Store)
    (fresh : ℕ → Prop) (book : ReturnBook) : Prop where
  inv : ReturnInv order line start fresh book.last book.store
  fits : ∃ old : ReturnAllocation, old.entries = book.last ∧ old.Fits line
  room : Room line start book.store ∨
    line.isDelivered = false ∧ book.store = start ∧ UnitsAvailable order line start

theorem FirstCondition.bookInv (h : FirstCondition order line start)
    (hstock : line.stockStatus = some .delivered ∨ UnitsAvailable order line start)
    (fresh : ℕ → Prop) : BookInv order line start fresh ⟨start, []⟩ := by
  refine ⟨h.inv fresh, ⟨⟨0, [], []⟩, rfl, by simp, fun item => ?_⟩, ?_⟩
  · simpa [piecesOf] using productTotal_nonneg line item
  · rcases Bool.eq_false_or_eq_true line.isDelivered with hdelivered | hdelivered
    · left
      intro item _
      have := (h.valid item).coupled
      rw [if_pos hdelivered]
      simp only
      omega
    · refine Or.inr ⟨hdelivered, rfl, hstock.resolve_left fun hstatus => ?_⟩
      rw [OrderLine.isDelivered, hstatus] at hdelivered
      cases hdelivered

theorem BookInv.room_released {book : ReturnBook} (h : BookInv order line start fresh book)
    (hfirst : FirstCondition order line start) {loaded : EcommerceOrder} {row : OrderLine}
    (hload : book.store.findOrder order.id = some loaded)
    (hrow : book.store.lineOf order.id line.id = some row) :
    Room line start ((releaseIfReserved loaded.load.label row).final book.store) := by
  obtain ⟨_, v, hrun, hfreed⟩ := Freed.releaseIfReserved loaded.load.label row book.store book.store
    (Freed.refl row h.inv.valid)
  rw [Command.final, hrun]
  rcases h.room with hroom | ⟨hdelivered, hstore, havailable⟩
  · exact hroom.freed hfreed
  · rw [hstore] at hload hrow hrun hfreed
    obtain rfl : order = loaded := Option.some.inj (hfirst.found.symm.trans hload)
    obtain rfl : line = row := Option.some.inj (hfirst.row.symm.trans hrow)
    intro item hitem
    have hunits := havailable item
    have honHand := hfreed.onHand item
    have hdamaged := hfreed.damaged item
    have hreserved := hfreed.reserved item
    rw [Command.final, hrun, availableQuantity, availableQuantity] at hunits
    rw [hdelivered, if_neg (by simp)]
    simp only at hunits ⊢
    omega

theorem BookInv.step {book : ReturnBook} (h : BookInv order line start fresh book)
    (hfirst : FirstCondition order line start) {turn : ReturnTurn}
    (hfits : turn.allocation.Fits line) (hfresh : fresh turn.allocation.revision)
    (hapart : TurnUndisturbed order.id line book turn) :
    BookInv order line start
      (fun revision => fresh revision ∧ revision ≠ turn.allocation.revision)
      (returnStep order.id line book turn) := by
  obtain ⟨old, hentries, hold⟩ := h.fits
  rw [TurnUndisturbed, Command.final] at hapart
  rcases h.inv.call hfirst.valid (fun _ _ => h.room_released hfirst) hentries hold hfits hfresh with
    ⟨moved, t, hrun, -, hinv, hroom⟩ | ⟨t, hrun, hbalance, hmovements, horders, item, hlarge⟩
  · have hstep : returnStep order.id line book turn =
        ⟨turn.meanwhile t, turn.allocation.entries⟩ := by
      rw [returnStep, hrun]
    rw [hstep, hrun] at hapart
    rw [hstep]
    exact ⟨hinv.undisturbed hapart, ⟨turn.allocation, rfl, hfits⟩,
      Or.inl (hroom.undisturbed hapart)⟩
  · have hstep : returnStep order.id line book turn = ⟨turn.meanwhile t, book.last⟩ := by
      rw [returnStep, hrun]
    rw [hstep, hrun] at hapart
    rw [hstep]
    have hsame := h.inv.of_same hbalance hmovements horders
    refine ⟨(hsame.undisturbed hapart).mono fun _ hf => hf.1, h.fits, Or.inl ?_⟩
    -- only what comes back on hand can outgrow its column, so the line was delivered
    rcases h.room with hroom | ⟨hdelivered, -, -⟩
    · refine Room.undisturbed (s := t) (fun item hitem => ?_) hapart
      rw [hbalance]
      exact hroom item hitem
    · rw [hdelivered] at hlarge
      have hnonpos := (effectTotal_bounds hfits.1 item).2.2.2.2.1
      have hstart := (hfirst.valid item).onHand_le
      omega

theorem BookInv.run (hfirst : FirstCondition order line start) {turns : List ReturnTurn} :
    ∀ {fresh : ℕ → Prop} {book : ReturnBook}, BookInv order line start fresh book →
      (∀ turn ∈ turns, turn.allocation.Fits line ∧ fresh turn.allocation.revision) →
      (turns.map fun turn => turn.allocation.revision).Nodup →
      Machine.Along (returnStep order.id line) (TurnUndisturbed order.id line) book turns →
      BookInv order line start
        (fun revision => fresh revision ∧
          revision ∉ turns.map fun turn => turn.allocation.revision)
        (Machine.run (returnStep order.id line) book turns) := by
  induction turns with
  | nil => exact fun h _ _ _ => ⟨h.inv.mono fun _ hf => hf.1, h.fits, h.room⟩
  | cons turn turns ih =>
    intro fresh book h hturns hnodup hapart
    rw [List.map_cons, List.nodup_cons] at hnodup
    obtain ⟨hfits, hfresh⟩ := hturns turn (List.mem_cons_self ..)
    have hnext := h.step hfirst hfits hfresh hapart.1
    have hrest := ih hnext (fun other hother => ?_) hnodup.2 hapart.2
    · refine ⟨hrest.inv.mono fun revision hf => ?_, hrest.fits, hrest.room⟩
      rw [List.map_cons, List.mem_cons, not_or] at hf
      exact ⟨⟨hf.1, hf.2.1⟩, hf.2.2⟩
    · obtain ⟨hfits', hfresh'⟩ := hturns other (List.mem_cons_of_mem _ hother)
      exact ⟨hfits', hfresh', fun heq => hnodup.1 (heq ▸ List.mem_map_of_mem hother)⟩

end Histories

theorem TurnUndisturbed.of_nothing {orderId : String} {line row : OrderLine} {book : ReturnBook}
    {allocation : ReturnAllocation} (hvalid : ∀ item, ValidBalance (book.store.balanceOf item))
    (hrow : ((returnCall orderId line allocation).final book.store).lineOf orderId line.id = some row)
    (hdelivered : row.isDelivered = line.isDelivered) :
    TurnUndisturbed orderId line book ⟨allocation, id⟩ := by
  have hstay : (returnStep orderId line book ⟨allocation, id⟩).store =
      (returnCall orderId line allocation).final book.store := by
    rw [returnStep, Command.final]
    split
    · rename_i h
      rw [h]
      rfl
    · rename_i h
      rw [h]
      rfl
  have hkeeps : Command.Keeps (fun t => ∀ item, ValidBalance (t.balanceOf item))
      (returnCall orderId line allocation) :=
    validBalances_stable.withOrderTransaction
      (validBalances_stable.moves.reconcileReturnTargets trivial)
  rw [TurnUndisturbed, hstay]
  exact ⟨⟨row, hrow, hdelivered⟩, hkeeps _ hvalid, fun _ _ => rfl, [],
    (List.append_nil _).symm, by simp⟩

theorem FirstCondition.of_fresh {order : EcommerceOrder} {line : OrderLine} {s : Store}
    (hfound : s.findOrder order.id = some order) (hrow : s.lineOf order.id line.id = some line)
    (hvalid : ∀ item, ValidBalance (s.balanceOf item))
    (hreturns : ∀ movement ∈ s.movements, movement.type ∉ returnMovementTypes)
    (hkeys : ∀ movement ∈ s.movements, ∀ key, movement.idempotencyKey = some key →
      ¬ "return-allocation:".toList <+: key.toList) : FirstCondition order line s := by
  refine ⟨hfound, hrow, hvalid, fun movement hm _ => hreturns movement hm, fun movement hm => ?_,
    fun item revision index _ => ?_⟩
  · rw [InventoryMovement.legacyReturn, decide_eq_false (hreturns movement hm), Bool.false_and]
  · rw [Store.findMovement_eq_none_iff]
    intro movement hm _ hkey
    obtain ⟨rest, hrest⟩ := returnAllocationKey_inFamily line.id revision item index
    refine hkeys movement hm _ hkey ?_
    rw [hrest, String.toList_append]
    exact List.prefix_append _ _

/-- `oneOrder` with its piece reserved. -/
def reservedOrder : Store := Machine.run StockOperation.step oneOrder [.reserveOrder "order"]

/-- The line of `oneOrder`, after something happened to it. -/
def onePiece (stockStatus : OrderLineStockStatus) : OrderLine where
  id := "line"
  quantity := 1
  quantity_pos := Int.one_pos
  stockStatus := some stockStatus
  warehouseVariant := some { id := "variant", storeId := "store", inventoryItem := some "item" }

def oneCondition (revision : ℕ) (condition : ProductCondition) : ReturnAllocation where
  revision := revision
  entries := [{
    componentVariantId := none
    quantity := 1
    condition
    damageCost := none
    unitCost := 0
    saleValue := 0
    physicalQuantity := 1
    units := [⟨"item", 1⟩] }]

theorem productTotal_onePiece (status : OrderLineStockStatus) (item : String) :
    productTotal (onePiece status) item = if "item" = item then 1 else 0 := by
  have hunits : productUnits (onePiece status) = [⟨"item", 1, .product⟩] := by
    cases status <;> decide
  rw [productTotal, hunits, unitsTotal_cons, unitsTotal_nil, add_zero]

theorem oneCondition_fits (revision : ℕ) (condition : ProductCondition)
    (status : OrderLineStockStatus) : (oneCondition revision condition).Fits (onePiece status) := by
  refine ⟨by simp [oneCondition], fun item => ?_⟩
  rw [productTotal_onePiece]
  simp [piecesOf, oneCondition, pieces_cons]

theorem reservedOrder_valid (item : String) : ValidBalance (reservedOrder.balanceOf item) :=
  ((oneOrder_start.ledger).run _).valid item

/-- A delivered piece of an item of which as many are on hand as the column can hold. -/
def fullStock : Store :=
  Machine.run StockOperation.step
    { itemStores := fun _ => some "store"
      orders := [{ id := "order", storeId := "store", lines := [onePiece .delivered] }] }
    [.adjust "store" "item" ⟨.onHand, 2147483647, "Opening stock", "opening-0001", none, none⟩]

end Zomaal
