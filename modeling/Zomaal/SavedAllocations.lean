/-
**What a condition request saves.**

The allocation that a line has afterwards is the one that was prepared for it, and a line without
rows keeps its own.

Main results:

* `prepareRecord_spec` — **what is prepared** for the lines of a request;
* `record_saved` — **what is saved** on the lines of the order.
-/

import Zomaal.ConditionRows
import Zomaal.ReturnRecording

set_option autoImplicit false

namespace Zomaal

open Command

/-! ### The groups of a request -/

def rowsOf (inputs : List ConditionInput) (lineId : String) : List ConditionInput :=
  inputs.filter fun input => input.orderLineId = lineId

theorem rowsOf_concat (inputs : List ConditionInput) (input : ConditionInput) (lineId : String) :
    rowsOf (inputs ++ [input]) lineId =
      rowsOf inputs lineId ++ if input.orderLineId = lineId then [input] else [] := by
  rw [rowsOf, List.filter_append, rowsOf]
  by_cases hid : input.orderLineId = lineId
  · rw [if_pos hid, List.filter_cons_of_pos (by simpa using hid), List.filter_nil]
  · rw [if_neg hid, List.filter_cons_of_neg (by simpa using hid), List.filter_nil]

theorem mem_addToGroup {groups : List (String × List ConditionInput)} {input : ConditionInput}
    {inputs : List ConditionInput}
    (h : ∀ group, group ∈ groups ↔ group.2 = rowsOf inputs group.1 ∧ group.2 ≠ [])
    (group : String × List ConditionInput) :
    group ∈ addToGroup groups input ↔
      group.2 = rowsOf (inputs ++ [input]) group.1 ∧ group.2 ≠ [] := by
  have hkey : input.orderLineId ∈ groups.map Prod.fst ↔ rowsOf inputs input.orderLineId ≠ [] := by
    rw [List.mem_map]
    constructor
    · rintro ⟨group, hgroup, hid⟩
      obtain ⟨hrows, hne⟩ := (h group).1 hgroup
      rwa [hrows, hid] at hne
    · intro hne
      exact ⟨(input.orderLineId, rowsOf inputs input.orderLineId), (h _).2 ⟨rfl, hne⟩, rfl⟩
  rw [rowsOf_concat, addToGroup]
  by_cases hmem : input.orderLineId ∈ groups.map Prod.fst
  · rw [if_pos hmem, List.mem_map]
    constructor
    · rintro ⟨old, hold, rfl⟩
      obtain ⟨hrows, hne⟩ := (h old).1 hold
      by_cases hid : old.1 = input.orderLineId
      · rw [if_pos hid, if_pos hid.symm, hrows]
        exact ⟨rfl, by simp⟩
      · rw [if_neg hid, if_neg (Ne.symm hid), List.append_nil]
        exact ⟨hrows, hne⟩
    · rintro ⟨hrows, hne⟩
      by_cases hid : group.1 = input.orderLineId
      · rw [if_pos hid.symm, hid] at hrows
        refine ⟨(input.orderLineId, rowsOf inputs input.orderLineId),
          (h _).2 ⟨rfl, hkey.1 hmem⟩, ?_⟩
        rw [if_pos rfl, ← hrows, ← hid]
      · rw [if_neg (Ne.symm hid), List.append_nil] at hrows
        exact ⟨group, (h group).2 ⟨hrows, hne⟩, if_neg hid⟩
  · have hnone : rowsOf inputs input.orderLineId = [] := not_not.1 fun hne => hmem (hkey.2 hne)
    rw [if_neg hmem, List.mem_append, List.mem_singleton]
    constructor
    · rintro (hold | rfl)
      · obtain ⟨hrows, hne⟩ := (h group).1 hold
        have hid : input.orderLineId ≠ group.1 := by
          rintro hid
          rw [hrows, ← hid, hnone] at hne
          exact hne rfl
        rw [if_neg hid, List.append_nil]
        exact ⟨hrows, hne⟩
      · rw [if_pos rfl, hnone]
        exact ⟨rfl, List.cons_ne_nil _ _⟩
    · rintro ⟨hrows, hne⟩
      by_cases hid : input.orderLineId = group.1
      · rw [if_pos hid, ← hid, hnone, List.nil_append] at hrows
        exact .inr (Prod.ext hid.symm hrows)
      · rw [if_neg hid, List.append_nil] at hrows
        exact .inl ((h group).2 ⟨hrows, hne⟩)

theorem mem_groups (inputs : List ConditionInput) (group : String × List ConditionInput) :
    group ∈ inputs.foldl addToGroup [] ↔ group.2 = rowsOf inputs group.1 ∧ group.2 ≠ [] := by
  induction inputs using List.reverseRecOn generalizing group with
  | nil =>
    constructor
    · exact fun h => nomatch h
    · rintro ⟨hrows, hne⟩
      exact absurd hrows hne
  | append_singleton inputs input ih =>
    rw [List.foldl_append]
    exact mem_addToGroup ih group

theorem groupInputs_eq_ok {order : EcommerceOrder} {inputs : List ConditionInput}
    {groups : List (String × List ConditionInput)} :
    groupInputs order inputs = .ok groups ↔
      (∀ input ∈ inputs, input.orderLineId ∈ order.lines.map OrderLine.id) ∧
        groups = inputs.foldl addToGroup [] := by
  have hfold : ∀ start : List (String × List ConditionInput),
      inputs.foldlM (fun groups input =>
        if input.orderLineId ∈ order.lines.map OrderLine.id then
          Except.ok (addToGroup groups input)
        else .error (ServiceError.badRequest "Order line does not belong to this order")) start =
          .ok groups ↔
      (∀ input ∈ inputs, input.orderLineId ∈ order.lines.map OrderLine.id) ∧
        groups = inputs.foldl addToGroup start := by
    induction inputs with
    | nil =>
      intro start
      constructor
      · intro h
        exact ⟨fun _ hinput => (nomatch hinput), (Except.ok.inj h).symm⟩
      · rintro ⟨-, rfl⟩
        rfl
    | cons input inputs ih =>
      intro start
      rw [List.foldlM_cons, List.forall_mem_cons, List.foldl_cons]
      by_cases hline : input.orderLineId ∈ order.lines.map OrderLine.id
      · rw [if_pos hline]
        refine (ih (addToGroup start input)).trans ?_
        rw [and_iff_right hline]
      · rw [if_neg hline]
        constructor
        · exact fun h => nomatch h
        · exact fun h => absurd h.1.1 hline
  exact hfold []

/-! ### What is prepared -/

def prepareGroup (locale : Locale) (costRate : Decimal) (storeId : String) (order : EcommerceOrder)
    (group : String × List ConditionInput) : Except ServiceError PreparedLine :=
  match order.lines.find? fun line => line.id = group.1 with
  | none => .error (.badRequest "Order line does not belong to this order")
  | some line => prepareLine locale costRate storeId line group.2

section Prepared

variable {locale : Locale} {costRate : Decimal} {storeId : String} {order : EcommerceOrder}
  {inputs : List ConditionInput}

variable {preparedLines : List PreparedLine}

theorem prepareRecord_eq_ok :
    prepareRecord locale costRate storeId order inputs = .ok preparedLines ↔
      (∀ input ∈ inputs, input.orderLineId ∈ order.lines.map OrderLine.id) ∧
        List.Forall₂ (fun group prepared =>
          prepareGroup locale costRate storeId order group = .ok prepared)
          (inputs.foldl addToGroup []) preparedLines := by
  constructor
  · intro h
    obtain ⟨groups, hgroups, hprepared⟩ := Except.bind_eq_ok h
    obtain ⟨hlines, rfl⟩ := groupInputs_eq_ok.1 hgroups
    exact ⟨hlines, Except.mapM_eq_ok hprepared⟩
  · rintro ⟨hlines, hprepared⟩
    rw [prepareRecord, groupInputs_eq_ok.2 ⟨hlines, rfl⟩]
    exact Except.mapM_of_forall₂ hprepared

theorem prepareGroup_ok {group : String × List ConditionInput} {prepared : PreparedLine}
    (h : prepareGroup locale costRate storeId order group = .ok prepared) :
    ∃ line, order.lines.find? (fun line => line.id = group.1) = some line ∧ line.id = group.1 ∧
      prepared.line = line ∧
      prepareLine locale costRate storeId line group.2 = .ok prepared := by
  rw [prepareGroup] at h
  cases hline : order.lines.find? fun line => line.id = group.1 with
  | none =>
    rw [hline] at h
    cases h
  | some line =>
    rw [hline] at h
    exact ⟨line, rfl, by simpa using List.find?_some hline, (prepareLine_cases h).1, h⟩

/-- **What is prepared for a line with rows.** -/
theorem prepareRecord_spec
    (h : prepareRecord locale costRate storeId order inputs = .ok preparedLines)
    {prepared : PreparedLine} (hprepared : prepared ∈ preparedLines) :
    prepared.line ∈ order.lines ∧ rowsOf inputs prepared.line.id ≠ [] ∧
      prepareLine locale costRate storeId prepared.line (rowsOf inputs prepared.line.id) =
        .ok prepared := by
  obtain ⟨-, hall⟩ := prepareRecord_eq_ok.1 h
  obtain ⟨group, hgroup, hprepare⟩ := Except.exists_of_mapM (Except.mapM_of_forall₂ hall) hprepared
  obtain ⟨hrows, hne⟩ := (mem_groups inputs group).1 hgroup
  obtain ⟨line, hfind, hid, rfl, hline⟩ := prepareGroup_ok hprepare
  rw [hrows, ← hid] at hline
  rw [hrows, ← hid] at hne
  exact ⟨List.mem_of_find?_eq_some hfind, hne, hline⟩

theorem prepareRecord_mem
    (h : prepareRecord locale costRate storeId order inputs = .ok preparedLines)
    (hnodup : (order.lines.map OrderLine.id).Nodup) {line : OrderLine} (hline : line ∈ order.lines)
    (hrows : rowsOf inputs line.id ≠ []) : ∃ prepared ∈ preparedLines, prepared.line = line := by
  obtain ⟨-, hall⟩ := prepareRecord_eq_ok.1 h
  have hgroup : (line.id, rowsOf inputs line.id) ∈ inputs.foldl addToGroup [] :=
    (mem_groups inputs _).2 ⟨rfl, hrows⟩
  obtain ⟨prepared, hprepared, hprepare⟩ := Except.exists_of_forall₂ hall hgroup
  obtain ⟨other, hfind, hid, hsame, -⟩ := prepareGroup_ok hprepare
  exact ⟨prepared, hprepared, hsame.trans
    (List.inj_on_of_nodup_map hnodup (List.mem_of_find?_eq_some hfind) hline hid)⟩

end Prepared

/-! ### What is saved -/

def OrderLine.apartFromStock (line : OrderLine) : OrderLine := { line with stockStatus := none }

def Store.rowOf (s : Store) (orderId lineId : String) : Option OrderLine :=
  (s.lineOf orderId lineId).map OrderLine.apartFromStock

def Store.saved (s : Store) (orderId lineId : String) : Option (Option ConditionSnapshot) :=
  (s.rowOf orderId lineId).map OrderLine.conditionAllocations

def RowsAre (orderId : String) (rows : String → Option OrderLine) (s : Store) : Prop :=
  ∀ lineId, s.rowOf orderId lineId = rows lineId

section Saved

variable {orderId : String} {rows : String → Option OrderLine}

variable {s : Store}

variable {t : Store}

theorem Store.SameBut.rowOf (h : s.SameBut t) (orderId lineId : String) :
    t.rowOf orderId lineId = s.rowOf orderId lineId := by
  rw [Store.rowOf, h.lineOf, Store.rowOf]

theorem Store.rowOf_updateLine (s : Store) (orderId : String) {lineId other : String}
    {change : OrderLine → OrderLine} (hid : ∀ line, (change line).id = line.id)
    {write : OrderLine → OrderLine}
    (hwrite : ∀ line, (change line).apartFromStock = write line.apartFromStock) :
    (s.updateLine other change).rowOf orderId lineId =
      (s.rowOf orderId lineId).map fun row => if lineId = other then write row else row := by
  rw [rowOf, s.lineOf_updateLine orderId hid, rowOf, Option.map_map, Option.map_map]
  cases hline : s.lineOf orderId lineId with
  | none => rfl
  | some line =>
    rw [Option.map_some, Option.map_some, Function.comp_apply, Function.comp_apply,
      Store.lineOf_id hline]
    by_cases hother : lineId = other
    · rw [if_pos hother, if_pos hother, hwrite]
    · rw [if_neg hother, if_neg hother]

theorem rowsAre_stable : StockStable (fun _ => True) (RowsAre orderId rows) where
  quiet hq h lineId := (hq.sameBut.rowOf orderId lineId).trans (h lineId)
  moved _ _ hm h lineId := (hm.sameBut.rowOf orderId lineId).trans (h lineId)
  status {s other} status _ h lineId := by
    have hsame := @Store.rowOf_updateLine s orderId lineId other
      (fun line => { line with stockStatus := some status }) (fun _ => rfl) id fun _ => rfl
    simp only [id_eq, ite_self, Option.map_id'] at hsame
    exact hsame.trans (h lineId)

theorem rowsAre_ledger : LedgerStable (RowsAre orderId rows) where
  drawn _ h := h
  appended _ h := h

def PreparedLine.write (now : ℤ) (prepared : PreparedLine) (row : OrderLine) : OrderLine :=
  if prepared.unchanged then withNotes prepared.notes row else recordedLine now prepared row

theorem withNotes_apartFromStock (notes : Option String) (line : OrderLine) :
    (withNotes notes line).apartFromStock = withNotes notes line.apartFromStock := by
  unfold withNotes
  split <;> rfl

theorem recordedLine_apartFromStock (now : ℤ) (prepared : PreparedLine) (line : OrderLine) :
    (recordedLine now prepared line).apartFromStock =
      recordedLine now prepared line.apartFromStock :=
  withNotes_apartFromStock _ _

variable {now : ℤ}

variable {order : EcommerceOrder}

variable (orderId) in
theorem recordLine_row {prepared : PreparedLine} {updated : String × Bool}
    (h : recordLine now order prepared s = (.ok updated, t)) (lineId : String) :
    t.rowOf orderId lineId = (s.rowOf orderId lineId).map fun row =>
      if lineId = prepared.line.id then prepared.write now row else row := by
  rw [recordLine] at h
  cases hunchanged : prepared.unchanged with
  | true =>
    rw [hunchanged, if_pos rfl, modify_bind_apply] at h
    obtain rfl : _ = t := congrArg Prod.snd h
    have hwrite : prepared.write now = withNotes prepared.notes := by
      funext row
      rw [PreparedLine.write, hunchanged, if_pos rfl]
    rw [hwrite]
    exact Store.rowOf_updateLine s orderId (withNotes_id _) (withNotes_apartFromStock _)
  | false =>
    rw [hunchanged, if_neg Bool.false_ne_true] at h
    obtain ⟨moved, u, hreconcile, h⟩ := bind_eq_ok h
    rw [modify_bind_apply] at h
    obtain ⟨event, w, hloss, hpure⟩ := bind_eq_ok h
    obtain rfl : w = t := congrArg Prod.snd hpure
    have hwrite : prepared.write now = recordedLine now prepared := by
      funext row
      rw [PreparedLine.write, hunchanged, if_neg Bool.false_ne_true]
    -- the movements keep the rows, and so do the bookings
    have hkept : Keeps (RowsAre orderId (s.rowOf orderId))
        (reconcileReturnTargets (prepared.reconcileInput order.id)) :=
      rowsAre_stable.moves.reconcileReturnTargets trivial
    have hu := hkept s fun _ => rfl
    rw [final, hreconcile] at hu
    have hbooked := setLineLoss_keeps (@rowsAre_ledger orderId
      ((u.updateLine prepared.line.id (recordedLine now prepared)).rowOf orderId)) order.id
      prepared.line.id order.currency prepared.snapshot.loss
      "Warehouse quantity/component conditions reconciled"
    have hw := hbooked _ fun _ => rfl
    rw [final, hloss] at hw
    rw [hw lineId, hwrite, ← hu lineId]
    have hid : ∀ line, (recordedLine now prepared line).id = line.id :=
      fun line => withNotes_id _ _
    exact Store.rowOf_updateLine u orderId hid (recordedLine_apartFromStock now prepared)

def writeAll (now : ℤ) (preparedLines : List PreparedLine) (lineId : String) (row : OrderLine) :
    OrderLine :=
  match preparedLines.find? fun prepared => prepared.line.id = lineId with
  | none => row
  | some prepared => prepared.write now row

variable {updates : List (String × Bool)}

variable (orderId) in
theorem mapEach_row {preparedLines : List PreparedLine}
    (hnodup : (preparedLines.map fun prepared => prepared.line.id).Nodup)
    (h : mapEach preparedLines (recordLine now order) s = (.ok updates, t)) (lineId : String) :
    t.rowOf orderId lineId = (s.rowOf orderId lineId).map (writeAll now preparedLines lineId) := by
  induction preparedLines generalizing s updates with
  | nil =>
    obtain rfl : s = t := congrArg Prod.snd h
    exact (Option.map_id').symm
  | cons head preparedLines ih =>
    obtain ⟨hfresh, hnodup⟩ := List.nodup_cons.1 hnodup
    rw [mapEach] at h
    obtain ⟨_, u, hhead, h⟩ := bind_eq_ok h
    obtain ⟨_, v, hrest, hpure⟩ := bind_eq_ok h
    obtain rfl : v = t := congrArg Prod.snd hpure
    rw [ih hnodup hrest, recordLine_row orderId hhead, Option.map_map]
    congr 1
    funext row
    rw [Function.comp_apply, writeAll, writeAll]
    by_cases hid : lineId = head.line.id
    · -- no other prepared line is for this one
      have hnone : (preparedLines.find? fun prepared => prepared.line.id = lineId) = none := by
        refine List.find?_eq_none.2 fun prepared hprepared hsome => hfresh ?_
        have hother : prepared.line.id = head.line.id := (of_decide_eq_true hsome).trans hid
        exact List.mem_map.2 ⟨prepared, hprepared, hother⟩
      rw [if_pos hid, hnone, List.find?_cons_of_pos (by simp [hid])]
    · rw [if_neg hid, List.find?_cons_of_neg (by simp [Ne.symm hid])]

theorem rowOf_eq (horder : s.findOrder orderId = some order)
    (hnodup : (order.lines.map OrderLine.id).Nodup) {line : OrderLine}
    (hline : line ∈ order.lines) : s.rowOf orderId line.id = some line.apartFromStock := by
  have hfind : order.lines.find? (fun other => other.id = line.id) = some line :=
    KeyedRows.lookup_of_mem OrderLine.id hnodup hline
  rw [Store.rowOf, Store.lineOf, horder, Option.bind_some, hfind, Option.map_some]

theorem record_rows {environment : Environment} {storeId : String} {inputs : List ConditionInput}
    {context : Option ReturnContext}
    (h : record environment now storeId orderId inputs context s = (.ok updates, t)) :
    ∃ order costRate preparedLines, s.orderOf storeId orderId = some order ∧
      conditionCostRate environment order = .ok costRate ∧
      prepareRecord environment.locale costRate storeId order inputs = .ok preparedLines ∧
      ∀ lineId, t.rowOf orderId lineId =
        (s.rowOf orderId lineId).map (writeAll now preparedLines lineId) := by
  rw [record, ask_bind_apply] at h
  cases horder : s.orderOf storeId orderId with
  | none =>
    rw [horder] at h
    cases h
  | some order =>
    rw [horder] at h
    obtain ⟨costRate, u, hlift, h⟩ := bind_eq_ok h
    obtain ⟨hrate, rfl⟩ := lift_eq_ok hlift
    have hlocked := transaction_eq_ok h
    rw [recordLocked, ask_bind_apply, horder] at hlocked
    obtain ⟨preparedLines, u, hlift, h⟩ := bind_eq_ok hlocked
    obtain ⟨hprepare, rfl⟩ := lift_eq_ok hlift
    rw [ask_bind_apply] at h
    obtain ⟨request, u, hlift', h⟩ := bind_eq_ok h
    obtain ⟨-, rfl⟩ := lift_eq_ok hlift'
    obtain ⟨written, u, hwrite, h⟩ := bind_eq_ok h
    rw [modify_bind_apply] at h
    obtain rfl := (congrArg Prod.snd h).symm
    refine ⟨order, costRate, preparedLines, rfl, hrate, hprepare, fun lineId => ?_⟩
    rw [← mapEach_row orderId (prepareRecord_ok hprepare).1 hwrite lineId]
    -- the return request is no part of the lines
    split <;> rfl

theorem withNotes_allocations (notes : Option String) (line : OrderLine) :
    (withNotes notes line).conditionAllocations = line.conditionAllocations := by
  unfold withNotes
  split <;> rfl

theorem Store.LinesDistinct.nodup (h : s.LinesDistinct orderId)
    (horder : s.findOrder orderId = some order) : (order.lines.map OrderLine.id).Nodup := by
  have hnodup := h order.completeness (by rw [Store.completeness, horder, Option.map_some]; rfl)
  rwa [EcommerceOrder.completeness, List.map_map] at hnodup

theorem record_saved {environment : Environment} {storeId : String} {inputs : List ConditionInput}
    {context : Option ReturnContext} (hdistinct : s.LinesDistinct orderId)
    (h : record environment now storeId orderId inputs context s = (.ok updates, t))
    (horder : s.orderOf storeId orderId = some order) {line : OrderLine}
    (hline : line ∈ order.lines) (hrows : rowsOf inputs line.id ≠ []) :
    ∃ costRate prepared, conditionCostRate environment order = .ok costRate ∧
      prepareLine environment.locale costRate storeId line (rowsOf inputs line.id) =
        .ok prepared ∧
      t.saved orderId line.id = some (some prepared.snapshot) := by
  obtain ⟨order', costRate, preparedLines, horder', hrate, hprepare, hwritten⟩ := record_rows h
  obtain rfl := Option.some.inj (horder.symm.trans horder')
  have hfind : s.findOrder orderId = some order := (Option.filter_eq_some_iff.1 horder).1
  have hnodup := hdistinct.nodup hfind
  obtain ⟨prepared, hmem, rfl⟩ := prepareRecord_mem hprepare hnodup hline hrows
  obtain ⟨-, -, hprepared⟩ := prepareRecord_spec hprepare hmem
  obtain ⟨hdistinct, hrepeated⟩ := prepareRecord_ok hprepare
  refine ⟨costRate, prepared, hrate, hprepared, ?_⟩
  have hown : preparedLines.find? (fun other => other.line.id = prepared.line.id) = some prepared :=
    KeyedRows.lookup_of_mem (fun other : PreparedLine => other.line.id) hdistinct hmem
  rw [Store.saved, hwritten, rowOf_eq hfind hnodup hline, Option.map_some, Option.map_some,
    writeAll, hown]
  dsimp only
  rw [PreparedLine.write]
  cases hunchanged : prepared.unchanged with
  | true =>
    rw [if_pos rfl, withNotes_allocations]
    exact congrArg some ((hrepeated prepared hmem).2 hunchanged)
  | false =>
    rw [if_neg Bool.false_ne_true, recordedLine, withNotes_allocations]

end Saved

end Zomaal
