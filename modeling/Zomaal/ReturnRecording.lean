/-
**What a recorded request says about the lines of an order.**

Whether a returned line is completely recorded is read off the line: the stock movements and the
bookings of a request do not touch it, and of two requests for a line the later one counts.

Main results:

* `record_ok` — **a request that was recorded**.
-/

import Zomaal.KeyedRows
import Zomaal.OrderLedgerRules
import Zomaal.ReturnReconciliation

set_option autoImplicit false

namespace Zomaal

open Command

/-! ### Complete lines -/

def EcommerceOrder.completeness (order : EcommerceOrder) : List (String × Bool) :=
  order.lines.map fun line => (line.id, line.returnComplete)

variable (s : Store)

def Store.completeness (orderId : String) : Option (List (String × Bool)) :=
  (s.findOrder orderId).map EcommerceOrder.completeness

def allComplete (lineIds : List String) (lines : List (String × Bool)) : Bool :=
  lines.all fun line => decide (line.1 ∉ lineIds) || line.2

def EcommerceOrder.returnedInFull (order : EcommerceOrder) (lineIds : List String) : Bool :=
  (order.lines.filter fun line => line.id ∈ lineIds).all OrderLine.returnComplete

theorem all_filter_eq (lines : List OrderLine) (lineIds : List String) (p : OrderLine → Bool) :
    (lines.filter fun line => line.id ∈ lineIds).all p =
      allComplete lineIds (lines.map fun line => (line.id, p line)) := by
  rw [allComplete, List.all_map, List.all_filter]
  congr 1
  funext line
  simp

theorem EcommerceOrder.returnedInFull_eq (order : EcommerceOrder) (lineIds : List String) :
    order.returnedInFull lineIds = allComplete lineIds order.completeness :=
  all_filter_eq order.lines lineIds OrderLine.returnComplete

def setComplete (lineId : String) (complete : Bool) (line : String × Bool) : String × Bool :=
  if line.1 = lineId then (line.1, complete) else line

theorem Store.completeness_updateLine (orderId lineId : String) {change : OrderLine → OrderLine}
    {complete : Bool} (hid : ∀ line, (change line).id = line.id)
    (hcomplete : ∀ line, (change line).returnComplete = complete) :
    (s.updateLine lineId change).completeness orderId =
      (s.completeness orderId).map (List.map (setComplete lineId complete)) := by
  rw [completeness, findOrder_updateLine, completeness, Option.map_map, Option.map_map]
  congr 1
  funext order
  simp only [Function.comp_apply, EcommerceOrder.completeness, List.map_map]
  refine List.map_congr_left fun line _ => ?_
  simp only [Function.comp_apply, setComplete]
  split
  · rw [hid, hcomplete]
  · rfl

theorem Store.completeness_updateLine_same (orderId lineId : String)
    {change : OrderLine → OrderLine} (hid : ∀ line, (change line).id = line.id)
    (hsame : ∀ line, (change line).returnComplete = line.returnComplete) :
    (s.updateLine lineId change).completeness orderId = s.completeness orderId := by
  rw [completeness, findOrder_updateLine, completeness, Option.map_map]
  congr 1
  funext order
  simp only [Function.comp_apply, EcommerceOrder.completeness, List.map_map]
  refine List.map_congr_left fun line _ => ?_
  simp only [Function.comp_apply]
  split
  · rw [hid, hsame]
  · rfl

/-! ### What does not touch it -/

def ReturnsAre (orderId : String) (lines : Option (List (String × Bool)))
    (requests : List ReturnRequest) (s : Store) : Prop :=
  s.completeness orderId = lines ∧ s.returnRequests = requests

variable {orderId : String} {lines : Option (List (String × Bool))} {requests : List ReturnRequest}

theorem Store.SameBut.completeness {s t : Store} (h : s.SameBut t) (orderId : String) :
    t.completeness orderId = s.completeness orderId := by
  rw [Store.completeness, Store.findOrder, h.orders]
  rfl

theorem Store.SameBut.returnRequests {s t : Store} (h : s.SameBut t) :
    t.returnRequests = s.returnRequests := by
  rw [h]

theorem returnsAre_stable : StockStable (fun _ => True) (ReturnsAre orderId lines requests) where
  quiet hq h := ⟨(hq.sameBut.completeness orderId).trans h.1, hq.sameBut.returnRequests.trans h.2⟩
  moved _ _ hm h :=
    ⟨(hm.sameBut.completeness orderId).trans h.1, hm.sameBut.returnRequests.trans h.2⟩
  status status _ h := by
    refine ⟨?_, h.2⟩
    rw [Store.completeness_updateLine_same]
    · exact h.1
    · exact fun _ => rfl
    · exact fun _ => rfl

theorem returnsAre_ledger : LedgerStable (ReturnsAre orderId lines requests) where
  drawn _ h := h
  appended _ h := h

theorem setLineLoss_keeps {I : Store → Prop} (hI : LedgerStable I)
    (orderId lineId currency : String) (targetLoss : Decimal) (reason : String) :
    Keeps I (setLineLoss orderId lineId currency targetLoss reason) := by
  refine (Keeps.ask _).bind fun booked => Keeps.ite (Keeps.pure none) ?_
  refine Keeps.ite ((Keeps.pure _).bind fun key => ?_)
    (Keeps.bind (fun s hs => hI.drawn (s.uuids + 1) hs) fun id => (Keeps.pure _).bind fun key => ?_)
  · exact (hI.upsertEvent _).bind fun event => Keeps.pure _
  · exact (hI.upsertEvent _).bind fun event => Keeps.pure _

/-! ### One prepared line -/

theorem withNotes_id (notes : Option String) (line : OrderLine) :
    (withNotes notes line).id = line.id := by
  unfold withNotes
  split <;> rfl

theorem withNotes_returnComplete (notes : Option String) (line : OrderLine) :
    (withNotes notes line).returnComplete = line.returnComplete := by
  unfold withNotes
  split <;> rfl

def PreparedLine.complete (prepared : PreparedLine) (lines : List (String × Bool)) :
    List (String × Bool) :=
  if prepared.unchanged then lines
  else lines.map (setComplete prepared.line.id prepared.snapshot.completed)

variable {order : EcommerceOrder} {now : ℤ}

variable (orderId) in
theorem recordLine_completeness {prepared : PreparedLine} {s t : Store} {updated : String × Bool}
    (h : recordLine now order prepared s = (.ok updated, t)) :
    t.completeness orderId = (s.completeness orderId).map prepared.complete ∧
      t.returnRequests = s.returnRequests := by
  rw [recordLine] at h
  cases hunchanged : prepared.unchanged with
  | true =>
    rw [hunchanged, if_pos rfl] at h
    rw [modify_bind_apply] at h
    obtain rfl : _ = t := congrArg Prod.snd h
    have hcomplete : prepared.complete = id := by
      funext lines
      rw [PreparedLine.complete, hunchanged, if_pos rfl]
      rfl
    rw [hcomplete, Option.map_id]
    exact ⟨Store.completeness_updateLine_same s orderId _ (withNotes_id _)
      (withNotes_returnComplete _), rfl⟩
  | false =>
    rw [hunchanged, if_neg Bool.false_ne_true] at h
    obtain ⟨moved, u, hreconcile, h⟩ := bind_eq_ok h
    rw [modify_bind_apply] at h
    obtain ⟨event, w, hloss, hpure⟩ := bind_eq_ok h
    obtain rfl : w = t := congrArg Prod.snd hpure
    have hkept : Keeps (ReturnsAre orderId (s.completeness orderId) s.returnRequests)
        (reconcileReturnTargets (prepared.reconcileInput order.id)) :=
      returnsAre_stable.moves.reconcileReturnTargets trivial
    have hu := hkept s ⟨rfl, rfl⟩
    rw [final, hreconcile] at hu
    have hbooked (lines : Option (List (String × Bool))) (requests : List ReturnRequest) :
        Keeps (ReturnsAre orderId lines requests) (setLineLoss order.id prepared.line.id
          order.currency prepared.snapshot.loss
          "Warehouse quantity/component conditions reconciled") :=
      setLineLoss_keeps returnsAre_ledger _ _ _ _ _
    have hw := hbooked _ _ (u.updateLine prepared.line.id (recordedLine now prepared)) ⟨rfl, rfl⟩
    rw [final, hloss] at hw
    refine ⟨hw.1.trans ?_, hw.2.trans hu.2⟩
    rw [Store.completeness_updateLine u orderId prepared.line.id, hu.1]
    · congr 1
      funext lines
      rw [PreparedLine.complete, hunchanged, if_neg Bool.false_ne_true]
    · exact fun line => withNotes_id _ _
    · exact fun line => withNotes_returnComplete _ _

/-! ### A request -/

theorem foldl_complete {preparedLines : List PreparedLine}
    (hnodup : (preparedLines.map fun prepared => prepared.line.id).Nodup)
    {lines : List (String × Bool)}
    (hsame : ∀ prepared ∈ preparedLines, prepared.unchanged = true → ∀ line ∈ lines,
      line.1 = prepared.line.id → line.2 = prepared.snapshot.completed) :
    preparedLines.foldl (fun lines prepared => prepared.complete lines) lines =
      lines.map fun line => (line.1,
        ((preparedLines.find? fun prepared => prepared.line.id = line.1).map fun prepared =>
          prepared.snapshot.completed).getD line.2) := by
  induction preparedLines generalizing lines with
  | nil =>
    refine (List.map_id'' (fun line => ?_) lines).symm
    rfl
  | cons prepared preparedLines ih =>
    obtain ⟨hfresh, hnodup⟩ := List.nodup_cons.1 hnodup
    have hhead : prepared.complete lines =
        lines.map (setComplete prepared.line.id prepared.snapshot.completed) := by
      rw [PreparedLine.complete]
      split
      · rename_i hunchanged
        refine (List.map_id lines).symm.trans (List.map_congr_left fun line hline => ?_)
        rw [setComplete]
        split
        · rename_i hid
          rw [← hsame prepared (List.mem_cons_self ..) hunchanged line hline hid]
          rfl
        · rfl
      · rfl
    have hmem : ∀ other ∈ preparedLines,
        other.line.id ∈ preparedLines.map fun prepared => prepared.line.id :=
      fun other hother => List.mem_map_of_mem hother
    rw [List.foldl_cons, hhead, ih hnodup, List.map_map]
    · refine List.map_congr_left fun line _ => ?_
      by_cases hid : line.1 = prepared.line.id
      · -- no other prepared line is for this one
        have hset : setComplete prepared.line.id prepared.snapshot.completed line =
            (line.1, prepared.snapshot.completed) := if_pos hid
        have hnone : (preparedLines.find? fun other => other.line.id = line.1) = none := by
          refine List.find?_eq_none.2 fun other hother hsome => hfresh ?_
          have hother := hmem other hother
          rwa [of_decide_eq_true hsome, hid] at hother
        rw [Function.comp_apply, hset, List.find?_cons_of_pos (by simp [hid]), hnone]
        rfl
      · have hset : setComplete prepared.line.id prepared.snapshot.completed line = line :=
          if_neg hid
        rw [Function.comp_apply, hset, List.find?_cons_of_neg (by simp [Ne.symm hid])]
    · intro other hother hunchanged line hline hid
      obtain ⟨old, hold, rfl⟩ := List.mem_map.1 hline
      rw [setComplete] at hid ⊢
      by_cases hprepared : old.1 = prepared.line.id
      · rw [if_pos hprepared] at hid
        have hother := hmem other hother
        rw [← hid, hprepared] at hother
        exact absurd hother hfresh
      · rw [if_neg hprepared] at hid ⊢
        exact hsame other (List.mem_cons_of_mem _ hother) hunchanged old hold hid

variable {inputs : List ConditionInput}

theorem groupInputs_nodup {groups : List (String × List ConditionInput)}
    (h : groupInputs order inputs = .ok groups) : (groups.map Prod.fst).Nodup := by
  refine Except.foldlM_keeps (I := fun groups => (groups.map Prod.fst).Nodup)
    (fun groups input groups' hnodup hinput => ?_) List.nodup_nil h
  split at hinput
  · obtain rfl := Except.ok.inj hinput
    rw [addToGroup]
    split
    · have hkeys : (groups.map fun group => if group.1 = input.orderLineId then
          (group.1, group.2 ++ [input]) else group).map Prod.fst = groups.map Prod.fst := by
        rw [List.map_map]
        refine List.map_congr_left fun group _ => ?_
        simp only [Function.comp_apply]
        split <;> rfl
      rwa [hkeys]
    · rename_i hfresh
      exact KeyedRows.nodup_append Prod.fst hnodup hfresh
  · cases hinput

variable {storeId : String}

theorem prepareRecord_ok {locale : Locale} {costRate : Decimal} {preparedLines : List PreparedLine}
    (h : prepareRecord locale costRate storeId order inputs = .ok preparedLines) :
    (preparedLines.map fun prepared => prepared.line.id).Nodup ∧
      ∀ prepared ∈ preparedLines, prepared.line ∈ order.lines ∧
        (prepared.unchanged = true →
          prepared.line.conditionAllocations = some prepared.snapshot) := by
  obtain ⟨groups, hgroups, hprepared⟩ := Except.bind_eq_ok h
  have hall := Except.mapM_eq_ok hprepared
  have hids : preparedLines.map (fun prepared => prepared.line.id) = groups.map Prod.fst ∧
      ∀ prepared ∈ preparedLines, prepared.line ∈ order.lines ∧
        (prepared.unchanged = true →
          prepared.line.conditionAllocations = some prepared.snapshot) := by
    clear h hgroups hprepared
    induction hall with
    | nil => exact ⟨rfl, fun _ hmem => by cases hmem⟩
    | @cons group _ _ _ hhead _ ih =>
      split at hhead
      · cases hhead
      · rename_i line hline
        obtain ⟨hsame, hcases⟩ := prepareLine_cases hhead
        have hid : line.id = group.1 := by simpa using List.find?_some hline
        refine ⟨by rw [List.map_cons, List.map_cons, hsame, hid, ih.1], fun other hother => ?_⟩
        rcases List.mem_cons.1 hother with rfl | hrest
        · rw [hsame]
          refine ⟨List.mem_of_find?_eq_some hline, fun hunchanged => ?_⟩
          rcases hcases with ⟨-, hsaved⟩ | ⟨hnew, -⟩
          · exact hsaved
          · rw [hunchanged] at hnew
            cases hnew
        · exact ih.2 other hrest
  exact ⟨hids.1 ▸ groupInputs_nodup hgroups, hids.2⟩

def preparedLines (prepared : List PreparedLine) (order : EcommerceOrder) : List (String × Bool) :=
  order.lines.map fun line => (line.id, willBeComplete prepared line)

variable {updates : List (String × Bool)}

variable (orderId) in
theorem mapEach_completeness {prepared : List PreparedLine} {s t : Store}
    (h : mapEach prepared (recordLine now order) s = (.ok updates, t)) :
    t.completeness orderId = (s.completeness orderId).map
        (fun lines => prepared.foldl (fun lines prepared => prepared.complete lines) lines) ∧
      t.returnRequests = s.returnRequests := by
  induction prepared generalizing s updates with
  | nil =>
    obtain rfl : s = t := congrArg Prod.snd h
    refine ⟨?_, rfl⟩
    simp
  | cons head prepared ih =>
    rw [mapEach] at h
    obtain ⟨_, u, hhead, h⟩ := bind_eq_ok h
    obtain ⟨_, v, hrest, hpure⟩ := bind_eq_ok h
    obtain rfl : v = t := congrArg Prod.snd hpure
    obtain ⟨hlines, hrequests⟩ := recordLine_completeness orderId hhead
    obtain ⟨hlines', hrequests'⟩ := ih hrest
    refine ⟨?_, hrequests'.trans hrequests⟩
    rw [hlines', hlines, Option.map_map]
    rfl

def Store.LinesDistinct (orderId : String) : Prop :=
  ∀ lines ∈ s.completeness orderId, (lines.map Prod.fst).Nodup

/-- What a recorded request leaves of the return requests: the one that it names says whether all of
its lines are completely recorded. -/
def RequestSettled (now : ℤ) (orderId : String) (order : EcommerceOrder)
    (inputs : List ConditionInput) (prepared : List PreparedLine)
    (context : Option ReturnContext) (s t : Store) : Prop :=
  match context with
  | none => t.returnRequests = s.returnRequests
  | some context => ∃ request updated,
      checkReturnRequest s order inputs prepared context = .ok request ∧
      t.findOrder orderId = some updated ∧
      t.returnRequests = s.returnRequests.map fun other =>
        if other.id = request.id then settleReturnRequest now updated context other else other

def preparedFor (environment : Environment) (storeId orderId : String)
    (inputs : List ConditionInput) (s : Store) :
    Except ServiceError (EcommerceOrder × List PreparedLine) :=
  match s.orderOf storeId orderId with
  | none => .error (.notFound "Order not found")
  | some order => do
      let costRate ← conditionCostRate environment order
      let prepared ← prepareRecord environment.locale costRate storeId order inputs
      .ok (order, prepared)

variable {context : Option ReturnContext} {environment : Environment}

theorem recordLocked_ok {costRate : Decimal} {s t : Store} (hdistinct : s.LinesDistinct orderId)
    (h : recordLocked environment now costRate storeId orderId inputs context s =
      (.ok updates, t)) :
    ∃ order prepared, s.orderOf storeId orderId = some order ∧
      prepareRecord environment.locale costRate storeId order inputs = .ok prepared ∧
      t.completeness orderId = some (preparedLines prepared order) ∧
      RequestSettled now orderId order inputs prepared context s t := by
  rw [recordLocked, ask_bind_apply] at h
  cases horder : s.orderOf storeId orderId with
  | none =>
    rw [horder] at h
    cases h
  | some order =>
    rw [horder] at h
    obtain ⟨prepared, u, hlift, h⟩ := bind_eq_ok h
    obtain ⟨hprepare, rfl⟩ := lift_eq_ok hlift
    rw [ask_bind_apply] at h
    obtain ⟨request, u, hlift', h⟩ := bind_eq_ok h
    obtain ⟨hcheck, rfl⟩ := lift_eq_ok hlift'
    obtain ⟨written, u, hwrite, h⟩ := bind_eq_ok h
    rw [modify_bind_apply] at h
    obtain rfl := (congrArg Prod.snd h).symm
    obtain ⟨hlines, hrequests⟩ := mapEach_completeness orderId hwrite
    have hfind : s.findOrder orderId = some order := (Option.filter_eq_some_iff.1 horder).1
    have hstart : s.completeness orderId = some order.completeness := by
      rw [Store.completeness, hfind, Option.map_some]
    have hnodup := hdistinct _ hstart
    obtain ⟨hprepared, hsaved⟩ := prepareRecord_ok hprepare
    have hcomplete : u.completeness orderId = some (preparedLines prepared order) := by
      rw [hlines, hstart, Option.map_some, foldl_complete hprepared]
      · rw [EcommerceOrder.completeness, List.map_map]
        rfl
      · intro row hrow hunchanged line hline hid
        obtain ⟨old, hold, rfl⟩ := List.mem_map.1 hline
        obtain ⟨hmem, hallocations⟩ := hsaved row hrow
        rw [EcommerceOrder.completeness, List.map_map] at hnodup
        obtain rfl := List.inj_on_of_nodup_map hnodup hold hmem hid
        simp only [OrderLine.returnComplete, hallocations hunchanged, Option.map_some,
          Option.getD_some]
    obtain ⟨updated, hupdated, -⟩ := Option.map_eq_some_iff.1 hcomplete
    refine ⟨order, prepared, rfl, hprepare, ?_, ?_⟩
    · cases context with
      | none => exact hcomplete
      | some context =>
        obtain ⟨named, hnamed, hrequest⟩ := Except.bind_eq_ok hcheck
        obtain rfl := Except.ok.inj hrequest
        simp only [hupdated]
        exact hcomplete
    · cases context with
      | none => exact hrequests
      | some context =>
        obtain ⟨named, hnamed, hrequest⟩ := Except.bind_eq_ok hcheck
        obtain rfl := Except.ok.inj hrequest
        simp only [hupdated]
        exact ⟨named, updated, hnamed, hupdated, congrArg (List.map _) hrequests⟩

/-- **A request that was recorded.** -/
theorem record_ok {s t : Store} (hdistinct : s.LinesDistinct orderId)
    (h : record environment now storeId orderId inputs context s = (.ok updates, t)) :
    ∃ order prepared,
      preparedFor environment storeId orderId inputs s = .ok (order, prepared) ∧
      t.completeness orderId = some (preparedLines prepared order) ∧
      RequestSettled now orderId order inputs prepared context s t := by
  rw [record, ask_bind_apply] at h
  cases horder : s.orderOf storeId orderId with
  | none =>
    rw [horder] at h
    cases h
  | some pricing =>
    rw [horder] at h
    obtain ⟨costRate, u, hlift, h⟩ := bind_eq_ok h
    obtain ⟨hrate, rfl⟩ := lift_eq_ok hlift
    obtain ⟨order, prepared, horder', hprepare, hcomplete, hsettled⟩ :=
      recordLocked_ok hdistinct (transaction_eq_ok h)
    obtain rfl := Option.some.inj (horder.symm.trans horder')
    refine ⟨pricing, prepared, ?_, hcomplete, hsettled⟩
    simp only [preparedFor, horder, hrate]
    change (prepareRecord environment.locale costRate storeId pricing inputs >>= fun prepared =>
      Except.ok (pricing, prepared)) = _
    rw [hprepare]
    rfl

theorem record_error {s t : Store} {error : ServiceError}
    (h : record environment now storeId orderId inputs context s = (.error error, t)) :
    t.orders = s.orders ∧ t.returnRequests = s.returnRequests := by
  rw [record, ask_bind_apply] at h
  cases horder : s.orderOf storeId orderId with
  | none =>
    rw [horder] at h
    obtain rfl : s = t := congrArg Prod.snd h
    exact ⟨rfl, rfl⟩
  | some pricing =>
    rw [horder] at h
    dsimp only at h
    cases hrate : conditionCostRate environment pricing with
    | error rateError =>
      have hlift : lift (conditionCostRate environment pricing) s = (.error rateError, s) := by
        rw [hrate]
        rfl
      rw [bind_of_error hlift] at h
      obtain rfl : s = t := congrArg Prod.snd h
      exact ⟨rfl, rfl⟩
    | ok costRate =>
      have hlift : lift (conditionCostRate environment pricing) s = (.ok costRate, s) := by
        rw [hrate]
        rfl
      rw [bind_of_ok hlift, withOrderTransaction] at h
      rcases hwork : recordLocked environment now costRate storeId orderId inputs context s with
        ⟨workError | updates, u⟩
      · rw [transaction_of_error hwork] at h
        obtain rfl : s.rollback u = t := congrArg Prod.snd h
        exact ⟨rfl, rfl⟩
      · rw [transaction_of_ok hwork] at h
        cases h

end Zomaal
