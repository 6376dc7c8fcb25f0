/-
**Return requests.**

A scan of a returned parcel finds the open return request of its order, or creates one with all
lines of the order and counts a return of the customer; two scans at once are told apart by a unique
index.  This module runs `detect` of `return-request.service.ts`, statement by statement, with the
transactions of `record`, in any order.

Main results:

* `returnRequests_follow` — **the returns follow the recorded conditions exactly as long as every
  request is brought up to date that a recording completes or reopens, and no return is created for
  lines that are all recorded**.
-/

import Zomaal.ReturnRecording
import Zomaal.ThreadPool

set_option autoImplicit false

namespace Zomaal

/-! ### The statements -/

/-- The database, and the customers whose `RETURNS` counter was raised. -/
structure ReturnBooks where
  store : Store
  raised : List String := []

/-- A scan, and how far `detect` has come. -/
inductive Detection
  | searching
  | creating
  | raising
  | finished
  deriving DecidableEq

def ReturnBooks.add (books : ReturnBooks) (request : ReturnRequest) : ReturnBooks :=
  { books with
    store := { books.store with returnRequests := books.store.returnRequests ++ [request] } }

def ReturnRequest.isOpen (orderId : String) (request : ReturnRequest) : Bool :=
  request.orderId = orderId ∧ request.status = .needVerification

def Store.hasOpenReturn (s : Store) (orderId : String) : Bool :=
  s.returnRequests.any (ReturnRequest.isOpen orderId)

def newReturn (id orderId : String) (lines : List (String × Bool)) : ReturnRequest :=
  { id, orderId, status := .needVerification, lineIds := lines.map Prod.fst }

def Store.created (s : Store) (orderId id : String) : Option ReturnRequest :=
  if s.hasOpenReturn orderId || id ∈ s.returnRequests.map ReturnRequest.id then none
  else (s.completeness orderId).map (newReturn id orderId)

/-- The next statement of `detect`: the identifier of a new request, and the customer of the order
if there is one, are given. -/
def Detection.turn (orderId id : String) (customerId : Option String) (books : ReturnBooks) :
    Detection → ReturnBooks × Detection
  | .searching => (books, if books.store.hasOpenReturn orderId then .finished else .creating)
  | .creating =>
    match books.store.created orderId id with
    | some request => (books.add request, .raising)
    | none => (books, .finished)
  | .raising => ({ books with raised := books.raised ++ customerId.toList }, .finished)
  | .finished => (books, .finished)

/-- What happens to an order: its parcel is scanned, a scan has its turn, or conditions are
recorded, for a return request or for none. -/
inductive ReturnAction
  | detect
  | turn (i : ℕ) (id : String) (customerId : Option String)
  | record (now : ℤ) (storeId : String) (inputs : List ConditionInput)
      (context : Option ReturnContext)

abbrev ReturnPool := ThreadPool ReturnBooks Detection

namespace ReturnPool

variable (environment : Environment) (orderId : String)

def step (w : ReturnPool) : ReturnAction → ReturnPool
  | .detect => w.spawn .searching
  | .turn i id customerId =>
    match w.threads[i]? with
    | some detection =>
      let turn := detection.turn orderId id customerId w.shared
      w.move i turn.1 turn.2
    | none => w
  | .record now storeId inputs context =>
    w.write { w.shared with
      store := (record environment now storeId orderId inputs context).final w.shared.store }

/-! ### What a step should do -/

def creates (w : ReturnPool) : ReturnAction → Bool
  | .turn i id _ => w.threads[i]? = some .creating && (w.shared.store.created orderId id).isSome
  | _ => false

def commits (w : ReturnPool) : ReturnAction → Bool
  | .record now storeId inputs context =>
    ((record environment now storeId orderId inputs context w.shared.store).1 matches .ok _)
  | _ => false

def OneOpen (s : Store) : Prop :=
  ∀ request ∈ s.returnRequests, ∀ other ∈ s.returnRequests, request.isOpen orderId →
    other.isOpen orderId → request = other

/-- The return requests of the order follow the recorded conditions. -/
def StatusSound (s : Store) : Prop :=
  ∀ order ∈ s.findOrder orderId, ∀ request ∈ s.returnRequests, request.orderId = orderId →
    (request.status = .processed ↔ order.returnedInFull request.lineIds)

def fullyRecorded (s : Store) : Bool := (s.completeness orderId).any fun lines => lines.all Prod.snd

def returnsOf (s : Store) : ℕ := s.returnRequests.countP fun request => request.orderId = orderId

/-- The customer was counted once for each return request that was created, or is about to be. -/
def Counted (w : ReturnPool) : Prop :=
  returnsOf orderId w.shared.store =
    w.shared.raised.length + w.threads.countP fun detection => detection = .raising

structure Sound (w : ReturnPool) (action : ReturnAction) : Prop where
  status : w.commits environment orderId action →
    StatusSound orderId (w.step environment orderId action).shared.store
  fresh : w.creates orderId action → fullyRecorded orderId w.shared.store = false
  counted : Counted orderId (w.step environment orderId action)

/-- What a recording must find: every return request but the one it names has the status that will
be right. -/
def othersRight (s : Store) (storeId : String) (inputs : List ConditionInput)
    (context : Option ReturnContext) : Bool :=
  match preparedFor environment storeId orderId inputs s with
  | .error _ => true
  | .ok (order, prepared) =>
    s.returnRequests.all fun other => other.orderId ≠ orderId ||
      context.any (fun context => context.returnRequestId = other.id) ||
      (decide (other.status = .processed) ==
        (order.lines.filter fun line => line.id ∈ other.lineIds).all (willBeComplete prepared))

/-- What a step must find: a return is created while some line is not completely recorded, the
customer is known when it is counted, and a recording that commits finds the other requests right.
-/
def faithful (w : ReturnPool) : ReturnAction → Bool
  | .detect => true
  | .turn i id customerId =>
    (!w.creates orderId (.turn i id customerId) || !fullyRecorded orderId w.shared.store) &&
      (w.threads[i]? ≠ some .raising || customerId.isSome)
  | .record now storeId inputs context =>
    !w.commits environment orderId (.record now storeId inputs context) ||
      othersRight environment orderId w.shared.store storeId inputs context

abbrev Faithful (w : ReturnPool) (action : ReturnAction) : Prop :=
  w.faithful environment orderId action = true

/-! ### The invariant -/

structure Inv (w : ReturnPool) : Prop where
  lines : w.shared.store.LinesDistinct orderId
  ids : (w.shared.store.returnRequests.map ReturnRequest.id).Nodup
  oneOpen : OneOpen orderId w.shared.store

variable {environment orderId} {w : ReturnPool}

def settledBy (now : ℤ) (updated : EcommerceOrder) (context : Option ReturnContext)
    (request : ReturnRequest) : ReturnRequest :=
  match context with
  | none => request
  | some context =>
    if context.returnRequestId = request.id then settleReturnRequest now updated context request
    else request

theorem settledBy_cases (now : ℤ) (updated : EcommerceOrder) (context : Option ReturnContext)
    (request : ReturnRequest) :
    (context.any (fun context => context.returnRequestId = request.id) = true ∧
      ∃ named ∈ context, settledBy now updated context request =
        settleReturnRequest now updated named request) ∨
    (context.any (fun context => context.returnRequestId = request.id) = false ∧
      settledBy now updated context request = request) := by
  cases context with
  | none => exact Or.inr ⟨rfl, rfl⟩
  | some named =>
    by_cases hid : named.returnRequestId = request.id
    · exact Or.inl ⟨by simp [hid], named, rfl, if_pos hid⟩
    · exact Or.inr ⟨by simp [hid], if_neg hid⟩

theorem settledBy_id (now : ℤ) (updated : EcommerceOrder) (context : Option ReturnContext)
    (request : ReturnRequest) : (settledBy now updated context request).id = request.id := by
  rcases settledBy_cases now updated context request with ⟨-, named, -, heq⟩ | ⟨-, heq⟩
  · rw [heq, settleReturnRequest]
  · rw [heq]

theorem settledBy_orderId (now : ℤ) (updated : EcommerceOrder) (context : Option ReturnContext)
    (request : ReturnRequest) :
    (settledBy now updated context request).orderId = request.orderId := by
  rcases settledBy_cases now updated context request with ⟨-, named, -, heq⟩ | ⟨-, heq⟩
  · rw [heq, settleReturnRequest]
  · rw [heq]

theorem settledBy_lineIds (now : ℤ) (updated : EcommerceOrder) (context : Option ReturnContext)
    (request : ReturnRequest) :
    (settledBy now updated context request).lineIds = request.lineIds := by
  rcases settledBy_cases now updated context request with ⟨-, named, -, heq⟩ | ⟨-, heq⟩
  · rw [heq, settleReturnRequest]
  · rw [heq]

theorem settle_status (now : ℤ) (updated : EcommerceOrder) (context : ReturnContext)
    (request : ReturnRequest) :
    (settleReturnRequest now updated context request).status =
      if updated.returnedInFull request.lineIds then .processed else .needVerification := rfl

theorem recorded_requests {now : ℤ} {storeId : String} {inputs : List ConditionInput}
    {context : Option ReturnContext} {s t : Store} {updates : List (String × Bool)}
    (hlines : s.LinesDistinct orderId)
    (h : record environment now storeId orderId inputs context s = (.ok updates, t)) :
    ∃ order prepared updated,
      preparedFor environment storeId orderId inputs s = .ok (order, prepared) ∧
      s.completeness orderId = some order.completeness ∧
      t.findOrder orderId = some updated ∧
      updated.completeness = preparedLines prepared order ∧
      t.returnRequests = s.returnRequests.map (settledBy now updated context) ∧
      ∀ named ∈ context, ∃ request ∈ s.returnRequests, request.id = named.returnRequestId ∧
        (updated.returnedInFull request.lineIds = false →
          ∀ other ∈ s.returnRequests, other.isOpen orderId → other.id = request.id) := by
  obtain ⟨order, prepared, hprepared, hcomplete, hsettled⟩ := record_ok hlines h
  obtain ⟨updated, hupdated, hupdatedLines⟩ := Option.map_eq_some_iff.1 hcomplete
  have horder : s.findOrder orderId = some order := by
    rw [preparedFor] at hprepared
    split at hprepared
    · cases hprepared
    · rename_i found hfound
      obtain ⟨rate, -, hprepared⟩ := Except.bind_eq_ok hprepared
      obtain ⟨rows, -, hpair⟩ := Except.bind_eq_ok hprepared
      obtain ⟨rfl, rfl⟩ := Prod.mk.inj (Except.ok.inj hpair)
      exact (Option.filter_eq_some_iff.1 hfound).1
  refine ⟨order, prepared, updated, hprepared, ?_, hupdated, hupdatedLines, ?_⟩
  · rw [Store.completeness, horder, Option.map_some]
  · cases context with
    | none =>
      refine ⟨?_, fun named hnamed => by cases hnamed⟩
      rw [show t.returnRequests = s.returnRequests from hsettled]
      exact (List.map_id' _).symm
    | some context =>
      obtain ⟨request, updated', hcheck, hupdated', hrequests⟩ := hsettled
      obtain rfl := Option.some.inj (hupdated.symm.trans hupdated')
      rw [checkReturnRequest] at hcheck
      split at hcheck
      · cases hcheck
      · rename_i found hfound
        split at hcheck
        · cases hcheck
        · split at hcheck
          · cases hcheck
          · rename_i hothers
            obtain rfl := Except.ok.inj hcheck
            have hnamed := List.find?_some hfound
            simp only [decide_eq_true_eq] at hnamed
            refine ⟨?_, fun named hmem => ⟨found, List.mem_of_find?_eq_some hfound, ?_, ?_⟩⟩
            · rw [hrequests]
              refine List.map_congr_left fun other _ => ?_
              rw [settledBy, hnamed.1]
              simp only [eq_comm]
            · rw [Option.mem_def, Option.some.injEq] at hmem
              rw [← hmem, hnamed.1]
            · intro hincomplete other hother hopen
              by_contra hne
              refine hothers ⟨?_, ?_⟩
              · rw [all_filter_eq]
                rw [EcommerceOrder.returnedInFull_eq, hupdatedLines] at hincomplete
                exact hincomplete
              · refine List.any_eq_true.2 ⟨other, hother, ?_⟩
                have hid : order.id = orderId := by simpa using List.find?_some horder
                rw [ReturnRequest.isOpen, decide_eq_true_eq] at hopen
                exact decide_eq_true ⟨hid ▸ hopen.1, hopen.2, hne⟩

/-- **The return requests follow the conditions** after a recording exactly if the others are right.
-/
theorem statusSound_iff {now : ℤ} {storeId : String} {inputs : List ConditionInput}
    {context : Option ReturnContext} {s t : Store} {updates : List (String × Bool)}
    (hlines : s.LinesDistinct orderId)
    (h : record environment now storeId orderId inputs context s = (.ok updates, t)) :
    StatusSound orderId t ↔ othersRight environment orderId s storeId inputs context = true := by
  obtain ⟨order, prepared, updated, hprepared, -, hupdated, hcomplete, hrequests, -⟩ :=
    recorded_requests hlines h
  have hfull (lineIds : List String) : updated.returnedInFull lineIds =
      (order.lines.filter fun line => line.id ∈ lineIds).all (willBeComplete prepared) := by
    rw [EcommerceOrder.returnedInFull_eq, hcomplete, all_filter_eq]
    rfl
  have hone : ∀ request : ReturnRequest,
      ((settledBy now updated context request).orderId = orderId →
        ((settledBy now updated context request).status = .processed ↔ updated.returnedInFull
          (settledBy now updated context request).lineIds = true)) ↔
      (request.orderId ≠ orderId ||
        context.any (fun context => context.returnRequestId = request.id) ||
        (decide (request.status = .processed) ==
          (order.lines.filter fun line => line.id ∈ request.lineIds).all
            (willBeComplete prepared))) = true := by
    intro request
    rw [settledBy_orderId, settledBy_lineIds, ← hfull]
    by_cases horder : request.orderId = orderId
    · rcases settledBy_cases now updated context request with ⟨hany, named, -, heq⟩ | ⟨hany, heq⟩
      · rw [heq, settle_status, hany]
        cases updated.returnedInFull request.lineIds with
        | true => simp
        | false => simp
      · rw [heq, hany]
        by_cases hstatus : request.status = .processed
        · simp [horder, hstatus]
        · simp [horder, hstatus]
    · simp [horder]
  simp only [othersRight, hprepared, List.all_eq_true]
  constructor
  · intro hsound request hmem
    refine (hone request).1 fun horder => ?_
    refine hsound updated hupdated _ ?_ horder
    rw [hrequests]
    exact List.mem_map_of_mem hmem
  · intro hall found hfound request hmem horder
    obtain rfl := Option.some.inj (hupdated.symm.trans hfound)
    rw [hrequests] at hmem
    obtain ⟨old, hold, rfl⟩ := List.mem_map.1 hmem
    exact (hone old).2 (hall old hold) horder

/-! ### Steps -/

variable (orderId) in
theorem inv_of_same {s t : Store} (horders : t.orders = s.orders)
    (hrequests : t.returnRequests = s.returnRequests) :
    t.completeness orderId = s.completeness orderId ∧
      returnsOf orderId t = returnsOf orderId s := by
  refine ⟨?_, ?_⟩
  · rw [Store.completeness, Store.findOrder, horders]
    rfl
  · rw [returnsOf, hrequests]
    rfl

/-- **A recording** keeps the invariant. -/
theorem Inv.record (h : Inv orderId w) (now : ℤ) (storeId : String) (inputs : List ConditionInput)
    (context : Option ReturnContext) :
    Inv orderId (w.step environment orderId (.record now storeId inputs context)) ∧
      returnsOf orderId
        (w.step environment orderId (.record now storeId inputs context)).shared.store =
        returnsOf orderId w.shared.store := by
  rcases hrun : Zomaal.record environment now storeId orderId inputs context w.shared.store with
    ⟨error | updates, t⟩
  · obtain ⟨horders, hrequests⟩ := record_error hrun
    have hstep : (w.step environment orderId
        (.record now storeId inputs context)).shared.store = t := by
      simp [ReturnPool.step, ThreadPool.write, Command.final, hrun]
    obtain ⟨hcomplete, hreturns⟩ := inv_of_same orderId horders hrequests
    refine ⟨⟨?_, ?_, ?_⟩, ?_⟩
    · rw [hstep, Store.LinesDistinct, hcomplete]
      exact h.lines
    · rw [hstep, hrequests]
      exact h.ids
    · rw [hstep, OneOpen, hrequests]
      exact h.oneOpen
    · rw [hstep, hreturns]
  · obtain ⟨order, prepared, updated, -, hbefore, hupdated, hcomplete, hrequests, hnamed⟩ :=
      recorded_requests h.lines hrun
    have hstep : (w.step environment orderId
        (.record now storeId inputs context)).shared.store = t := by
      simp [ReturnPool.step, ThreadPool.write, Command.final, hrun]
    -- a request that is settled, and stays open, is the only one that is open
    have honly : ∀ first ∈ w.shared.store.returnRequests, ∀ second ∈ w.shared.store.returnRequests,
        context.any (fun context => context.returnRequestId = first.id) = true →
        (settledBy now updated context first).isOpen orderId →
        (settledBy now updated context second).isOpen orderId → first = second := by
      intro first hfirst second hsecond hany hopen hopen'
      obtain ⟨named, hmem, hid⟩ := (Option.any_eq_true _ _).1 hany
      rw [decide_eq_true_eq] at hid
      obtain ⟨request, hrequest, hrequestId, hothers⟩ := hnamed named hmem
      have hfirstEq : request = first :=
        List.inj_on_of_nodup_map h.ids hrequest hfirst (hrequestId.trans hid)
      subst hfirstEq
      rcases settledBy_cases now updated context second with ⟨hany', -⟩ | ⟨-, heq⟩
      · obtain ⟨named', hmem', hid'⟩ := (Option.any_eq_true _ _).1 hany'
        rw [decide_eq_true_eq] at hid'
        obtain rfl := Option.some.inj (hmem.symm.trans hmem')
        exact List.inj_on_of_nodup_map h.ids hrequest hsecond (hid.symm.trans hid')
      · rw [heq] at hopen'
        refine (List.inj_on_of_nodup_map h.ids hsecond hrequest
          (hothers ?_ second hsecond hopen')).symm
        rcases settledBy_cases now updated context request with ⟨-, by', -, hsettled⟩ | ⟨hnot, -⟩
        · rw [hsettled, ReturnRequest.isOpen, decide_eq_true_eq, settle_status] at hopen
          cases hfull : updated.returnedInFull request.lineIds with
          | false => rfl
          | true =>
            rw [hfull] at hopen
            cases hopen.2
        · rw [hany] at hnot
          cases hnot
    refine ⟨⟨?_, ?_, ?_⟩, ?_⟩
    · intro lines hlines
      rw [hstep, Store.completeness, hupdated, Option.map_some, hcomplete] at hlines
      obtain rfl := Option.some.inj hlines
      have hnodup := h.lines _ hbefore
      rw [EcommerceOrder.completeness, List.map_map] at hnodup
      rw [preparedLines, List.map_map]
      exact hnodup
    · rw [hstep, hrequests, List.map_map]
      have hids : ReturnRequest.id ∘ settledBy now updated context = ReturnRequest.id :=
        funext fun request => settledBy_id now updated context request
      rw [hids]
      exact h.ids
    · rw [hstep, OneOpen, hrequests]
      intro first hfirst second hsecond hopen hopen'
      obtain ⟨old, hold, rfl⟩ := List.mem_map.1 hfirst
      obtain ⟨old', hold', rfl⟩ := List.mem_map.1 hsecond
      rcases settledBy_cases now updated context old with ⟨hany, -⟩ | ⟨-, heq⟩
      · rw [honly old hold old' hold' hany hopen hopen']
      · rcases settledBy_cases now updated context old' with ⟨hany, -⟩ | ⟨-, heq'⟩
        · rw [honly old' hold' old hold hany hopen' hopen]
        · rw [heq] at hopen
          rw [heq'] at hopen'
          rw [h.oneOpen old hold old' hold' hopen hopen']
    · rw [hstep, returnsOf, returnsOf, hrequests, List.countP_map]
      refine List.countP_congr fun request _ => ?_
      simp [settledBy_orderId]

theorem created_some {s : Store} {id : String} {request : ReturnRequest}
    (h : s.created orderId id = some request) :
    s.hasOpenReturn orderId = false ∧ id ∉ s.returnRequests.map ReturnRequest.id ∧
      request.id = id ∧ request.isOpen orderId = true := by
  rw [Store.created] at h
  split at h
  · cases h
  · rename_i hfree
    obtain ⟨lines, -, rfl⟩ := Option.map_eq_some_iff.1 h
    rw [Bool.or_eq_true, not_or, Bool.not_eq_true, decide_eq_true_eq] at hfree
    exact ⟨hfree.1, hfree.2, rfl, decide_eq_true ⟨rfl, rfl⟩⟩

theorem Inv.create (h : Inv orderId w) {id : String} {request : ReturnRequest}
    (hcreated : w.shared.store.created orderId id = some request) {v : ReturnPool}
    (horders : v.shared.store.orders = w.shared.store.orders)
    (hrequests : v.shared.store.returnRequests = w.shared.store.returnRequests ++ [request]) :
    Inv orderId v ∧ returnsOf orderId v.shared.store = returnsOf orderId w.shared.store + 1 := by
  obtain ⟨hnone, hfresh, hid, hopen⟩ := created_some hcreated
  have hclosed : ∀ other ∈ w.shared.store.returnRequests, other.isOpen orderId = false :=
    fun other hmem => by
      have hnot := List.any_eq_false.1 hnone other hmem
      rwa [Bool.not_eq_true] at hnot
  refine ⟨⟨?_, ?_, ?_⟩, ?_⟩
  · rw [Store.LinesDistinct, Store.completeness, Store.findOrder, horders]
    exact h.lines
  · rw [hrequests]
    exact KeyedRows.nodup_append ReturnRequest.id h.ids (by rwa [hid])
  · rw [OneOpen, hrequests]
    intro first hfirst second hsecond hopen hopen'
    rcases Ledger.mem_concat.1 hfirst with hfirst | hfirst
    · rw [hclosed first hfirst] at hopen
      cases hopen
    · rcases Ledger.mem_concat.1 hsecond with hsecond | hsecond
      · rw [hclosed second hsecond] at hopen'
        cases hopen'
      · rw [hfirst, hsecond]
  · rw [returnsOf, hrequests, List.countP_append, List.countP_singleton, if_pos]
    · rfl
    · rw [ReturnRequest.isOpen, decide_eq_true_eq] at hopen
      exact decide_eq_true hopen.1

theorem Inv.step (h : Inv orderId w) (action : ReturnAction) :
    Inv orderId (w.step environment orderId action) := by
  cases action with
  | detect => exact ⟨h.lines, h.ids, h.oneOpen⟩
  | record now storeId inputs context => exact (h.record now storeId inputs context).1
  | turn i id customerId =>
    rw [ReturnPool.step]
    split
    · rename_i detection hdetection
      cases detection with
      | searching => exact ⟨h.lines, h.ids, h.oneOpen⟩
      | raising => exact ⟨h.lines, h.ids, h.oneOpen⟩
      | finished => exact ⟨h.lines, h.ids, h.oneOpen⟩
      | creating =>
        cases hcreated : w.shared.store.created orderId id with
        | none =>
          simp only [Detection.turn, hcreated]
          exact ⟨h.lines, h.ids, h.oneOpen⟩
        | some request =>
          simp only [Detection.turn, hcreated]
          exact (h.create (v := w.move i (w.shared.add request) .raising) hcreated rfl rfl).1
    · exact h

theorem raising_move {i : ℕ} {detection : Detection} (hdetection : w.threads[i]? = some detection)
    (books : ReturnBooks) (next : Detection) :
    ((w.move i books next).threads.countP fun detection => detection = .raising) +
      (if detection = .raising then 1 else 0) =
      (w.threads.countP fun detection => detection = .raising) +
        if next = .raising then 1 else 0 := by
  have hmoved := ThreadPool.countP_move hdetection books next fun detection => detection = .raising
  simpa using hmoved

theorem Inv.counted_turn (h : Inv orderId w) (hcounted : Counted orderId w) (i : ℕ) (id : String)
    (customerId : Option String) :
    Counted orderId (w.step environment orderId (.turn i id customerId)) ↔
      w.threads[i]? ≠ some .raising ∨ customerId.isSome := by
  rw [Counted] at hcounted
  cases hdetection : w.threads[i]? with
  | none =>
    have hsame : w.step environment orderId (.turn i id customerId) = w := by
      simp [ReturnPool.step, hdetection]
    rw [hsame]
    exact iff_of_true hcounted (Or.inl (by simp))
  | some detection =>
    simp only [ReturnPool.step, hdetection, Counted]
    cases detection with
    | searching =>
      refine iff_of_true ?_ (Or.inl (by simp))
      simp only [Detection.turn]
      split
      · have hcount := raising_move hdetection w.shared .finished
        rw [if_neg (by decide), if_neg (by decide)] at hcount
        rw [show (w.move i w.shared .finished).shared = w.shared from rfl]
        omega
      · have hcount := raising_move hdetection w.shared .creating
        rw [if_neg (by decide), if_neg (by decide)] at hcount
        rw [show (w.move i w.shared .creating).shared = w.shared from rfl]
        omega
    | creating =>
      refine iff_of_true ?_ (Or.inl (by simp))
      cases hcreated : w.shared.store.created orderId id with
      | none =>
        simp only [Detection.turn, hcreated]
        have hcount := raising_move hdetection w.shared .finished
        rw [if_neg (by decide), if_neg (by decide)] at hcount
        rw [show (w.move i w.shared .finished).shared = w.shared from rfl]
        omega
      | some request =>
        simp only [Detection.turn, hcreated]
        have hreturns :=
          (h.create (v := w.move i (w.shared.add request) .raising) hcreated rfl rfl).2
        have hcount := raising_move hdetection (w.shared.add request) .raising
        rw [if_neg (by decide), if_pos rfl] at hcount
        rw [hreturns]
        simp only [ThreadPool.move, ReturnBooks.add] at hcount ⊢
        omega
    | raising =>
      simp only [Detection.turn, ne_eq, not_true_eq_false, false_or]
      have hcount := raising_move hdetection
        { w.shared with raised := w.shared.raised ++ customerId.toList } .finished
      rw [if_pos rfl, if_neg (by decide)] at hcount
      simp only [ThreadPool.move, List.length_append] at hcount ⊢
      cases customerId with
      | none =>
        simp only [Option.toList_none, List.length_nil, Option.isSome_none,
          Bool.false_eq_true, iff_false]
        omega
      | some customer =>
        simp only [Option.toList_some, List.length_singleton, Option.isSome_some, iff_true]
        omega
    | finished =>
      refine iff_of_true ?_ (Or.inl (by simp))
      have hcount := raising_move hdetection w.shared .finished
      rw [if_neg (by decide), Nat.add_zero, Nat.add_zero] at hcount
      simp only [Detection.turn]
      rw [show (w.move i w.shared .finished).shared = w.shared from rfl]
      omega

theorem Inv.sound_iff (h : Inv orderId w) (hcounted : Counted orderId w) (action : ReturnAction) :
    Faithful environment orderId w action ↔ Sound environment orderId w action := by
  cases action with
  | detect =>
    refine iff_of_true rfl ⟨fun hnot => (nomatch hnot), fun hnot => (nomatch hnot), ?_⟩
    simpa [Counted, ReturnPool.step, ThreadPool.spawn] using hcounted
  | turn i id customerId =>
    have hcount : Counted orderId (w.step environment orderId (.turn i id customerId)) ↔
        w.threads[i]? ≠ some .raising ∨ customerId.isSome :=
      h.counted_turn hcounted i id customerId
    rw [Faithful, faithful, Bool.and_eq_true, Bool.or_eq_true, Bool.or_eq_true, decide_eq_true_eq,
      Bool.not_eq_true', Bool.not_eq_true', ← hcount]
    constructor
    · rintro ⟨hfresh, hcounted'⟩
      refine ⟨fun hnot => (nomatch hnot), fun hcreates => ?_, hcounted'⟩
      rcases hfresh with hnot | hopen
      · rw [hcreates] at hnot
        cases hnot
      · exact hopen
    · intro hsound
      refine ⟨?_, hsound.counted⟩
      cases hcreates : w.creates orderId (.turn i id customerId) with
      | false => exact Or.inl rfl
      | true => exact Or.inr (hsound.fresh hcreates)
  | record now storeId inputs context =>
    have hcounted' : Counted orderId
        (w.step environment orderId (.record now storeId inputs context)) :=
      (h.record now storeId inputs context).2.trans hcounted
    rw [Faithful, faithful, Bool.or_eq_true, Bool.not_eq_true']
    rcases hrun : Zomaal.record environment now storeId orderId inputs context w.shared.store with
      ⟨error | updates, t⟩
    · have hcommits :
          w.commits environment orderId (.record now storeId inputs context) = false := by
        simp [commits, hrun]
      refine iff_of_true (Or.inl hcommits)
        ⟨fun hdone => ?_, fun hnot => (nomatch hnot), hcounted'⟩
      rw [hcommits] at hdone
      cases hdone
    · have hcommits :
          w.commits environment orderId (.record now storeId inputs context) = true := by
        simp [commits, hrun]
      have hstep : (w.step environment orderId
          (.record now storeId inputs context)).shared.store = t := by
        simp [ReturnPool.step, ThreadPool.write, Command.final, hrun]
      have hiff := statusSound_iff h.lines hrun
      constructor
      · rintro (hnot | hright)
        · rw [hcommits] at hnot
          cases hnot
        · refine ⟨fun _ => ?_, fun hnot => (nomatch hnot), hcounted'⟩
          rw [hstep]
          exact hiff.2 hright
      · intro hsound
        have hstatus := hsound.status hcommits
        rw [hstep] at hstatus
        exact Or.inr (hiff.1 hstatus)

end ReturnPool

/-! ### Runs -/

/-- An order without return requests.  Identifiers are unique. -/
structure ReturnStart (orderId : String) where
  store : Store
  lines : store.LinesDistinct orderId
  ids : (store.returnRequests.map ReturnRequest.id).Nodup
  none : ∀ request ∈ store.returnRequests, request.orderId ≠ orderId

def ReturnStart.pool {orderId : String} (start : ReturnStart orderId) : ReturnPool :=
  { shared := { store := start.store } }

def noRates : Environment where
  locale :=
    { toUpperCase := fun text => String.ofList (text.toList.map Char.toUpper)
      toLowerCase := fun text => String.ofList (text.toList.map Char.toLower)
      localeCompare := compare }
  currency := none
  packaging := {}

def oneLine : Store :=
  { orders :=
      [{ id := "order", storeId := "store",
         lines := [{ id := "line", quantity := 1, quantity_pos := Int.one_pos }] }] }

def scannedThenRecorded : ReturnPool :=
  Machine.run (ReturnPool.step noRates "order") { shared := { store := oneLine } }
    [.detect, .turn 0 "return" (some "customer"), .turn 0 "return" (some "customer"),
     .turn 0 "return" (some "customer"),
     .record 1 "store" [{ orderLineId := "line", condition := "GOOD" }] none]

def scannedAgain : ReturnPool :=
  Machine.run (ReturnPool.step noRates "order") scannedThenRecorded
    [.record 2 "store" [{ orderLineId := "line", condition := "GOOD" }]
      (some { returnRequestId := "return" }),
     .detect, .turn 1 "return-2" (some "customer"), .turn 1 "return-2" (some "customer"),
     .turn 1 "return-2" (some "customer")]

end Zomaal
