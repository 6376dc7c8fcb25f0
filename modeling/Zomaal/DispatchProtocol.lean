/-
**Dispatching orders while duplicates are cancelled.**

A call looks at the order, claims it in a transaction under the store's lock, asks the courier to
create a parcel, and then writes what came of it; whatever goes wrong after the claim ends in one
handler that marks the dispatch as failed, and a failed dispatch may be claimed again.  Cancelling
duplicates takes the same lock.  Any number of calls and cancellations of one store run against each
other, one commit or one reading at a time, with whatever the courier answers.

Main results:

* `dispatch_excludes_cancel` — **no order is both cancelled as a duplicate and under way, no order
  is under way twice, and a cancellation leaves an order of every group**;
* `one_parcel_per_order` — **when no accepted request is written off as failed, the courier has at
  most one parcel of an order**;
* `two_parcels` — and otherwise it may have two.
-/

import Zomaal.DuplicateOrders
import Zomaal.MachineRun
import Zomaal.ProviderTracking

set_option autoImplicit false

namespace Zomaal

/-! ### The store, the lock and the calls -/

inductive DispatchPhase
  /-- the first look went well -/
  | looked
  /-- the order is claimed -/
  | pending
  /-- the courier's answer is here, and the shipment is stored -/
  | answered (response : Json)
  /-- an error is on its way to the handler -/
  | failing
  /-- the handler could not write, and the row stays as it was claimed -/
  | stuck
  | dispatched
  | failed
  /-- the call stopped before it claimed the order -/
  | refused

/-- A call of `dispatchOrder`. -/
structure DispatchAttempt where
  orderId : String
  provider : String
  phase : DispatchPhase := .looked
  /-- whether the courier accepted the call's create request -/
  accepted : Bool := false

inductive LockHolder
  /-- a call that has read the order's row and not written it yet -/
  | claiming (attempt : ℕ) (current : Option OrderDispatch)
  /-- a cancellation with some selected orders still to come -/
  | cancelling (tx : CancelTx) (todo : List SelectedOrder)

structure FulfilmentWorld where
  db : FulfilmentDb
  lock : Option LockHolder := none
  attempts : List DispatchAttempt := []
  /-- the courier's books: the order of every accepted create request -/
  accepted : List String := []

inductive CourierReply
  /-- the courier refused it, or it never got there -/
  | refused
  /-- the courier accepted it; its answer may be lost on the way back -/
  | accepted (response : Option Json)

namespace FulfilmentDb

variable (db : FulfilmentDb)

def findOrder (storeId orderId : String) : Option OrderRow :=
  db.orders.find? fun order => order.id = orderId && order.storeId = storeId

def isCancelledDuplicate (orderId : String) : Bool :=
  (db.reviews orderId).any fun review => review.decision = .cancelled

def setDispatch (orderId : String) (dispatch : OrderDispatch) : FulfilmentDb :=
  { db with dispatches := Function.update db.dispatches orderId (some dispatch) }

end FulfilmentDb

def firstLook (db : FulfilmentDb) (storeId orderId : String) : Except ServiceError Unit :=
  match db.findOrder storeId orderId with
  | none => .error (.notFound "Order not found")
  | some _ =>
    if db.isCancelledDuplicate orderId then
      .error (.conflict "This order was cancelled as a duplicate and cannot be shipped")
    else
      match (db.dispatches orderId).map OrderDispatch.status with
      | some .dispatched => .error (.badRequest "Order is already dispatched")
      | some .cancelled =>
        .error (.badRequest
          "This shipment was cancelled; create a replacement order to dispatch again")
      | some .pending => .error (.badRequest "Order dispatch is currently pending")
      | some .failed | none => .ok ()

/-- What a call checks once it has the lock; it goes on with the row it read. -/
def claimCheck (db : FulfilmentDb) (storeId orderId : String) :
    Except ServiceError (Option OrderDispatch) :=
  match db.findOrder storeId orderId with
  | none => .error (.notFound "Order not found")
  | some order =>
    if order.status = .cancelled || db.isCancelledDuplicate orderId then
      .error (.conflict "This order was cancelled and cannot be shipped")
    else if (db.dispatches orderId).any fun dispatch => dispatch.status ≠ .failed then
      .error (.conflict "Order dispatch is already in progress or completed")
    else .ok (db.dispatches orderId)

/-- `ORD-${order.id.slice(0, 8).toUpperCase()}`. -/
def merchantTracking (orderId : String) : String :=
  "ORD-" ++ String.ofList ((orderId.toList.take 8).map Char.toUpper)

/-- The write of a claim: a failed row is taken over, and otherwise a row is created. -/
def writeClaim (db : FulfilmentDb) (orderId provider : String) (current : Option OrderDispatch) :
    Except ServiceError FulfilmentDb :=
  let claimed : OrderDispatch :=
    { provider, merchantTracking := merchantTracking orderId, providerTracking := none
      status := .pending }
  match current with
  | some _ =>
    if (db.dispatches orderId).any fun dispatch => dispatch.status = .failed then
      .ok (db.setDispatch orderId claimed)
    else .error (.conflict "Order dispatch is already being retried")
  | none =>
    match db.dispatches orderId with
    | some _ => .error (.conflict "Order dispatch is already in progress")
    | none => .ok (db.setDispatch orderId claimed)

/-- `update({ where: { orderId } })` with the tracking number. -/
def recordDispatched (db : FulfilmentDb) (orderId tracking : String) : FulfilmentDb :=
  match db.dispatches orderId with
  | none => db
  | some dispatch =>
    db.setDispatch orderId
      { dispatch with status := .dispatched, providerTracking := some tracking }

/-- `updateMany({ where: { orderId, status: 'PENDING' } })` in the handler. -/
def recordFailed (db : FulfilmentDb) (orderId : String) : FulfilmentDb :=
  match db.dispatches orderId with
  | none => db
  | some dispatch =>
    if dispatch.status = .pending then db.setDispatch orderId { dispatch with status := .failed }
    else db

/-! ### One atomic step -/

inductive FulfilmentAction
  /-- a call starts; `dispatchable`: its preview can be fetched and has everything that is needed -/
  | dispatchOrder (orderId provider : String) (dispatchable : Bool)
  /-- the call takes the lock and reads the order's row -/
  | claim (attempt : ℕ)
  /-- the claim is written and committed -/
  | writeClaim
  /-- whoever has the lock is rolled back -/
  | rollback
  /-- the COD amount cannot be converted, so that no request is sent -/
  | notSent (attempt : ℕ)
  /-- the create request; `stored`: the shipment of an answer can be stored -/
  | request (attempt : ℕ) (reply : CourierReply) (stored : Bool)
  /-- the result is written, if it can be -/
  | record (attempt : ℕ) (written : Bool)
  /-- the handler, whose own write may fail too -/
  | handleError (attempt : ℕ) (written : Bool)
  /-- a cancellation takes the lock and computes the groups -/
  | cancel (userId : String) (now : ℤ) (orderIds : List String)
  /-- the next selected order -/
  | cancelOrder
  | commitCancel

namespace FulfilmentWorld

def setPhase (w : FulfilmentWorld) (attempt : ℕ) (phase : DispatchPhase) : FulfilmentWorld :=
  { w with attempts := w.attempts.modify attempt fun a => { a with phase } }

def accept (w : FulfilmentWorld) (attempt : ℕ) (orderId : String) : FulfilmentWorld :=
  { w with
    attempts := w.attempts.modify attempt fun a => { a with accepted := true }
    accepted := orderId :: w.accepted }

end FulfilmentWorld

namespace FulfilmentAction

open FulfilmentWorld

def phaseAfter (reply : CourierReply) (stored : Bool) : DispatchPhase :=
  match reply with
  | .accepted (some response) => if stored then .answered response else .failing
  | _ => .failing

/-- One atomic step of the store `storeId`.  A step that is not possible changes nothing. -/
def step (toLowerCase : String → String) (storeId : String) (w : FulfilmentWorld) :
    FulfilmentAction → FulfilmentWorld
  | dispatchOrder orderId provider dispatchable =>
    match firstLook w.db storeId orderId with
    | .error _ => w
    | .ok _ =>
      if dispatchable then { w with attempts := w.attempts ++ [{ orderId, provider }] } else w
  | claim i =>
    match w.lock, w.attempts[i]? with
    | none, some { phase := .looked, orderId, .. } =>
      match claimCheck w.db storeId orderId with
      | .error _ => w.setPhase i .refused
      | .ok current => { w with lock := some (.claiming i current) }
    | _, _ => w
  | writeClaim =>
    match w.lock with
    | some (.claiming i current) =>
      match w.attempts[i]? with
      | none => w
      | some a =>
        match Zomaal.writeClaim w.db a.orderId a.provider current with
        | .error _ => { w.setPhase i .refused with lock := none }
        | .ok db => { w.setPhase i .pending with db := db, lock := none }
    | _ => w
  | rollback =>
    match w.lock with
    | some (.claiming i _) => { w.setPhase i .refused with lock := none }
    | _ => { w with lock := none }
  | notSent i =>
    match w.attempts[i]? with
    | some { phase := .pending, .. } => w.setPhase i .failing
    | _ => w
  | request i reply stored =>
    match w.attempts[i]? with
    | some { phase := .pending, orderId, .. } =>
      match reply with
      | .refused => w.setPhase i .failing
      | .accepted response =>
        (w.accept i orderId).setPhase i (phaseAfter (.accepted response) stored)
    | _ => w
  | record i written =>
    match w.attempts[i]? with
    | some { phase := .answered response, orderId, .. } =>
      match extractProviderTracking response with
      | none => w.setPhase i .failing
      | some tracking =>
        if written then
          { w.setPhase i .dispatched with db := recordDispatched w.db orderId tracking }
        else w.setPhase i .failing
    | _ => w
  | handleError i written =>
    match w.attempts[i]? with
    | some { phase := .failing, orderId, .. } =>
      if written then { w.setPhase i .failed with db := recordFailed w.db orderId }
      else w.setPhase i .stuck
    | _ => w
  | cancel userId now orderIds =>
    match w.lock with
    | some _ => w
    | none =>
      match CancelTx.start toLowerCase w.db storeId userId now orderIds with
      | .error _ => w
      | .ok tx => { w with lock := some (.cancelling tx tx.selected) }
  | cancelOrder =>
    match w.lock with
    | some (.cancelling tx (selected :: todo)) =>
      match tx.cancelOrder w.db selected with
      | .error _ => { w with lock := none }
      | .ok tx' => { w with lock := some (.cancelling tx' todo) }
    | _ => w
  | commitCancel =>
    match w.lock with
    | some (.cancelling tx []) => { w with db := tx.commit w.db, lock := none }
    | _ => w

end FulfilmentAction

/-! ### The invariant -/

/-- The status a claimed order's row has while the call is in a phase. -/
def DispatchPhase.holds : DispatchPhase → Option DispatchStatus
  | .pending | .answered _ | .failing | .stuck => some .pending
  | .dispatched => some .dispatched
  | .looked | .failed | .refused => none

namespace FulfilmentDb

/-- An order is under way: its dispatch is `PENDING` or `DISPATCHED`. -/
def UnderWay (db : FulfilmentDb) (orderId : String) : Prop :=
  ∃ dispatch, db.dispatches orderId = some dispatch ∧
    (dispatch.status = .pending ∨ dispatch.status = .dispatched)

def Idle (db : FulfilmentDb) (orderId : String) : Prop :=
  ∀ dispatch, db.dispatches orderId = some dispatch → dispatch.status = .failed

theorem Idle.not_underWay {db : FulfilmentDb} {orderId : String} (h : db.Idle orderId) :
    ¬ db.UnderWay orderId := by
  rintro ⟨dispatch, hfound, hstatus⟩
  rw [h dispatch hfound] at hstatus
  rcases hstatus with hstatus | hstatus <;> cases hstatus

end FulfilmentDb

variable {phase : DispatchPhase}

theorem DispatchPhase.holds_cases {status : DispatchStatus} (h : phase.holds = some status) :
    status = .pending ∨ status = .dispatched := by
  cases phase <;> simp [holds] at h <;> simp [← h]

/-! ### What the checks and the writes guarantee -/

variable {db : FulfilmentDb} {storeId : String}

theorem claimCheck_ok {orderId : String} {current : Option OrderDispatch}
    (h : claimCheck db storeId orderId = .ok current) :
    db.Idle orderId ∧ db.isCancelledDuplicate orderId = false := by
  rw [claimCheck] at h
  split at h
  · cases h
  · split at h
    · cases h
    · rename_i hopen
      split at h
      · cases h
      · rename_i hidle
        refine ⟨fun dispatch hfound => ?_, ?_⟩
        · rw [hfound] at hidle
          simpa using hidle
        · rw [Bool.or_eq_true, not_or] at hopen
          exact Bool.eq_false_iff.2 hopen.2

theorem writeClaim_ok {db' : FulfilmentDb} {orderId provider : String}
    {current : Option OrderDispatch} (h : writeClaim db orderId provider current = .ok db') :
    ∃ dispatch, dispatch.status = .pending ∧ db' = db.setDispatch orderId dispatch := by
  unfold writeClaim at h
  dsimp only at h
  split at h
  · split at h
    · exact ⟨_, rfl, (Except.ok.inj h).symm⟩
    · cases h
  · split at h
    · cases h
    · exact ⟨_, rfl, (Except.ok.inj h).symm⟩

/-- A write to the row of one order leaves everything else as it was. -/
structure WritesRow (db db' : FulfilmentDb) (orderId : String) : Prop where
  orders : db'.orders = db.orders
  reviews : db'.reviews = db.reviews
  others : ∀ other, other ≠ orderId → db'.dispatches other = db.dispatches other

theorem WritesRow.refl (db : FulfilmentDb) (orderId : String) : WritesRow db db orderId :=
  ⟨rfl, rfl, fun _ _ => rfl⟩

theorem WritesRow.setDispatch (db : FulfilmentDb) (orderId : String) (dispatch : OrderDispatch) :
    WritesRow db (db.setDispatch orderId dispatch) orderId :=
  ⟨rfl, rfl, fun _ hne => Function.update_of_ne hne _ _⟩

theorem recordDispatched_writes (db : FulfilmentDb) (orderId tracking : String) :
    WritesRow db (recordDispatched db orderId tracking) orderId := by
  rw [recordDispatched]
  split
  · exact .refl db orderId
  · exact .setDispatch db orderId _

theorem recordDispatched_status {orderId : String} (tracking : String) (h : db.UnderWay orderId) :
    ∃ dispatch, (recordDispatched db orderId tracking).dispatches orderId = some dispatch ∧
      dispatch.status = .dispatched := by
  obtain ⟨dispatch, hfound, _⟩ := h
  rw [recordDispatched, hfound]
  exact ⟨_, Function.update_self .., rfl⟩

theorem recordFailed_writes (db : FulfilmentDb) (orderId : String) :
    WritesRow db (recordFailed db orderId) orderId := by
  rw [recordFailed]
  split
  · exact .refl db orderId
  · split
    · exact .setDispatch db orderId _
    · exact .refl db orderId

theorem getElem?_append_cases {α : Type} {xs ys : List α} {i : ℕ} {x : α}
    (h : (xs ++ ys)[i]? = some x) : xs[i]? = some x ∨ x ∈ ys := by
  rcases Nat.lt_or_ge i xs.length with hlt | hge
  · rw [List.getElem?_append_left hlt] at h
    exact Or.inl h
  · rw [List.getElem?_append_right hge] at h
    exact Or.inr (List.mem_of_getElem? h)

namespace FulfilmentWorld

def LockSound (w : FulfilmentWorld) : LockHolder → Prop
  | .claiming i _ =>
    ∃ a : DispatchAttempt, w.attempts[i]? = some a ∧ a.phase = .looked ∧
      w.db.Idle a.orderId ∧ w.db.isCancelledDuplicate a.orderId = false
  | .cancelling tx todo =>
    tx.Started w.db ∧ (∀ selected ∈ todo, selected ∈ tx.selected) ∧
      ∀ write ∈ tx.writes, w.db.Idle write.orderId

/-- **The invariant**: a claimed order has its row, no two calls hold one order, a cancelled
duplicate is not under way, and the lock holder is right about what it has read. -/
structure Sound (w : FulfilmentWorld) : Prop where
  row : ∀ (i : ℕ) (a : DispatchAttempt), w.attempts[i]? = some a →
    ∀ status, a.phase.holds = some status →
      ∃ dispatch, w.db.dispatches a.orderId = some dispatch ∧ dispatch.status = status
  unique : ∀ (i j : ℕ) (a b : DispatchAttempt), w.attempts[i]? = some a →
    w.attempts[j]? = some b → a.phase.holds.isSome → b.phase.holds.isSome →
    a.orderId = b.orderId → i = j
  apart : ∀ orderId, w.db.isCancelledDuplicate orderId = true → ¬ w.db.UnderWay orderId
  lock : ∀ holder, w.lock = some holder → w.LockSound holder

variable {w : FulfilmentWorld} {i : ℕ} {a : DispatchAttempt}

theorem setPhase_get (w : FulfilmentWorld) (i : ℕ) (phase : DispatchPhase) (j : ℕ) :
    (w.setPhase i phase).attempts[j]? =
      (w.attempts[j]?).map fun a => if i = j then { a with phase } else a := by
  simp only [setPhase, List.getElem?_modify]
  rfl

theorem setPhase_cases (ha : w.attempts[i]? = some a) {j : ℕ} {b : DispatchAttempt}
    (hb : (w.setPhase i phase).attempts[j]? = some b) :
    (j = i ∧ b = { a with phase }) ∨ (j ≠ i ∧ w.attempts[j]? = some b) := by
  rw [setPhase_get] at hb
  obtain ⟨old, hold, rfl⟩ := Option.map_eq_some_iff.1 hb
  by_cases hij : i = j
  · subst hij
    rw [ha] at hold
    obtain rfl := Option.some.inj hold
    exact Or.inl ⟨rfl, if_pos rfl⟩
  · rw [if_neg hij]
    exact Or.inr ⟨Ne.symm hij, hold⟩

theorem setPhase_get_of_ne {j : ℕ} (h : j ≠ i) :
    (w.setPhase i phase).attempts[j]? = w.attempts[j]? := by
  rw [setPhase_get]
  cases w.attempts[j]? with
  | none => rfl
  | some b => rw [Option.map_some, if_neg (Ne.symm h)]

namespace Sound

theorem underWay (h : w.Sound) (ha : w.attempts[i]? = some a) (hholds : a.phase.holds.isSome) :
    w.db.UnderWay a.orderId := by
  obtain ⟨status, hstatus⟩ := Option.isSome_iff_exists.1 hholds
  obtain ⟨dispatch, hfound, rfl⟩ := h.row i a ha status hstatus
  exact ⟨dispatch, hfound, DispatchPhase.holds_cases hstatus⟩

theorem unlock (h : w.Sound) : Sound { w with lock := none } :=
  ⟨h.row, h.unique, h.apart, fun _ hw => nomatch hw⟩

theorem move (h : w.Sound) (ha : w.attempts[i]? = some a) (hholds : a.phase.holds.isSome)
    (hwrites : WritesRow w.db db a.orderId) (hrow : ∀ status, phase.holds = some status →
      ∃ dispatch, db.dispatches a.orderId = some dispatch ∧ dispatch.status = status) :
    Sound { w.setPhase i phase with db := db } := by
  obtain ⟨horders, hreviews, hothers⟩ := hwrites
  have hidle : ∀ orderId, w.db.Idle orderId → orderId ≠ a.orderId := by
    rintro orderId hidle rfl
    exact hidle.not_underWay (h.underWay ha hholds)
  have hstill : ∀ orderId, w.db.Idle orderId → db.Idle orderId := by
    intro orderId hid dispatch hfound
    rw [hothers orderId (hidle orderId hid)] at hfound
    exact hid dispatch hfound
  refine ⟨fun j b hb status hstatus => ?_, fun j k b c hb hc hbh hch heq => ?_,
    fun orderId hcancelled hunder => ?_, fun holder hw => ?_⟩
  · rcases setPhase_cases ha hb with ⟨rfl, rfl⟩ | ⟨hne, hb⟩
    · exact hrow status hstatus
    · have hother : b.orderId ≠ a.orderId := fun heq =>
        hne (h.unique j i b a hb ha (by rw [hstatus]; rfl) hholds heq)
      obtain ⟨dispatch, hfound, hs⟩ := h.row j b hb status hstatus
      exact ⟨dispatch, (hothers _ hother).trans hfound, hs⟩
  · rcases setPhase_cases ha hb with ⟨hj, hba⟩ | ⟨hj, hbold⟩
    · rcases setPhase_cases ha hc with ⟨hk, hca⟩ | ⟨hk, hcold⟩
      · exact hj.trans hk.symm
      · exact hj.trans (h.unique i k a c ha hcold hholds hch (by rw [← heq, hba]))
    · rcases setPhase_cases ha hc with ⟨hk, hca⟩ | ⟨hk, hcold⟩
      · exact (h.unique j i b a hbold ha hbh hholds (by rw [heq, hca])).trans hk.symm
      · exact h.unique j k b c hbold hcold hbh hch heq
  · have hold : w.db.isCancelledDuplicate orderId = true := by
      rw [FulfilmentDb.isCancelledDuplicate, ← hreviews]
      exact hcancelled
    have hne : orderId ≠ a.orderId := by
      rintro rfl
      exact h.apart _ hold (h.underWay ha hholds)
    obtain ⟨dispatch, hfound, hstatus⟩ := hunder
    exact h.apart orderId hold ⟨dispatch, (hothers orderId hne).symm.trans hfound, hstatus⟩
  · have hlock := h.lock holder hw
    cases holder with
    | claiming j current =>
      obtain ⟨b, hb, hbh, hbidle, hbopen⟩ := hlock
      have hj : j ≠ i := by
        rintro rfl
        rw [ha] at hb
        obtain rfl := Option.some.inj hb
        rw [hbh] at hholds
        cases hholds
      refine ⟨b, (setPhase_get_of_ne hj).trans hb, hbh, hstill _ hbidle, ?_⟩
      rw [FulfilmentDb.isCancelledDuplicate, hreviews]
      exact hbopen
    | cancelling tx todo =>
      obtain ⟨hstarted, htodo, hreviewed⟩ := hlock
      refine ⟨⟨hstarted.remaining, fun cluster hc row hrow => ?_, hstarted.selected,
        hstarted.writes⟩, htodo, fun write hwrite => hstill _ (hreviewed write hwrite)⟩
      rw [horders, hreviews]
      exact hstarted.members cluster hc row hrow

theorem refuse (h : w.Sound) (ha : w.attempts[i]? = some a) (hlock : w.lock = none) :
    Sound (w.setPhase i .refused) := by
  refine ⟨fun j b hb status hstatus => ?_, fun j k b c hb hc hbh hch heq => ?_, h.apart,
    fun holder hw => ?_⟩
  · rcases setPhase_cases ha hb with ⟨rfl, rfl⟩ | ⟨_, hold⟩
    · cases hstatus
    · exact h.row j b hold status hstatus
  · rcases setPhase_cases ha hb with ⟨rfl, rfl⟩ | ⟨_, hbold⟩
    · cases hbh
    · rcases setPhase_cases ha hc with ⟨rfl, rfl⟩ | ⟨_, hcold⟩
      · cases hch
      · exact h.unique j k b c hbold hcold hbh hch heq
  · exact absurd (hlock.symm.trans hw) nofun

theorem claimed (h : w.Sound) (ha : w.attempts[i]? = some a) (hidle : w.db.Idle a.orderId)
    (hopen : w.db.isCancelledDuplicate a.orderId = false) {dispatch : OrderDispatch}
    (hpending : dispatch.status = .pending) :
    Sound { w.setPhase i .pending with db := w.db.setDispatch a.orderId dispatch, lock := none } := by
  have hfree : ∀ (j : ℕ) (b : DispatchAttempt), w.attempts[j]? = some b →
      b.phase.holds.isSome → b.orderId ≠ a.orderId := by
    intro j b hb hbh heq
    exact (heq ▸ hidle).not_underWay (h.underWay hb hbh)
  refine ⟨fun j b hb status hstatus => ?_, fun j k b c hb hc hbh hch heq => ?_,
    fun orderId hcancelled hunder => ?_, fun holder hw => nomatch hw⟩
  · rcases setPhase_cases ha hb with ⟨rfl, rfl⟩ | ⟨_, hold⟩
    · obtain rfl := Option.some.inj hstatus
      exact ⟨dispatch, Function.update_self .., hpending⟩
    · obtain ⟨old, hfound, hs⟩ := h.row j b hold status hstatus
      have hne := hfree j b hold (by rw [hstatus]; rfl)
      exact ⟨old, (Function.update_of_ne hne _ _).trans hfound, hs⟩
  · rcases setPhase_cases ha hb with ⟨hj, hba⟩ | ⟨_, hbold⟩
    · rcases setPhase_cases ha hc with ⟨hk, _⟩ | ⟨_, hcold⟩
      · exact hj.trans hk.symm
      · exact absurd (by rw [← heq, hba]) (hfree k c hcold hch)
    · rcases setPhase_cases ha hc with ⟨hk, hca⟩ | ⟨_, hcold⟩
      · exact absurd (by rw [heq, hca]) (hfree j b hbold hbh)
      · exact h.unique j k b c hbold hcold hbh hch heq
  · have hne : orderId ≠ a.orderId := by
      rintro rfl
      exact absurd (hcancelled.symm.trans hopen) nofun
    obtain ⟨old, hfound, hstatus⟩ := hunder
    exact h.apart orderId hcancelled ⟨old, (Function.update_of_ne hne _ _).symm.trans hfound, hstatus⟩

theorem accept (h : w.Sound) (i : ℕ) (orderId : String) : Sound (w.accept i orderId) := by
  have hback : ∀ (j : ℕ) (b : DispatchAttempt), (w.accept i orderId).attempts[j]? = some b →
      ∃ old, w.attempts[j]? = some old ∧ old.phase = b.phase ∧ old.orderId = b.orderId := by
    intro j b hb
    simp only [FulfilmentWorld.accept, List.getElem?_modify] at hb
    obtain ⟨old, hold, rfl⟩ := Option.map_eq_some_iff.1 hb
    exact ⟨old, hold, by split <;> rfl, by split <;> rfl⟩
  refine ⟨fun j b hb status hstatus => ?_, fun j k b c hb hc hbh hch heq => ?_, h.apart,
    fun holder hw => ?_⟩
  · obtain ⟨old, hold, hphase, horder⟩ := hback j b hb
    rw [← horder]
    exact h.row j old hold status (hphase ▸ hstatus)
  · obtain ⟨b', hb', hbphase, hborder⟩ := hback j b hb
    obtain ⟨c', hc', hcphase, hcorder⟩ := hback k c hc
    exact h.unique j k b' c' hb' hc' (hbphase ▸ hbh) (hcphase ▸ hch)
      (hborder.trans (heq.trans hcorder.symm))
  · have hlock := h.lock holder hw
    cases holder with
    | claiming j current =>
      obtain ⟨b, hb, hbh, hbidle, hbopen⟩ := hlock
      refine ⟨if i = j then { b with accepted := true } else b, ?_, ?_, ?_, ?_⟩
      · simp only [FulfilmentWorld.accept, List.getElem?_modify, hb]
        rfl
      all_goals split <;> assumption
    | cancelling tx todo => exact hlock

theorem called (h : w.Sound) (orderId provider : String) :
    Sound { w with attempts := w.attempts ++ [{ orderId, provider }] } := by
  have hback : ∀ (j : ℕ) (b : DispatchAttempt),
      (w.attempts ++ [({ orderId, provider } : DispatchAttempt)])[j]? = some b →
      b.phase.holds.isSome → w.attempts[j]? = some b := by
    intro j b hb hbh
    rcases getElem?_append_cases hb with hold | hnew
    · exact hold
    · rw [List.mem_singleton.1 hnew] at hbh
      cases hbh
  refine ⟨fun j b hb status hstatus => ?_, fun j k b c hb hc hbh hch heq => ?_, h.apart,
    fun holder hw => ?_⟩
  · exact h.row j b (hback j b hb (by rw [hstatus]; rfl)) status hstatus
  · exact h.unique j k b c (hback j b hb hbh) (hback k c hc hch) hbh hch heq
  · have hlock := h.lock holder hw
    cases holder with
    | claiming j current =>
      obtain ⟨b, hb, hbh, hbidle, hbopen⟩ := hlock
      refine ⟨b, ?_, hbh, hbidle, hbopen⟩
      rw [List.getElem?_append_left (List.getElem?_eq_some_iff.1 hb).1]
      exact hb
    | cancelling tx todo => exact hlock

theorem committed (h : w.Sound) {tx : CancelTx}
    (hwrites : ∀ write ∈ tx.writes, w.db.Idle write.orderId) :
    Sound { w with db := tx.commit w.db, lock := none } := by
  have hdispatches : (tx.commit w.db).dispatches = w.db.dispatches :=
    foldl_apply_dispatches tx.writes w.db
  refine ⟨fun i a ha status hstatus => ?_, h.unique, fun orderId hcancelled hunder => ?_,
    fun holder hw => nomatch hw⟩
  · rw [hdispatches]
    exact h.row i a ha status hstatus
  · have hunder : w.db.UnderWay orderId := by
      rw [FulfilmentDb.UnderWay, hdispatches] at hunder
      exact hunder
    by_cases hmem : ∃ write ∈ tx.writes, write.orderId = orderId
    · obtain ⟨write, hwrite, rfl⟩ := hmem
      exact (hwrites write hwrite).not_underWay hunder
    · have hsame : (tx.commit w.db).reviews orderId = w.db.reviews orderId :=
        (foldl_apply_of_notMem tx.writes w.db fun write hwrite heq => hmem ⟨write, hwrite, heq⟩).1
      refine h.apart orderId ?_ hunder
      rw [FulfilmentDb.isCancelledDuplicate, ← hsame]
      exact hcancelled

end Sound

theorem Sound.moveOn (h : w.Sound) (ha : w.attempts[i]? = some a) (hholds : a.phase.holds.isSome)
    (hsame : phase.holds = a.phase.holds) : Sound (w.setPhase i phase) :=
  h.move ha hholds (.refl _ _) fun status hstatus => h.row i a ha status (hsame ▸ hstatus)

theorem Sound.step {toLowerCase : String → String} (h : w.Sound) (action : FulfilmentAction) :
    Sound (action.step toLowerCase storeId w) := by
  cases action with
  | dispatchOrder orderId provider dispatchable =>
    rw [FulfilmentAction.step]
    split
    · exact h
    · split
      · exact h.called orderId provider
      · exact h
  | claim i =>
    rw [FulfilmentAction.step]
    split
    · rename_i orderId provider accepted hlock ha
      split
      · exact h.refuse ha hlock
      · rename_i current hcheck
        obtain ⟨hidle, hopen⟩ := claimCheck_ok hcheck
        refine ⟨h.row, h.unique, h.apart, fun holder hw => ?_⟩
        obtain rfl := Option.some.inj hw
        exact ⟨_, ha, rfl, hidle, hopen⟩
    · exact h
  | writeClaim =>
    rw [FulfilmentAction.step]
    split
    · rename_i i current hlock
      obtain ⟨a, ha, _, hidle, hopen⟩ := h.lock _ hlock
      rw [ha]
      dsimp only
      split
      · exact h.unlock.refuse ha rfl
      · rename_i db hwritten
        obtain ⟨dispatch, hpending, rfl⟩ := writeClaim_ok hwritten
        exact h.claimed ha hidle hopen hpending
    · exact h
  | rollback =>
    rw [FulfilmentAction.step]
    split
    · rename_i i current hlock
      obtain ⟨a, ha, _⟩ := h.lock _ hlock
      exact h.unlock.refuse ha rfl
    · exact h.unlock
  | notSent i =>
    rw [FulfilmentAction.step]
    split
    · rename_i ha
      exact h.moveOn ha rfl rfl
    · exact h
  | request i reply stored =>
    rw [FulfilmentAction.step]
    split
    · rename_i orderId provider accepted ha
      split
      · exact h.moveOn ha rfl rfl
      · rename_i response
        have hacc : (w.accept i orderId).attempts[i]? =
            some { orderId, provider, phase := .pending, accepted := true } := by
          simp [FulfilmentWorld.accept, ha]
        refine (h.accept i orderId).moveOn hacc rfl ?_
        cases response with
        | none => rfl
        | some body => cases stored <;> rfl
    · exact h
  | record i written =>
    rw [FulfilmentAction.step]
    split
    · rename_i response orderId provider accepted ha
      split
      · exact h.moveOn ha rfl rfl
      · rename_i tracking _
        split
        · refine h.move ha rfl (recordDispatched_writes _ _ _) fun status hstatus => ?_
          obtain rfl := Option.some.inj hstatus
          exact recordDispatched_status tracking (h.underWay ha rfl)
        · exact h.moveOn ha rfl rfl
    · exact h
  | handleError i written =>
    rw [FulfilmentAction.step]
    split
    · rename_i orderId provider accepted ha
      split
      · exact h.move ha rfl (recordFailed_writes _ _) fun status hstatus => nomatch hstatus
      · exact h.moveOn ha rfl rfl
    · exact h
  | cancel userId now orderIds =>
    rw [FulfilmentAction.step]
    split
    · exact h
    · split
      · exact h
      · rename_i tx hstart
        obtain ⟨hstarted, hnone⟩ := CancelTx.start_ok hstart
        refine ⟨h.row, h.unique, h.apart, fun holder hw => ?_⟩
        obtain rfl := Option.some.inj hw
        exact ⟨hstarted, fun _ hmem => hmem, fun write hwrite => by simp [hnone] at hwrite⟩
  | cancelOrder =>
    rw [FulfilmentAction.step]
    split
    · rename_i tx selected todo hlock
      obtain ⟨hstarted, htodo, hwrites⟩ := h.lock _ hlock
      split
      · exact h.unlock
      · rename_i tx' hturn
        have hmem := htodo selected (List.mem_cons_self ..)
        obtain ⟨hidle, _, _, hselected, writes, hnew, habout⟩ := CancelTx.cancelOrder_ok hturn
        refine ⟨h.row, h.unique, h.apart, fun holder hw => ?_⟩
        obtain rfl := Option.some.inj hw
        refine ⟨hstarted.cancelOrder hmem hturn, fun other hother => ?_, fun write hwrite => ?_⟩
        · rw [hselected]
          exact htodo other (List.mem_cons_of_mem _ hother)
        · rw [hnew] at hwrite
          rcases List.mem_append.1 hwrite with hold | hfresh
          · exact hwrites write hold
          · rw [habout write hfresh]
            exact hidle
    · exact h
  | commitCancel =>
    rw [FulfilmentAction.step]
    split
    · rename_i tx hlock
      obtain ⟨_, _, hwrites⟩ := h.lock _ hlock
      exact h.committed hwrites
    · exact h

end FulfilmentWorld

/-! ### Dispatch and duplicate cancellation -/

open FulfilmentWorld

theorem FulfilmentWorld.sound_start
    (h : ∀ orderId, db.isCancelledDuplicate orderId = true → ¬ db.UnderWay orderId) :
    Sound { db } :=
  ⟨fun _ _ ha => by simp at ha, fun _ _ _ _ ha => by simp at ha, h, fun _ hw => nomatch hw⟩

/-- **Dispatch excludes duplicate cancellation.**  However many calls and cancellations run against
each other and whatever the courier answers, no order that was cancelled as a duplicate is under
way, no two calls hold one order, and a cancellation that commits leaves an order of every group it
computed uncancelled. -/
theorem dispatch_excludes_cancel (toLowerCase : String → String) (storeId : String)
    (db : FulfilmentDb)
    (hdb : ∀ orderId, db.isCancelledDuplicate orderId = true → ¬ db.UnderWay orderId)
    (actions : List FulfilmentAction) :
    let w := Machine.run (FulfilmentAction.step toLowerCase storeId) { db } actions
    (∀ orderId, ¬ (w.db.isCancelledDuplicate orderId = true ∧ w.db.UnderWay orderId)) ∧
    (∀ (i j : ℕ) (a b : DispatchAttempt), w.attempts[i]? = some a → w.attempts[j]? = some b →
      a.phase.holds.isSome → b.phase.holds.isSome → a.orderId = b.orderId → i = j) ∧
    ∀ tx, w.lock = some (.cancelling tx []) → ∀ cluster ∈ tx.clusters, ∃ row ∈ cluster.members,
      CancelTx.Uncancelled (FulfilmentAction.commitCancel.step toLowerCase storeId w).db row := by
  intro w
  have hsound : w.Sound :=
    Machine.run_keeps (fun _ action hs => hs.step action) (sound_start hdb) actions
  refine ⟨fun orderId hboth => hsound.apart orderId hboth.1 hboth.2, hsound.unique,
    fun tx hlock cluster hc => ?_⟩
  obtain ⟨hstarted, _⟩ := hsound.lock _ hlock
  rw [FulfilmentAction.step, hlock]
  exact hstarted.commit hc

def twinOrders : FulfilmentDb where
  orders :=
    [{ id := "first", storeId := "store", connectionId := "shop", platform := .manual
       customerId := some "customer", lines := [{ name := "Lamp" }] },
     { id := "second", storeId := "store", connectionId := "shop", platform := .manual
       customerId := some "customer", providerCreatedAt := 3600000, lines := [{ name := "lamp " }] }]

/-- The second order is cancelled while the first one is being claimed, and cannot be sent then. -/
def cancelWhileClaiming : List FulfilmentAction :=
  [.dispatchOrder "first" "SENDIT" true, .dispatchOrder "second" "SENDIT" true, .claim 0,
    .cancel "user" 5 ["second"], .writeClaim, .cancel "user" 6 ["second"], .claim 1, .cancelOrder,
    .commitCancel, .claim 1]

theorem dispatch_excludes_cancel_twins :
    let w := Machine.run (FulfilmentAction.step (String.map Char.toLower) "store")
      { db := twinOrders } cancelWhileClaiming
    w.db.isCancelledDuplicate "second" = true ∧ ¬ w.db.UnderWay "second" := by
  intro w
  have hlower : String.map Char.toLower = fun text => .ofList (text.toList.map Char.toLower) :=
    funext fun _ => String.map_eq_internal
  have hcancelled : w.db.isCancelledDuplicate "second" = true := by
    simp only [w, hlower]
    decide +kernel
  have hdb : ∀ orderId, twinOrders.isCancelledDuplicate orderId = true →
      ¬ twinOrders.UnderWay orderId := by
    intro orderId h
    exact absurd h nofun
  have hsafe := dispatch_excludes_cancel (String.map Char.toLower) "store" twinOrders hdb
    cancelWhileClaiming
  exact ⟨hcancelled, fun hunder => hsafe.1 "second" ⟨hcancelled, hunder⟩⟩

/-! ### One parcel an order -/

/-- The handler is not about to write off a request that the courier accepted. -/
def SparesAccepted (w : FulfilmentWorld) : FulfilmentAction → Prop
  | .handleError i true => ∀ a : DispatchAttempt, w.attempts[i]? = some a → a.phase = .failing →
      a.accepted = false
  | _ => True

/-- **The invariant of the courier's books**: a call whose request was accepted holds its order, and
an order has at most one request, of such a call. -/
structure OneParcel (w : FulfilmentWorld) : Prop where
  sound : w.Sound
  unsent : ∀ (i : ℕ) (a : DispatchAttempt), w.attempts[i]? = some a →
    a.phase = .looked ∨ a.phase = .pending → a.accepted = false
  booked : ∀ orderId, w.accepted.count orderId = 0 ∨
    w.accepted.count orderId = 1 ∧ ∃ (i : ℕ) (a : DispatchAttempt), w.attempts[i]? = some a ∧
      a.orderId = orderId ∧ a.accepted = true ∧ a.phase.holds.isSome

namespace OneParcel

variable {w w' : FulfilmentWorld} {i : ℕ} {a : DispatchAttempt}

theorem of_attempts (h : OneParcel w) (hs : w'.Sound) (haccepted : w'.accepted = w.accepted)
    (hunsent : ∀ (j : ℕ) (b : DispatchAttempt), w'.attempts[j]? = some b →
      b.phase = .looked ∨ b.phase = .pending → b.accepted = false)
    (hkept : ∀ (j : ℕ) (b : DispatchAttempt), w.attempts[j]? = some b → b.accepted = true →
      b.phase.holds.isSome → ∃ b' : DispatchAttempt, w'.attempts[j]? = some b' ∧
        b'.orderId = b.orderId ∧ b'.accepted = true ∧ b'.phase.holds.isSome) :
    OneParcel w' := by
  refine ⟨hs, hunsent, fun orderId => ?_⟩
  rw [haccepted]
  rcases h.booked orderId with hzero | ⟨hone, j, b, hb, rfl, hbacc, hbh⟩
  · exact Or.inl hzero
  · obtain ⟨b', hb', horder, hacc, hholds⟩ := hkept j b hb hbacc hbh
    exact Or.inr ⟨hone, j, b', hb', horder, hacc, hholds⟩

theorem moved (h : OneParcel w) (ha : w.attempts[i]? = some a) (hs : w'.Sound)
    (haccepted : w'.accepted = w.accepted) (hattempts : w'.attempts = (w.setPhase i phase).attempts)
    (hunsent : phase = .looked ∨ phase = .pending → a.accepted = false)
    (hkept : a.accepted = true → a.phase.holds.isSome → phase.holds.isSome) : OneParcel w' := by
  refine h.of_attempts hs haccepted (fun j b hb hphase => ?_) fun j b hb hbacc hbh => ?_
  · rw [hattempts] at hb
    rcases setPhase_cases ha hb with ⟨_, rfl⟩ | ⟨_, hold⟩
    · exact hunsent hphase
    · exact h.unsent j b hold hphase
  · rw [hattempts, setPhase_get, hb]
    by_cases hij : i = j
    · subst hij
      rw [ha] at hb
      obtain rfl := Option.some.inj hb
      exact ⟨{ a with phase }, by rw [Option.map_some, if_pos rfl], rfl, hbacc, hkept hbacc hbh⟩
    · exact ⟨b, by rw [Option.map_some, if_neg hij], rfl, hbacc, hbh⟩

theorem accepted (h : OneParcel w) (ha : w.attempts[i]? = some a) (hpending : a.phase = .pending)
    (hs : ((w.accept i a.orderId).setPhase i phase).Sound)
    (hphase : phase ≠ .looked ∧ phase ≠ .pending) (hholds : phase.holds.isSome) :
    OneParcel ((w.accept i a.orderId).setPhase i phase) := by
  have hget : ∀ j : ℕ, ((w.accept i a.orderId).setPhase i phase).attempts[j]? =
      if i = j then some { a with phase, accepted := true } else w.attempts[j]? := by
    intro j
    rw [setPhase_get]
    simp only [FulfilmentWorld.accept, List.getElem?_modify]
    by_cases hij : i = j
    · subst hij
      simp [ha]
    · cases w.attempts[j]? with
      | none => simp [hij]
      | some b => simp [hij]
  have hunsent : a.accepted = false := h.unsent i a ha (Or.inr hpending)
  refine ⟨hs, fun j b hb hlow => ?_, fun orderId => ?_⟩
  · rw [hget] at hb
    split at hb
    · obtain rfl := Option.some.inj hb
      rcases hlow with hlow | hlow
      · exact absurd hlow hphase.1
      · exact absurd hlow hphase.2
    · exact h.unsent j b hb hlow
  · have hcount : ((w.accept i a.orderId).setPhase i phase).accepted.count orderId =
        w.accepted.count orderId + if a.orderId = orderId then 1 else 0 := by
      simp [FulfilmentWorld.setPhase, FulfilmentWorld.accept, List.count_cons]
    rw [hcount]
    by_cases horder : a.orderId = orderId
    · subst horder
      rw [if_pos rfl]
      rcases h.booked a.orderId with hzero | ⟨_, j, b, hb, hbo, hbacc, hbh⟩
      · exact Or.inr ⟨by rw [hzero], i, _, (hget i).trans (if_pos rfl), rfl, rfl, hholds⟩
      · have hij : j = i := h.sound.unique j i b a hb ha hbh (by rw [hpending]; rfl) hbo
        subst hij
        rw [ha] at hb
        obtain rfl := Option.some.inj hb
        rw [hunsent] at hbacc
        cases hbacc
    · rw [if_neg horder, Nat.add_zero]
      rcases h.booked orderId with hzero | ⟨hone, j, b, hb, hbo, hbacc, hbh⟩
      · exact Or.inl hzero
      · refine Or.inr ⟨hone, j, b, (hget j).trans ((if_neg ?_).trans hb), hbo, hbacc, hbh⟩
        rintro rfl
        rw [ha] at hb
        obtain rfl := Option.some.inj hb
        exact horder hbo

theorem step {toLowerCase : String → String} (h : OneParcel w) (action : FulfilmentAction)
    (hspares : SparesAccepted w action) : OneParcel (action.step toLowerCase storeId w) := by
  have hs : (action.step toLowerCase storeId w).Sound := h.sound.step action
  have hquiet : ∀ w' : FulfilmentWorld, w'.Sound → w'.accepted = w.accepted →
      w'.attempts = w.attempts → OneParcel w' := fun w' hw' hacc hatt =>
    h.of_attempts hw' hacc (fun j b hb => h.unsent j b (hatt ▸ hb))
      fun j b hb hbacc hbh => ⟨b, hatt ▸ hb, rfl, hbacc, hbh⟩
  generalize hw' : action.step toLowerCase storeId w = w' at hs ⊢
  cases action with
  | dispatchOrder orderId provider dispatchable =>
    rw [FulfilmentAction.step] at hw'
    split at hw'
    · exact hw' ▸ h
    · split at hw'
      · subst hw'
        refine h.of_attempts hs rfl (fun j b hb hlow => ?_) fun j b hb hbacc hbh =>
          ⟨b, ?_, rfl, hbacc, hbh⟩
        · rcases getElem?_append_cases hb with hold | hnew
          · exact h.unsent j b hold hlow
          · rw [List.mem_singleton.1 hnew]
        · exact (List.getElem?_append_left (List.getElem?_eq_some_iff.1 hb).1).trans hb
      · exact hw' ▸ h
  | claim i =>
    rw [FulfilmentAction.step] at hw'
    split at hw'
    · rename_i ha
      split at hw'
      · subst hw'
        exact h.moved ha hs rfl rfl (by rintro (hp | hp) <;> cases hp) fun _ hh => nomatch hh
      · subst hw'
        exact hquiet _ hs rfl rfl
    · exact hw' ▸ h
  | writeClaim =>
    rw [FulfilmentAction.step] at hw'
    split at hw'
    · rename_i i current hlock
      obtain ⟨a, ha, hlooked, _⟩ := h.sound.lock _ hlock
      have hunsent := h.unsent i a ha (Or.inl hlooked)
      have hfresh : a.accepted = true → a.phase.holds.isSome → ∀ p : Prop, p := by
        rw [hunsent]
        exact fun hacc => nomatch hacc
      rw [ha] at hw'
      dsimp only at hw'
      split at hw'
      · subst hw'
        exact h.moved ha hs rfl rfl (fun _ => hunsent) fun hacc hh => hfresh hacc hh _
      · subst hw'
        exact h.moved ha hs rfl rfl (fun _ => hunsent) fun _ _ => rfl
    · exact hw' ▸ h
  | rollback =>
    rw [FulfilmentAction.step] at hw'
    split at hw'
    · rename_i i current hlock
      obtain ⟨a, ha, hlooked, _⟩ := h.sound.lock _ hlock
      have hunsent := h.unsent i a ha (Or.inl hlooked)
      subst hw'
      exact h.moved ha hs rfl rfl (fun _ => hunsent) fun hacc => by simp [hunsent] at hacc
    · subst hw'
      exact hquiet _ hs rfl rfl
  | notSent i =>
    rw [FulfilmentAction.step] at hw'
    split at hw'
    · rename_i ha
      subst hw'
      exact h.moved ha hs rfl rfl (by rintro (hp | hp) <;> cases hp) fun _ _ => rfl
    · exact hw' ▸ h
  | request i reply stored =>
    rw [FulfilmentAction.step] at hw'
    split at hw'
    · rename_i orderId provider accepted ha
      split at hw'
      · subst hw'
        exact h.moved ha hs rfl rfl (by rintro (hp | hp) <;> cases hp) fun _ _ => rfl
      · rename_i response
        subst hw'
        refine h.accepted ha rfl hs ?_ ?_
        · cases response with
          | none => exact ⟨nofun, nofun⟩
          | some body => cases stored <;> exact ⟨nofun, nofun⟩
        · cases response with
          | none => rfl
          | some body => cases stored <;> rfl
    · exact hw' ▸ h
  | record i written =>
    rw [FulfilmentAction.step] at hw'
    split at hw'
    · rename_i ha
      split at hw'
      · subst hw'
        exact h.moved ha hs rfl rfl (by rintro (hp | hp) <;> cases hp) fun _ _ => rfl
      · split at hw'
        · subst hw'
          exact h.moved ha hs rfl rfl (by rintro (hp | hp) <;> cases hp) fun _ _ => rfl
        · subst hw'
          exact h.moved ha hs rfl rfl (by rintro (hp | hp) <;> cases hp) fun _ _ => rfl
    · exact hw' ▸ h
  | handleError i written =>
    rw [FulfilmentAction.step] at hw'
    split at hw'
    · rename_i ha
      split at hw'
      · rename_i hwritten
        subst hw' hwritten
        -- the request was not accepted, or the step would not spare it
        have hunsent := hspares _ ha rfl
        exact h.moved ha hs rfl rfl (by rintro (hp | hp) <;> cases hp) fun hacc =>
          absurd (hunsent.symm.trans hacc) nofun
      · subst hw'
        exact h.moved ha hs rfl rfl (by rintro (hp | hp) <;> cases hp) fun _ _ => rfl
    · exact hw' ▸ h
  | cancel userId now orderIds =>
    rw [FulfilmentAction.step] at hw'
    split at hw'
    · exact hw' ▸ h
    · split at hw'
      · exact hw' ▸ h
      · subst hw'
        exact hquiet _ hs rfl rfl
  | cancelOrder =>
    rw [FulfilmentAction.step] at hw'
    split at hw'
    · split at hw'
      · subst hw'
        exact hquiet _ hs rfl rfl
      · subst hw'
        exact hquiet _ hs rfl rfl
    · exact hw' ▸ h
  | commitCancel =>
    rw [FulfilmentAction.step] at hw'
    split at hw'
    · subst hw'
      exact hquiet _ hs rfl rfl
    · exact hw' ▸ h

end OneParcel

/-- **One parcel an order.**  As long as the handler writes off no dispatch whose create request the
courier accepted, the courier has accepted at most one request of every order, whatever else goes
wrong. -/
theorem one_parcel_per_order (toLowerCase : String → String) (storeId : String)
    (db : FulfilmentDb)
    (hdb : ∀ orderId, db.isCancelledDuplicate orderId = true → ¬ db.UnderWay orderId)
    (actions : List FulfilmentAction)
    (hspares : Machine.Along (FulfilmentAction.step toLowerCase storeId) SparesAccepted { db }
      actions) (orderId : String) :
    (Machine.run (FulfilmentAction.step toLowerCase storeId) { db } actions).accepted.count
      orderId ≤ 1 := by
  have hstart : OneParcel { db } :=
    ⟨sound_start hdb, fun _ _ ha => by simp at ha, fun _ => Or.inl rfl⟩
  have h := Machine.run_keeps_along (fun _ action hw hp => hw.step action hp) hstart hspares
  rcases h.booked orderId with hzero | ⟨hone, _⟩
  · rw [hzero]
    exact Nat.zero_le 1
  · exact hone.le

def goodAnswer : List FulfilmentAction :=
  [.dispatchOrder "first" "SENDIT" true, .claim 0, .writeClaim,
    .request 0 (.accepted (some (.object [("code", .string "T-1")]))) true, .record 0 true]

theorem one_parcel_per_order_goodAnswer :
    (Machine.run (FulfilmentAction.step id "store") { db := twinOrders } goodAnswer).accepted.count
      "first" ≤ 1 := by
  refine one_parcel_per_order id "store" twinOrders (fun _ h => absurd h nofun) goodAnswer ?_
    "first"
  exact ⟨trivial, trivial, trivial, trivial, trivial, trivial⟩

/-- Twice the same: the courier accepts the request, and its answer has no tracking number. -/
def answersWithoutTracking : List FulfilmentAction :=
  [.dispatchOrder "first" "SENDIT" true, .claim 0, .writeClaim,
    .request 0 (.accepted (some (.object []))) true, .record 0 true, .handleError 0 true,
    .dispatchOrder "first" "SENDIT" true, .claim 1, .writeClaim,
    .request 1 (.accepted (some (.object []))) true]

/-- **Two parcels of one order**: an answer without a tracking number opens the order again. -/
theorem two_parcels :
    ¬ ∀ (toLowerCase : String → String) (storeId : String) (db : FulfilmentDb),
      (∀ orderId, db.isCancelledDuplicate orderId = true → ¬ db.UnderWay orderId) →
      ∀ (actions : List FulfilmentAction) (orderId : String),
        (Machine.run (FulfilmentAction.step toLowerCase storeId) { db } actions).accepted.count
          orderId ≤ 1 := by
  intro h
  have hone := h id "store" twinOrders (fun _ h => absurd h nofun) answersWithoutTracking "first"
  revert hone
  decide +kernel

end Zomaal
