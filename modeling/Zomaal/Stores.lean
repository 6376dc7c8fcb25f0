/-
**The stores of an owner, and the active one.**

`StoreAccess.require` answers which store the owner acts on; where `activeStoreId` is no store of
the owner, it falls back to the oldest store and writes that down.  Every read and every write is a
step of its own; only the creation of a store and its removal are transactions, and removals hold
the owner's row.  This module embeds `create`, `select` and `remove` of `stores.service.ts`,
`assertCanCreateStore` of `subscription.service.ts` and `require` of `store-access.service.ts`, for
an owner who is not a staff member.

Main results:

* `Stores.storesSound` — **runs are sound exactly if creations and repairs are timely**;
* `Stores.storesSound_raced` — two creations at once, and a repair after a selection.
-/

import Mathlib.Data.List.Perm.Subperm
import Mathlib.Data.List.Sort
import Mathlib.Order.Nat
import Zomaal.MachineRun
import Zomaal.ThreadPool

set_option autoImplicit false

namespace Zomaal.Stores

/-! ### An owner -/

structure StoreRow where
  id : String
  createdAt : ℤ

/-- The stores of an owner and the active one. The last three fields are read by nothing: all stores
ever, the store chosen last until it is removed, and the number of choices. -/
structure Owner where
  stores : List StoreRow
  activeStoreId : Option String
  everOwned : List String
  chosen : Option String := none
  choices : ℕ := 0

def Owner.ids (owner : Owner) : List String := owner.stores.map StoreRow.id

/-- `orderBy: { createdAt: 'asc' }`. -/
def byCreatedAt (stores : List StoreRow) : List StoreRow :=
  stores.insertionSort fun store other => store.createdAt ≤ other.createdAt

inductive StoreError
  | notFound (message : String)
  | badRequest (message : String)
  | forbidden (message : String)
  | database

def upgradeMessage (maxStores : ℕ) : String :=
  "Your plan allows " ++ toString maxStores ++ " store" ++ (if maxStores = 1 then "" else "s") ++
    ". Upgrade to add more businesses."

/-- The transaction of `create`. -/
def Owner.createStore (owner : Owner) (uuid : String) (createdAt : ℤ) : Owner where
  stores := owner.stores ++ [{ id := uuid, createdAt }]
  activeStoreId := some uuid
  everOwned := uuid :: owner.everOwned
  chosen := some uuid
  choices := owner.choices + 1

def Owner.selectStore (owner : Owner) (storeId : String) : Owner :=
  { owner with
    activeStoreId := some storeId
    chosen := some storeId
    choices := owner.choices + 1 }

/-- The transaction of `remove`.  Deleting a store that is active sets `activeStoreId` to null. -/
def Owner.removeStore (owner : Owner) (storeId : String) : Except StoreError Owner :=
  if owner.stores.length ≤ 1 then
    .error (.badRequest "Cannot delete your only store; use Delete Account instead")
  else if storeId ∉ owner.ids then .error (.notFound "Store not found")
  else
    let stores := owner.stores.filter fun store => store.id ≠ storeId
    let activeStoreId := if owner.activeStoreId = some storeId then none else owner.activeStoreId
    .ok
      { owner with
        stores
        activeStoreId :=
          if activeStoreId = none ∨ activeStoreId = some storeId then
            (byCreatedAt stores).head?.map StoreRow.id
          else activeStoreId
        chosen := if owner.chosen = some storeId then none else owner.chosen }

/-! ### Calls -/

/-- The statement that a call of `create`, `select`, `remove` or `require` comes to next.  A call of
`require` remembers how many choices there were when it read the owner's row. -/
inductive Phase
  | counting
  | checking (storeCount : ℕ)
  | creating
  | startingTrial
  | findingToSelect (storeId : String)
  | selecting (storeId : String)
  | findingToRemove (storeId : String)
  | removing (storeId : String)
  | readingUser
  | readingStores (activeStoreId : Option String) (seen : ℕ)
  | repairing (storeId : String) (seen : ℕ)
  | required (storeId : String)
  | done
  | failed (error : StoreError)

inductive Request
  | create
  | select (storeId : String)
  | remove (storeId : String)
  | require

def Request.start : Request → Phase
  | .create => .counting
  | .select storeId => .findingToSelect storeId
  | .remove storeId => .findingToRemove storeId
  | .require => .readingUser

-- the limit of the plan; `none` is no limit
variable (maxStores : Option ℕ)

def Phase.turn (uuid : String) (createdAt : ℤ) (owner : Owner) : Phase → Owner × Phase
  | .counting =>
    (owner, if owner.stores.length = 0 then .creating else .checking owner.stores.length)
  | .checking storeCount =>
    match maxStores with
    | none => (owner, .creating)
    | some maxStores =>
      (owner,
        if maxStores ≤ storeCount then .failed (.forbidden (upgradeMessage maxStores))
        else .creating)
  | .creating =>
    if uuid ∈ owner.ids then (owner, .failed .database)
    else (owner.createStore uuid createdAt, .startingTrial)
  | .startingTrial => (owner, .done)
  | .findingToSelect storeId =>
    (owner,
      if storeId ∈ owner.ids then .selecting storeId else .failed (.notFound "Store not found"))
  | .selecting storeId =>
    -- the active store refers to a store that is there
    if storeId ∈ owner.ids then (owner.selectStore storeId, .done) else (owner, .failed .database)
  | .findingToRemove storeId =>
    (owner,
      if storeId ∈ owner.ids then .removing storeId else .failed (.notFound "Store not found"))
  | .removing storeId =>
    match owner.removeStore storeId with
    | .ok owner => (owner, .done)
    | .error error => (owner, .failed error)
  | .readingUser => (owner, .readingStores owner.activeStoreId owner.choices)
  | .readingStores activeStoreId seen =>
    (owner,
      match ((byCreatedAt owner.stores).find? fun store => some store.id = activeStoreId).or
          (byCreatedAt owner.stores).head? with
      | none => .failed (.notFound "Store not found")
      | some active =>
        if activeStoreId ≠ some active.id then .repairing active.id seen
        else .required active.id)
  | .repairing storeId _ =>
    if storeId ∈ owner.ids then ({ owner with activeStoreId := some storeId }, .required storeId)
    else (owner, .failed .database)
  | .required storeId => (owner, .required storeId)
  | .done => (owner, .done)
  | .failed error => (owner, .failed error)

/-! ### Runs -/

inductive Action
  | start (request : Request)
  | turn (i : ℕ) (uuid : String) (createdAt : ℤ)
  | abort (i : ℕ)

abbrev Pool := ThreadPool Owner Phase

def step (w : Pool) : Action → Pool
  | .start request => w.spawn request.start
  | .turn i uuid createdAt =>
    match w.threads[i]? with
    | none => w
    | some phase =>
      let turn := phase.turn maxStores uuid createdAt w.shared
      w.move i turn.1 turn.2
  | .abort i =>
    match w.threads[i]? with
    | none => w
    | some _ => w.move i w.shared (.failed .database)

variable (startCount : ℕ)

/-- The stores are within the limit, unless they were not at the start. -/
def Within (owner : Owner) : Prop :=
  ∀ limit, maxStores = some limit → startCount ≤ limit → owner.stores.length ≤ limit

def ChosenActive (owner : Owner) : Prop :=
  ∀ storeId, owner.chosen = some storeId → owner.activeStoreId = some storeId

/-- **What is expected of every state**: an owner who had a store has one, there are no more than
the plan allows unless at the start, `require` answers the owner's stores, and the store chosen last
is active unless removed. -/
structure Sound (w : Pool) : Prop where
  nonempty : w.shared.everOwned ≠ [] → w.shared.stores ≠ []
  within : Within maxStores startCount w.shared
  returned : ∀ storeId, Phase.required storeId ∈ w.threads → storeId ∈ w.shared.everOwned
  active : ChosenActive w.shared

/-- A store is created while there are fewer than the plan allows; and when `require` repairs the
active store, no other store that is still there was created or selected since it read the owner's
row. -/
def Timely (w : Pool) : Action → Prop
  | .turn i uuid _ =>
    match w.threads[i]? with
    | some .creating =>
      uuid ∉ w.shared.ids → ∀ limit, maxStores = some limit → startCount ≤ limit →
        w.shared.stores.length < limit
    | some (.repairing storeId seen) =>
      storeId ∈ w.shared.ids → w.shared.choices = seen ∨ w.shared.chosen = none ∨
        w.shared.chosen = some storeId
    | _ => True
  | _ => True

structure Owner.WellFormed (owner : Owner) : Prop where
  ids : owner.ids.Nodup
  active : ∀ storeId, owner.activeStoreId = some storeId → storeId ∈ owner.ids
  owned : ∀ storeId ∈ owner.ids, storeId ∈ owner.everOwned
  nonempty : owner.everOwned ≠ [] → owner.stores ≠ []
  chosen : ∀ storeId, owner.chosen = some storeId → storeId ∈ owner.ids

structure Start where
  owner : Owner
  wellFormed : owner.WellFormed
  unchosen : owner.chosen = none

/-! ### What the statements keep -/

variable {maxStores} {owner : Owner}

theorem mem_byCreatedAt {stores : List StoreRow} {store : StoreRow} :
    store ∈ byCreatedAt stores ↔ store ∈ stores := List.mem_insertionSort _

theorem Owner.WellFormed.created (h : owner.WellFormed) {uuid : String} (hfresh : uuid ∉ owner.ids)
    (createdAt : ℤ) : (owner.createStore uuid createdAt).WellFormed := by
  have hids : (owner.createStore uuid createdAt).ids = owner.ids ++ [uuid] := List.map_append
  have hnew : uuid ∈ owner.ids ++ [uuid] := List.mem_append_right _ (List.mem_singleton_self _)
  refine ⟨?_, ?_, ?_, ?_, ?_⟩
  · rw [hids]
    exact h.ids.append (List.nodup_singleton _) (List.disjoint_singleton.2 hfresh)
  · rintro _ ⟨⟩
    rwa [hids]
  · intro storeId hmem
    rw [hids] at hmem
    rcases List.mem_append.1 hmem with hold | hnew
    · exact List.mem_cons_of_mem _ (h.owned storeId hold)
    · exact List.mem_singleton.1 hnew ▸ List.mem_cons_self
  · exact fun _ hnil => List.append_ne_nil_of_right_ne_nil _ (List.cons_ne_nil _ _) hnil
  · rintro _ ⟨⟩
    rwa [hids]

variable {storeId : String}

theorem Owner.WellFormed.selected (h : owner.WellFormed) (hstore : storeId ∈ owner.ids) :
    (owner.selectStore storeId).WellFormed where
  ids := h.ids
  active := by
    rintro _ ⟨⟩
    exact hstore
  owned := h.owned
  nonempty := h.nonempty
  chosen := by
    rintro _ ⟨⟩
    exact hstore

theorem Owner.WellFormed.repaired (h : owner.WellFormed) (hstore : storeId ∈ owner.ids) :
    { owner with activeStoreId := some storeId }.WellFormed :=
  { h with
    active := by
      rintro _ ⟨⟩
      exact hstore }

variable {owner' : Owner}

theorem removeStore_ok (h : owner.removeStore storeId = .ok owner') :
    1 < owner.stores.length ∧
      owner'.stores = owner.stores.filter (fun store => store.id ≠ storeId) ∧
      owner'.everOwned = owner.everOwned ∧ owner'.choices = owner.choices ∧
      owner'.chosen = (if owner.chosen = some storeId then none else owner.chosen) ∧
      (owner'.activeStoreId = owner.activeStoreId ∧ owner.activeStoreId ≠ some storeId ∨
        (owner.activeStoreId = none ∨ owner.activeStoreId = some storeId) ∧
          owner'.activeStoreId = (byCreatedAt owner'.stores).head?.map StoreRow.id) := by
  rw [Owner.removeStore] at h
  split at h
  · cases h
  · rename_i hmany
    split at h
    · cases h
    · obtain rfl := Except.ok.inj h
      refine ⟨Nat.lt_of_not_le hmany, rfl, rfl, rfl, rfl, ?_⟩
      dsimp only
      by_cases hactive : owner.activeStoreId = some storeId
      · exact .inr ⟨.inr hactive, by simp [hactive]⟩
      · by_cases hnone : owner.activeStoreId = none
        · exact .inr ⟨.inl hnone, by simp [hnone]⟩
        · exact .inl ⟨by simp [hactive, hnone], hactive⟩

theorem mem_ids_filter {stores : List StoreRow} {other : String} :
    other ∈ (stores.filter fun store => store.id ≠ storeId).map StoreRow.id ↔
      other ∈ stores.map StoreRow.id ∧ other ≠ storeId := by
  simp only [List.mem_map, List.mem_filter, decide_eq_true_eq]
  constructor
  · rintro ⟨store, ⟨hstore, hne⟩, rfl⟩
    exact ⟨⟨store, hstore, rfl⟩, hne⟩
  · rintro ⟨⟨store, hstore, rfl⟩, hne⟩
    exact ⟨store, ⟨hstore, hne⟩, rfl⟩

theorem Owner.WellFormed.removed (h : owner.WellFormed)
    (hremoved : owner.removeStore storeId = .ok owner') : owner'.WellFormed := by
  obtain ⟨hmany, hstores, hever, -, hchosen, hactive⟩ := removeStore_ok hremoved
  have hmem : ∀ other, other ∈ owner'.ids ↔ other ∈ owner.ids ∧ other ≠ storeId := by
    intro other
    rw [Owner.ids, hstores]
    exact mem_ids_filter
  refine ⟨?_, ?_, ?_, ?_, ?_⟩
  · rw [Owner.ids, hstores]
    exact h.ids.sublist (List.filter_sublist.map _)
  · intro other hother
    rcases hactive with ⟨hsame, hne⟩ | ⟨-, hnext⟩
    · rw [hsame] at hother
      refine (hmem other).2 ⟨h.active other hother, ?_⟩
      rintro rfl
      exact hne hother
    · rw [hnext, Option.map_eq_some_iff] at hother
      obtain ⟨store, hstore, rfl⟩ := hother
      exact List.mem_map_of_mem (mem_byCreatedAt.1 (List.mem_of_head? hstore))
  · intro other hother
    rw [hever]
    exact h.owned other ((hmem other).1 hother).1
  · -- of two stores with different ids, one is left
    intro _ hnil
    have hleft : owner.stores.filter (fun store => store.id ≠ storeId) = [] := by
      rw [← hstores, hnil]
    have hall : ∀ id ∈ owner.ids, id = storeId := by
      intro id hid
      by_contra hne
      have hmem' := mem_ids_filter.2 ⟨hid, hne⟩
      rw [hleft] at hmem'
      cases hmem'
    have hlength : owner.ids.length ≤ 1 := by
      have hsub : owner.ids.Subperm [storeId] :=
        h.ids.subperm fun id hid => List.mem_singleton.2 (hall id hid)
      exact hsub.length_le
    rw [Owner.ids, List.length_map] at hlength
    exact absurd hmany (Nat.not_lt.2 hlength)
  · intro other hother
    rw [hchosen] at hother
    split at hother
    · cases hother
    · rename_i hne
      refine (hmem other).2 ⟨h.chosen other hother, ?_⟩
      rintro rfl
      exact hne hother

/-! ### What a call knows -/

/-- A store that `require` answers, or is about to, was the owner's; and if nothing was chosen since
it read the owner's row, the store it read is the one chosen, or no store is chosen any more. -/
def Knows (owner : Owner) : Phase → Prop
  | .readingStores activeStoreId seen =>
    seen ≤ owner.choices ∧ (owner.choices = seen →
      ∀ storeId, owner.chosen = some storeId → activeStoreId = some storeId)
  | .repairing storeId seen =>
    storeId ∈ owner.everOwned ∧ seen ≤ owner.choices ∧
      (owner.choices = seen → owner.chosen = none)
  | .required storeId => storeId ∈ owner.everOwned
  | _ => True

/-- What a statement changes that others may know about: it forgets no store, and what is chosen is
chosen anew, or stays, or is removed. -/
structure Onward (owner owner' : Owner) : Prop where
  owned : ∀ storeId ∈ owner.everOwned, storeId ∈ owner'.everOwned
  choices : owner.choices ≤ owner'.choices
  chosen : owner'.choices = owner.choices → ∀ storeId, owner'.chosen = some storeId →
    owner.chosen = some storeId

theorem Onward.refl (owner : Owner) : Onward owner owner :=
  ⟨fun _ h => h, le_rfl, fun _ _ h => h⟩

theorem Knows.onward {phase : Phase} (h : Knows owner phase) (honward : Onward owner owner') :
    Knows owner' phase := by
  cases phase with
  | readingStores activeStoreId seen =>
    refine ⟨h.1.trans honward.choices, fun hseen storeId hchosen => ?_⟩
    have hsame : owner.choices = seen := le_antisymm (honward.choices.trans hseen.le) h.1
    exact h.2 hsame storeId (honward.chosen (hseen.trans hsame.symm) storeId hchosen)
  | repairing storeId seen =>
    refine ⟨honward.owned storeId h.1, h.2.1.trans honward.choices, fun hseen => ?_⟩
    have hsame : owner.choices = seen := le_antisymm (honward.choices.trans hseen.le) h.2.1
    refine Option.eq_none_iff_forall_ne_some.2 fun other hother => ?_
    have hbefore := honward.chosen (hseen.trans hsame.symm) other hother
    rw [h.2.2 hsame] at hbefore
    cases hbefore
  | required storeId => exact honward.owned storeId h
  | _ => exact trivial

/-- **A turn** keeps the owner well formed, goes onward, and what the call knows is so. -/
theorem turn_spec (hwell : owner.WellFormed) (hchosen : ChosenActive owner) {phase : Phase}
    (h : Knows owner phase) (uuid : String) (createdAt : ℤ) :
    (phase.turn maxStores uuid createdAt owner).1.WellFormed ∧
      Onward owner (phase.turn maxStores uuid createdAt owner).1 ∧
      Knows (phase.turn maxStores uuid createdAt owner).1
        (phase.turn maxStores uuid createdAt owner).2 := by
  have hsame : ∀ phase', Knows owner phase' →
      owner.WellFormed ∧ Onward owner owner ∧ Knows owner phase' :=
    fun phase' hphase' => ⟨hwell, .refl owner, hphase'⟩
  rw [Phase.turn.eq_def]
  cases phase with
  | counting =>
    dsimp only
    split <;> exact hsame _ trivial
  | checking storeCount =>
    cases maxStores with
    | none => exact hsame _ trivial
    | some limit =>
      dsimp only
      split <;> exact hsame _ trivial
  | creating =>
    dsimp only
    split
    · exact hsame _ trivial
    · rename_i hfresh
      refine ⟨hwell.created hfresh createdAt, ⟨?_, Nat.le_succ _, ?_⟩, trivial⟩
      · exact fun storeId hstore => List.mem_cons_of_mem _ hstore
      · exact fun hcount => absurd hcount (Nat.succ_ne_self _)
  | startingTrial => exact hsame _ trivial
  | findingToSelect storeId =>
    dsimp only
    split <;> exact hsame _ trivial
  | selecting storeId =>
    dsimp only
    split
    · rename_i hstore
      refine ⟨hwell.selected hstore, ⟨fun _ h => h, Nat.le_succ _, ?_⟩, trivial⟩
      exact fun hcount => absurd hcount (Nat.succ_ne_self _)
    · exact hsame _ trivial
  | findingToRemove storeId =>
    dsimp only
    split <;> exact hsame _ trivial
  | removing storeId =>
    dsimp only
    cases hremoved : owner.removeStore storeId with
    | error error => exact hsame _ trivial
    | ok owner' =>
      obtain ⟨-, -, hever, hcount, hchosen', -⟩ := removeStore_ok hremoved
      refine ⟨hwell.removed hremoved, ⟨fun _ h => hever ▸ h, hcount.ge, ?_⟩, trivial⟩
      intro _ other hother
      rw [hchosen'] at hother
      split at hother
      · cases hother
      · exact hother
  | readingUser => exact hsame _ ⟨le_rfl, fun _ => hchosen⟩
  | readingStores activeStoreId seen =>
    dsimp only
    cases hfind :
      (byCreatedAt owner.stores).find? (fun store => some store.id = activeStoreId) with
    | some active =>
      have hactive : some active.id = activeStoreId := by simpa using List.find?_some hfind
      have hmem : active ∈ owner.stores :=
        mem_byCreatedAt.1 (List.mem_of_find?_eq_some hfind)
      rw [Option.some_or, ← hactive]
      dsimp only
      rw [if_neg (not_not.2 rfl)]
      exact hsame _ (hwell.owned _ (List.mem_map_of_mem hmem))
    | none =>
      rw [Option.none_or]
      cases hhead : (byCreatedAt owner.stores).head? with
      | none => exact hsame _ trivial
      | some active =>
        have howned : active.id ∈ owner.everOwned :=
          hwell.owned _ (List.mem_map_of_mem (mem_byCreatedAt.1 (List.mem_of_head? hhead)))
        dsimp only
        split
        · -- the store it read is gone, so none is chosen unless one was chosen since
          refine hsame _ ⟨howned, h.1, fun hseen => ?_⟩
          refine Option.eq_none_iff_forall_ne_some.2 fun other hother => ?_
          obtain ⟨store, hstore, hid⟩ := List.mem_map.1 (hwell.chosen other hother)
          have hnone := List.find?_eq_none.1 hfind store (mem_byCreatedAt.2 hstore)
          rw [h.2 hseen other hother, hid] at hnone
          exact hnone (decide_eq_true rfl)
        · exact hsame _ howned
  | repairing storeId seen =>
    dsimp only
    split
    · rename_i hstore
      exact ⟨hwell.repaired hstore, ⟨fun _ h => h, le_rfl, fun _ _ h => h⟩, h.1⟩
    · exact hsame _ trivial
  | required storeId => exact hsame _ h
  | done => exact hsame _ trivial
  | failed error => exact hsame _ trivial

/-! ### Runs -/

abbrev Inv : Pool → Prop := ThreadPool.Inv Owner.WellFormed Knows fun _ _ => True

variable {w : Pool}

/-- **A step keeps the invariant**, from a state in which the chosen store is active. -/
theorem Inv.step (h : Inv w) (hchosen : ChosenActive w.shared) (action : Action) :
    Inv (step maxStores w action) := by
  cases action with
  | start request =>
    refine h.spawn (fun _ _ _ => trivial) ?_ fun _ _ => trivial
    cases request <;> exact trivial
  | turn i uuid createdAt =>
    simp only [Stores.step]
    cases hphase : w.threads[i]? with
    | none => exact h
    | some phase =>
      obtain ⟨hwell, honward, hknows⟩ := @turn_spec maxStores _ h.shared hchosen _
        (h.thread i phase hphase) uuid createdAt
      exact h.move (fun _ _ _ => trivial) hphase hwell hknows
        fun _ _ hother _ => ⟨hother.onward honward, trivial⟩
  | abort i =>
    simp only [Stores.step]
    cases hphase : w.threads[i]? with
    | none => exact h
    | some phase =>
      exact h.move (fun _ _ _ => trivial) hphase h.shared trivial
        fun _ _ hother _ => ⟨hother, trivial⟩

theorem Inv.sound_iff (h : Inv w) {startCount : ℕ} :
    Sound maxStores startCount w ↔
      Within maxStores startCount w.shared ∧ ChosenActive w.shared := by
  refine ⟨fun hsound => ⟨hsound.within, hsound.active⟩, fun hboth => ?_⟩
  refine ⟨h.shared.nonempty, hboth.1, fun storeId hmem => ?_, hboth.2⟩
  obtain ⟨i, hi⟩ := List.mem_iff_getElem?.1 hmem
  exact h.thread i _ hi

theorem Inv.step_iff {startCount : ℕ} (h : Inv w) (hwithin : Within maxStores startCount w.shared)
    (hchosen : ChosenActive w.shared) (action : Action) :
    Within maxStores startCount (Stores.step maxStores w action).shared ∧
        ChosenActive (Stores.step maxStores w action).shared ↔
      Timely maxStores startCount w action := by
  have hidle : (Within maxStores startCount w.shared ∧ ChosenActive w.shared) ↔ True :=
    iff_true_intro ⟨hwithin, hchosen⟩
  cases action with
  | start request => exact hidle
  | abort i =>
    simp only [Stores.step, Timely]
    cases w.threads[i]? <;> exact hidle
  | turn i uuid createdAt =>
    simp only [Stores.step, Timely]
    cases hphase : w.threads[i]? with
    | none => exact hidle
    | some phase =>
      have hknows := h.thread i phase hphase
      dsimp only [ThreadPool.move]
      rw [Phase.turn.eq_def]
      cases phase with
      | checking storeCount => cases maxStores <;> exact hidle
      | creating =>
        dsimp only
        split
        · exact ⟨fun _ hfresh => absurd ‹_› hfresh, fun _ => ⟨hwithin, hchosen⟩⟩
        · rename_i hfresh
          have hlength : (w.shared.createStore uuid createdAt).stores.length =
              w.shared.stores.length + 1 := List.length_append
          constructor
          · intro hkept _ limit hlimit hstart
            have hroom := hkept.1 limit hlimit hstart
            rwa [hlength] at hroom
          · refine fun hroom => ⟨fun limit hlimit hstart => ?_, fun _ heq => heq⟩
            rw [hlength]
            exact hroom hfresh limit hlimit hstart
      | selecting storeId =>
        dsimp only
        split
        · exact iff_of_true ⟨hwithin, fun _ heq => heq⟩ trivial
        · exact hidle
      | removing storeId =>
        dsimp only
        cases hremoved : w.shared.removeStore storeId with
        | error error => exact hidle
        | ok owner' =>
          obtain ⟨-, hstores, -, -, hchosen', hactive⟩ := removeStore_ok hremoved
          refine iff_of_true ⟨fun limit hlimit hstart => ?_, fun other hother => ?_⟩ trivial
          · dsimp only
            rw [hstores]
            exact (List.length_filter_le _ _).trans (hwithin limit hlimit hstart)
          · dsimp only at hother ⊢
            rw [hchosen'] at hother
            split at hother
            · cases hother
            · rename_i hne
              have hbefore := hchosen other hother
              rcases hactive with ⟨hsame, -⟩ | ⟨hnone | hremoved, -⟩
              · rwa [hsame]
              · rw [hnone] at hbefore
                cases hbefore
              · rw [hbefore] at hremoved
                rw [hother, hremoved] at hne
                exact absurd rfl hne
      | repairing storeId seen =>
        dsimp only
        split
        · rename_i hstore
          constructor
          · intro hkept _
            cases hchoice : w.shared.chosen with
            | none => exact .inr (.inl rfl)
            | some other => exact .inr (.inr (hkept.2 other hchoice).symm)
          · intro htimely
            refine ⟨hwithin, fun other hother => ?_⟩
            dsimp only at hother
            have hnone : w.shared.chosen ≠ none := by
              rw [hother]
              exact Option.some_ne_none _
            rcases htimely hstore with hseen | hnone' | hsame
            · exact absurd (hknows.2.2 hseen) hnone
            · exact absurd hnone' hnone
            · exact hsame.symm.trans hother
        · exact ⟨fun _ hstore => absurd hstore ‹_›, fun _ => ⟨hwithin, hchosen⟩⟩
      | _ => exact hidle

theorem Start.inv (start : Start) : Inv { shared := start.owner } :=
  ThreadPool.Inv.start start.wellFormed

theorem Start.within (start : Start) :
    Within maxStores start.owner.stores.length start.owner := fun _ _ hstart => hstart

theorem Start.chosenActive (start : Start) : ChosenActive start.owner := fun storeId hchosen => by
  rw [start.unchosen] at hchosen
  cases hchosen

/-- **Stores, selection and plan limit.**  However calls of `create`, `select`, `remove` and
`require` interleave, every state reached is sound exactly if stores are created while there is room
and repairs of the active store are timely. -/
theorem storesSound (start : Start) (actions : List Action) :
    Machine.Along (step maxStores)
        (fun w action => Sound maxStores start.owner.stores.length (step maxStores w action))
        { shared := start.owner } actions ↔
      Machine.Along (step maxStores) (Timely maxStores start.owner.stores.length)
        { shared := start.owner } actions := by
  refine Machine.Along.iff_of_keeps
    (I := fun w => Inv w ∧ Within maxStores start.owner.stores.length w.shared ∧
      ChosenActive w.shared) ?_ ?_ ⟨start.inv, start.within, start.chosenActive⟩
  · exact fun w action h hsound => ⟨h.1.step h.2.2 action, hsound.within, hsound.active⟩
  · exact fun w action h =>
      (h.1.step h.2.2 action).sound_iff.trans (h.1.step_iff h.2.1 h.2.2 action)

/-! ### Two runs that are not -/

def newcomer : Start where
  owner := { stores := [], activeStoreId := none, everOwned := [] }
  wellFormed := by
    refine ⟨List.nodup_nil, ?_, ?_, fun h => absurd rfl h, ?_⟩
    · exact fun _ h => nomatch h
    · exact fun _ h => nomatch h
    · exact fun _ h => nomatch h
  unchosen := rfl

def twoCreations : List Action :=
  [.start .create, .start .create, .turn 0 "" 0, .turn 1 "" 0, .turn 0 "rabat" 1]

def undecided : Start where
  owner :=
    { stores := [{ id := "rabat", createdAt := 1 }, { id := "fes", createdAt := 2 }]
      activeStoreId := none
      everOwned := ["rabat", "fes"] }
  wellFormed := by
    refine ⟨by decide, ?_, fun _ h => h, fun _ => List.cons_ne_nil _ _, ?_⟩
    · exact fun _ h => nomatch h
    · exact fun _ h => nomatch h
  unchosen := rfl

def lateRepair : List Action :=
  [.start .require, .turn 0 "" 0, .turn 0 "" 0, .start (.select "fes"), .turn 1 "" 0,
    .turn 1 "" 0]

/-- **Two creations at once** exceed a limit of one store, and **a late repair** undoes a selection.
-/
theorem storesSound_raced :
    (¬ Machine.Along (step (some 1)) (fun w action => Sound (some 1) 0 (step (some 1) w action))
        { shared := newcomer.owner } (twoCreations ++ [.turn 1 "fes" 2])) ∧
      ¬ Machine.Along (step none) (fun w action => Sound none 2 (step none w action))
        { shared := undecided.owner } (lateRepair ++ [.turn 0 "" 0]) := by
  constructor
  · intro h
    have hsound := (Machine.Along.append.1 h).2.1
    exact absurd (hsound.within 1 rfl (by decide)) (by decide +kernel)
  · intro h
    have hsound := (Machine.Along.append.1 h).2.1
    exact absurd (hsound.active "fes" (by decide +kernel)) (by decide +kernel)

end Zomaal.Stores
