/-
**Notifications of a store.**

A notification is active as long as it has its key.  An evaluation reads which are active, raises
what holds now one by one, and resolves the rest; evaluations may overlap.  While they find the same,
the keys that are wanted only become active, and all others only cease to be.

Main results:

* `Notifications.evaluations_converge` — **overlapping evaluations raise each alert once**, and after
  the first that is done the active alerts are those that hold;
* `Notifications.badges_agree` — **the badges count what the tabs show**, and reading a tab empties it;
* `Notifications.pushed_iff_sees` — **what is pushed is what can be seen**.
-/

import Zomaal.MachineRun
import Zomaal.ThreadPool
import Mathlib.Algebra.BigOperators.Group.List.Lemmas
import Mathlib.Algebra.Order.Ring.Nat

set_option autoImplicit false

namespace Zomaal.Notifications

/-! ### The rows -/

inductive NotificationSeverity
  | critical | warning | info
  deriving DecidableEq

inductive NotificationCategory
  | inventory | staff | customers | sales | integrations | billing
  deriving DecidableEq

inductive NotificationType
  | lowStock | outOfStock | salaryOverdue | blacklistedCustomerOrder | duplicateOrders | salesDrop
  | platformDisconnected | platformSyncFailed | courierSyncFailed | trialEnding
  | subscriptionEnding | subscriptionExpired | whatsappBalanceLow | whatsappDisconnected
  deriving DecidableEq

/-- Without a permission, a notification is for the owner only. -/
structure NotificationDefinition where
  severity : NotificationSeverity
  category : NotificationCategory
  audiencePermission : Option String

def notificationDefinitions : NotificationType → NotificationDefinition
  | .lowStock => ⟨.warning, .inventory, some "products.view"⟩
  | .outOfStock => ⟨.critical, .inventory, some "products.view"⟩
  | .salaryOverdue => ⟨.warning, .staff, none⟩
  | .blacklistedCustomerOrder => ⟨.critical, .customers, some "customers.view"⟩
  | .duplicateOrders => ⟨.warning, .customers, some "customers.view"⟩
  | .salesDrop => ⟨.warning, .sales, some "analytics.view"⟩
  | .platformDisconnected => ⟨.critical, .integrations, none⟩
  | .platformSyncFailed => ⟨.warning, .integrations, none⟩
  | .courierSyncFailed => ⟨.warning, .integrations, none⟩
  | .trialEnding => ⟨.warning, .billing, none⟩
  | .subscriptionEnding => ⟨.warning, .billing, none⟩
  | .subscriptionExpired => ⟨.critical, .billing, none⟩
  | .whatsappBalanceLow => ⟨.warning, .integrations, none⟩
  | .whatsappDisconnected => ⟨.critical, .integrations, none⟩

structure RaiseNotificationInput where
  storeId : String
  type : NotificationType
  title : String
  message : Option String := none
  entityType : Option String := none
  entityId : Option String := none
  dedupeKey : String

structure Notification where
  id : ℕ
  storeId : String
  type : NotificationType
  severity : NotificationSeverity
  category : NotificationCategory
  audiencePermission : Option String
  title : String
  message : Option String
  entityType : Option String
  entityId : Option String
  dedupeKey : Option String
  resolvedAt : Option ℤ := none

/-- The row of a notification that is raised. -/
def RaiseNotificationInput.row (input : RaiseNotificationInput) (id : ℕ) : Notification where
  id := id
  storeId := input.storeId
  type := input.type
  severity := (notificationDefinitions input.type).severity
  category := (notificationDefinitions input.type).category
  audiencePermission := (notificationDefinitions input.type).audiencePermission
  title := input.title
  message := input.message
  entityType := input.entityType
  entityId := input.entityId
  dedupeKey := some input.dedupeKey

/-- The notifications in the order of creation, and which of them which users have read. -/
structure NotificationDb where
  rows : List Notification := []
  reads : List (ℕ × String) := []

namespace NotificationDb

def activeKeys (db : NotificationDb) (storeId : String) (type : NotificationType) : List String :=
  db.rows.filterMap fun n => if n.storeId = storeId ∧ n.type = type then n.dedupeKey else none

/-- `raise`; a key that is active in the store breaks the unique index. -/
def raise (db : NotificationDb) (input : RaiseNotificationInput) : Option NotificationDb :=
  if db.rows.any fun n => n.storeId = input.storeId ∧ n.dedupeKey = some input.dedupeKey then none
  else some { db with rows := db.rows ++ [input.row db.rows.length] }

def isResolved (storeId : String) (dedupeKeys : List String) (n : Notification) : Bool :=
  n.storeId = storeId && n.dedupeKey.any fun key => key ∈ dedupeKeys

def resolve (db : NotificationDb) (storeId : String) (dedupeKeys : List String) (now : ℤ) :
    NotificationDb × ℕ :=
  ({ db with
      rows := db.rows.map fun n =>
        if isResolved storeId dedupeKeys n then { n with dedupeKey := none, resolvedAt := some now }
        else n },
    db.rows.countP (isResolved storeId dedupeKeys))

end NotificationDb

/-! ### Evaluations -/

/-- How far a call of `reconcile` got: which keys it found active, what it has still to raise, and
how many it raised. -/
inductive Phase
  | finding
  | raising (active : List String) (inputs : List RaiseNotificationInput) (raised : ℕ)
  | done (raised resolved : ℕ)
  | failed

structure Reconcile where
  storeId : String
  type : NotificationType
  desired : List RaiseNotificationInput
  phase : Phase := .finding

/-- The next statement of a call. -/
def Reconcile.turn (call : Reconcile) (db : NotificationDb) (now : ℤ) :
    NotificationDb × Reconcile :=
  match call.phase with
  | .finding =>
    (db, { call with phase := .raising (db.activeKeys call.storeId call.type) call.desired 0 })
  | .raising active (input :: inputs) raised =>
    if input.dedupeKey ∈ active then (db, { call with phase := .raising active inputs raised })
    else
      match db.raise input with
      | some raisedDb => (raisedDb, { call with phase := .raising active inputs (raised + 1) })
      | none => (db, { call with phase := .raising active inputs raised })
  | .raising active [] raised =>
    let stale := active.filter fun key => key ∉ call.desired.map fun input => input.dedupeKey
    let (resolvedDb, resolved) := db.resolve call.storeId stale now
    (resolvedDb, { call with phase := .done raised resolved })
  | .done .. | .failed => (db, call)

abbrev Pool := ThreadPool NotificationDb Reconcile

/-- An evaluation reconciles a type, or has its turn, or fails; and the other modules raise and
resolve notifications of their own. -/
inductive Action
  | reconcile (storeId : String) (type : NotificationType) (desired : List RaiseNotificationInput)
  | turn (i : ℕ) (now : ℤ)
  | fail (i : ℕ)
  | raise (input : RaiseNotificationInput)
  | resolve (storeId : String) (dedupeKeys : List String) (now : ℤ)

def step (w : Pool) : Action → Pool
  | .reconcile storeId type desired => w.spawn { storeId, type, desired }
  | .turn i now =>
    match w.threads[i]? with
    | none => w
    | some call => w.move i (call.turn w.shared now).1 (call.turn w.shared now).2
  | .fail i =>
    match w.threads[i]? with
    | none => w
    | some call => w.move i w.shared { call with phase := .failed }
  | .raise input => w.write ((w.shared.raise input).getD w.shared)
  | .resolve storeId dedupeKeys now => w.write (w.shared.resolve storeId dedupeKeys now).1

/-! ### What overlapping evaluations leave -/

section Converge

/-- The keys that the evaluations want to be active. -/
def Reconcile.keys (goal : Reconcile) : List String := goal.desired.map fun input => input.dedupeKey

def Reconcile.active (goal : Reconcile) (db : NotificationDb) : List String :=
  db.activeKeys goal.storeId goal.type

/-- What was raised of the type since a start. -/
def Reconcile.created (goal : Reconcile) (start db : NotificationDb) : List Notification :=
  (db.rows.drop start.rows.length).filter fun n => n.storeId = goal.storeId ∧ n.type = goal.type

/-- Keys tell their types: they begin with them, or are like no other. -/
def NotificationDb.Keyed (typeOf : String → NotificationType) (db : NotificationDb) : Prop :=
  ∀ n ∈ db.rows, ∀ key, n.dedupeKey = some key → typeOf key = n.type

/-- **While evaluations find the same**: those of the type want the same, and the other modules leave
it alone. -/
def Steady (typeOf : String → NotificationType) (goal : Reconcile) : Action → Prop
  | .reconcile storeId type desired =>
    (∀ input ∈ desired, input.storeId = storeId ∧ input.type = type ∧
      typeOf input.dedupeKey = type) ∧
    (storeId = goal.storeId → type = goal.type → desired = goal.desired)
  | .turn .. | .fail _ => True
  | .raise input =>
    typeOf input.dedupeKey = input.type ∧ (input.storeId = goal.storeId → input.type ≠ goal.type)
  | .resolve storeId dedupeKeys _ =>
    storeId = goal.storeId → ∀ key ∈ dedupeKeys, typeOf key ≠ goal.type

variable {typeOf : String → NotificationType} {goal call : Reconcile}
  {start db db' : NotificationDb} {storeId key : String} {type : NotificationType}
  {input : RaiseNotificationInput} {dedupeKeys : List String} {now : ℤ}

theorem mem_activeKeys : key ∈ db.activeKeys storeId type ↔
    ∃ n ∈ db.rows, (n.storeId = storeId ∧ n.type = type) ∧ n.dedupeKey = some key := by
  simp only [NotificationDb.activeKeys, List.mem_filterMap, Option.ite_none_right_eq_some]

theorem mem_activeKeys_raise (h : db.raise input = some db') :
    key ∈ db'.activeKeys storeId type ↔ key ∈ db.activeKeys storeId type ∨
      (input.storeId = storeId ∧ input.type = type) ∧ input.dedupeKey = key := by
  rw [NotificationDb.raise, Option.ite_none_left_eq_some] at h
  obtain rfl := Option.some.inj h.2
  simp only [mem_activeKeys, List.mem_append, List.mem_singleton, or_and_right, exists_or,
    exists_eq_left, RaiseNotificationInput.row, Option.some.injEq]

theorem mem_activeKeys_resolve :
    key ∈ (db.resolve storeId dedupeKeys now).1.activeKeys goal.storeId type ↔
      key ∈ db.activeKeys goal.storeId type ∧
        ¬ (goal.storeId = storeId ∧ key ∈ dedupeKeys) := by
  simp only [mem_activeKeys, NotificationDb.resolve, List.mem_map]
  constructor
  · rintro ⟨_, ⟨n, hn, rfl⟩, hof, hkey⟩
    split at hkey
    · simp at hkey
    · rename_i hnot
      rw [if_neg hnot] at hof
      refine ⟨⟨n, hn, hof, hkey⟩, fun ⟨hstore, hmem⟩ => hnot ?_⟩
      simp [NotificationDb.isResolved, hof.1, hstore, hkey, hmem]
  · rintro ⟨⟨n, hn, hof, hkey⟩, hnot⟩
    have hkept : ¬ NotificationDb.isResolved storeId dedupeKeys n = true := by
      simpa [NotificationDb.isResolved, hof.1, hkey] using hnot
    exact ⟨n, ⟨n, hn, if_neg hkept⟩, hof, hkey⟩

/-- **The invariant of the rows.** -/
structure Kept (typeOf : String → NotificationType) (goal : Reconcile) (start db : NotificationDb) :
    Prop where
  keyed : db.Keyed typeOf
  longer : start.rows.length ≤ db.rows.length
  wanted : ∀ key ∈ goal.keys, key ∈ goal.active start → key ∈ goal.active db
  once : ((goal.created start db).map fun n => n.dedupeKey).Nodup
  fresh : ∀ n ∈ goal.created start db,
    ∃ key ∈ goal.keys, n.dedupeKey = some key ∧ key ∉ goal.active start

/-- **Wanted keys only become active, and others only cease to be.** -/
structure Onward (goal : Reconcile) (db db' : NotificationDb) : Prop where
  wanted : ∀ key ∈ goal.keys, key ∈ goal.active db → key ∈ goal.active db'
  others : ∀ key ∉ goal.keys, key ∈ goal.active db' → key ∈ goal.active db

theorem created_append (h : start.rows.length ≤ db.rows.length) :
    goal.created start { db with rows := db.rows ++ [input.row db.rows.length] } =
      goal.created start db ++ if input.storeId = goal.storeId ∧ input.type = goal.type then
        [input.row db.rows.length] else [] := by
  rw [Reconcile.created, List.drop_append_of_le_length h, List.filter_append, List.filter_singleton,
    Bool.cond_decide]
  rfl

theorem Kept.raise (h : Kept typeOf goal start db) (hkeyed : typeOf input.dedupeKey = input.type)
    (hgoal : input.storeId = goal.storeId → input.type = goal.type →
      input.dedupeKey ∈ goal.keys)
    (hraise : db.raise input = some db') : Kept typeOf goal start db' ∧ Onward goal db db' := by
  have honward : Onward goal db db' := by
    refine ⟨fun key _ hactive => (mem_activeKeys_raise hraise).2 (.inl hactive), ?_⟩
    intro key hkey hactive
    rcases (mem_activeKeys_raise hraise).1 hactive with hold | ⟨⟨hstore, htype⟩, rfl⟩
    · exact hold
    · exact absurd (hgoal hstore htype) hkey
  rw [NotificationDb.raise, Option.ite_none_left_eq_some] at hraise
  obtain ⟨hunused, hraised⟩ := hraise
  obtain rfl := Option.some.inj hraised
  refine ⟨⟨?_, ?_, fun key hkey hstart => honward.wanted key hkey (h.wanted key hkey hstart), ?_, ?_⟩,
    honward⟩
  · intro n hn key hkey
    rcases List.mem_append.1 hn with hn | hn
    · exact h.keyed n hn key hkey
    · obtain rfl := List.mem_singleton.1 hn
      obtain rfl := Option.some.inj hkey
      exact hkeyed
  · exact h.longer.trans (by simp)
  all_goals
    rw [created_append h.longer]
    by_cases hours : input.storeId = goal.storeId ∧ input.type = goal.type
  · -- no other row of the store has the key
    have hnew : some input.dedupeKey ∉ (goal.created start db).map fun n => n.dedupeKey := by
      intro hmem
      obtain ⟨n, hn, hkey⟩ := List.mem_map.1 hmem
      obtain ⟨hdrop, hof⟩ := List.mem_filter.1 hn
      refine hunused (List.any_eq_true.2 ⟨n, List.mem_of_mem_drop hdrop, decide_eq_true ⟨?_, hkey⟩⟩)
      exact (of_decide_eq_true hof).1.trans hours.1.symm
    rw [if_pos hours, List.map_append, List.nodup_append]
    refine ⟨h.once, List.pairwise_singleton _ _, fun a ha b hb heq => hnew ?_⟩
    obtain rfl := List.mem_singleton.1 hb
    rwa [heq] at ha
  · rw [if_neg hours, List.append_nil]
    exact h.once
  · rw [if_pos hours]
    intro n hn
    rcases List.mem_append.1 hn with hn | hn
    · exact h.fresh n hn
    · obtain rfl := List.mem_singleton.1 hn
      have hwanted := hgoal hours.1 hours.2
      refine ⟨_, hwanted, rfl, fun hstart => hunused ?_⟩
      obtain ⟨n, hn, hof, hkey⟩ := mem_activeKeys.1 (h.wanted _ hwanted hstart)
      exact List.any_eq_true.2 ⟨n, hn, decide_eq_true ⟨hof.1.trans hours.1.symm, hkey⟩⟩
  · rw [if_neg hours, List.append_nil]
    exact h.fresh

theorem Kept.resolve (h : Kept typeOf goal start db) (now : ℤ)
    (hkeys : storeId = goal.storeId → ∀ key ∈ dedupeKeys, key ∈ goal.keys → typeOf key ≠ goal.type) :
    Kept typeOf goal start (db.resolve storeId dedupeKeys now).1 ∧
      Onward goal db (db.resolve storeId dedupeKeys now).1 := by
  have honward : Onward goal db (db.resolve storeId dedupeKeys now).1 := by
    refine ⟨fun key hkey hactive => mem_activeKeys_resolve.2 ⟨hactive, fun ⟨hstore, hmem⟩ => ?_⟩,
      fun key _ hactive => (mem_activeKeys_resolve.1 hactive).1⟩
    obtain ⟨n, hn, hof, hown⟩ := mem_activeKeys.1 hactive
    exact hkeys hstore.symm key hmem hkey ((h.keyed n hn key hown).trans hof.2)
  -- what was raised since the start is left alone
  have hcreated : goal.created start (db.resolve storeId dedupeKeys now).1 =
      goal.created start db := by
    rw [Reconcile.created, NotificationDb.resolve, ← List.map_drop, List.filter_map]
    refine (congrArg _ (List.filter_congr fun n _ => ?_)).trans
      ((List.map_congr_left fun n hn => ?_).trans (List.map_id _))
    · dsimp only [Function.comp_apply]
      split <;> rfl
    · obtain ⟨key, hkey, hown, -⟩ := h.fresh n hn
      obtain ⟨hdrop, hof⟩ := List.mem_filter.1 hn
      refine if_neg fun hresolved => ?_
      simp only [NotificationDb.isResolved, hown, Bool.and_eq_true, decide_eq_true_eq,
        Option.any_some] at hresolved
      have hof := of_decide_eq_true hof
      exact hkeys (hresolved.1.symm.trans hof.1) key hresolved.2 hkey
        ((h.keyed n (List.mem_of_mem_drop hdrop) key hown).trans hof.2)
  refine ⟨⟨?_, ?_, fun key hkey hstart => honward.wanted key hkey (h.wanted key hkey hstart),
    hcreated ▸ h.once, hcreated ▸ h.fresh⟩, honward⟩
  · intro n hn key hkey
    obtain ⟨old, hold, rfl⟩ := List.mem_map.1 hn
    split at hkey
    · simp at hkey
    · rename_i hnot
      rw [if_neg hnot]
      exact h.keyed old hold key hkey
  · exact h.longer.trans_eq (List.length_map _).symm

/-- **What a call knows**: the keys it found are those of its type, and an evaluation that wants the
same has got so far. -/
structure Knows (typeOf : String → NotificationType) (goal : Reconcile) (db : NotificationDb)
    (call : Reconcile) : Prop where
  inputs : ∀ input ∈ call.desired, input.storeId = call.storeId ∧ input.type = call.type ∧
    typeOf input.dedupeKey = call.type
  same : call.storeId = goal.storeId → call.type = goal.type → call.desired = goal.desired
  raising : ∀ active inputs raised, call.phase = .raising active inputs raised →
    (∀ key ∈ active, typeOf key = call.type) ∧ (∀ input ∈ inputs, input ∈ call.desired) ∧
    (call.storeId = goal.storeId → call.type = goal.type →
      (∀ key ∈ goal.keys, key ∈ active → key ∈ goal.active db) ∧
      (∀ key ∉ goal.keys, key ∈ goal.active db → key ∈ active) ∧
      ∀ input ∈ goal.desired, input ∈ inputs ∨ input.dedupeKey ∈ goal.active db)
  done : ∀ raised resolved, call.phase = .done raised resolved →
    call.storeId = goal.storeId → call.type = goal.type →
      ∀ key, key ∈ goal.active db ↔ key ∈ goal.keys

theorem Knows.onward (h : Knows typeOf goal db call) (honward : Onward goal db db') :
    Knows typeOf goal db' call := by
  refine ⟨h.inputs, h.same, fun active inputs raised hphase => ?_,
    fun raised resolved hphase hstore htype key => ⟨fun hactive => ?_, fun hkey => ?_⟩⟩
  · obtain ⟨htypes, hinputs, hown⟩ := h.raising active inputs raised hphase
    refine ⟨htypes, hinputs, fun hstore htype => ?_⟩
    obtain ⟨hwanted, hothers, hsofar⟩ := hown hstore htype
    refine ⟨fun key hkey hmem => honward.wanted key hkey (hwanted key hkey hmem),
      fun key hkey hmem => hothers key hkey (honward.others key hkey hmem), fun input hinput => ?_⟩
    exact (hsofar input hinput).imp_right
      (honward.wanted _ (List.mem_map_of_mem hinput))
  · by_contra hkey
    exact hkey ((h.done raised resolved hphase hstore htype key).1 (honward.others key hkey hactive))
  · exact honward.wanted key hkey ((h.done raised resolved hphase hstore htype key).2 hkey)

/-- **A statement of a call.** -/
theorem turn_spec (hkept : Kept typeOf goal start db) (h : Knows typeOf goal db call) (now : ℤ) :
    Kept typeOf goal start (call.turn db now).1 ∧ Onward goal db (call.turn db now).1 ∧
      Knows typeOf goal (call.turn db now).1 (call.turn db now).2 := by
  have hstays : Onward goal db db := ⟨fun _ _ h => h, fun _ _ h => h⟩
  obtain ⟨store, type, desired, phase⟩ := call
  cases phase with
  | finding =>
    refine ⟨hkept, hstays, h.inputs, h.same, ?_, fun _ _ hphase => by cases hphase⟩
    rintro active inputs raised ⟨⟩
    refine ⟨fun key hmem => ?_, fun _ hinput => hinput, ?_⟩
    · obtain ⟨n, hn, hof, hkey⟩ := mem_activeKeys.1 hmem
      exact (hkept.keyed n hn key hkey).trans hof.2
    · rintro rfl rfl
      exact ⟨fun _ _ hmem => hmem, fun _ _ hmem => hmem,
        fun input hinput => .inl ((h.same rfl rfl).symm ▸ hinput)⟩
  | raising active inputs raised =>
    obtain ⟨htypes, hinputs, hown⟩ := h.raising active inputs raised rfl
    cases inputs with
    | nil =>
      -- what holds no longer is resolved
      have hstale : store = goal.storeId → ∀ key ∈ active.filter fun key =>
          key ∉ desired.map fun input => input.dedupeKey, key ∈ goal.keys → typeOf key ≠ goal.type := by
        intro hstore key hmem hkey htype
        obtain ⟨hactive, hnot⟩ := List.mem_filter.1 hmem
        have hsame : desired = goal.desired := h.same hstore ((htypes key hactive).symm.trans htype)
        exact of_decide_eq_true hnot (hsame ▸ hkey)
      obtain ⟨hkept', honward⟩ := hkept.resolve now hstale
      refine ⟨hkept', honward, h.inputs, h.same, fun _ _ _ hphase => (by cases hphase), ?_⟩
      rintro raised resolved - rfl rfl key
      obtain ⟨-, hothers, hsofar⟩ := hown rfl rfl
      refine mem_activeKeys_resolve.trans ⟨fun ⟨hactive, hnot⟩ => ?_, fun hkey => ?_⟩
      · by_contra hkey
        refine hnot ⟨rfl, List.mem_filter.2 ⟨hothers key hkey hactive, decide_eq_true ?_⟩⟩
        exact (h.same rfl rfl : desired = goal.desired) ▸ hkey
      · obtain ⟨input, hinput, rfl⟩ := List.mem_map.1 hkey
        refine ⟨(hsofar input hinput).resolve_left (List.not_mem_nil), fun ⟨_, hmem⟩ => ?_⟩
        have hnot := of_decide_eq_true (List.mem_filter.1 hmem).2
        exact hnot ((h.same rfl rfl : desired = goal.desired).symm ▸ hkey)
    | cons input inputs =>
      have hnext : ∀ {db' : NotificationDb} {count : ℕ}, Onward goal db db' →
          (store = goal.storeId → type = goal.type → input.dedupeKey ∈ goal.active db') →
          Knows typeOf goal db' ⟨store, type, desired, .raising active inputs count⟩ := by
        intro db' count honward hraised
        refine ⟨h.inputs, h.same, ?_, fun _ _ hphase => by cases hphase⟩
        rintro _ _ _ ⟨⟩
        refine ⟨htypes, fun i hi => hinputs i (List.mem_cons_of_mem _ hi), fun hstore htype => ?_⟩
        obtain ⟨hwanted, hothers, hsofar⟩ := hown hstore htype
        refine ⟨fun key hkey hmem => honward.wanted key hkey (hwanted key hkey hmem),
          fun key hkey hmem => hothers key hkey (honward.others key hkey hmem), fun i hi => ?_⟩
        rcases hsofar i hi with hi' | hactive
        · rcases List.mem_cons.1 hi' with rfl | hlater
          · exact .inr (hraised hstore htype)
          · exact .inl hlater
        · exact .inr (honward.wanted _ (List.mem_map_of_mem hi) hactive)
      obtain ⟨hstore, htype, hkeyed⟩ := h.inputs input (hinputs input List.mem_cons_self)
      have hgoal : store = goal.storeId → type = goal.type → input.dedupeKey ∈ goal.keys := fun hs ht =>
        List.mem_map_of_mem ((h.same hs ht : desired = goal.desired) ▸
          hinputs input List.mem_cons_self)
      dsimp only [Reconcile.turn]
      split
      · rename_i hmem
        exact ⟨hkept, hstays, hnext hstays fun hs ht => (hown hs ht).1 _ (hgoal hs ht) hmem⟩
      · cases hraise : db.raise input with
        | some db' =>
          obtain ⟨hkept', honward⟩ := hkept.raise (hkeyed.trans htype.symm)
            (fun hs ht => hgoal (hstore.symm.trans hs) (htype.symm.trans ht)) hraise
          refine ⟨hkept', honward, hnext honward fun hs ht => ?_⟩
          exact (mem_activeKeys_raise hraise).2
            (.inr ⟨⟨hstore.trans hs, htype.trans ht⟩, rfl⟩)
        | none =>
          refine ⟨hkept, hstays, hnext hstays fun hs ht => ?_⟩
          -- another call has raised it
          rw [NotificationDb.raise] at hraise
          split at hraise
          rotate_left
          · cases hraise
          rename_i hused
          obtain ⟨n, hn, hof⟩ := List.any_eq_true.1 hused
          obtain ⟨hsame, hkey⟩ := of_decide_eq_true hof
          refine mem_activeKeys.2 ⟨n, hn, ⟨hsame.trans (hstore.trans hs), ?_⟩, hkey⟩
          exact (hkept.keyed n hn _ hkey).symm.trans (hkeyed.trans ht)
  | done raised resolved => exact ⟨hkept, hstays, h⟩
  | failed => exact ⟨hkept, hstays, h⟩

abbrev Inv (typeOf : String → NotificationType) (goal : Reconcile) (start : NotificationDb) :
    Pool → Prop :=
  ThreadPool.Inv (Kept typeOf goal start) (Knows typeOf goal) fun _ _ => True

theorem Inv.step {w : Pool} (h : Inv typeOf goal start w) {act : Action}
    (hsteady : Steady typeOf goal act) : Inv typeOf goal start (step w act) := by
  cases act with
  | reconcile storeId type desired =>
    refine ThreadPool.Inv.spawn h (fun _ _ _ => trivial) ?_ fun _ _ => trivial
    exact ⟨hsteady.1, hsteady.2, fun _ _ _ hphase => (by cases hphase),
      fun _ _ hphase => (by cases hphase)⟩
  | turn i now =>
    rw [Notifications.step]
    cases hcall : w.threads[i]? with
    | none => exact h
    | some call =>
      obtain ⟨hkept, honward, hknows⟩ := turn_spec h.shared (h.thread i call hcall) now
      exact h.move (fun _ _ _ => trivial) hcall hkept hknows
        fun _ _ hother _ => ⟨hother.onward honward, trivial⟩
  | fail i =>
    rw [Notifications.step]
    cases hcall : w.threads[i]? with
    | none => exact h
    | some call =>
      have hknows := h.thread i call hcall
      refine h.move (fun _ _ _ => trivial) hcall h.shared ⟨hknows.inputs, hknows.same, ?_, ?_⟩
        fun _ _ hother _ => ⟨hother, trivial⟩
      · exact fun _ _ _ hphase => by cases hphase
      · exact fun _ _ hphase => by cases hphase
  | raise input =>
    rw [Notifications.step]
    cases hraise : w.shared.raise input with
    | none => exact h.write h.shared fun _ _ hknows => hknows
    | some db =>
      obtain ⟨hkept, honward⟩ := h.shared.raise hsteady.1
        (fun hstore htype => absurd htype (hsteady.2 hstore)) hraise
      exact h.write hkept fun _ _ hknows => hknows.onward honward
  | resolve storeId dedupeKeys now =>
    obtain ⟨hkept, honward⟩ := h.shared.resolve now
      fun hstore key hmem _ => hsteady hstore key hmem
    exact h.write hkept fun _ _ hknows => hknows.onward honward

end Converge

/-- **Overlapping evaluations agree.** While the evaluations of a type of notifications want the same,
each alert they want is raised once, unless it was active, however their statements interleave with
each other and with those of other modules, and whichever of them fail; and as soon as one is done,
the active alerts are the ones that are wanted. -/
theorem evaluations_converge (typeOf : String → NotificationType) (goal : Reconcile)
    (start : NotificationDb) (hstart : start.Keyed typeOf) (acts : List Action)
    (hacts : ∀ act ∈ acts, Steady typeOf goal act) :
    let w := Machine.run step { shared := start } acts
    ((goal.created start w.shared).map fun n => n.dedupeKey).Nodup ∧
      (∀ n ∈ goal.created start w.shared,
        ∃ key ∈ goal.keys, n.dedupeKey = some key ∧ key ∉ goal.active start) ∧
      ∀ call ∈ w.threads, call.storeId = goal.storeId → call.type = goal.type →
        ∀ raised resolved, call.phase = .done raised resolved →
          ∀ key, key ∈ goal.active w.shared ↔ key ∈ goal.keys := by
  have hnone : goal.created start start = [] := by rw [Reconcile.created, List.drop_length]; rfl
  have hkept : Kept typeOf goal start start := ⟨hstart, le_refl _, fun _ _ h => h,
    hnone ▸ List.nodup_nil, hnone ▸ fun _ hn => absurd hn List.not_mem_nil⟩
  have hinv : Inv typeOf goal start (Machine.run step { shared := start } acts) :=
    List.foldlRecOn acts step (ThreadPool.Inv.start hkept) fun _ h act hact =>
      h.step (hacts act hact)
  obtain ⟨hshared, hthread, -⟩ := hinv
  refine ⟨hshared.once, hshared.fresh, fun call hmem hstore htype raised resolved hphase => ?_⟩
  obtain ⟨i, hi⟩ := List.mem_iff_getElem?.1 hmem
  exact (hthread i call hi).done raised resolved hphase hstore htype

/-- An alert that hats run low. -/
def hatsLow : RaiseNotificationInput where
  storeId := "store-1"
  type := .lowStock
  title := "Hat is running low"
  dedupeKey := "LOW_STOCK:hat"

/-- Two evaluations take turns. -/
def overlapping : List Action :=
  [.reconcile "store-1" .lowStock [hatsLow], .reconcile "store-1" .lowStock [hatsLow],
    .turn 0 0, .turn 1 0, .turn 0 1, .turn 1 1, .turn 1 2]

theorem evaluations_converge_overlapping :
    let goal : Reconcile := { storeId := "store-1", type := .lowStock, desired := [hatsLow] }
    ∀ key, key ∈ goal.active (Machine.run step { shared := {} } overlapping).shared ↔
      key ∈ goal.keys := by
  intro goal
  have hsteady : ∀ act ∈ overlapping, Steady (fun _ => .lowStock) goal act := by
    simp [overlapping, Steady, hatsLow, goal]
  exact (evaluations_converge (fun _ => .lowStock) goal {} (fun _ hn => absurd hn List.not_mem_nil)
    overlapping hsteady).2.2 { goal with phase := .done 0 0 } (List.mem_of_getElem? (i := 1) rfl)
    rfl rfl 0 0 rfl

/-! ### The inbox -/

/-- Whom a request comes from: the store is the one the user acts on. -/
structure StoreAccess where
  storeId : String
  userId : String
  isOwner : Bool
  permissions : List String

inductive NotificationTab
  | all | critical | warning | inventory

def tabWhere : NotificationTab → Notification → Bool
  | .all, _ => true
  | .critical, n => n.severity = .critical
  | .warning, n => n.severity = .warning
  | .inventory, n => n.category = .inventory

/-- `visibleWhere` -/
def StoreAccess.sees (access : StoreAccess) (n : Notification) : Bool :=
  n.storeId = access.storeId &&
    (access.isOwner || n.audiencePermission.any fun permission => permission ∈ access.permissions)

structure UnreadCounts where
  all : ℕ := 0
  critical : ℕ := 0
  warning : ℕ := 0
  inventory : ℕ := 0

/-- What the unread rows are grouped by. -/
structure Group where
  severity : NotificationSeverity
  category : NotificationCategory
  deriving DecidableEq

def Notification.group (n : Notification) : Group := ⟨n.severity, n.category⟩

/-- One turn of the loop over the groups. -/
def UnreadCounts.add (counts : UnreadCounts) (group : Group) (count : ℕ) : UnreadCounts where
  all := counts.all + count
  critical := counts.critical + if group.severity = .critical then count else 0
  warning := counts.warning + if group.severity = .warning then count else 0
  inventory := counts.inventory + if group.category = .inventory then count else 0

namespace NotificationDb

/-- The visible rows without a read of the user's. -/
def unread (db : NotificationDb) (access : StoreAccess) : List Notification :=
  db.rows.filter fun n => access.sees n && (n.id, access.userId) ∉ db.reads

def countUnread (db : NotificationDb) (access : StoreAccess) (tab : NotificationTab) : ℕ :=
  (db.unread access).countP (tabWhere tab)

def unreadCounts (db : NotificationDb) (access : StoreAccess) : UnreadCounts :=
  let groups := (db.unread access).map Notification.group
  groups.dedup.foldl (fun counts group => counts.add group (groups.count group)) {}

/-- `markRead`, which is refused if the user does not see the notification. -/
def markRead (db : NotificationDb) (access : StoreAccess) (notificationId : ℕ) :
    Option NotificationDb :=
  if db.rows.any fun n => n.id = notificationId && access.sees n then
    some { db with reads := db.reads.insert (notificationId, access.userId) }
  else none

def markAllRead (db : NotificationDb) (access : StoreAccess) (tab : NotificationTab) :
    NotificationDb × ℕ :=
  let marks := ((db.unread access).filter (tabWhere tab)).map fun n => (n.id, access.userId)
  ({ db with reads := db.reads ++ marks }, marks.length)

end NotificationDb

inductive InboxAction
  | raise (input : RaiseNotificationInput)
  | resolve (storeId : String) (dedupeKeys : List String) (now : ℤ)
  | markRead (access : StoreAccess) (notificationId : ℕ)
  | markAllRead (access : StoreAccess) (tab : NotificationTab)

def inboxStep (db : NotificationDb) : InboxAction → NotificationDb
  | .raise input => (db.raise input).getD db
  | .resolve storeId dedupeKeys now => (db.resolve storeId dedupeKeys now).1
  | .markRead access notificationId => (db.markRead access notificationId).getD db
  | .markAllRead access tab => (db.markAllRead access tab).1

section Inbox

variable {db : NotificationDb} {access : StoreAccess} {tab : NotificationTab}

theorem foldl_add (count : Group → ℕ) (groups : List Group) (counts : UnreadCounts) :
    groups.foldl (fun counts group => counts.add group (count group)) counts =
      { all := counts.all + (groups.map count).sum
        critical := counts.critical +
          ((groups.filter fun group => group.severity = .critical).map count).sum
        warning := counts.warning +
          ((groups.filter fun group => group.severity = .warning).map count).sum
        inventory := counts.inventory +
          ((groups.filter fun group => group.category = .inventory).map count).sum } := by
  induction groups generalizing counts with
  | nil => rfl
  | cons group groups ih =>
    rw [List.foldl_cons, ih, UnreadCounts.add]
    simp only [List.map_cons, List.sum_cons, List.filter_cons, decide_eq_true_eq]
    split_ifs <;> simp [add_assoc]

/-- **The badges are what the tabs count.** -/
theorem unreadCounts_eq : db.unreadCounts access =
    { all := db.countUnread access .all, critical := db.countUnread access .critical
      warning := db.countUnread access .warning
      inventory := db.countUnread access .inventory } := by
  have hgroup : ∀ p : Group → Bool,
      ((((db.unread access).map Notification.group).dedup.filter p).map fun group =>
        ((db.unread access).map Notification.group).count group).sum =
        (db.unread access).countP (p ∘ Notification.group) := fun p => by
    rw [List.sum_map_count_dedup_filter_eq_countP, List.countP_map]
  rw [NotificationDb.unreadCounts, foldl_add]
  simp only [zero_add, UnreadCounts.mk.injEq]
  refine ⟨?_, hgroup _, hgroup _, hgroup _⟩
  have hall := hgroup fun _ => true
  rwa [List.filter_true] at hall

/-- The identifiers of rows count them. -/
def NotificationDb.Numbered (db : NotificationDb) : Prop :=
  db.rows.map (fun n => n.id) = List.range db.rows.length

theorem NotificationDb.Numbered.step (h : db.Numbered) (act : InboxAction) :
    (inboxStep db act).Numbered := by
  rw [NotificationDb.Numbered] at h ⊢
  cases act with
  | raise input =>
    rw [inboxStep, NotificationDb.raise]
    split
    · exact h
    · simp [h, RaiseNotificationInput.row, List.range_succ]
  | resolve storeId dedupeKeys now =>
    simp only [inboxStep, NotificationDb.resolve, List.map_map, List.length_map, ← h]
    exact List.map_congr_left fun n _ => by dsimp only [Function.comp_apply]; split <;> rfl
  | markRead access notificationId =>
    rw [inboxStep, NotificationDb.markRead]
    split <;> exact h
  | markAllRead access tab => exact h

end Inbox

/-- **The inbox**: after every run of notifications that are raised, resolved and read by any users,
the badges of each user count what the tabs show unread; marking a tab read marks as many as its badge
said, leaves those of the user that the tab does not show, and touches nobody else's. -/
theorem badges_agree (acts : List InboxAction) (access : StoreAccess) (tab : NotificationTab) :
    let db := Machine.run inboxStep {} acts
    let after := (db.markAllRead access tab).1
    db.unreadCounts access =
      { all := db.countUnread access .all, critical := db.countUnread access .critical
        warning := db.countUnread access .warning
        inventory := db.countUnread access .inventory } ∧
      (db.markAllRead access tab).2 = db.countUnread access tab ∧
      after.unread access = (db.unread access).filter (fun n => !tabWhere tab n) ∧
      ∀ other : StoreAccess, other.userId ≠ access.userId →
        after.unread other = db.unread other := by
  have hids : ((Machine.run inboxStep {} acts).rows.map fun n => n.id).Nodup := by
    have hstart : NotificationDb.Numbered {} := rfl
    have hinv : (Machine.run inboxStep {} acts).Numbered :=
      Machine.run_keeps (fun _ act h => h.step act) hstart acts
    rw [hinv]
    exact List.nodup_range
  dsimp only
  generalize Machine.run inboxStep {} acts = db at hids
  refine ⟨unreadCounts_eq, ?_, ?_, fun other hother => ?_⟩
  · rw [NotificationDb.markAllRead, List.length_map, NotificationDb.countUnread,
      List.countP_eq_length_filter]
  · rw [NotificationDb.unread, NotificationDb.unread, List.filter_filter]
    refine List.filter_congr fun n hn => ?_
    have hmarked : (n.id, access.userId) ∈ ((db.unread access).filter (tabWhere tab)).map
        (fun n => (n.id, access.userId)) ↔ n ∈ (db.unread access).filter (tabWhere tab) := by
      refine ⟨fun hmem => ?_, fun hmem => List.mem_map.2 ⟨n, hmem, rfl⟩⟩
      obtain ⟨m, hm, heq⟩ := List.mem_map.1 hmem
      have hrow : m ∈ db.rows := (List.mem_filter.1 (List.mem_filter.1 hm).1).1
      rwa [← List.inj_on_of_nodup_map hids hrow hn (congrArg Prod.fst heq)]
    have hread : (n.id, access.userId) ∈ (db.markAllRead access tab).1.reads ↔
        (n.id, access.userId) ∈ db.reads ∨
          (access.sees n && (n.id, access.userId) ∉ db.reads) = true ∧ tabWhere tab n = true := by
      rw [NotificationDb.markAllRead, List.mem_append, hmarked, List.mem_filter,
        NotificationDb.unread, List.mem_filter, and_iff_right (show n ∈ db.rows from hn)]
    rw [Bool.eq_iff_iff]
    simp only [Bool.and_eq_true, decide_eq_true_eq, hread, Bool.not_eq_true']
    cases tabWhere tab n <;> simp
    tauto
  · refine List.filter_congr fun n _ => congrArg _ (decide_eq_decide.2 (not_congr ?_))
    rw [NotificationDb.markAllRead, List.mem_append, or_iff_left]
    rintro hmem
    obtain ⟨m, -, heq⟩ := List.mem_map.1 hmem
    exact hother (congrArg Prod.snd heq).symm

/-! ### Who is told -/

structure StoreRow where
  id : String
  userId : String

/-- A member of a store's staff, with the permissions of the role, if there is one. -/
structure StaffMember where
  userId : String
  storeId : String
  isActive : Bool
  permissionOverrides : List String
  rolePermissions : List String

/-- Users with their active stores, stores by age, and staff. -/
structure People where
  users : List (String × Option String)
  stores : List StoreRow
  staff : List StaffMember
  storeIds : (stores.map StoreRow.id).Nodup
  staffUsers : (staff.map StaffMember.userId).Nodup
  employed : ∀ member ∈ staff, ∃ store ∈ stores, store.id = member.storeId

def allPermissions : List String :=
  ["orders.view", "orders.edit", "orders.cancel", "orders.export", "returns.view",
    "returns.process", "returns.scan", "products.view", "products.add", "products.edit",
    "products.delete", "expenses.view", "expenses.add", "expenses.edit", "expenses.delete",
    "ads.view", "ads.manage", "customers.view", "customers.blacklist", "analytics.view",
    "analytics.export", "shop.view", "shop.purchase"]

/-- Overrides, if there are any, replace the permissions of the role. -/
def resolvePermissions (rolePermissions overrides : List String) : List String :=
  (if overrides.length > 0 then overrides else rolePermissions).filter fun permission =>
    permission ∈ allPermissions

def StaffMember.permissions (member : StaffMember) : List String :=
  resolvePermissions member.rolePermissions member.permissionOverrides

inductive AccessError
  | storeNotFound | deactivated

/-- `require`, but for the repair of the active store. -/
def People.require (people : People) (userId : String) : Except AccessError StoreAccess :=
  match people.users.find? fun user => user.1 = userId with
  | none => .error .storeNotFound
  | some user =>
    match people.stores.filter fun store => store.userId = userId with
    | first :: others =>
      let active := ((first :: others).find? fun store => user.2 = some store.id).getD first
      .ok { storeId := active.id, userId, isOwner := true, permissions := allPermissions }
    | [] =>
      match people.staff.find? fun member => member.userId = userId with
      | none => .error .storeNotFound
      | some member =>
        if member.isActive then
          .ok { storeId := member.storeId, userId, isOwner := false
                permissions := member.permissions }
        else .error .deactivated

/-- The users that a new notification is pushed to. -/
def People.recipientUserIds (people : People) (storeId : String)
    (audiencePermission : Option String) : List String :=
  match people.stores.find? fun store => store.id = storeId with
  | none => []
  | some store =>
    match audiencePermission with
    | none => [store.userId]
    | some permission =>
      store.userId :: (people.staff.filter fun member => member.storeId = storeId &&
        member.isActive && permission ∈ member.permissions).map StaffMember.userId

theorem People.find_store (people : People) {store : StoreRow} (h : store ∈ people.stores) :
    (people.stores.find? fun other => other.id = store.id) = some store := by
  have hsome : (people.stores.find? fun other => other.id = store.id).isSome :=
    List.find?_isSome.2 ⟨store, h, by simp⟩
  obtain ⟨found, hfound⟩ := Option.isSome_iff_exists.1 hsome
  have hid : found.id = store.id := by simpa using List.find?_some hfound
  rw [hfound, List.inj_on_of_nodup_map people.storeIds (List.mem_of_find?_eq_some hfound) h hid]

/-- **Pushed is what can be seen**: of those who act on a store, a notification of the store is pushed
to the ones who see it there, be they owners, or staff by their role or by permissions of their own. -/
theorem pushed_iff_sees (people : People) {userId : String} {access : StoreAccess}
    (haccess : people.require userId = .ok access) (n : Notification)
    (hstore : n.storeId = access.storeId) :
    userId ∈ people.recipientUserIds n.storeId n.audiencePermission ↔ access.sees n = true := by
  rw [People.require] at haccess
  split at haccess
  · cases haccess
  split at haccess
  · -- an owner
    rename_i first others hstores
    have hactive : ∀ p : StoreRow → Bool, ((first :: others).find? p).getD first ∈
        people.stores.filter fun store => store.userId = userId := by
      intro p
      rw [hstores]
      cases hfind : (first :: others).find? p with
      | none => exact List.mem_cons_self
      | some active => exact List.mem_of_find?_eq_some hfind
    obtain rfl := Except.ok.inj haccess
    obtain ⟨hmem, hown⟩ := List.mem_filter.1 (hactive _)
    rw [hstore, People.recipientUserIds, people.find_store hmem, StoreAccess.sees, hstore]
    cases n.audiencePermission <;> simp [of_decide_eq_true hown]
  · split at haccess
    · cases haccess
    split at haccess
    · -- a member of the staff, who owns no store
      rename_i hnone _ member hmember hactive
      obtain rfl := Except.ok.inj haccess
      have hstaff : member ∈ people.staff := List.mem_of_find?_eq_some hmember
      have huser : member.userId = userId := by simpa using List.find?_some hmember
      obtain ⟨store, hmem, hid⟩ := people.employed member hstaff
      have hnot : userId ≠ store.userId := by
        rintro rfl
        simpa using List.filter_eq_nil_iff.1 hnone store hmem
      have hfind : (people.stores.find? fun store => store.id = member.storeId) = some store := by
        rw [← hid]
        exact people.find_store hmem
      rw [hstore, People.recipientUserIds, hfind, StoreAccess.sees, hstore]
      cases n.audiencePermission with
      | none => simp [hnot]
      | some permission =>
        simp only [List.mem_cons, hnot, false_or, List.mem_map, List.mem_filter, Bool.and_eq_true,
          decide_eq_true_eq, Option.any_some, Bool.false_or, true_and]
        constructor
        · rintro ⟨other, ⟨hother, -, hallowed⟩, hsame⟩
          rwa [List.inj_on_of_nodup_map people.staffUsers hstaff hother (huser.trans hsame.symm)]
        · exact fun hallowed => ⟨member, ⟨hstaff, ⟨rfl, hactive⟩, hallowed⟩, huser⟩
    · cases haccess

/-- An owner, and a packer who may look at the products. -/
def hatShop : People where
  users := [("owner", none), ("packer", none)]
  stores := [⟨"store-1", "owner"⟩]
  staff := [⟨"packer", "store-1", true, [], ["products.view"]⟩]
  storeIds := by decide
  staffUsers := by decide
  employed := by simp

theorem pushed_iff_sees_packer :
    "packer" ∈ hatShop.recipientUserIds "store-1" (some "products.view") :=
  (@pushed_iff_sees hatShop "packer" _ rfl (hatsLow.row 0) rfl).2 (by decide +kernel)

end Zomaal.Notifications
