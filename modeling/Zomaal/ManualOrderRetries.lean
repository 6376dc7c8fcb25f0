/-
**A retried manual order is one order, if its key is not the id of another.**

An order that was created without a key has its own id for an external id, and no fingerprint; a
call with that id for a key finds it, and answers with it if it matches field by field.

Main results:

* `ManualOrders.manualOrders` — **the runs in which orders are told apart are the sound ones**;
* `ManualOrders.manualOrders_mistaken` — a key that is the id of another order.
-/

import Zomaal.KeyedRows
import Zomaal.ManualOrders

set_option autoImplicit false

namespace Zomaal.ManualOrders

variable {φ : Type} [DecidableEq φ] (env : Environment φ)

/-! ### Runs -/

inductive Action
  | start (request : CreateManualOrderDto) (valid : request.Valid)
  | turn (i : ℕ) (moment : Moment)

abbrev Pool (φ : Type) := ThreadPool (OrderBook φ) (Call φ)

def step (w : Pool φ) : Action → Pool φ
  | .start request _ => w.spawn { request }
  | .turn i moment =>
    match w.threads[i]? with
    | none => w
    | some call =>
      let turn := call.turn env moment w.shared
      w.move i turn.1 turn.2

def Call.answer (call : Call φ) : Option String :=
  match call.phase with
  | .reading id | .returned id => some id
  | _ => none

def Call.isRecording (id : String) (call : Call φ) : Bool :=
  match call.phase with
  | .recording other => other = id
  | _ => false

def Phase.rank : Phase φ → ℕ
  | .finding => 6
  | .readingVariants => 5
  | .upsertingCustomer _ => 4
  | .committing _ => 3
  | .recording _ | .retrying => 2
  | .reading _ => 1
  | .returned _ | .rejected _ => 0

/-- The order with an id was created by a call with the key and the payload of this one. -/
def Call.Answered (call : Call φ) (book : OrderBook φ) (id : String) : Prop :=
  ∃ order ∈ book.orders, order.id = id ∧ order.origin.key = call.request.key ∧
    order.origin.payload = call.request.payload

structure Sound (w : Pool φ) : Prop where
  /-- There is one order of a key. -/
  once : ∀ order ∈ w.shared.orders, ∀ other ∈ w.shared.orders,
    order.origin.key ≠ none → order.origin.key = other.origin.key → order = other
  /-- A call with a key answers with the order of a call with that key and an equal payload. -/
  answered : ∀ call ∈ w.threads, ∀ id, call.answer = some id → call.request.key ≠ none →
    call.Answered w.shared id
  /-- A call whose key was used with another payload creates nothing and, in the end, is rejected.
  -/
  refused : ∀ call ∈ w.threads, ∀ order ∈ w.shared.orders, call.request.key ≠ none →
    order.origin.key = call.request.key → order.origin.payload ≠ call.request.payload →
    call.created = none ∧ (call.phase.rank = 0 → ∃ error, call.phase = .rejected error)
  /-- `recordNewOrder` was called once for an order, or is about to be. -/
  recordedOnce : ∀ order ∈ w.shared.orders,
    w.shared.recorded.count order.id + w.threads.countP (Call.isRecording order.id) = 1
  recorded : ∀ id ∈ w.shared.recorded, ∃ order ∈ w.shared.orders, order.id = id
  totals : ∀ order ∈ w.shared.orders,
    order.grossSales = (order.lines.map ManualLine.totalPrice).sum ∧
      order.totalCollected = order.grossSales + order.shipping

def Finishes (w : Pool φ) : Action → Prop
  | .turn i moment => ∀ call ∈ w.threads[i]?, call.phase.rank ≠ 0 →
      (call.turn env moment w.shared).2.phase.rank < call.phase.rank
  | .start _ _ => True

omit [DecidableEq φ] in
/-- An order without a fingerprint that a request matches was created with the request's key, and
with a currency and prices in the same places. -/
def OrderRow.ToldApart (order : OrderRow φ) (dto : CreateManualOrderDto) : Prop :=
  order.requestFingerprint = none → order.matchesFields dto = true →
    order.origin.key = dto.key ∧ order.origin.given = dto.given

/-- **No call finds, under its key, an order that only looks like its own.** -/
def ToldApart (w : Pool φ) : Action → Prop
  | .turn i moment => ∀ call ∈ w.threads[i]?, call.phase = .finding ∨ call.phase = .retrying →
      moment.failure = none → ∀ key, call.request.key = some key →
        ∀ order ∈ w.shared.findByKey key, order.ToldApart call.request
  | .start _ _ => True

/-! ### What is invariant -/

omit [DecidableEq φ] in
structure WellFormed (book : OrderBook φ) : Prop where
  ids : (book.orders.map OrderRow.id).Nodup
  externalIds : (book.orders.map OrderRow.externalOrderId).Nodup
  kept : ∀ order ∈ book.orders, order.Kept env
  recorded : ∀ id ∈ book.recorded, ∃ order ∈ book.orders, order.id = id

def Call.KnowsIn (book : OrderBook φ) (call : Call φ) : Phase φ → Prop
  | .upsertingCustomer order => order.origin = call.request ∧
      ∀ customerId, ({ order with customerId := customerId } : OrderRow φ).persisted.Kept env
  | .committing order => order.origin = call.request ∧ order.customerId.isSome ∧
      order.persisted.Kept env
  | .recording id => ∃ order ∈ book.orders, order.id = id ∧ order.origin = call.request
  | .reading id | .returned id => call.request.key ≠ none → call.Answered book id
  | .finding | .readingVariants | .retrying | .rejected _ => True

omit [DecidableEq φ] in
structure Call.Knows (book : OrderBook φ) (call : Call φ) : Prop where
  valid : call.request.Valid
  created : ∀ id, call.created = some id →
    ∃ order ∈ book.orders, order.id = id ∧ order.origin = call.request
  phase : call.KnowsIn env book call.phase

variable {env} {book book' : OrderBook φ}

variable {order : OrderRow φ}

omit [DecidableEq φ] in
theorem WellFormed.once (h : WellFormed env book) {other : OrderRow φ}
    (horder : order ∈ book.orders) (hother : other ∈ book.orders) (hkey : order.origin.key ≠ none)
    (hsame : order.origin.key = other.origin.key) : order = other := by
  obtain ⟨key, hkey⟩ := Option.ne_none_iff_exists'.1 hkey
  refine List.inj_on_of_nodup_map h.externalIds horder hother ?_
  rw [(h.kept order horder).externalOrderId, (h.kept other hother).externalOrderId, ← hsame, hkey,
    Option.getD_some, Option.getD_some]

omit [DecidableEq φ] in
theorem findByKey_some {key : String} (h : book.findByKey key = some order) :
    order ∈ book.orders ∧ order.externalOrderId = "MANUAL-" ++ key :=
  ⟨List.mem_of_find?_eq_some h, by simpa using List.find?_some h⟩

variable {call : Call φ} {phase : Phase φ}

omit [DecidableEq φ] in
theorem Call.KnowsIn.mono (h : call.KnowsIn env book phase)
    (hmono : ∀ order ∈ book.orders, order ∈ book'.orders) : call.KnowsIn env book' phase := by
  cases phase with
  | recording id =>
    obtain ⟨order, horder, hrest⟩ := h
    exact ⟨order, hmono order horder, hrest⟩
  | reading id =>
    intro hkey
    obtain ⟨order, horder, hrest⟩ := h hkey
    exact ⟨order, hmono order horder, hrest⟩
  | returned id =>
    intro hkey
    obtain ⟨order, horder, hrest⟩ := h hkey
    exact ⟨order, hmono order horder, hrest⟩
  | _ => exact h

omit [DecidableEq φ] in
theorem Call.Knows.mono (h : call.Knows env book)
    (hmono : ∀ order ∈ book.orders, order ∈ book'.orders) : call.Knows env book' := by
  refine ⟨h.valid, fun id hid => ?_, h.phase.mono hmono⟩
  obtain ⟨order, horder, hrest⟩ := h.created id hid
  exact ⟨order, hmono order horder, hrest⟩

omit [DecidableEq φ] in
theorem Call.Knows.goTo (h : call.Knows env book) (hphase : call.KnowsIn env book phase) :
    (call.goTo phase).Knows env book := by
  refine ⟨h.valid, h.created, ?_⟩
  cases phase <;> exact hphase

variable {moment : Moment}

omit [DecidableEq φ] in
theorem knowsIn_orFailure (h : moment.failure = none → call.KnowsIn env book phase) :
    call.KnowsIn env book (moment.orFailure phase) := by
  rw [Moment.orFailure]
  split
  · exact trivial
  · exact h ‹_›

/-! ### Answers -/

theorem answered_of_matches (hwell : WellFormed env book) {key : String}
    (hkey : call.request.key = some key) (hfind : book.findByKey key = some order)
    (htold : order.ToldApart call.request) (hmatches : order.matches env call.request = true) :
    call.Answered book order.id := by
  obtain ⟨horder, hexternal⟩ := findByKey_some hfind
  have hkept := hwell.kept order horder
  rw [OrderRow.matches] at hmatches
  cases hfingerprint : order.requestFingerprint with
  | none =>
    rw [hfingerprint] at hmatches
    obtain ⟨hsame, hgiven⟩ := htold hfingerprint hmatches
    exact ⟨order, horder, rfl, hsame, hkept.payload_eq hmatches hgiven⟩
  | some fingerprint =>
    rw [hfingerprint] at hmatches
    have hpayload : order.origin.payload = call.request.payload := by
      refine env.injective ?_
      rw [← hkept.fingerprint fingerprint hfingerprint]
      exact of_decide_eq_true hmatches
    refine ⟨order, horder, rfl, ?_, hpayload⟩
    -- it has a fingerprint, so it was created with a key
    cases horigin : order.origin.key with
    | none => rw [hkept.unkeyed horigin] at hfingerprint; cases hfingerprint
    | some other =>
      rw [hkept.externalOrderId, horigin, Option.getD_some] at hexternal
      rw [hkey, (String.append_right_inj _).1 hexternal]

theorem knowsIn_answerOr (hwell : WellFormed env book) (htold : ∀ key, call.request.key = some key →
      ∀ order ∈ book.findByKey key, order.ToldApart call.request) {next : Phase φ}
    (hnext : call.KnowsIn env book next) : call.KnowsIn env book (call.answerOr env book next) := by
  rw [Call.answerOr, findManualOrderRetry]
  cases hkey : call.request.key with
  | none => exact hnext
  | some key =>
    dsimp only
    cases hfind : book.findByKey key with
    | none => exact hnext
    | some order =>
      dsimp only
      by_cases hmatches : order.matches env call.request = true
      · rw [if_pos hmatches]
        intro _
        exact answered_of_matches hwell hkey hfind (htold key hkey order hfind) hmatches
      · rw [if_neg hmatches]
        exact trivial

/-! ### What a statement does -/

omit [DecidableEq φ] in
theorem create_ok (h : book.create moment order = .ok book') :
    (∀ other ∈ book.orders, other.id ≠ order.id ∧ other.externalOrderId ≠ order.externalOrderId) ∧
      book' = { book with orders := book.orders ++ [order.persisted] } := by
  rw [OrderBook.create] at h
  split at h
  · cases h
  · split at h
    · cases h
    · rename_i hfree
      refine ⟨fun other hother => ?_, (Except.ok.inj h).symm⟩
      rw [Bool.not_eq_true, List.any_eq_false] at hfree
      have hne := hfree other hother
      rw [Bool.not_eq_true, Bool.or_eq_false_iff, decide_eq_false_iff_not,
        decide_eq_false_iff_not] at hne
      exact hne

omit [DecidableEq φ] in
theorem WellFormed.create (h : WellFormed env book) (hcreate : book.create moment order = .ok book')
    (hkept : order.persisted.Kept env) : WellFormed env book' := by
  obtain ⟨hfree, rfl⟩ := create_ok hcreate
  refine ⟨?_, ?_, fun other hother => ?_, fun id hid => ?_⟩
  · exact KeyedRows.nodup_concat OrderRow.id h.ids
      fun other hother hid => (hfree other hother).1 hid
  · exact KeyedRows.nodup_concat OrderRow.externalOrderId h.externalIds
      fun other hother hid => (hfree other hother).2 hid
  · rcases Ledger.mem_concat.1 hother with hold | rfl
    · exact h.kept other hold
    · exact hkept
  · obtain ⟨other, hother, hsame⟩ := h.recorded id hid
    exact ⟨other, List.mem_append_left _ hother, hsame⟩

theorem turn_spec (hwell : WellFormed env book) (h : call.Knows env book) (moment : Moment)
    (htold : call.phase = .finding ∨ call.phase = .retrying → moment.failure = none →
      ∀ key, call.request.key = some key →
        ∀ order ∈ book.findByKey key, order.ToldApart call.request) :
    WellFormed env (call.turn env moment book).1 ∧
      (∀ order ∈ book.orders, order ∈ (call.turn env moment book).1.orders) ∧
      (call.turn env moment book).2.Knows env (call.turn env moment book).1 := by
  have hsame : ∀ phase, call.KnowsIn env book phase →
      WellFormed env book ∧ (∀ order ∈ book.orders, order ∈ book.orders) ∧
        (call.goTo phase).Knows env book :=
    fun phase hphase => ⟨hwell, fun _ horder => horder, h.goTo hphase⟩
  have hknows := h.phase
  rw [Call.turn]
  cases hphase : call.phase with
  | finding =>
    exact hsame _ (knowsIn_orFailure fun hfailure =>
      knowsIn_answerOr hwell (htold (.inl hphase) hfailure) trivial)
  | readingVariants =>
    refine hsame _ (knowsIn_orFailure fun _ => ?_)
    cases hprepare : call.request.prepare env moment with
    | error error => exact trivial
    | ok order => exact kept_prepare h.valid hprepare
  | upsertingCustomer order =>
    rw [hphase] at hknows
    refine hsame _ (knowsIn_orFailure fun _ => ⟨hknows.1, ?_, hknows.2 _⟩)
    rw [Moment.customer, if_neg h.valid.customerPhone]
    rfl
  | committing order =>
    rw [hphase] at hknows
    obtain ⟨horigin, hcustomer, hkept⟩ := hknows
    dsimp only
    cases hcreate : book.create moment order with
    | ok book' =>
      obtain ⟨-, hbook⟩ := create_ok hcreate
      have hmono : ∀ other ∈ book.orders, other ∈ book'.orders := by
        intro other hother
        rw [hbook]
        exact List.mem_append_left _ hother
      have hnew : order.persisted ∈ book'.orders := by
        rw [hbook]
        exact List.mem_append_right _ (List.mem_singleton_self _)
      refine ⟨hwell.create hcreate hkept, hmono, h.valid, fun id hid => ?_, ?_⟩
      · obtain rfl : order.id = id := Option.some.inj hid
        exact ⟨order.persisted, hnew, rfl, horigin⟩
      · dsimp only
        rw [if_pos hcustomer]
        exact ⟨order.persisted, hnew, rfl, horigin⟩
    | error error =>
      dsimp only
      split
      · exact hsame _ trivial
      · exact hsame _ trivial
  | recording id =>
    rw [hphase] at hknows
    obtain ⟨order, horder, hid, horigin⟩ := hknows
    refine ⟨⟨hwell.ids, hwell.externalIds, hwell.kept, fun id' hid' => ?_⟩,
      fun _ hother => hother, h.valid, h.created, fun _ => ?_⟩
    · rcases Ledger.mem_concat.1 hid' with hold | hnew
      · exact hwell.recorded id' hold
      · exact ⟨order, horder, hid.trans hnew.symm⟩
    · exact ⟨order, horder, hid, by rw [horigin]; rfl, by rw [horigin]; rfl⟩
  | retrying =>
    exact hsame _ (knowsIn_orFailure fun hfailure =>
      knowsIn_answerOr hwell (htold (.inr hphase) hfailure) trivial)
  | reading id =>
    rw [hphase] at hknows
    refine hsame _ (knowsIn_orFailure fun _ => ?_)
    split
    · exact hknows
    · exact trivial
  | returned id => exact ⟨hwell, fun _ horder => horder, h⟩
  | rejected error => exact ⟨hwell, fun _ horder => horder, h⟩

theorem turn_rank (call : Call φ) (moment : Moment) (h : call.phase.rank ≠ 0) :
    (call.turn env moment book).2.phase.rank < call.phase.rank := by
  have hfailure : ∀ (phase : Phase φ) (n : ℕ), phase.rank < n + 1 →
      (moment.orFailure phase).rank < n + 1 := by
    intro phase n hphase
    rw [Moment.orFailure]
    split
    · exact Nat.succ_pos n
    · exact hphase
  have hanswer : ∀ (next : Phase φ) (n : ℕ), next.rank < n + 2 →
      (call.answerOr env book next).rank < n + 2 := by
    intro next n hnext
    rw [Call.answerOr]
    split
    · exact Nat.succ_pos _
    · exact Nat.succ_lt_succ (Nat.succ_pos n)
    · exact hnext
  rw [Call.turn]
  cases hphase : call.phase with
  | finding => exact hfailure _ 5 (hanswer _ 4 (Nat.lt_succ_self 5))
  | readingVariants =>
    refine hfailure _ 4 ?_
    split
    · exact Nat.succ_pos _
    · exact Nat.lt_succ_self 4
  | upsertingCustomer order => exact hfailure _ 3 (Nat.lt_succ_self 3)
  | committing order =>
    dsimp only
    split
    · dsimp only
      split
      · exact Nat.lt_succ_self 2
      · exact Nat.lt_of_succ_lt (Nat.lt_succ_self 2)
    · rw [Call.goTo]
      dsimp only
      split
      · exact Nat.lt_succ_self 2
      · exact Nat.succ_pos _
  | recording id => exact Nat.lt_succ_self 1
  | retrying => exact hfailure _ 1 (hanswer _ 0 (Nat.succ_pos 1))
  | reading id =>
    refine hfailure _ 0 ?_
    split
    · exact Nat.succ_pos _
    · exact Nat.succ_pos _
  | returned id => exact absurd (by rw [hphase]; rfl) h
  | rejected error => exact absurd (by rw [hphase]; rfl) h

/-! ### Counting the recordings -/

omit [DecidableEq φ] in
theorem isRecording_orFailure {id : String} (h : (call.goTo phase).isRecording id = false) :
    (call.goTo (moment.orFailure phase)).isRecording id = false := by
  rw [Moment.orFailure]
  split
  · rfl
  · exact h

theorem isRecording_answerOr {next : Phase φ} {id : String}
    (h : (call.goTo next).isRecording id = false) :
    (call.goTo (call.answerOr env book next)).isRecording id = false := by
  rw [Call.answerOr]
  split
  · rfl
  · rfl
  · exact h

theorem turn_recordings (h : call.Knows env book) (moment : Moment)
    (horder : order ∈ (call.turn env moment book).1.orders) :
    order ∈ book.orders ∧
        (call.turn env moment book).1.recorded.count order.id +
            (if (call.turn env moment book).2.isRecording order.id then 1 else 0) =
          book.recorded.count order.id + (if call.isRecording order.id then 1 else 0) ∨
      (∀ other ∈ book.orders, other.id ≠ order.id) ∧
        (call.turn env moment book).1.recorded = book.recorded ∧
        call.isRecording order.id = false ∧
        (call.turn env moment book).2.isRecording order.id = true := by
  have hsame : ∀ phase : Phase φ, call.isRecording order.id = false →
      (call.goTo phase).isRecording order.id = false → order ∈ book.orders →
      order ∈ book.orders ∧
        book.recorded.count order.id +
            (if (call.goTo phase).isRecording order.id then 1 else 0) =
          book.recorded.count order.id + (if call.isRecording order.id then 1 else 0) := by
    intro phase hbefore hafter hmem
    rw [hbefore, hafter]
    exact ⟨hmem, rfl⟩
  have hknows := h.phase
  have hrecording : call.isRecording order.id =
      match call.phase with
      | .recording other => decide (other = order.id)
      | _ => false := rfl
  generalize hturn : call.turn env moment book = turn at horder ⊢
  rw [Call.turn] at hturn
  cases hphase : call.phase with
  | finding =>
    rw [hphase] at hturn hrecording
    subst hturn
    exact .inl (hsame _ hrecording (isRecording_orFailure (isRecording_answerOr rfl)) horder)
  | readingVariants =>
    rw [hphase] at hturn hrecording
    subst hturn
    refine .inl (hsame _ hrecording (isRecording_orFailure ?_) horder)
    split <;> rfl
  | upsertingCustomer prepared =>
    rw [hphase] at hturn hrecording
    subst hturn
    exact .inl (hsame _ hrecording (isRecording_orFailure rfl) horder)
  | committing prepared =>
    rw [hphase] at hturn hrecording hknows
    dsimp only at hturn
    cases hcreate : book.create moment prepared with
    | ok book' =>
      rw [hcreate] at hturn
      subst hturn
      obtain ⟨hfree, rfl⟩ := create_ok hcreate
      dsimp only at horder ⊢
      rw [if_pos hknows.2.1]
      rcases Ledger.mem_concat.1 horder with hold | rfl
      · have hne : prepared.id ≠ order.id := (hfree order hold).1.symm
        have hbefore : call.isRecording order.id = false := hrecording
        have hafter : Call.isRecording order.id
            ({ call with phase := .recording prepared.id, created := some prepared.id } :
              Call φ) = false := decide_eq_false hne
        refine .inl ⟨hold, ?_⟩
        rw [hbefore, hafter]
      · exact .inr ⟨fun other hother => (hfree other hother).1, rfl, hrecording,
          decide_eq_true rfl⟩
    | error error =>
      rw [hcreate] at hturn
      subst hturn
      refine .inl (hsame _ hrecording ?_ horder)
      split <;> rfl
  | recording id =>
    rw [hphase] at hturn hrecording
    subst hturn
    refine .inl ⟨horder, ?_⟩
    have hafter : (call.goTo (.reading id)).isRecording order.id = false := rfl
    dsimp only
    rw [hafter, List.count_append, List.count_singleton]
    by_cases hid : id = order.id
    · have hbefore : call.isRecording order.id = true := hrecording.trans (decide_eq_true hid)
      rw [hbefore, if_pos (beq_iff_eq.2 hid)]
      rfl
    · have hbefore : call.isRecording order.id = false := hrecording.trans (decide_eq_false hid)
      rw [hbefore, if_neg fun heq => hid (beq_iff_eq.1 heq)]
      rfl
  | retrying =>
    rw [hphase] at hturn hrecording
    subst hturn
    exact .inl (hsame _ hrecording (isRecording_orFailure (isRecording_answerOr rfl)) horder)
  | reading id =>
    rw [hphase] at hturn hrecording
    subst hturn
    refine .inl (hsame _ hrecording (isRecording_orFailure ?_) horder)
    split <;> rfl
  | returned id =>
    rw [hphase] at hturn
    subst hturn
    exact .inl ⟨horder, rfl⟩
  | rejected error =>
    rw [hphase] at hturn
    subst hturn
    exact .inl ⟨horder, rfl⟩

/-! ### Every run -/

variable (env) in
/-- The rows are well formed, every call knows what it knows, and every order is recorded once or is
about to be. -/
structure Inv (w : Pool φ) : Prop where
  pool : ThreadPool.Inv (WellFormed env) (Call.Knows env) (fun _ _ => True) w
  recordedOnce : ∀ order ∈ w.shared.orders,
    w.shared.recorded.count order.id + w.threads.countP (Call.isRecording order.id) = 1

variable {w : Pool φ}

omit [DecidableEq φ] in
theorem Inv.knows (h : Inv env w) (hcall : call ∈ w.threads) : call.Knows env w.shared := by
  obtain ⟨i, hi⟩ := List.mem_iff_getElem?.1 hcall
  exact h.pool.thread i call hi

omit [DecidableEq φ] in
theorem Inv.unrecorded (h : Inv env w) {id : String}
    (hfree : ∀ order ∈ w.shared.orders, order.id ≠ id) :
    w.shared.recorded.count id = 0 ∧ w.threads.countP (Call.isRecording id) = 0 := by
  constructor
  · refine List.count_eq_zero.2 fun hmem => ?_
    obtain ⟨order, horder, hid⟩ := h.pool.shared.recorded id hmem
    exact hfree order horder hid
  · refine List.countP_eq_zero.2 fun call hcall hrecording => ?_
    have hknows := (h.knows hcall).phase
    rw [Call.isRecording] at hrecording
    split at hrecording
    · rename_i other hphase
      rw [hphase] at hknows
      obtain ⟨order, horder, hid, -⟩ := hknows
      exact hfree order horder (hid.trans (of_decide_eq_true hrecording))
    · cases hrecording

theorem Inv.step (h : Inv env w) {action : Action} (htold : ToldApart w action) :
    Inv env (step env w action) := by
  cases action with
  | start request hvalid =>
    refine ⟨h.pool.spawn (fun _ _ _ => trivial) ⟨hvalid, (fun _ hid => nomatch hid), trivial⟩
      fun _ _ => trivial, fun order horder => ?_⟩
    rw [ManualOrders.step, ThreadPool.spawn, List.countP_append]
    exact h.recordedOnce order horder
  | turn i moment =>
    simp only [ManualOrders.step]
    cases hcall : w.threads[i]? with
    | none => exact h
    | some call =>
      change Inv env (w.move i (call.turn env moment w.shared).1
        (call.turn env moment w.shared).2)
      have hknows := h.pool.thread i call hcall
      obtain ⟨hwell, hmono, hknows'⟩ := turn_spec h.pool.shared hknows moment (htold call hcall)
      refine ⟨h.pool.move (fun _ _ _ => trivial) hcall hwell hknows'
        fun _ _ hother _ => ⟨hother.mono hmono, trivial⟩, fun order horder => ?_⟩
      have hcount := ThreadPool.countP_move hcall (call.turn env moment w.shared).1
        (call.turn env moment w.shared).2 (Call.isRecording order.id)
      have hshared : (w.move i (call.turn env moment w.shared).1
        (call.turn env moment w.shared).2).shared = (call.turn env moment w.shared).1 := rfl
      rw [hshared]
      rcases turn_recordings hknows moment horder with ⟨hold, hsame⟩ | ⟨hfree, hrest⟩
      · have honce := h.recordedOnce order hold
        omega
      · obtain ⟨hrecorded, hbefore, hafter⟩ := hrest
        obtain ⟨hnone, hnobody⟩ := h.unrecorded hfree
        rw [hbefore, hafter, hnobody] at hcount
        rw [hrecorded, hnone]
        simpa using hcount

omit [DecidableEq φ] in
theorem Inv.sound (h : Inv env w) : Sound w := by
  have hwell := h.pool.shared
  refine ⟨fun _ horder _ hother => hwell.once horder hother, fun call hcall id hanswer hkey => ?_,
    fun call hcall order horder hkey hsame hne => ?_, h.recordedOnce, hwell.recorded,
    fun order horder => ⟨(hwell.kept order horder).grossSales,
      (hwell.kept order horder).totalCollected⟩⟩
  · have hknows := (h.knows hcall).phase
    rw [Call.answer] at hanswer
    split at hanswer
    · rename_i other hphase
      obtain rfl := Option.some.inj hanswer
      rw [hphase] at hknows
      exact hknows hkey
    · rename_i other hphase
      obtain rfl := Option.some.inj hanswer
      rw [hphase] at hknows
      exact hknows hkey
    · cases hanswer
  · have hknows := h.knows hcall
    -- the order of the call would be the one order of its key
    have hother : ∀ other ∈ w.shared.orders, other.origin.key = call.request.key →
        other.origin.payload ≠ call.request.payload := by
      intro other hother hkey'
      rw [hwell.once hother horder (hkey' ▸ hkey) (hkey'.trans hsame.symm)]
      exact hne
    constructor
    · cases hcreated : call.created with
      | none => rfl
      | some id =>
        obtain ⟨other, hmem, -, horigin⟩ := hknows.created id hcreated
        exact absurd (by rw [horigin]) (hother other hmem (by rw [horigin]))
    · intro hrank
      have hphase := hknows.phase
      cases hcase : call.phase with
      | returned id =>
        rw [hcase] at hphase
        obtain ⟨other, hmem, -, hkey', hpayload⟩ := hphase hkey
        exact absurd hpayload (hother other hmem hkey')
      | rejected error => exact ⟨error, rfl⟩
      | _ =>
        rw [hcase] at hrank
        cases hrank

theorem finishes (w : Pool φ) (action : Action) : Finishes env w action := by
  cases action with
  | start request hvalid => exact trivial
  | turn i moment => exact fun call _ hrank => turn_rank call moment hrank

theorem Inv.toldApart (h : Inv env w) {action : Action}
    (hsound : Sound (ManualOrders.step env w action)) : ToldApart w action := by
  cases action with
  | start request hvalid => exact trivial
  | turn i moment =>
    intro call hcall hlooks hfailure key hkey order hfind hfingerprint hmatches
    obtain ⟨horder, -⟩ := findByKey_some hfind
    have hanswer : ∀ next, call.answerOr env w.shared next = .reading order.id := by
      intro next
      have hretry : findManualOrderRetry env w.shared call.request = .ok (some order.id) := by
        have hall : order.matches env call.request = true := by
          rw [OrderRow.matches, hfingerprint]
          exact hmatches
        rw [findManualOrderRetry, hkey]
        dsimp only
        rw [hfind]
        dsimp only
        rw [if_pos hall]
      rw [Call.answerOr, hretry]
    have hturn : call.turn env moment w.shared =
        (w.shared, call.goTo (.reading order.id)) := by
      rw [Call.turn]
      rcases hlooks with hphase | hphase <;> rw [hphase] <;> dsimp only <;>
        rw [hanswer, Moment.orFailure, hfailure]
    have hstep : ManualOrders.step env w (.turn i moment) =
        w.move i w.shared (call.goTo (.reading order.id)) := by
      rw [ManualOrders.step, hcall]
      dsimp only
      rw [hturn]
    rw [hstep] at hsound
    obtain ⟨other, hother, hid, hsame, hpayload⟩ := hsound.answered _
      (ThreadPool.mem_move_self hcall _ _) order.id rfl (by
        change call.request.key ≠ none
        rw [hkey]
        exact Option.some_ne_none key)
    obtain rfl : other = order := List.inj_on_of_nodup_map h.pool.shared.ids hother horder hid
    exact ⟨hsame, given_of_payload hpayload⟩

structure Start (env : Environment φ) where
  book : OrderBook φ
  wellFormed : WellFormed env book
  recordedOnce : ∀ order ∈ book.orders, book.recorded.count order.id = 1

/-- **Manual orders.**  However calls interleave and fail: every state of a run is sound, and every
call comes to an end, if and only if no call finds, under its key, an order without a fingerprint
that matches it field by field but was created without that key, or with a currency or prices in
other places. -/
theorem manualOrders (start : Start env) (actions : List Action) :
    Machine.Along (step env) ToldApart { shared := start.book } actions ↔
      Machine.Along (step env)
        (fun w action => Sound (step env w action) ∧ Finishes env w action)
        { shared := start.book } actions := by
  have hstart : Inv env ({ shared := start.book } : Pool φ) :=
    ⟨ThreadPool.Inv.start start.wellFormed, start.recordedOnce⟩
  refine Machine.Along.iff_of_keeps (I := Inv env) (fun _ _ hw htold => hw.step htold)
    (fun w action hw => ⟨fun htold => ⟨(hw.step htold).sound, finishes w action⟩,
      fun hsound => hw.toldApart hsound.1⟩) hstart

/-! ### A key that is the id of an order -/

def plainEnvironment : Environment Payload where
  manualOrderRequestHash := id
  injective := Function.injective_id

def emptyStore : Start plainEnvironment where
  book := {}
  wellFormed :=
    ⟨List.nodup_nil, List.nodup_nil, fun _ horder => absurd horder List.not_mem_nil,
      fun _ hid => absurd hid List.not_mem_nil⟩
  recordedOnce := fun _ horder => absurd horder List.not_mem_nil

def capeVariant : CatalogueVariant where
  id := "cape"
  productName := "Cape"
  price := 100
  stored := by decide +kernel

def capeOrderId : String := "018f8d5a-7c1e-4c1b-9b52-2f9d6a4e1c33"

def capeMoment : Moment where
  variants := fun code => if code = "CAPE" then some capeVariant else none
  uuid := capeOrderId
  customerId := "ahmed"

def capeRequest (idempotencyKey : Option String) : CreateManualOrderDto where
  idempotencyKey := idempotencyKey
  customerName := "Ahmed"
  customerPhone := "+212612345678"
  shippingAddress := "123 Rue Al Massira"
  items := [{ productCode := "CAPE", quantity := 2 }]

theorem capeRequest_valid (idempotencyKey : Option String) :
    (capeRequest idempotencyKey).Valid := by
  have hphone : JsText.trim "+212612345678" ≠ "" := by decide +kernel
  refine ⟨hphone, fun item hitem price hprice => ?_, fun _ hcost => nomatch hcost⟩
  obtain rfl := List.mem_singleton.1 hitem
  cases hprice

def ordered (i : ℕ) (idempotencyKey : Option String) : List Action :=
  .start (capeRequest idempotencyKey) (capeRequest_valid idempotencyKey) ::
    List.replicate 6 (.turn i capeMoment)

def mistaken : Pool Payload :=
  step plainEnvironment
    (Machine.run (step plainEnvironment) { shared := emptyStore.book }
      (ordered 0 none ++ [.start (capeRequest (some capeOrderId)) (capeRequest_valid _)]))
    (.turn 1 capeMoment)

theorem mistaken_rows :
    mistaken.threads.map (fun call => (call.answer, call.request.key)) =
        [(some capeOrderId, none), (some capeOrderId, some capeOrderId)] ∧
      mistaken.shared.orders.map (fun order => order.origin.key) = [none] := by decide +kernel

/-- **A key that is the id of another order**: the call answers with an order that no call with its
key has created. -/
theorem manualOrders_mistaken :
    ¬ Machine.Along (step plainEnvironment)
      (fun w action =>
        Sound (step plainEnvironment w action) ∧ Finishes plainEnvironment w action)
      { shared := emptyStore.book }
      ((ordered 0 none ++ [.start (capeRequest (some capeOrderId)) (capeRequest_valid _)]) ++
        [.turn 1 capeMoment]) := by
  intro h
  have hsound : Sound mistaken := (Machine.Along.append.1 h).2.1.1
  obtain ⟨hcalls, horigins⟩ := mistaken_rows
  have hsecond : (some capeOrderId, some capeOrderId) ∈
      mistaken.threads.map fun call => (call.answer, call.request.key) := by
    rw [hcalls]
    exact List.mem_cons_of_mem _ (List.mem_singleton_self _)
  obtain ⟨call, hcall, hpair⟩ := List.mem_map.1 hsecond
  obtain ⟨hanswer, hkey⟩ := Prod.mk.inj hpair
  obtain ⟨order, horder, -, hsame, -⟩ := hsound.answered call hcall capeOrderId hanswer (by
    rw [hkey]
    exact Option.some_ne_none _)
  have hnone : order.origin.key = none := by
    have hmem := List.mem_map_of_mem (f := fun order : OrderRow Payload => order.origin.key) horder
    rwa [horigins, List.mem_singleton] at hmem
  rw [hnone, hkey] at hsame
  cases hsame

end Zomaal.ManualOrders
