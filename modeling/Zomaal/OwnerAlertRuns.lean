/-
**An owner's alert is sent once.**

A row of the outbox is claimed only while it waits, and it waits only until a worker has claimed it
and again after that worker's last statement.  The sweep takes the row from a slow worker, which
does not look.

Main results:

* `ownerAlert_once` — **at most one message is accepted and at most three attempts are made, and a
  settled alert is not taken up again unless a worker goes on after its row was taken**.
-/

import Zomaal.MachineRun
import Zomaal.OwnerAlerts

set_option autoImplicit false

namespace Zomaal

/-! ### What holds -/

def AlertRows.has (rows : AlertRows) (statuses : List AlertStatus) : Bool :=
  rows.alert.any fun alert => alert.status ∈ statuses

def AlertPool.starts (w : AlertPool) : AlertAction → Bool
  | .turn i _ _ _ => w.threads[i]?.any fun worker => (worker matches .counting _)
  | _ => false

def AlertPool.calls (w : AlertPool) : AlertAction → Bool
  | .turn i _ _ _ => w.threads[i]?.any fun worker => (worker matches .sending _)
  | _ => false

/-- One message at most is accepted; a sent alert stays so and is not sent again; one that failed or
is cancelled stays so; and no fourth attempt begins. -/
structure AlertPool.Sound (w : AlertPool) (action : AlertAction) : Prop where
  once : (w.step action).shared.accepted ≤ 1
  sent : w.shared.has [.sent] → (w.step action).shared.has [.sent] ∧
    w.starts action = false ∧ w.calls action = false
  ended : w.shared.has [.failed, .cancelled] → (w.step action).shared.has [.failed, .cancelled]
  attempts : w.starts action → ∀ alert ∈ w.shared.alert, alert.attempts < 3

def settledStatuses : List AlertStatus := [.sent, .unknown, .failed, .cancelled]

def AlertPool.SettledKept (w : AlertPool) (action : AlertAction) : Prop :=
  w.shared.has settledStatuses → (w.step action).shared.has settledStatuses

def AlertPool.owned (w : AlertPool) : AlertAction → Bool
  | .turn i _ _ _ =>
    match w.threads[i]? with
    | some (.blocking _) | some (.retrying _) => w.shared.has [.sending]
    | _ => true
  | _ => true

abbrev AlertPool.Owned (w : AlertPool) (action : AlertAction) : Prop := w.owned action = true

/-! ### The invariant -/

structure AlertRows.Inv (rows : AlertRows) : Prop where
  once : rows.accepted ≤ 1
  fresh : rows.alert = none → rows.accepted = 0
  waiting : ∀ alert ∈ rows.alert, alert.status = .pending ∨ alert.status = .blocked →
    alert.attempts < 3 ∧ rows.accepted = 0

def AlertWorker.Expects (accepted attempts : ℕ) : AlertWorker → Prop
  | .claimed | .blocking _ | .retrying _ => attempts < 3 ∧ accepted = 0
  | .checking read _ | .rechecking read | .counting read =>
    attempts = read ∧ attempts < 3 ∧ accepted = 0
  | .sending read => attempts = read + 1 ∧ accepted = 0
  | .finishing status _ => status ∈ [AlertStatus.unknown, .failed, .cancelled]
  | .sent _ | .done => True

def AlertWorker.Holds (rows : AlertRows) (worker : AlertWorker) : Prop :=
  worker ≠ .done → ∃ alert, rows.alert = some alert ∧
    (alert.status = .sending ∨ alert.status = .unknown) ∧
    worker.Expects rows.accepted alert.attempts

def AlertWorker.Apart (t u : AlertWorker) : Prop := t = .done ∨ u = .done

abbrev AlertPool.Inv (w : AlertPool) : Prop :=
  ThreadPool.Inv AlertRows.Inv AlertWorker.Holds AlertWorker.Apart w

theorem AlertWorker.Apart.symm (t u : AlertWorker) (h : t.Apart u) : u.Apart t := Or.symm h

theorem AlertWorker.holds_done (rows : AlertRows) : AlertWorker.Holds rows .done :=
  fun hne => absurd rfl hne

theorem preflight_cases (now : ℤ) (resolved : Bool) (view : AlertView) :
    (∃ code, preflight now resolved view = .finish .cancelled code) ∨
      (∃ code, preflight now resolved view = .block code) ∨
      preflight now resolved view = .send := by
  unfold preflight
  repeat' split
  all_goals simp

theorem AlertWorker.answered_cases (attempts : ℕ) (answer : SendAnswer) :
    (∃ messageId, AlertWorker.answered attempts answer = .sent messageId) ∨
      (∃ code, AlertWorker.answered attempts answer = .retrying code ∧ attempts + 1 < 3 ∧
        answer.rejected.isSome) ∨
      ∃ status code, AlertWorker.answered attempts answer = .finishing status code ∧
        status ∈ [AlertStatus.unknown, .failed, .cancelled] := by
  cases answer with
  | ok messageId => exact Or.inl ⟨messageId, rfl⟩
  | error error =>
    right
    rw [AlertWorker.answered]
    split
    · exact Or.inr ⟨.unknown, _, rfl, by decide⟩
    · rename_i hrejected
      split
      · rename_i hretry
        rw [Bool.and_eq_true, decide_eq_true_eq] at hretry
        exact Or.inl ⟨_, rfl, hretry.2, by rw [hrejected]; rfl⟩
      · exact Or.inr ⟨.failed, _, rfl, by decide⟩

theorem cancelled_ended :
    AlertStatus.cancelled ∈ [AlertStatus.unknown, .failed, .cancelled] := by decide

variable {rows : AlertRows}

theorem AlertWorker.turn_keeps {worker : AlertWorker} (hrows : rows.Inv)
    (hworker : worker.Holds rows) (now : ℤ) (view : AlertView) (outcome : SendOutcome) :
    (worker.turn now view outcome rows).1.Inv ∧
      (worker.turn now view outcome rows).2.Holds (worker.turn now view outcome rows).1 := by
  by_cases hdone : worker = .done
  · rw [hdone]
    exact ⟨hrows, AlertWorker.holds_done _⟩
  obtain ⟨alert, halert, hstatus, hexpects⟩ := hworker hdone
  -- a statement that only writes a status that the alert waits in needs the worker's bounds
  have hupdate : ∀ change : OwnerAlert → OwnerAlert,
      ((change alert).status = .pending ∨ (change alert).status = .blocked →
        (change alert).attempts < 3 ∧ rows.accepted = 0) → (rows.update change).Inv := by
    intro change hwaiting
    refine ⟨hrows.once, fun hnone => ?_, fun changed hchanged hopen => ?_⟩
    · rw [AlertRows.update, halert] at hnone
      cases hnone
    · rw [AlertRows.update, halert] at hchanged
      obtain rfl := Option.some.inj hchanged
      exact hwaiting hopen
  cases worker with
  | claimed =>
    refine ⟨hrows, fun _ => ⟨alert, halert, hstatus, ?_⟩⟩
    simp only [AlertWorker.turn, halert]
    exact ⟨rfl, hexpects⟩
  | checking attempts resolved =>
    refine ⟨hrows, fun _ => ⟨alert, halert, hstatus, ?_⟩⟩
    simp only [AlertWorker.turn]
    rcases preflight_cases now resolved view with ⟨code, hverdict⟩ | ⟨code, hverdict⟩ | hverdict
    · rw [hverdict]
      exact cancelled_ended
    · rw [hverdict]
      exact hexpects.2
    · rw [hverdict]
      exact hexpects
  | rechecking attempts =>
    refine ⟨hrows, fun _ => ⟨alert, halert, hstatus, ?_⟩⟩
    simp only [AlertWorker.turn]
    split
    · exact cancelled_ended
    · exact hexpects
  | counting attempts =>
    refine ⟨hupdate _ fun hopen => ?_, fun _ =>
      ⟨{ alert with attempts := alert.attempts + 1, updatedAt := now }, ?_, hstatus, ?_⟩⟩
    · dsimp only at hopen
      rcases hstatus with h | h <;> simp [h] at hopen
    · simp only [AlertWorker.turn, AlertRows.update, halert, Option.map_some]
    · exact ⟨by rw [hexpects.1], hexpects.2.2⟩
  | sending attempts =>
    have hopen : ¬(alert.status = .pending ∨ alert.status = .blocked) := by
      rcases hstatus with h | h <;> simp [h]
    refine ⟨⟨?_, fun hnone => ?_, fun other hother hwaiting => ?_⟩,
      fun _ => ⟨alert, halert, hstatus, ?_⟩⟩
    · simp only [AlertWorker.turn, hexpects.2]
      split <;> simp
    · simp only [AlertWorker.turn, halert] at hnone
      cases hnone
    · simp only [AlertWorker.turn, halert] at hother
      obtain rfl := Option.some.inj hother
      exact absurd hwaiting hopen
    · simp only [AlertWorker.turn]
      rcases AlertWorker.answered_cases attempts outcome.answer with
        ⟨messageId, hnext⟩ | ⟨code, hnext, hretry, hrejected⟩ | ⟨status, code, hnext, hended⟩
      · rw [hnext]
        trivial
      · rw [hnext, outcome.rejected_not_accepted hrejected]
        refine ⟨?_, hexpects.2⟩
        rw [hexpects.1]
        exact hretry
      · rw [hnext]
        exact hended
  | finishing status code =>
    refine ⟨hupdate _ fun hopen => ?_, AlertWorker.holds_done _⟩
    dsimp only at hopen
    have hended : status ∈ [AlertStatus.unknown, .failed, .cancelled] := hexpects
    rcases hopen with rfl | rfl <;> simp at hended
  | blocking code => exact ⟨hupdate _ fun _ => hexpects, AlertWorker.holds_done _⟩
  | retrying code => exact ⟨hupdate _ fun _ => hexpects, AlertWorker.holds_done _⟩
  | sent messageId =>
    exact ⟨hupdate _ fun hopen => by simp at hopen, AlertWorker.holds_done _⟩
  | done => exact absurd rfl hdone

namespace AlertPool

variable {w : AlertPool}

variable {alert : OwnerAlert}

theorem Inv.all_done (h : Inv w) (halert : w.shared.alert = some alert)
    (hstatus : alert.status ≠ .sending ∧ alert.status ≠ .unknown) :
    ∀ worker ∈ w.threads, worker = .done := by
  intro worker hmem
  by_contra hne
  obtain ⟨i, hi⟩ := List.mem_iff_getElem?.1 hmem
  obtain ⟨held, hheld, hbusy, -⟩ := h.thread i worker hi hne
  obtain rfl := Option.some.inj (halert.symm.trans hheld)
  exact hbusy.elim hstatus.1 hstatus.2

theorem Inv.updateIf (h : Inv w) {condition : OwnerAlert → Bool} {change : OwnerAlert → OwnerAlert}
    (hended : ∀ alert, (change alert).status ∈ [AlertStatus.unknown, .cancelled])
    (hattempts : ∀ alert, (change alert).attempts = alert.attempts)
    (hbusy : ∀ alert, alert.status = .sending ∨ alert.status = .unknown → condition alert →
      (change alert).status = .unknown) :
    Inv (w.write (w.shared.updateIf condition change)) := by
  refine ThreadPool.Inv.write h ⟨h.shared.once, fun hnone => ?_, fun alert halert hopen => ?_⟩
    fun worker _ hholds hne => ?_
  · rw [AlertRows.updateIf, AlertRows.update, Option.map_eq_none_iff] at hnone
    exact h.shared.fresh hnone
  · rw [AlertRows.updateIf, AlertRows.update, Option.mem_def, Option.map_eq_some_iff] at halert
    obtain ⟨old, hold, rfl⟩ := halert
    split at hopen
    · have := hended old
      rcases hopen with hopen | hopen <;> simp [hopen] at this
    · rename_i hnot
      rw [if_neg hnot]
      exact h.shared.waiting old hold hopen
  · obtain ⟨alert, halert, hstatus, hexpects⟩ := hholds hne
    refine ⟨if condition alert then change alert else alert, ?_, ?_, ?_⟩
    · rw [AlertRows.updateIf, AlertRows.update, halert, Option.map_some]
    · split
      · exact Or.inr (hbusy alert hstatus ‹_›)
      · exact hstatus
    · split
      · rw [hattempts]
        exact hexpects
      · exact hexpects

theorem Inv.step (h : Inv w) (action : AlertAction) : Inv (w.step action) := by
  cases action with
  | resolve resolved =>
    exact ThreadPool.Inv.write h ⟨h.shared.once, h.shared.fresh, h.shared.waiting⟩
      fun _ _ hholds => hholds
  | cancelResolved now =>
    refine Inv.updateIf h (fun _ => by simp) (fun _ => rfl) fun alert hstatus hcondition => ?_
    rcases hstatus with hstatus | hstatus <;> simp [hstatus] at hcondition
  | createAlert now =>
    cases halert : w.shared.alert with
    | some alert =>
      have hsame : w.step (.createAlert now) = w := by
        simp only [AlertPool.step, ThreadPool.write, halert, Option.some_or]
        rw [← halert]
      rwa [hsame]
    | none =>
      refine ThreadPool.Inv.write h ⟨h.shared.once, fun hnone => ?_, fun alert hnew _ => ?_⟩
        fun worker _ hholds hne => ?_
      · rw [halert] at hnone
        cases hnone
      · rw [halert] at hnew
        obtain rfl := Option.some.inj hnew
        exact ⟨Nat.zero_lt_succ 2, h.shared.fresh halert⟩
      · obtain ⟨held, hheld, -⟩ := hholds hne
        rw [halert] at hheld
        cases hheld
  | sweep now => exact Inv.updateIf h (fun _ => by simp) (fun _ => rfl) fun _ _ _ => rfl
  | claim now =>
    rw [AlertPool.step]
    split
    · rename_i hdue
      rw [AlertRows.due, Bool.and_eq_true, Option.any_eq_true] at hdue
      obtain ⟨-, alert, halert, hwaits⟩ := hdue
      simp only [Bool.and_eq_true, Bool.or_eq_true, decide_eq_true_eq] at hwaits
      have hbounds := h.shared.waiting alert halert hwaits.1
      have hdone := Inv.all_done h halert (by rcases hwaits.1 with hs | hs <;> simp [hs])
      have hwrite : Inv (w.write (w.shared.update fun alert =>
          { alert with status := .sending, updatedAt := now })) := by
        refine ThreadPool.Inv.write h ⟨h.shared.once, fun hnone => ?_,
          fun claimed hclaimed hopen => ?_⟩ fun worker hmem _ => ?_
        · rw [AlertRows.update, halert] at hnone
          cases hnone
        · rw [AlertRows.update, halert] at hclaimed
          obtain rfl := Option.some.inj hclaimed
          simp at hopen
        · rw [hdone worker hmem]
          exact AlertWorker.holds_done _
      refine ThreadPool.Inv.spawn hwrite AlertWorker.Apart.symm (fun _ =>
        ⟨{ alert with status := .sending, updatedAt := now }, ?_, Or.inl rfl, hbounds⟩)
        fun worker hmem => Or.inr (hdone worker hmem)
      simp only [ThreadPool.write, AlertRows.update, halert, Option.map_some]
    · exact h
  | turn i now view outcome =>
    rw [AlertPool.step]
    split
    · rename_i worker hworker
      obtain ⟨hrows, hholds⟩ :=
        AlertWorker.turn_keeps h.shared (h.thread i worker hworker) now view outcome
      refine ThreadPool.Inv.move h AlertWorker.Apart.symm hworker hrows hholds
        fun other _ hother hapart => ?_
      rcases hapart with rfl | rfl
      · exact ⟨hother, Or.inl rfl⟩
      · exact ⟨AlertWorker.holds_done _, Or.inr rfl⟩
    · exact h

/-! ### The properties of a step -/

theorem has_iff {statuses : List AlertStatus} :
    rows.has statuses ↔ ∃ alert, rows.alert = some alert ∧ alert.status ∈ statuses := by
  rw [AlertRows.has, Option.any_eq_true]
  simp

theorem updateIf_of_not (halert : rows.alert = some alert) {condition : OwnerAlert → Bool}
    (hnot : condition alert = false) (change : OwnerAlert → OwnerAlert) :
    (rows.updateIf condition change).alert = some alert := by
  simp [AlertRows.updateIf, AlertRows.update, halert, hnot]

theorem Inv.step_ended (h : Inv w) (halert : w.shared.alert = some alert)
    (hended : alert.status ∈ [AlertStatus.sent, .failed, .cancelled]) (action : AlertAction) :
    (∃ next, (w.step action).shared.alert = some next ∧
      (next.status = alert.status ∨ alert.status = .failed ∧ next.status = .cancelled)) ∧
    w.starts action = false ∧ w.calls action = false := by
  have hdone := Inv.all_done h halert
    ⟨fun hs => by simp [hs] at hended, fun hs => by simp [hs] at hended⟩
  cases action with
  | resolve resolved => exact ⟨⟨alert, halert, Or.inl rfl⟩, rfl, rfl⟩
  | cancelResolved now =>
    refine ⟨?_, rfl, rfl⟩
    by_cases hfailed : w.shared.resolved = true ∧ alert.status = .failed
    · refine ⟨{ alert with
        status := .cancelled, lastErrorCode := some "CONDITION_RESOLVED", updatedAt := now },
        ?_, Or.inr ⟨hfailed.2, rfl⟩⟩
      simp [AlertPool.step, ThreadPool.write, AlertRows.updateIf, AlertRows.update, halert,
        hfailed]
    · refine ⟨alert, updateIf_of_not halert ?_ _, Or.inl rfl⟩
      rw [Bool.and_eq_false_iff]
      cases hresolved : w.shared.resolved with
      | false => exact Or.inl rfl
      | true =>
        right
        have hnot : alert.status ≠ .failed := fun hs => hfailed ⟨hresolved, hs⟩
        simp only [List.mem_cons, List.not_mem_nil, or_false] at hended
        rcases hended with hs | hs | hs
        · simp [hs]
        · exact absurd hs hnot
        · simp [hs]
  | createAlert now =>
    refine ⟨⟨alert, ?_, Or.inl rfl⟩, rfl, rfl⟩
    simp [AlertPool.step, ThreadPool.write, halert]
  | sweep now =>
    refine ⟨⟨alert, updateIf_of_not halert ?_ _, Or.inl rfl⟩, rfl, rfl⟩
    rw [Bool.and_eq_false_iff]
    exact Or.inl (decide_eq_false fun hs => by simp [hs] at hended)
  | claim now =>
    refine ⟨⟨alert, ?_, Or.inl rfl⟩, rfl, rfl⟩
    have hnot : w.shared.due now = false := by
      simp only [List.mem_cons, List.not_mem_nil, or_false] at hended
      rcases hended with hs | hs | hs <;> simp [AlertRows.due, halert, hs]
    simp [AlertPool.step, hnot, halert]
  | turn i now view outcome =>
    cases hworker : w.threads[i]? with
    | none => simp [AlertPool.step, AlertPool.starts, AlertPool.calls, hworker, halert]
    | some worker =>
      obtain rfl := hdone worker (List.mem_of_getElem? hworker)
      simp [AlertPool.step, AlertPool.starts, AlertPool.calls, hworker, halert,
        AlertWorker.turn, ThreadPool.move]

theorem Inv.sound (h : Inv w) (action : AlertAction) : w.Sound action where
  once := (Inv.step h action).shared.once
  sent := by
    intro hsent
    obtain ⟨alert, halert, hstatus⟩ := has_iff.1 hsent
    rw [List.mem_singleton] at hstatus
    obtain ⟨⟨next, hnext, hkept⟩, hcalls⟩ :=
      Inv.step_ended h halert (by simp [hstatus]) action
    refine ⟨has_iff.2 ⟨next, hnext, ?_⟩, hcalls⟩
    rcases hkept with hkept | ⟨hfailed, -⟩
    · simp [hkept, hstatus]
    · rw [hstatus] at hfailed
      cases hfailed
  ended := by
    intro hended
    obtain ⟨alert, halert, hstatus⟩ := has_iff.1 hended
    obtain ⟨⟨next, hnext, hkept⟩, -⟩ :=
      Inv.step_ended h halert (List.mem_cons_of_mem _ hstatus) action
    refine has_iff.2 ⟨next, hnext, ?_⟩
    rcases hkept with hkept | ⟨-, hcancelled⟩
    · rwa [hkept]
    · simp [hcancelled]
  attempts := by
    intro hstarts alert halert
    cases action with
    | turn i now view outcome =>
      obtain ⟨worker, hworker, hcounting⟩ := (Option.any_eq_true _ _).1 hstarts
      cases worker with
      | counting attempts =>
        obtain ⟨held, hheld, -, hexpects⟩ := h.thread i _ hworker (by simp)
        obtain rfl := Option.some.inj (halert.symm.trans hheld)
        exact hexpects.2.1
      | _ => cases hcounting
    | _ => cases hstarts

theorem Inv.unknown_kept (h : Inv w) (halert : w.shared.alert = some alert)
    (hunknown : alert.status = .unknown) {action : AlertAction} (howned : w.Owned action) :
    (w.step action).shared.has settledStatuses := by
  have hkept : alert.status ∈ settledStatuses := by
    rw [hunknown]
    decide
  cases action with
  | resolve resolved => exact has_iff.2 ⟨alert, halert, hkept⟩
  | cancelResolved now =>
    exact has_iff.2 ⟨alert, updateIf_of_not halert (by simp [hunknown]) _, hkept⟩
  | createAlert now =>
    exact has_iff.2 ⟨alert, by simp [AlertPool.step, ThreadPool.write, halert], hkept⟩
  | sweep now =>
    exact has_iff.2 ⟨alert, updateIf_of_not halert (by simp [hunknown]) _, hkept⟩
  | claim now =>
    have hnot : w.shared.due now = false := by simp [AlertRows.due, halert, hunknown]
    exact has_iff.2 ⟨alert, by simp [AlertPool.step, hnot, halert], hkept⟩
  | turn i now view outcome =>
    rw [AlertPool.Owned, AlertPool.owned] at howned
    rw [AlertPool.step]
    cases hworker : w.threads[i]? with
    | none => exact has_iff.2 ⟨alert, halert, hkept⟩
    | some worker =>
      simp only [hworker] at howned
      cases worker with
      | blocking code => simp [AlertRows.has, halert, hunknown] at howned
      | retrying code => simp [AlertRows.has, halert, hunknown] at howned
      | counting attempts =>
        refine has_iff.2 ⟨{ alert with attempts := alert.attempts + 1, updatedAt := now }, ?_,
          hkept⟩
        simp [ThreadPool.move, AlertWorker.turn, AlertRows.update, halert]
      | finishing status code =>
        obtain ⟨held, hheld, -, hended⟩ := h.thread i _ hworker (by simp)
        refine has_iff.2 ⟨{ alert with
          status := status, lastErrorCode := some code, updatedAt := now }, ?_,
          List.mem_cons_of_mem _ hended⟩
        simp [ThreadPool.move, AlertWorker.turn, AlertRows.update, halert]
      | sent messageId =>
        refine has_iff.2 ⟨{ alert with
          status := .sent, providerMessageId := some messageId, sentAt := some now
          lastErrorCode := none, updatedAt := now }, ?_, List.mem_cons_self ..⟩
        simp [ThreadPool.move, AlertWorker.turn, AlertRows.update, halert]
      | claimed => exact has_iff.2 ⟨alert, halert, hkept⟩
      | checking attempts resolved => exact has_iff.2 ⟨alert, halert, hkept⟩
      | rechecking attempts => exact has_iff.2 ⟨alert, halert, hkept⟩
      | sending attempts => exact has_iff.2 ⟨alert, halert, hkept⟩
      | done => exact has_iff.2 ⟨alert, halert, hkept⟩

/-- **A settled alert stays settled** exactly if a worker that blocks it or puts it back has it. -/
theorem Inv.owned_iff (h : Inv w) (action : AlertAction) :
    w.Owned action ↔ w.SettledKept action := by
  constructor
  · intro howned hsettled
    obtain ⟨alert, halert, hstatus⟩ := has_iff.1 hsettled
    by_cases hunknown : alert.status = .unknown
    · exact Inv.unknown_kept h halert hunknown howned
    · have hended : alert.status ∈ [AlertStatus.sent, .failed, .cancelled] := by
        simp only [settledStatuses, List.mem_cons, List.not_mem_nil, or_false] at hstatus ⊢
        tauto
      obtain ⟨⟨next, hnext, hkept⟩, -⟩ := Inv.step_ended h halert hended action
      refine has_iff.2 ⟨next, hnext, ?_⟩
      rcases hkept with hkept | ⟨-, hcancelled⟩
      · rwa [hkept]
      · rw [hcancelled]
        decide
  · intro hkept
    by_contra howned
    cases action with
    | turn i now view outcome =>
      cases hworker : w.threads[i]? with
      | none => simp [AlertPool.owned, hworker] at howned
      | some worker =>
        -- the worker blocks the alert or puts it back, and has lost it
        have hlost : ∀ reopened : AlertStatus, reopened ∉ settledStatuses →
            (w.shared.has [.sending] = true → False) → worker ≠ .done →
            (∀ alert, w.shared.alert = some alert → ∃ next,
              (w.step (.turn i now view outcome)).shared.alert = some next ∧
                next.status = reopened) → False := by
          intro reopened hreopened hnot hbusy hstep
          obtain ⟨alert, halert, hstatus, -⟩ := h.thread i worker hworker hbusy
          have hunknown : alert.status = .unknown := hstatus.resolve_left fun hs =>
            hnot (has_iff.2 ⟨alert, halert, by simp [hs]⟩)
          obtain ⟨settled, hsettled, hmem⟩ := has_iff.1 (hkept (has_iff.2 ⟨alert, halert, by
            rw [hunknown]
            decide⟩))
          obtain ⟨next, hnext, rfl⟩ := hstep alert halert
          obtain rfl := Option.some.inj (hsettled.symm.trans hnext)
          exact hreopened hmem
        cases worker with
        | blocking code =>
          refine hlost .blocked (by decide) (fun hs => howned ?_) (by simp)
            fun alert halert => ?_
          · simpa [AlertPool.Owned, AlertPool.owned, hworker] using hs
          · simp [AlertPool.step, hworker, ThreadPool.move, AlertWorker.turn,
              AlertRows.update, halert]
        | retrying code =>
          refine hlost .pending (by decide) (fun hs => howned ?_) (by simp)
            fun alert halert => ?_
          · simpa [AlertPool.Owned, AlertPool.owned, hworker] using hs
          · simp [AlertPool.step, hworker, ThreadPool.move, AlertWorker.turn,
              AlertRows.update, halert]
        | _ => simp [AlertPool.owned, hworker] at howned
    | _ => exact howned rfl

end AlertPool

/-! ### Runs -/

def alertStart (resolved : Bool) : AlertPool := { shared := { resolved } }

/-- **Every run**: at most one message is accepted, an alert that was sent or has failed stays so,
and no fourth attempt begins; and a settled alert stays settled exactly as long as no worker blocks
it, or puts it back, that has lost it. -/
theorem ownerAlert_once (resolved : Bool) (acts : List AlertAction) :
    Machine.Along AlertPool.step AlertPool.Sound (alertStart resolved) acts ∧
    (Machine.Along AlertPool.step AlertPool.Owned (alertStart resolved) acts ↔
      Machine.Along AlertPool.step AlertPool.SettledKept (alertStart resolved) acts) := by
  have hstart : AlertPool.Inv (alertStart resolved) :=
    ThreadPool.Inv.start ⟨Nat.zero_le 1, fun _ => rfl, fun _ hnone => nomatch hnone⟩
  constructor
  · exact Machine.Along.of_invariant (I := AlertPool.Inv)
      (fun _ action h => AlertPool.Inv.step h action)
      (fun _ action h => AlertPool.Inv.sound h action) hstart acts
  · exact Machine.Along.iff_of_keeps (I := AlertPool.Inv)
      (fun _ action h _ => AlertPool.Inv.step h action)
      (fun _ action h => AlertPool.Inv.owned_iff h action) hstart

def switchedOff : AlertView where
  type := .lowStock
  material := some
    { name := "Box", unit := "piece", minimumLevel := 10, balances := some [⟨3, 0, 0⟩] }
  enabled := false
  connection := none
  templateName := ""
  language := "fr"
  recipient := none
  sender := none
  templates := none

def nothingHeard : SendOutcome where
  accepted := false
  answer := .error none
  rejected_not_accepted := fun _ => rfl

def slowWorker : List AlertAction :=
  [.createAlert 0, .claim 1, .turn 0 2 switchedOff nothingHeard, .sweep 700000]

def slowWorkerBlocks : List AlertAction :=
  [.turn 0 700001 switchedOff nothingHeard, .turn 0 700002 switchedOff nothingHeard]

/-- The alert was unknown, and is taken up again. -/
theorem ownerAlert_reopened :
    (Machine.run AlertPool.step (alertStart false) slowWorker).shared.has [.unknown] ∧
    (Machine.run AlertPool.step (alertStart false) (slowWorker ++ slowWorkerBlocks)).shared.has
      [.blocked] ∧
    (Machine.run AlertPool.step (alertStart false) (slowWorker ++ slowWorkerBlocks)).shared.due
      2000000 := by
  decide +kernel

end Zomaal
