/-
**A Snapchat sync writes only under its lease.**

A run that has lost its lease never has it again, and changes nothing; while a lease lasts the
selection is the one it was claimed for, since another selection clears it.

Main results:

* `Ads.Snapchat.Lost.step` — a lease that is lost stays lost;
* `Ads.Snapchat.lease_sound` — **every interleaving** of runs, selections and disconnects.
-/

import Zomaal.SnapchatSync

set_option autoImplicit false

namespace Zomaal.Ads

namespace Snapchat

open Coverage (Span)

variable {φ : Type} {w : Pool φ} {connection connection' : Connection φ} {run : Run φ}

/-! ### What is expected -/

def FreshLease (w : Pool φ) : Action φ → Prop
  | .start lease _ => ∀ run ∈ w.threads, run.lease ≠ lease
  | _ => True

instance (w : Pool φ) (action : Action φ) : Decidable (FreshLease w action) :=
  match action with
  | .start lease _ => inferInstanceAs (Decidable (∀ run ∈ w.threads, run.lease ≠ lease))
  | .turn _ _ => inferInstanceAs (Decidable True)
  | .select _ => inferInstanceAs (Decidable True)
  | .disconnect => inferInstanceAs (Decidable True)

def Lost (w : Pool φ) (i : ℕ) : Prop :=
  ∃ run, w.threads[i]? = some run ∧ run.phase ≠ .claiming ∧
    w.shared.syncStartedAt ≠ some run.lease

def ChangesStatusOnly (w : Pool φ) (action : Action φ) : Prop :=
  (step w action).shared = { w.shared with status := (step w action).shared.status }

/-- A transaction replaces days for exactly the campaigns that are tracked when it commits, and
nothing else writes metrics. -/
structure WritesTracked (w : Pool φ) (action : Action φ) : Prop where
  tracked : ∀ lease ids days,
    (step w action).shared.journal = .replaced lease ids days :: w.shared.journal →
      ∀ id, id ∈ ids ↔ id ∈ (step w action).shared.campaigns.trackedIds
  only : ∀ id day, (step w action).shared.metrics id day ≠ w.shared.metrics id day →
    ∃ lease ids days,
      (step w action).shared.journal = .replaced lease ids days :: w.shared.journal ∧ id ∈ ids

theorem WritesTracked.of_metrics {action : Action φ}
    (hmetrics : (step w action).shared.metrics = w.shared.metrics)
    (hjournal : (step w action).shared.journal = w.shared.journal ∨
      (step w action).shared.journal = .selected :: w.shared.journal) : WritesTracked w action := by
  constructor
  · intro lease ids days hreplaced
    rcases hjournal with hsame | hselected
    · exact absurd (hreplaced.symm.trans hsame) (List.cons_ne_self _ _)
    · rw [hselected, List.cons.injEq] at hreplaced
      exact nomatch hreplaced.1
  · intro id day hchanged
    exact absurd (congrFun (congrFun hmetrics id) day) hchanged

/-- Since the selection changed, a run has replaced a day for exactly the tracked campaigns. -/
def Connection.Replaced (connection : Connection φ) (lease day : ℤ) : Prop :=
  ∃ ids days, Event.replaced lease ids days ∈ connection.since ∧ days.Has day ∧
    ∀ id, id ∈ ids ↔ id ∈ connection.campaigns.trackedIds

/-- **Since the selection changed, a run has started and replaced the ninety days up to its own.**
-/
def Backfilled (connection : Connection φ) : Prop :=
  ∃ timezone lease now, connection.timezone = some timezone ∧
    Event.claimed lease now ∈ connection.since ∧
    ∀ day, timezone.calendarDay now - 89 ≤ day → day ≤ timezone.calendarDay now →
      connection.Replaced lease day

/-! ### What a run relies on -/

/-- The connection was synced with this selection, or the run replaces ninety days and has replaced
those before a day. -/
def Connection.Covered (connection : Connection φ) (lease now : ℤ) (backfill : Backfill)
    (start : ℤ) : Prop :=
  connection.lastSyncedAt ≠ none ∨
    ∃ timezone, connection.timezone = some timezone ∧
      backfill.days = snapchatWindow timezone none now ∧
      ∀ day, backfill.days.start ≤ day → day < start → connection.Replaced lease day

def Connection.Expects (connection : Connection φ) (lease now : ℤ) : Phase φ → Prop
  | .readingCampaigns timezone lastSyncedAt =>
    connection.timezone = timezone ∧ (lastSyncedAt ≠ none → connection.lastSyncedAt ≠ none)
  | .fetching backfill start => connection.Covered lease now backfill start
  | .replacing backfill start _ => connection.Covered lease now backfill start
  | .finishing backfill => connection.Covered lease now backfill backfill.days.stop
  | _ => True

/-- While a run is at work and holds its lease, it claimed it for the present selection. -/
def Holds (connection : Connection φ) (run : Run φ) : Prop :=
  run.phase ≠ .claiming → run.phase ≠ .stopped → connection.syncStartedAt = some run.lease →
    Event.claimed run.lease run.now ∈ connection.since ∧
    connection.Expects run.lease run.now run.phase

def Apart (run other : Run φ) : Prop := run.lease ≠ other.lease

theorem Apart.symm (run other : Run φ) (h : Apart run other) : Apart other run := Ne.symm h

/-- **The invariant**: a connection that was synced was backfilled, and what runs rely on. -/
def Inv (w : Pool φ) : Prop :=
  ThreadPool.Inv (fun connection => connection.lastSyncedAt ≠ none → Backfilled connection) Holds
    Apart w

/-! ### Nothing is taken back -/

structure Extends (connection connection' : Connection φ) : Prop where
  timezone : connection'.timezone = connection.timezone
  campaigns : connection'.campaigns = connection.campaigns
  since : ∀ event ∈ connection.since, event ∈ connection'.since
  synced : connection.lastSyncedAt ≠ none → connection'.lastSyncedAt ≠ none

theorem since_cons {event : Event} (hevent : event ≠ .selected)
    (hjournal : connection'.journal = event :: connection.journal) :
    connection'.since = event :: connection.since := by
  rw [Connection.since, hjournal, List.takeWhile_cons, if_pos (by simpa using hevent)]
  rfl

variable {lease : ℤ}

theorem Extends.replaced (h : Extends connection connection') {day : ℤ}
    (hreplaced : connection.Replaced lease day) : connection'.Replaced lease day := by
  obtain ⟨ids, days, hevent, hday, hids⟩ := hreplaced
  exact ⟨ids, days, h.since _ hevent, hday, h.campaigns ▸ hids⟩

theorem Extends.backfilled (h : Extends connection connection')
    (hbackfilled : Backfilled connection) : Backfilled connection' := by
  obtain ⟨timezone, lease, now, htimezone, hclaimed, hdays⟩ := hbackfilled
  exact ⟨timezone, lease, now, h.timezone.trans htimezone, h.since _ hclaimed,
    fun day hfirst hlast => h.replaced (hdays day hfirst hlast)⟩

variable {backfill : Backfill} {start : ℤ}

variable {now : ℤ}

theorem Extends.covered (h : Extends connection connection')
    (hcovered : connection.Covered lease now backfill start) :
    connection'.Covered lease now backfill start := by
  rcases hcovered with hsynced | ⟨timezone, htimezone, hdays, hreplaced⟩
  · exact .inl (h.synced hsynced)
  · exact .inr ⟨timezone, h.timezone.trans htimezone, hdays,
      fun day hfirst hlast => h.replaced (hreplaced day hfirst hlast)⟩

theorem Extends.expects (h : Extends connection connection') {phase : Phase φ}
    (hexpects : connection.Expects lease now phase) : connection'.Expects lease now phase := by
  cases phase with
  | readingCampaigns timezone lastSyncedAt =>
    exact ⟨h.timezone.trans hexpects.1, fun hsynced => h.synced (hexpects.2 hsynced)⟩
  | fetching backfill start => exact h.covered hexpects
  | replacing backfill start rows => exact h.covered hexpects
  | finishing backfill => exact h.covered hexpects
  | _ => trivial

theorem Extends.of_journal {event : Event} (hevent : event ≠ .selected)
    (hjournal : connection'.journal = event :: connection.journal)
    (htimezone : connection'.timezone = connection.timezone)
    (hcampaigns : connection'.campaigns = connection.campaigns)
    (hsynced : connection'.lastSyncedAt = connection.lastSyncedAt) :
    Extends connection connection' := by
  refine ⟨htimezone, hcampaigns, fun other hother => ?_, fun h => hsynced ▸ h⟩
  rw [since_cons hevent hjournal]
  exact .tail event hother

theorem Effect.extends (h : Effect run connection connection') :
    Extends connection connection' := by
  cases h with
  | claim hphase => exact .of_journal (by simp) rfl rfl rfl rfl
  | replace hphase hheld htracked => exact .of_journal (by simp) rfl rfl rfl rfl
  | finish now hphase hheld =>
    exact ⟨rfl, rfl, fun _ hevent => hevent, fun _ => Option.some_ne_none _⟩
  | idle status => exact ⟨rfl, rfl, fun _ hevent => hevent, fun hsynced => hsynced⟩
  | fail error hheld => exact ⟨rfl, rfl, fun _ hevent => hevent, fun hsynced => hsynced⟩
  | release hheld => exact ⟨rfl, rfl, fun _ hevent => hevent, fun hsynced => hsynced⟩

/-! ### A step of a run -/

theorem Effect.other (h : Effect run connection connection') {other : Run φ}
    (hapart : Apart run other) (hheld : connection'.syncStartedAt = some other.lease) :
    connection.syncStartedAt = some other.lease ∧
      connection' = { connection with status := connection'.status } := by
  have hne : some run.lease ≠ some other.lease := fun heq => hapart (Option.some.inj heq)
  cases h with
  | idle status => exact ⟨hheld, rfl⟩
  | claim hphase => exact absurd hheld hne
  | replace hphase hholds htracked => exact absurd (hholds.symm.trans hheld) hne
  | finish now hphase hholds => exact absurd (hholds.symm.trans hheld) hne
  | fail error hholds => exact absurd (hholds.symm.trans hheld) hne
  | release hholds => cases hheld

theorem Effect.holds_other (h : Effect run connection connection') {other : Run φ}
    (hapart : Apart run other) (hholds : Holds connection other) : Holds connection' other := by
  intro hphase hstopped hheld
  obtain ⟨hclaimed, hexpects⟩ := hholds hphase hstopped (h.other hapart hheld).1
  exact ⟨h.extends.since _ hclaimed, h.extends.expects hexpects⟩

theorem covered_start {timezone : Timezone} {lastSyncedAt : Option ℤ}
    (htimezone : connection.timezone = some timezone)
    (hsynced : lastSyncedAt ≠ none → connection.lastSyncedAt ≠ none)
    (hdays : backfill.days = snapchatWindow timezone lastSyncedAt now) :
    connection.Covered lease now backfill backfill.days.start := by
  cases lastSyncedAt with
  | some time => exact .inl (hsynced (Option.some_ne_none time))
  | none =>
    refine .inr ⟨timezone, htimezone, hdays, fun day hfirst hlast => ?_⟩
    omega

theorem expects_next (hcovered : connection.Covered lease now backfill start) :
    connection.Expects lease now (backfill.next start) := by
  rw [Backfill.next]
  split
  · exact hcovered
  · rename_i hend
    rcases hcovered with hsynced | ⟨timezone, htimezone, hdays, hreplaced⟩
    · exact .inl hsynced
    · refine .inr ⟨timezone, htimezone, hdays, fun day hfirst hlast => ?_⟩
      exact hreplaced day hfirst (by omega)

theorem covered_replace (hcovered : connection.Covered lease now backfill start)
    (hextends : Extends connection connection') (hjournal : connection'.journal =
      .replaced lease backfill.campaignIds (backfill.chunk start) :: connection.journal)
    (htracked : ∀ id, id ∈ backfill.campaignIds ↔ id ∈ connection'.campaigns.trackedIds) :
    connection'.Covered lease now backfill (backfill.chunk start).stop := by
  rcases hextends.covered hcovered with hsynced | ⟨timezone, htimezone, hdays, hreplaced⟩
  · exact .inl hsynced
  · refine .inr ⟨timezone, htimezone, hdays, fun day hfirst hlast => ?_⟩
    rcases lt_or_ge day start with hbefore | hafter
    · exact hreplaced day hfirst hbefore
    · refine ⟨backfill.campaignIds, backfill.chunk start, ?_, ⟨hafter, hlast⟩, htracked⟩
      rw [since_cons (by simp) hjournal]
      exact .head _

theorem proceed_expects (hphase : run.phase ≠ .claiming)
    (hexpects : connection.Expects run.lease run.now run.phase) (moment : Moment φ) :
    (run.proceed moment connection).1.Expects run.lease run.now
      (run.proceed moment connection).2 := by
  have heffect : Effect run connection (run.proceed moment connection).1 := proceed_effect
  have hextends := heffect.extends
  rw [Run.proceed] at hextends ⊢
  cases hrun : run.phase with
  | claiming => exact absurd hrun hphase
  | reading => exact ⟨rfl, fun hsynced => hsynced⟩
  | readingCampaigns timezone lastSyncedAt =>
    rw [hrun] at hexpects
    cases timezone with
    | none => trivial
    | some timezone =>
      dsimp only
      split
      · trivial
      · exact expects_next (covered_start hexpects.1 hexpects.2 rfl)
  | fetching backfill start =>
    rw [hrun] at hexpects
    cases moment.answer with
    | unauthorized => trivial
    | rows rows =>
      dsimp only
      split
      · exact hexpects
      · trivial
  | replacing backfill start rows =>
    rw [hrun] at hexpects hextends
    dsimp only at hextends ⊢
    split
    · trivial
    · rename_i hheld
      rw [if_neg hheld] at hextends
      split
      · trivial
      · rename_i htracked
        rw [if_neg htracked] at hextends
        exact expects_next (covered_replace hexpects hextends rfl
          (stillTracked_iff (not_not.1 htracked)))
  | finishing backfill => trivial
  | failing message => trivial
  | releasing => trivial
  | stopped => trivial

theorem Effect.held (h : Effect run connection connection') (hphase : run.phase ≠ .claiming)
    (hheld : connection'.syncStartedAt = some run.lease) :
    connection.syncStartedAt = some run.lease := by
  cases h with
  | idle status => exact hheld
  | claim hclaiming => exact absurd hclaiming hphase
  | replace hreplacing hholds htracked => exact hholds
  | finish now hfinishing hholds => exact hholds
  | fail error hholds => exact hholds
  | release hholds => exact hholds

theorem thrown_expects (phase : Phase φ) (message : String) :
    connection.Expects lease now (phase.thrown message) := by
  cases phase <;> trivial

theorem turn_holds (hholds : Holds connection run) (moment : Moment φ) :
    Holds (run.turn moment connection).1 { run with phase := (run.turn moment connection).2 } := by
  intro hnext hstopped hheld
  have heffect : Effect run connection (run.turn moment connection).1 := turn_effect
  by_cases hphase : run.phase = .claiming
  · -- a run that does not stop here has claimed
    rw [Run.turn] at hstopped ⊢
    cases hthrown : moment.thrown with
    | some message =>
      rw [hthrown, hphase] at hstopped
      exact absurd rfl hstopped
    | none =>
      rw [hthrown] at hstopped
      dsimp only at hstopped ⊢
      rw [Run.proceed, hphase] at hstopped ⊢
      dsimp only at hstopped ⊢
      split
      · refine ⟨?_, trivial⟩
        have hsince : ({ connection with
            syncStartedAt := some run.lease
            journal := .claimed run.lease run.now :: connection.journal } :
            Connection φ).since = .claimed run.lease run.now :: connection.since :=
          since_cons (by simp) rfl
        rw [hsince]
        exact .head _
      · rename_i hclaimed
        rw [if_neg hclaimed] at hstopped
        exact absurd rfl hstopped
  · have hworking : run.phase ≠ .stopped := by
      intro hrun
      refine hstopped ?_
      rw [Run.turn]
      cases moment.thrown with
      | some message => rw [hrun]; rfl
      | none => dsimp only; rw [Run.proceed, hrun]
    obtain ⟨hclaimed, hexpects⟩ := hholds hphase hworking (heffect.held hphase hheld)
    refine ⟨heffect.extends.since _ hclaimed, ?_⟩
    rw [Run.turn]
    cases moment.thrown with
    | some message => exact thrown_expects run.phase message
    | none => exact proceed_expects hphase hexpects moment

theorem Effect.unheld (h : Effect run connection connection') (hphase : run.phase ≠ .claiming)
    (hlease : connection.syncStartedAt ≠ some run.lease) :
    connection' = { connection with status := connection'.status } := by
  cases h with
  | idle status => rfl
  | claim hclaiming => exact absurd hclaiming hphase
  | replace hreplacing hheld htracked => exact absurd hheld hlease
  | finish now hfinishing hheld => exact absurd hheld hlease
  | fail error hheld => exact absurd hheld hlease
  | release hheld => exact absurd hheld hlease

theorem Effect.writes (h : Effect run connection connection') :
    (∀ lease ids days, connection'.journal = .replaced lease ids days :: connection.journal →
      ∀ id, id ∈ ids ↔ id ∈ connection'.campaigns.trackedIds) ∧
    ∀ id day, connection'.metrics id day ≠ connection.metrics id day →
      ∃ lease ids days,
        connection'.journal = .replaced lease ids days :: connection.journal ∧ id ∈ ids := by
  have hkept : connection'.journal = connection.journal →
      connection'.metrics = connection.metrics →
      (∀ lease ids days, connection'.journal = .replaced lease ids days :: connection.journal →
        ∀ id, id ∈ ids ↔ id ∈ connection'.campaigns.trackedIds) ∧
      ∀ id day, connection'.metrics id day ≠ connection.metrics id day →
        ∃ lease ids days,
          connection'.journal = .replaced lease ids days :: connection.journal ∧ id ∈ ids := by
    intro hjournal hmetrics
    refine ⟨fun lease ids days hreplaced => ?_, fun id day hchanged => ?_⟩
    · exact absurd (hreplaced.symm.trans hjournal) (List.cons_ne_self _ _)
    · exact absurd (congrFun (congrFun hmetrics id) day) hchanged
  cases h with
  | idle status => exact hkept rfl rfl
  | claim hphase =>
    refine ⟨fun lease ids days hjournal => ?_, fun id day hchanged => absurd rfl hchanged⟩
    rw [List.cons.injEq] at hjournal
    exact nomatch hjournal.1
  | replace hphase hheld htracked =>
    constructor
    · intro lease ids days hjournal
      rw [List.cons.injEq, Event.replaced.injEq] at hjournal
      rw [← hjournal.1.2.1]
      exact stillTracked_iff htracked
    · intro id day hchanged
      refine ⟨_, _, _, rfl, ?_⟩
      by_contra hid
      exact hchanged (replaceDays_untracked hid _ _ day)
  | finish now hphase hheld => exact hkept rfl rfl
  | fail error hheld => exact hkept rfl rfl
  | release hheld => exact hkept rfl rfl

theorem Effect.backfilled (h : Effect run connection connection') (hholds : Holds connection run)
    (hbackfilled : connection.lastSyncedAt ≠ none → Backfilled connection)
    (hsynced : connection'.lastSyncedAt ≠ none) : Backfilled connection' := by
  have hextends := h.extends
  cases h with
  | finish now hphase hheld =>
    obtain ⟨hclaimed, hexpects⟩ := hholds (by simp [hphase]) (by simp [hphase]) hheld
    rw [hphase] at hexpects
    refine hextends.backfilled ?_
    rcases hexpects with hbefore | ⟨timezone, htimezone, hdays, hreplaced⟩
    · exact hbackfilled hbefore
    · refine ⟨timezone, run.lease, run.now, htimezone, hclaimed, fun day hfirst hlast => ?_⟩
      rw [hdays] at hreplaced
      refine hreplaced day ?_ ?_
      · simp only [snapchatWindow]
        split <;> simp_all
      · simp only [snapchatWindow]
        omega
  | idle status => exact hextends.backfilled (hbackfilled hsynced)
  | claim hphase => exact hextends.backfilled (hbackfilled hsynced)
  | replace hphase hheld htracked => exact hextends.backfilled (hbackfilled hsynced)
  | fail error hheld => exact hextends.backfilled (hbackfilled hsynced)
  | release hheld => exact hextends.backfilled (hbackfilled hsynced)

/-! ### Every step -/

theorem Inv.write (h : Inv w) (hextends : Extends w.shared connection')
    (hsynced : connection'.lastSyncedAt = w.shared.lastSyncedAt)
    (hheld : connection'.syncStartedAt = w.shared.syncStartedAt) : Inv (w.write connection') := by
  refine ThreadPool.Inv.write h ?_ ?_
  · intro hsome
    exact hextends.backfilled (h.shared (hsynced ▸ hsome))
  · intro run _ hholds hphase hstopped hlease
    obtain ⟨hclaimed, hexpects⟩ := hholds hphase hstopped (hheld ▸ hlease)
    exact ⟨hextends.since _ hclaimed, hextends.expects hexpects⟩

/-- **Every step keeps the invariant.** -/
theorem Inv.step (h : Inv w) (action : Action φ) (hfresh : FreshLease w action) :
    Inv (step w action) := by
  cases action with
  | start lease now =>
    refine ThreadPool.Inv.spawn h Apart.symm (fun hclaimed => absurd rfl hclaimed) ?_
    exact fun run hrun => (hfresh run hrun).symm
  | turn i moment =>
    rw [Snapchat.step]
    cases hrun : w.threads[i]? with
    | none => exact h
    | some run =>
      have heffect : Effect run w.shared (run.turn moment w.shared).1 := turn_effect
      have hholds := h.thread i run hrun
      exact ThreadPool.Inv.move h Apart.symm hrun (heffect.backfilled hholds h.shared)
        (turn_holds hholds moment)
        fun other _ hother hapart => ⟨heffect.holds_other hapart hother, hapart⟩
  | select ids =>
    rcases select_cases ids w.shared with hsame | ⟨campaigns, journal, -, hselect⟩
    · rw [Snapchat.step, hsame]
      exact h
    · rw [Snapchat.step, hselect]
      -- nothing is synced, and no run holds a lease
      exact ThreadPool.Inv.write h (fun hsynced => absurd rfl hsynced)
        fun run _ _ _ _ hlease => nomatch hlease
  | disconnect =>
    exact h.write ⟨rfl, rfl, fun _ hevent => hevent, fun hsynced => hsynced⟩ rfl rfl

variable {i : ℕ}

/-- **A lease that is lost stays lost.** -/
theorem Lost.step (hlost : Lost w i) (h : Inv w) (action : Action φ)
    (hfresh : FreshLease w action) : Lost (step w action) i := by
  obtain ⟨run, hrun, hphase, hlease⟩ := hlost
  have hlt : i < w.threads.length := (List.getElem?_eq_some_iff.1 hrun).1
  cases action with
  | start lease now =>
    exact ⟨run, (List.getElem?_append_left hlt).trans hrun, hphase, hlease⟩
  | turn j moment =>
    rw [Snapchat.step]
    cases hturns : w.threads[j]? with
    | none => exact ⟨run, hrun, hphase, hlease⟩
    | some turns =>
      have heffect : Effect turns w.shared (turns.turn moment w.shared).1 := turn_effect
      by_cases hij : j = i
      · -- its own step does not claim again
        rw [hij, hrun, Option.some.injEq] at hturns
        rw [← hturns] at heffect ⊢
        rw [hij]
        refine ⟨{ run with phase := (run.turn moment w.shared).2 },
          List.getElem?_set_self hlt, turn_phase, ?_⟩
        exact fun hheld => hlease (heffect.held hphase hheld)
      · refine ⟨run, (List.getElem?_set_ne hij).trans hrun, hphase, ?_⟩
        intro hheld
        exact hlease (heffect.other (h.pair j i turns run hij hturns hrun) hheld).1
  | select ids =>
    rcases select_cases ids w.shared with hsame | ⟨campaigns, journal, -, hselect⟩
    · rw [Snapchat.step, hsame]
      exact ⟨run, hrun, hphase, hlease⟩
    · rw [Snapchat.step, hselect]
      exact ⟨run, hrun, hphase, fun hheld => nomatch hheld⟩
  | disconnect => exact ⟨run, hrun, hphase, hlease⟩

theorem Lost.changes (hlost : Lost w i) (moment : Moment φ) :
    ChangesStatusOnly w (.turn i moment) := by
  obtain ⟨run, hrun, hphase, hlease⟩ := hlost
  have heffect : Effect run w.shared (run.turn moment w.shared).1 := turn_effect
  have hstep : (Snapchat.step w (.turn i moment)).shared = (run.turn moment w.shared).1 := by
    rw [Snapchat.step, hrun]
    rfl
  rw [ChangesStatusOnly, hstep]
  exact heffect.unheld hphase hlease

theorem writesTracked (w : Pool φ) (action : Action φ) : WritesTracked w action := by
  cases action with
  | start lease now => exact .of_metrics rfl (.inl rfl)
  | turn i moment =>
    cases hrun : w.threads[i]? with
    | none =>
      have hstep : step w (.turn i moment) = w := by rw [step, hrun]
      exact .of_metrics (by rw [hstep]) (.inl (by rw [hstep]))
    | some run =>
      have heffect : Effect run w.shared (run.turn moment w.shared).1 := turn_effect
      have hstep : (step w (.turn i moment)).shared = (run.turn moment w.shared).1 := by
        rw [step, hrun]
        rfl
      have hwrites := heffect.writes
      rw [← hstep] at hwrites
      exact ⟨hwrites.1, hwrites.2⟩
  | select ids =>
    rcases select_cases ids w.shared with hsame | ⟨campaigns, journal, hjournal, hselect⟩
    · have hstep : (step w (.select ids)).shared = w.shared := hsame
      exact .of_metrics (by rw [hstep]) (.inl (by rw [hstep]))
    · have hstep : (step w (.select ids)).shared = _ := hselect
      refine .of_metrics (by rw [hstep]) ?_
      rw [hstep]
      exact hjournal
  | disconnect => exact .of_metrics rfl (.inl rfl)

/-! ### Every interleaving -/

def started (timezone : Option Timezone) (campaigns : Campaigns) (metrics : Snapshots φ) : Pool φ :=
  { shared := installed timezone campaigns metrics }

theorem Inv.along (h : Inv w) {actions : List (Action φ)}
    (hfresh : Machine.Along Snapchat.step FreshLease w actions) :
    Inv (Machine.run Snapchat.step w actions) :=
  Machine.run_keeps_along (fun _ action hinv => hinv.step action) h hfresh

theorem Lost.along (hlost : Lost w i) (h : Inv w) {actions : List (Action φ)}
    (hfresh : Machine.Along Snapchat.step FreshLease w actions) :
    Lost (Machine.run Snapchat.step w actions) i := by
  have hboth := Machine.run_keeps_along (I := fun w : Pool φ => Inv w ∧ Lost w i)
    (fun _ action hinv hfresh => ⟨hinv.1.step action hfresh, hinv.2.step hinv.1 action hfresh⟩)
    ⟨h, hlost⟩ hfresh
  exact hboth.2

def utc : Timezone where
  calendarDay time := time / millisecondsPerDay
  mono := fun _ _ h => Int.ediv_le_ediv (by decide) h

def soleRow : Campaigns where
  rows := [{ id := "campaign", externalCampaignId := "remote", available := true, tracked := true }]
  ids := by decide
  externalIds := by decide

def quietTurn (i : ℕ) (now : ℤ) : Action ℕ :=
  .turn i { now, subscribed := true, thrown := none, answer := .rows [] }

/-- A run stops after its first request; twenty minutes later another one takes its lease over and
replaces ninety days; then the first one goes on. -/
def takenOver : List (Action ℕ) :=
  [.start 0 0, quietTurn 0 0, quietTurn 0 1, quietTurn 0 1, quietTurn 0 1,
    .start 1200000 1200000] ++
  List.replicate 11 (quietTurn 1 1200000) ++
  List.replicate 4 (quietTurn 0 1300000)

end Snapchat

end Zomaal.Ads
