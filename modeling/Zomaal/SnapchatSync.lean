/-
**The sync lease of a Snapchat connection.**

A sync run claims the connection with a lease, its start time, which another run may take over after
fifteen minutes.  It asks the provider for thirty days at a time, and replaces these in a
transaction that checks the lease and the selection once more; at the end it writes when it synced,
or its error, and gives the lease back.  Between any two of these steps other runs may do theirs,
and the user may select other campaigns or disconnect the account.  This module embeds `select` and
`sync` of `snapchat-ads.service.ts` and `disconnect` of `ads-connection.service.ts`, a step for each
statement or transaction.

Main results:

* `Ads.Snapchat.turn_effect` — all that a step of a run can do.
-/

import Zomaal.AdsMirror
import Zomaal.ThreadPool
import Mathlib.Data.List.Perm.Subperm

set_option autoImplicit false

namespace Zomaal.Ads

namespace Snapchat

open Coverage (Span)

variable {φ : Type}

/-! ### The campaigns of a connection -/

structure CampaignRow extends AdsCampaign where
  /-- Its status is not `UNAVAILABLE`. -/
  available : Bool
  tracked : Bool
  deriving DecidableEq

structure Campaigns where
  rows : List CampaignRow
  ids : (rows.map fun row => row.id).Nodup
  externalIds : (rows.map fun row => row.externalCampaignId).Nodup

/-- `where: { connectionId: id, tracked: true }`. -/
def Campaigns.tracked (campaigns : Campaigns) : TrackedCampaigns where
  campaigns := (campaigns.rows.filter CampaignRow.tracked).map CampaignRow.toAdsCampaign
  ids := by
    rw [List.map_map]
    exact campaigns.ids.sublist (List.filter_sublist.map _)
  externalIds := by
    rw [List.map_map]
    exact campaigns.externalIds.sublist (List.filter_sublist.map _)

def Campaigns.track (campaigns : Campaigns) (ids : List String) : Campaigns where
  rows := campaigns.rows.map fun row => { row with tracked := row.externalCampaignId ∈ ids }
  ids := by
    rw [List.map_map]
    exact campaigns.ids
  externalIds := by
    rw [List.map_map]
    exact campaigns.externalIds

def Campaigns.trackedIds (campaigns : Campaigns) : List String :=
  campaigns.tracked.campaigns.map AdsCampaign.id

/-! ### A connection -/

inductive AdsConnectionStatus
  | active
  | reauthorizationRequired
  | disconnected
  deriving DecidableEq

/-- What was committed: a run claimed the connection, the selection changed, or days were replaced.
-/
inductive Event
  | claimed (lease now : ℤ)
  | selected
  | replaced (lease : ℤ) (campaignIds : List String) (days : Span ℤ)
  deriving DecidableEq

/-- The rows of a connection.  The timezone is there if its metadata is complete; the journal, the
newest event first, is read by nothing. -/
structure Connection (φ : Type) where
  status : AdsConnectionStatus
  timezone : Option Timezone
  lastSyncedAt : Option ℤ
  lastSyncError : Option String
  syncStartedAt : Option ℤ
  campaigns : Campaigns
  metrics : Snapshots φ
  journal : List Event

def installed (timezone : Option Timezone) (campaigns : Campaigns) (metrics : Snapshots φ) :
    Connection φ where
  status := .active
  timezone := timezone
  lastSyncedAt := none
  lastSyncError := none
  syncStartedAt := none
  campaigns := campaigns
  metrics := metrics
  journal := []

def Connection.since (connection : Connection φ) : List Event :=
  connection.journal.takeWhile fun event => event ≠ .selected

/-- The campaigns that are tracked already are as many as the ids, and among them. -/
def Campaigns.sameSelection (campaigns : Campaigns) (ids : List String) : Bool :=
  campaigns.tracked.campaigns.length = ids.length ∧
    ∀ campaign ∈ campaigns.tracked.campaigns, campaign.externalCampaignId ∈ ids

def Campaigns.valid (campaigns : Campaigns) (ids : List String) : ℕ :=
  campaigns.rows.countP fun row => row.externalCampaignId ∈ ids ∧ row.available

/-- `select`: a transaction that holds the connection's row. -/
def select (ids : List String) (connection : Connection φ) : Connection φ :=
  if connection.status ≠ .active then connection
  else if connection.campaigns.valid ids ≠ ids.length then connection
  else
    let campaigns := connection.campaigns.track ids
    let journal :=
      if campaigns.rows = connection.campaigns.rows then connection.journal
      else .selected :: connection.journal
    if connection.campaigns.sameSelection ids then { connection with campaigns, journal }
    else
      { connection with
        campaigns
        journal
        lastSyncedAt := none
        syncStartedAt := none
        lastSyncError := none }

def disconnect (connection : Connection φ) : Connection φ :=
  { connection with status := .disconnected }

/-! ### A sync run -/

/-- What a run has read: the campaigns it replaces, and the days. -/
structure Backfill where
  campaigns : TrackedCampaigns
  days : Span ℤ

variable (backfill : Backfill)

def Backfill.campaignIds : List String :=
  backfill.campaigns.campaigns.map AdsCampaign.id

inductive Phase (φ : Type)
  | claiming
  | reading
  | readingCampaigns (timezone : Option Timezone) (lastSyncedAt : Option ℤ)
  | fetching (backfill : Backfill) (start : ℤ)
  | replacing (backfill : Backfill) (start : ℤ) (rows : List (Row φ))
  | finishing (backfill : Backfill)
  | failing (message : String)
  | releasing
  | stopped

/-- A call of `sync`: its lease and its `now`. -/
structure Run (φ : Type) where
  lease : ℤ
  now : ℤ
  phase : Phase φ := .claiming

inductive Answer (φ : Type)
  | rows (rows : List (Row φ))
  | unauthorized

/-- What a step finds: the clock, whether the subscription covers ads, whether its statement or call
throws, and what the provider answers. -/
structure Moment (φ : Type) where
  now : ℤ
  subscribed : Bool
  thrown : Option String
  answer : Answer φ

def Connection.eligible (connection : Connection φ) (subscribed : Bool) : Bool :=
  connection.status = .active ∧ subscribed

/-- `OR: [{ syncStartedAt: null }, { syncStartedAt: { lt: ... } }]`. -/
def Connection.unclaimed (connection : Connection φ) (now : ℤ) : Bool :=
  connection.syncStartedAt.all fun startedAt => startedAt < now - 15 * 60000

/-- `where: { id, syncStartedAt: lease }`. -/
def Connection.heldBy (connection : Connection φ) (lease : ℤ) : Bool :=
  connection.syncStartedAt = some lease

/-- The loop `while (from < end)`. -/
def Backfill.next (start : ℤ) : Phase φ :=
  if start < backfill.days.stop then .fetching backfill start else .finishing backfill

def Backfill.chunk (start : ℤ) : Span ℤ :=
  { start, stop := min (start + 30) backfill.days.stop }

/-- The campaigns tracked now are as many as the run's, and among them. -/
def Backfill.stillTracked (campaigns : Campaigns) : Bool :=
  campaigns.trackedIds.length = backfill.campaignIds.length ∧
    ∀ id ∈ campaigns.trackedIds, id ∈ backfill.campaignIds

/-- Where an error leads: out of the claim, to the `catch`, from there to the `finally`, and out. -/
def Phase.thrown (message : String) : Phase φ → Phase φ
  | .claiming => .stopped
  | .failing _ => .releasing
  | .releasing => .stopped
  | .stopped => .stopped
  | _ => .failing message

/-- The next statement of `sync`. -/
def Run.proceed (run : Run φ) (moment : Moment φ) (connection : Connection φ) :
    Connection φ × Phase φ :=
  match run.phase with
  | .claiming =>
    if connection.eligible moment.subscribed ∧ connection.unclaimed moment.now then
      ({ connection with
          syncStartedAt := some run.lease
          journal := .claimed run.lease run.now :: connection.journal }, .reading)
    else (connection, .stopped)
  | .reading => (connection, .readingCampaigns connection.timezone connection.lastSyncedAt)
  | .readingCampaigns none _ =>
    (connection, .failing "Snapchat account currency/timezone is unavailable; reconnect")
  | .readingCampaigns (some timezone) lastSyncedAt =>
    if connection.campaigns.tracked.campaigns = [] then (connection, .releasing)
    else
      let backfill : Backfill :=
        { campaigns := connection.campaigns.tracked
          days := snapchatWindow timezone lastSyncedAt run.now }
      (connection, backfill.next backfill.days.start)
  | .fetching backfill start =>
    match moment.answer with
    | .unauthorized =>
      ({ connection with status := .reauthorizationRequired },
        .failing "Reconnect Snapchat Ads")
    | .rows rows =>
      let selected := rows.filter fun row =>
        row.externalCampaignId ∈
          backfill.campaigns.campaigns.map AdsCampaign.externalCampaignId
      if (selected.map Row.key).Nodup then (connection, .replacing backfill start selected)
      else (connection, .failing "Snapchat returned duplicate campaign-day metrics")
  | .replacing backfill start rows =>
    if ¬(connection.eligible moment.subscribed ∧ connection.heldBy run.lease) then
      (connection, .failing "Snapchat access changed during sync")
    else if ¬backfill.stillTracked connection.campaigns then
      (connection, .failing "Campaign selection changed during sync; retry")
    else
      let days := backfill.chunk start
      ({ connection with
          metrics := replaceDays backfill.campaigns days rows connection.metrics
          journal := .replaced run.lease backfill.campaignIds days :: connection.journal },
        backfill.next days.stop)
  | .finishing _ =>
    (if connection.heldBy run.lease ∧ connection.status = .active then
        { connection with lastSyncedAt := some moment.now, lastSyncError := none }
      else connection, .releasing)
  | .failing message =>
    (if connection.heldBy run.lease then
        { connection with lastSyncError := some (String.ofList (message.toList.take 500)) }
      else connection, .releasing)
  | .releasing =>
    (if connection.heldBy run.lease then { connection with syncStartedAt := none }
      else connection, .stopped)
  | .stopped => (connection, .stopped)

def Run.turn (run : Run φ) (moment : Moment φ) (connection : Connection φ) :
    Connection φ × Phase φ :=
  match moment.thrown with
  | some message => (connection, run.phase.thrown message)
  | none => run.proceed moment connection

/-! ### All steps -/

inductive Action (φ : Type)
  | start (lease now : ℤ)
  | turn (i : ℕ) (moment : Moment φ)
  | select (ids : List String)
  | disconnect

abbrev Pool (φ : Type) := ThreadPool (Connection φ) (Run φ)

def step (w : Pool φ) : Action φ → Pool φ
  | .start lease now => w.spawn { lease, now }
  | .turn i moment =>
    match w.threads[i]? with
    | none => w
    | some run =>
      let (connection, phase) := run.turn moment w.shared
      w.move i connection { run with phase }
  | .select ids => w.write (select ids w.shared)
  | .disconnect => w.write (disconnect w.shared)

/-! ### What a step of a run can do -/

/-- All that a step of a run does to the rows of the connection. -/
inductive Effect (run : Run φ) (connection : Connection φ) : Connection φ → Prop
  | idle (status : AdsConnectionStatus) : Effect run connection { connection with status }
  | claim (hphase : run.phase = .claiming) :
      Effect run connection
        { connection with
          syncStartedAt := some run.lease
          journal := .claimed run.lease run.now :: connection.journal }
  | replace {backfill : Backfill} {start : ℤ} {rows : List (Row φ)}
      (hphase : run.phase = .replacing backfill start rows)
      (hheld : connection.syncStartedAt = some run.lease)
      (htracked : backfill.stillTracked connection.campaigns) :
      Effect run connection
        { connection with
          metrics := replaceDays backfill.campaigns (backfill.chunk start) rows connection.metrics
          journal :=
            .replaced run.lease backfill.campaignIds (backfill.chunk start) :: connection.journal }
  | finish {backfill : Backfill} (now : ℤ) (hphase : run.phase = .finishing backfill)
      (hheld : connection.syncStartedAt = some run.lease) :
      Effect run connection { connection with lastSyncedAt := some now, lastSyncError := none }
  | fail (error : Option String) (hheld : connection.syncStartedAt = some run.lease) :
      Effect run connection { connection with lastSyncError := error }
  | release (hheld : connection.syncStartedAt = some run.lease) :
      Effect run connection { connection with syncStartedAt := none }

variable {run : Run φ} {moment : Moment φ} {connection : Connection φ}

theorem Effect.same : Effect run connection connection := .idle connection.status

theorem heldBy_iff {lease : ℤ} :
    connection.heldBy lease ↔ connection.syncStartedAt = some lease := by
  simp [Connection.heldBy]

theorem proceed_effect : Effect run connection (run.proceed moment connection).1 := by
  rw [Run.proceed]
  cases hphase : run.phase with
  | claiming =>
    dsimp only
    split
    · exact .claim hphase
    · exact .same
  | reading => exact .same
  | readingCampaigns timezone lastSyncedAt =>
    cases timezone with
    | none => exact .same
    | some timezone =>
      dsimp only
      split <;> exact .same
  | fetching backfill start =>
    cases moment.answer with
    | unauthorized => exact .idle _
    | rows rows =>
      dsimp only
      split <;> exact .same
  | replacing backfill start rows =>
    dsimp only
    by_cases hheld : connection.eligible moment.subscribed ∧ connection.heldBy run.lease
    · rw [if_neg (not_not.2 hheld)]
      by_cases htracked : backfill.stillTracked connection.campaigns
      · rw [if_neg (not_not.2 htracked)]
        exact .replace hphase (heldBy_iff.1 hheld.2) htracked
      · rw [if_pos htracked]
        exact .same
    · rw [if_pos hheld]
      exact .same
  | finishing backfill =>
    dsimp only
    split
    · rename_i hheld
      exact .finish moment.now hphase (heldBy_iff.1 hheld.1)
    · exact .same
  | failing message =>
    dsimp only
    split
    · rename_i hheld
      exact .fail _ (heldBy_iff.1 hheld)
    · exact .same
  | releasing =>
    dsimp only
    split
    · rename_i hheld
      exact .release (heldBy_iff.1 hheld)
    · exact .same
  | stopped => exact .same

/-- **All that a step of a run can do.** -/
theorem turn_effect : Effect run connection (run.turn moment connection).1 := by
  rw [Run.turn]
  cases moment.thrown with
  | some message => exact .same
  | none => exact proceed_effect

theorem next_ne_claiming (start : ℤ) : (backfill.next start : Phase φ) ≠ .claiming := by
  rw [Backfill.next]
  split <;> exact fun h => nomatch h

theorem turn_phase : (run.turn moment connection).2 ≠ .claiming := by
  rw [Run.turn]
  cases moment.thrown with
  | some message => cases run.phase <;> exact fun h => nomatch h
  | none =>
    dsimp only
    rw [Run.proceed]
    cases run.phase with
    | readingCampaigns timezone lastSyncedAt =>
      cases timezone with
      | none => exact fun h => nomatch h
      | some timezone =>
        dsimp only
        split
        · exact fun h => nomatch h
        · exact next_ne_claiming _ _
    | fetching backfill start =>
      cases moment.answer with
      | unauthorized => exact fun h => nomatch h
      | rows rows =>
        dsimp only
        split <;> exact fun h => nomatch h
    | replacing backfill start rows =>
      dsimp only
      split
      · exact fun h => nomatch h
      · split
        · exact fun h => nomatch h
        · exact next_ne_claiming _ _
    | claiming =>
      dsimp only
      split <;> exact fun h => nomatch h
    | _ => exact fun h => nomatch h

/-! ### Selections -/

theorem mem_iff_of_length_eq {ids ids' : List String} (hnodup : ids.Nodup)
    (hlength : ids.length = ids'.length) (hsubset : ∀ id ∈ ids, id ∈ ids') (id : String) :
    id ∈ ids' ↔ id ∈ ids := by
  have hperm := (hnodup.subperm hsubset).perm_of_length_le (le_of_eq hlength.symm)
  exact hperm.symm.mem_iff

variable {campaigns : Campaigns}

theorem stillTracked_iff {backfill : Backfill} (h : backfill.stillTracked campaigns) (id : String) :
    id ∈ backfill.campaignIds ↔ id ∈ campaigns.trackedIds := by
  rw [Backfill.stillTracked, decide_eq_true_eq] at h
  exact mem_iff_of_length_eq campaigns.tracked.ids h.1 h.2 id

theorem mem_tracked_externalIds {row : CampaignRow} (hrow : row ∈ campaigns.rows) :
    row.externalCampaignId ∈
      campaigns.tracked.campaigns.map AdsCampaign.externalCampaignId ↔ row.tracked := by
  rw [Campaigns.tracked, List.map_map, List.mem_map]
  constructor
  · rintro ⟨other, hother, hsame⟩
    rw [List.mem_filter] at hother
    have heq : other = row :=
      List.inj_on_of_nodup_map campaigns.externalIds hother.1 hrow hsame
    exact heq ▸ hother.2
  · exact fun htracked => ⟨row, List.mem_filter.2 ⟨hrow, htracked⟩, rfl⟩

/-- **A selection that seems the same is the same**: as many campaigns as ids are tracked, all of
them among the ids, and as many campaigns as ids are there. -/
theorem track_of_sameSelection {ids : List String} (hsame : campaigns.sameSelection ids) :
    (campaigns.track ids).rows = campaigns.rows := by
  rw [Campaigns.sameSelection, decide_eq_true_eq] at hsame
  have hsubset : ∀ externalId ∈ campaigns.tracked.campaigns.map AdsCampaign.externalCampaignId,
      externalId ∈ ids := by
    intro externalId hexternalId
    obtain ⟨campaign, hcampaign, rfl⟩ := List.mem_map.1 hexternalId
    exact hsame.2 campaign hcampaign
  have hmem := mem_iff_of_length_eq campaigns.tracked.externalIds
    ((List.length_map _).trans hsame.1) hsubset
  calc
    (campaigns.track ids).rows = campaigns.rows.map id := by
      refine List.map_congr_left fun row hrow => ?_
      have htracked := (hmem row.externalCampaignId).trans (mem_tracked_externalIds hrow)
      cases row
      simp_all
    _ = campaigns.rows := List.map_id _

theorem select_cases (ids : List String) (connection : Connection φ) :
    select ids connection = connection ∨
      ∃ campaigns journal,
        (journal = connection.journal ∨ journal = .selected :: connection.journal) ∧
        select ids connection =
          { connection with
            campaigns
            journal
            lastSyncedAt := none
            syncStartedAt := none
            lastSyncError := none } := by
  rw [select]
  split
  · exact .inl rfl
  · split
    · exact .inl rfl
    · dsimp only
      by_cases hsame : connection.campaigns.sameSelection ids
      · have hrows := track_of_sameSelection hsame
        have hcampaigns : connection.campaigns.track ids = connection.campaigns := by
          rw [Campaigns.mk.injEq]
          exact hrows
        rw [if_pos hsame, if_pos hrows, hcampaigns]
        exact .inl rfl
      · rw [if_neg hsame]
        refine .inr ⟨_, _, ?_, rfl⟩
        split
        · exact .inl rfl
        · exact .inr rfl

end Snapchat

end Zomaal.Ads
