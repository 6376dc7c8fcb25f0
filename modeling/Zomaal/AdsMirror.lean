/-
**The daily snapshots of ad spend.**

A sync of an ad connection stores the provider's rows of a window of days up to today.  Meta, Google
and TikTok are asked once, and each row is stored on its own; Snapchat is asked for thirty days at a
time, and the snapshots of these are replaced at once.  This module embeds `syncConnection` of the
first three, and `sync` of `snapchat-ads.service.ts`, with a fixed set of tracked campaigns.

Main results:

* `Ads.adsMirror` — **every run of syncs**, failing or not;
* `Ads.adsMirror_fails` — a day revised to nothing, and a gap longer than the look-back.
-/

import Zomaal.Coverage
import Zomaal.MachineRun
import Mathlib.Data.List.Nodup
import Mathlib.Data.Int.ConditionallyCompleteOrder
import Mathlib.Order.ConditionallyCompleteLattice.Basic

set_option autoImplicit false

namespace Zomaal.Ads

open Coverage (Span Gapless)

variable {φ : Type}

/-! ### Rows and snapshots -/

structure Row (φ : Type) where
  externalCampaignId : String
  date : ℤ
  figures : φ

structure AdsCampaign where
  id : String
  externalCampaignId : String
  deriving DecidableEq

/-- The tracked campaigns of a connection; both of their ids are unique. -/
structure TrackedCampaigns where
  campaigns : List AdsCampaign
  ids : (campaigns.map AdsCampaign.id).Nodup
  externalIds : (campaigns.map AdsCampaign.externalCampaignId).Nodup

abbrev Snapshots (φ : Type) := String → ℤ → Option φ

/-- `upsert`, `where: { campaignId_date }`. -/
def Snapshots.upsert (snapshots : Snapshots φ) (campaignId : String) (date : ℤ) (figures : φ) :
    Snapshots φ :=
  fun id day => if id = campaignId ∧ day = date then some figures else snapshots id day

/-- `deleteMany`, `where: { campaignId: { in: [...] }, date: { gte, lt } }`. -/
def Snapshots.deleteMany (snapshots : Snapshots φ) (campaignIds : List String) (days : Span ℤ) :
    Snapshots φ :=
  fun id day => if id ∈ campaignIds ∧ days.Has day then none else snapshots id day

/-- A row of a tracked campaign is stored, another one is passed over. -/
def storeRow (tracked : TrackedCampaigns) (snapshots : Snapshots φ) (row : Row φ) : Snapshots φ :=
  match tracked.campaigns.find? fun campaign =>
      campaign.externalCampaignId = row.externalCampaignId with
  | none => snapshots
  | some campaign => snapshots.upsert campaign.id row.date row.figures

def returned (rows : List (Row φ)) (externalCampaignId : String) (date : ℤ) : Option φ :=
  (rows.find? fun row => row.externalCampaignId = externalCampaignId ∧ row.date = date).map
    Row.figures

/-! ### The four services -/

def millisecondsPerDay : ℤ := 86400000

/-- `dateOnly`: the day of a time in UTC. -/
def dateOnly (time : ℤ) : ℤ := time / millisecondsPerDay

/-- From `dateOnly(now - SYNC_LOOKBACK_DAYS)` to `dateOnly(now)`, that day included. -/
def lookbackWindow (lookbackDays now : ℤ) : Span ℤ :=
  { start := dateOnly (now - lookbackDays * millisecondsPerDay), stop := dateOnly now + 1 }

structure Timezone where
  calendarDay : ℤ → ℤ
  mono : Monotone calendarDay

/-- The window of Snapchat: ninety days at first, thirty days later. -/
def snapchatWindow (timezone : Timezone) (lastSyncedAt : Option ℤ) (now : ℤ) : Span ℤ :=
  let today := timezone.calendarDay now
  let days := if lastSyncedAt.isSome then 30 else 90
  { start := today - (days - 1), stop := today + 1 }

/-- `while (from < end)`: thirty days at a time; the fuel is the number of days. -/
def chunks : ℕ → ℤ → ℤ → List (Span ℤ)
  | 0, _, _ => []
  | fuel + 1, start, stop =>
    if start < stop then
      { start, stop := min (start + 30) stop } :: chunks fuel (min (start + 30) stop) stop
    else []

/-- The transaction of Snapchat: the days of the tracked campaigns are replaced. -/
def replaceDays (tracked : TrackedCampaigns) (days : Span ℤ) (rows : List (Row φ))
    (snapshots : Snapshots φ) : Snapshots φ :=
  rows.foldl (storeRow tracked)
    (snapshots.deleteMany (tracked.campaigns.map AdsCampaign.id) days)

def applyAll (writes : List (Snapshots φ → Snapshots φ)) (snapshots : Snapshots φ) : Snapshots φ :=
  writes.foldl (fun snapshots write => write snapshots) snapshots

/-- Each call is answered with at most one row for a campaign and a day, of the days asked for. -/
def Answered (calls : List (Span ℤ)) (answers : List (List (Row φ))) : Prop :=
  List.Forall₂ (fun (days : Span ℤ) rows => (∀ row ∈ rows, days.Has row.date) ∧
    (rows.map fun row => (row.externalCampaignId, row.date)).Nodup) calls answers

/-! ### What the writes store -/

variable {tracked : TrackedCampaigns} {snapshots : Snapshots φ} {campaign : AdsCampaign}

theorem storeRow_apply (hcampaign : campaign ∈ tracked.campaigns) (row : Row φ) (day : ℤ) :
    storeRow tracked snapshots row campaign.id day =
      if row.externalCampaignId = campaign.externalCampaignId ∧ row.date = day then
        some row.figures
      else snapshots campaign.id day := by
  rw [storeRow]
  cases hfind : tracked.campaigns.find? fun campaign =>
      campaign.externalCampaignId = row.externalCampaignId with
  | none =>
    have hother : campaign.externalCampaignId ≠ row.externalCampaignId := by
      simpa using List.find?_eq_none.1 hfind campaign hcampaign
    rw [if_neg fun h => hother h.1.symm]
  | some found =>
    have hmem := List.mem_of_find?_eq_some hfind
    have hexternal : found.externalCampaignId = row.externalCampaignId := by
      simpa using List.find?_some hfind
    dsimp only [Snapshots.upsert]
    by_cases hsame : row.externalCampaignId = campaign.externalCampaignId
    · have heq : found = campaign :=
        List.inj_on_of_nodup_map tracked.externalIds hmem hcampaign (hexternal.trans hsame)
      simp [heq, hsame, eq_comm]
    · have hid : campaign.id ≠ found.id := by
        intro hid
        have heq := List.inj_on_of_nodup_map tracked.ids hcampaign hmem hid
        exact hsame (hexternal.symm.trans (congrArg AdsCampaign.externalCampaignId heq.symm))
      rw [if_neg fun h => hid h.1, if_neg fun h => hsame h.1]

def Row.key (row : Row φ) : String × ℤ := (row.externalCampaignId, row.date)

theorem returned_cons (row : Row φ) (rows : List (Row φ)) (externalCampaignId : String) (day : ℤ) :
    returned (row :: rows) externalCampaignId day =
      if row.externalCampaignId = externalCampaignId ∧ row.date = day then some row.figures
      else returned rows externalCampaignId day := by
  rw [returned, List.find?_cons]
  split
  · rename_i h
    rw [if_pos (by simpa using h)]
    rfl
  · rename_i h
    rw [if_neg (by simpa using h)]
    rfl

variable {rows : List (Row φ)}

theorem returned_eq_none {externalCampaignId : String} {day : ℤ}
    (h : ∀ row ∈ rows, ¬ (row.externalCampaignId = externalCampaignId ∧ row.date = day)) :
    returned rows externalCampaignId day = none := by
  rw [returned, Option.map_eq_none_iff, List.find?_eq_none]
  exact fun row hrow => by simpa using h row hrow

theorem returned_append (rows rows' : List (Row φ)) (externalCampaignId : String) (day : ℤ) :
    returned (rows ++ rows') externalCampaignId day =
      (returned rows externalCampaignId day).or (returned rows' externalCampaignId day) := by
  rw [returned, List.find?_append, Option.map_or]
  rfl

theorem foldl_storeRow (hcampaign : campaign ∈ tracked.campaigns) (hkeys : (rows.map Row.key).Nodup)
    (day : ℤ) :
    rows.foldl (storeRow tracked) snapshots campaign.id day =
      (returned rows campaign.externalCampaignId day).or (snapshots campaign.id day) := by
  induction rows generalizing snapshots with
  | nil => rfl
  | cons row rows ih =>
    rw [List.map_cons, List.nodup_cons] at hkeys
    rw [List.foldl_cons, ih hkeys.2, storeRow_apply hcampaign, returned_cons]
    split
    · rename_i hthis
      -- no other row has this key
      have hnone : returned rows campaign.externalCampaignId day = none := by
        refine returned_eq_none fun other hother hsame => hkeys.1 ?_
        rw [show row.key = other.key from
          Prod.ext (hthis.1.trans hsame.1.symm) (hthis.2.trans hsame.2.symm)]
        exact List.mem_map_of_mem hother
      rw [hnone]
      rfl
    · rfl

theorem replaceDays_apply (hcampaign : campaign ∈ tracked.campaigns) {days : Span ℤ}
    (hin : ∀ row ∈ rows, days.Has row.date) (hkeys : (rows.map Row.key).Nodup) (day : ℤ) :
    replaceDays tracked days rows snapshots campaign.id day =
      if days.Has day then returned rows campaign.externalCampaignId day
      else snapshots campaign.id day := by
  rw [replaceDays, foldl_storeRow hcampaign hkeys, Snapshots.deleteMany]
  by_cases hday : days.Has day
  · rw [if_pos ⟨List.mem_map_of_mem hcampaign, hday⟩, if_pos hday, Option.or_none]
  · have hnone : returned rows campaign.externalCampaignId day = none :=
      returned_eq_none fun row hrow hsame => hday (hsame.2 ▸ hin row hrow)
    rw [if_neg fun h => hday h.2, if_neg hday, hnone, Option.none_or]

theorem storeRow_untracked {id : String}
    (hid : id ∉ tracked.campaigns.map AdsCampaign.id) (row : Row φ) (day : ℤ) :
    storeRow tracked snapshots row id day = snapshots id day := by
  rw [storeRow]
  cases hfind : tracked.campaigns.find? fun campaign =>
      campaign.externalCampaignId = row.externalCampaignId with
  | none => rfl
  | some found =>
    have hne : id ≠ found.id := by
      intro heq
      exact hid (heq ▸ List.mem_map_of_mem (List.mem_of_find?_eq_some hfind))
    exact if_neg fun h => hne h.1

theorem replaceDays_untracked {id : String} (hid : id ∉ tracked.campaigns.map AdsCampaign.id)
    (days : Span ℤ) (rows : List (Row φ)) (day : ℤ) :
    replaceDays tracked days rows snapshots id day = snapshots id day := by
  have hrows : ∀ snapshots : Snapshots φ,
      rows.foldl (storeRow tracked) snapshots id day = snapshots id day := by
    intro snapshots
    induction rows generalizing snapshots with
    | nil => rfl
    | cons row rows ih => rw [List.foldl_cons, ih, storeRow_untracked hid]
  rw [replaceDays, hrows]
  exact if_neg fun h => hid h.1

variable {answers : List (List (Row φ))}

theorem Answered.mem_calls {calls : List (Span ℤ)} (h : Answered calls answers) {row : Row φ}
    (hrow : row ∈ answers.flatten) : ∃ days ∈ calls, days.Has row.date := by
  induction h with
  | nil => exact absurd hrow List.not_mem_nil
  | @cons days rows calls answers hrows _ ih =>
    rcases List.mem_append.1 hrow with hrow | hrow
    · exact ⟨days, .head calls, hrows.1 row hrow⟩
    · obtain ⟨days', hdays', hhas⟩ := ih hrow
      exact ⟨days', .tail days hdays', hhas⟩

/-- **Several windows replaced**, each of which begins where the one before it ends, or later. -/
theorem applyAll_replaceDays (hcampaign : campaign ∈ tracked.campaigns) {calls : List (Span ℤ)}
    (hanswered : Answered calls answers)
    (hapart : calls.Pairwise fun days days' => days.stop ≤ days'.start) (day : ℤ) :
    applyAll (List.zipWith (replaceDays tracked) calls answers) snapshots campaign.id day =
      if ∃ days ∈ calls, days.Has day then returned answers.flatten campaign.externalCampaignId day
      else snapshots campaign.id day := by
  induction hanswered generalizing snapshots with
  | nil => simp [applyAll]
  | @cons days rows calls answers hrows hrest ih =>
    rw [List.pairwise_cons] at hapart
    have hstep : applyAll (List.zipWith (replaceDays tracked) (days :: calls) (rows :: answers))
        snapshots = applyAll (List.zipWith (replaceDays tracked) calls answers)
          (replaceDays tracked days rows snapshots) := rfl
    rw [hstep, ih hapart.2, List.flatten_cons, returned_append]
    by_cases hlater : ∃ days' ∈ calls, days'.Has day
    · -- the rows of the first window are of earlier days
      obtain ⟨days', hdays', hhas⟩ := hlater
      have hnone : returned rows campaign.externalCampaignId day = none := by
        refine returned_eq_none fun row hrow hsame => ?_
        have hbefore := (hrows.1 row hrow).2
        rw [hsame.2] at hbefore
        exact absurd (le_trans (hapart.1 days' hdays') hhas.1) (not_le.2 hbefore)
      rw [if_pos ⟨days', hdays', hhas⟩, if_pos ⟨days', .tail days hdays', hhas⟩, hnone,
        Option.none_or]
    · rw [if_neg hlater, replaceDays_apply hcampaign hrows.1 hrows.2]
      have hnone : returned answers.flatten campaign.externalCampaignId day = none := by
        refine returned_eq_none fun row hrow hsame => hlater ?_
        rw [← hsame.2]
        exact Answered.mem_calls hrest hrow
      by_cases hday : days.Has day
      · rw [if_pos hday, if_pos ⟨days, .head calls, hday⟩, hnone, Option.or_none]
      · rw [if_neg hday, if_neg]
        rintro ⟨days', hdays', hhas⟩
        rcases List.mem_cons.1 hdays' with rfl | hdays'
        · exact hday hhas
        · exact hlater ⟨days', hdays', hhas⟩

/-! ### The chunks of a window -/

theorem chunks_start {fuel : ℕ} {start stop : ℤ} {days : Span ℤ}
    (h : days ∈ chunks fuel start stop) : start ≤ days.start := by
  induction fuel generalizing start with
  | zero => exact absurd h List.not_mem_nil
  | succ fuel ih =>
    rw [chunks] at h
    split at h
    · rcases List.mem_cons.1 h with rfl | h
      · exact le_refl _
      · have := ih h
        omega
    · exact absurd h List.not_mem_nil

theorem chunks_pairwise (fuel : ℕ) (start stop : ℤ) :
    (chunks fuel start stop).Pairwise fun days days' => days.stop ≤ days'.start := by
  induction fuel generalizing start with
  | zero => exact List.Pairwise.nil
  | succ fuel ih =>
    rw [chunks]
    split
    · exact List.pairwise_cons.2 ⟨fun days hdays => chunks_start hdays, ih _⟩
    · exact List.Pairwise.nil

theorem chunks_cover {fuel : ℕ} {start stop day : ℤ} (hfuel : (stop - start).toNat ≤ fuel)
    (hstart : start ≤ day) (hstop : day < stop) :
    ∃ days ∈ chunks fuel start stop, days.Has day := by
  induction fuel generalizing start with
  | zero => omega
  | succ fuel ih =>
    rw [chunks, if_pos (by omega)]
    rcases lt_or_ge day (min (start + 30) stop) with hfirst | hlater
    · exact ⟨_, List.mem_cons_self .., hstart, hfirst⟩
    · have hrest : (stop - min (start + 30) stop).toNat ≤ fuel := by omega
      obtain ⟨days, hdays, hhas⟩ := ih hrest hlater
      exact ⟨days, .tail _ hdays, hhas⟩

/-! ### A sync service -/

/-- **A sync service**: its window, its calls, and the writes that store what is returned. -/
structure AdsSync (φ : Type) where
  window : Option ℤ → ℤ → Span ℤ
  calls : Span ℤ → List (Span ℤ)
  writes : TrackedCampaigns → Span ℤ → List (List (Row φ)) → List (Snapshots φ → Snapshots φ)
  replaces : Bool
  window_proper : ∀ lastSyncedAt now,
    (window lastSyncedAt now).start ≤ (window lastSyncedAt now).stop
  window_later : ∀ {lastSyncedAt lastSyncedAt' now now'}, now ≤ now' →
    (window lastSyncedAt now).stop ≤ (window lastSyncedAt' now').stop
  writes_store : ∀ {tracked : TrackedCampaigns} {days answers}, Answered (calls days) answers →
    ∀ {campaign}, campaign ∈ tracked.campaigns → ∀ {day}, days.Has day →
      ∀ snapshots : Snapshots φ, applyAll (writes tracked days answers) snapshots campaign.id day =
        (returned answers.flatten campaign.externalCampaignId day).or
          (if replaces then none else snapshots campaign.id day)

theorem lookbackWindow_start (lookbackDays now : ℤ) :
    (lookbackWindow lookbackDays now).start = dateOnly now - lookbackDays := by
  simp only [lookbackWindow, dateOnly, millisecondsPerDay]
  omega

/-- The service that asks once and stores row by row, for the days since a look-back. -/
def upsertingSync (lookbackDays : ℤ) (hpositive : 0 ≤ lookbackDays) : AdsSync φ where
  window _ now := lookbackWindow lookbackDays now
  calls days := [days]
  writes tracked _ answers := answers.flatten.map fun row snapshots =>
    storeRow tracked snapshots row
  replaces := false
  window_proper _ now := by
    rw [lookbackWindow_start, lookbackWindow]
    dsimp only
    omega
  window_later h := by
    have := Int.ediv_le_ediv (c := millisecondsPerDay) (by decide) h
    simp only [lookbackWindow, dateOnly]
    omega
  writes_store := by
    intro tracked days answers hanswered campaign hcampaign day _ snapshots
    obtain ⟨rows, rest, hrows, hrest, rfl⟩ := List.forall₂_cons_left_iff.1 hanswered
    obtain rfl := List.forall₂_nil_left_iff.1 hrest
    rw [applyAll, List.foldl_map, List.flatten_singleton]
    exact foldl_storeRow hcampaign hrows.2 day

/-- Meta: `SYNC_LOOKBACK_DAYS = 28`. -/
def metaSync : AdsSync φ := upsertingSync 28 (by decide)

/-- Google: `SYNC_LOOKBACK_DAYS = 30`. -/
def googleSync : AdsSync φ := upsertingSync 30 (by decide)

/-- TikTok: `SYNC_LOOKBACK_DAYS = 7`. -/
def tiktokSync : AdsSync φ := upsertingSync 7 (by decide)

def snapchatSync (timezone : Timezone) : AdsSync φ where
  window := snapchatWindow timezone
  calls days := chunks (days.stop - days.start).toNat days.start days.stop
  writes tracked days answers :=
    List.zipWith (replaceDays tracked)
      (chunks (days.stop - days.start).toNat days.start days.stop) answers
  replaces := true
  window_proper lastSyncedAt now := by
    simp only [snapchatWindow]
    split <;> omega
  window_later h := by
    have := timezone.mono h
    simp only [snapchatWindow]
    omega
  writes_store := by
    intro tracked days answers hanswered campaign hcampaign day hday snapshots
    rw [applyAll_replaceDays hcampaign hanswered (chunks_pairwise _ _ _),
      if_pos (chunks_cover (le_refl _) hday.1 hday.2)]
    simp

inductive AdsPlatform
  | facebook
  | google
  | tiktok
  | snapchat (timezone : Timezone)

def AdsPlatform.service (φ : Type) : AdsPlatform → AdsSync φ
  | .facebook => metaSync
  | .google => googleSync
  | .tiktok => tiktokSync
  | .snapchat timezone => snapchatSync timezone

/-! ### Attempts -/

/-- The snapshots of a connection, and the windows of its successful syncs, the oldest first. -/
structure AdsConnection (φ : Type) where
  snapshots : Snapshots φ
  lastSyncedAt : Option ℤ
  clock : ℤ
  windows : List (Span ℤ)

/-- An attempt to sync: how long after the one before it begins, how long it lasts, what the
provider answers, and after how many writes it fails, if it does. -/
structure Attempt (φ : Type) where
  waits : ℕ
  lasts : ℕ
  answers : List (List (Row φ))
  failsAfter : Option ℕ

variable {service : AdsSync φ} {tracked : TrackedCampaigns}

namespace AdsSync

def days (service : AdsSync φ) (connection : AdsConnection φ) (attempt : Attempt φ) : Span ℤ :=
  service.window connection.lastSyncedAt (connection.clock + attempt.waits)

/-- `syncConnection`; without a tracked campaign, nothing is asked for. -/
def sync (service : AdsSync φ) (tracked : TrackedCampaigns) (connection : AdsConnection φ)
    (attempt : Attempt φ) : AdsConnection φ :=
  let days := service.days connection attempt
  let writes := service.writes tracked days attempt.answers
  let clock := connection.clock + attempt.waits + attempt.lasts
  if tracked.campaigns = [] then { connection with clock }
  else
    match attempt.failsAfter with
    | some written =>
      { connection with
        snapshots := applyAll (writes.take written) connection.snapshots
        clock }
    | none =>
      { snapshots := applyAll writes connection.snapshots
        lastSyncedAt := some clock
        clock
        windows := connection.windows ++ [days] }

end AdsSync

def Succeeds (tracked : TrackedCampaigns) (attempt : Attempt φ) : Prop :=
  tracked.campaigns ≠ [] ∧ attempt.failsAfter = none

def AnswersSound (service : AdsSync φ) (tracked : TrackedCampaigns) (connection : AdsConnection φ)
    (attempt : Attempt φ) : Prop :=
  Succeeds tracked attempt →
    Answered (service.calls (service.days connection attempt)) attempt.answers

/-- **The snapshots of the tracked campaigns in a window are the rows that were returned.** -/
def Mirrors (tracked : TrackedCampaigns) (days : Span ℤ) (rows : List (Row φ))
    (snapshots : Snapshots φ) : Prop :=
  ∀ campaign ∈ tracked.campaigns, ∀ day, days.Has day →
    snapshots campaign.id day = returned rows campaign.externalCampaignId day

/-- What is expected of an attempt: if it succeeds, the snapshots of its window are the rows that
were returned, and the windows so far leave out no day. -/
def StepSound (service : AdsSync φ) (tracked : TrackedCampaigns) (connection : AdsConnection φ)
    (attempt : Attempt φ) : Prop :=
  Succeeds tracked attempt →
    Mirrors tracked (service.days connection attempt) attempt.answers.flatten
      (service.sync tracked connection attempt).snapshots ∧
    Gapless (service.sync tracked connection attempt).windows

def NoneGone (tracked : TrackedCampaigns) (days : Span ℤ) (rows : List (Row φ))
    (snapshots : Snapshots φ) : Prop :=
  ∀ campaign ∈ tracked.campaigns, ∀ day, days.Has day → snapshots campaign.id day ≠ none →
    returned rows campaign.externalCampaignId day ≠ none

/-- **When an attempt does what is expected**: it fails; or no stored day stays that is gone, and
its window begins no later than the last one stops. -/
def Faithful (service : AdsSync φ) (tracked : TrackedCampaigns) (connection : AdsConnection φ)
    (attempt : Attempt φ) : Prop :=
  Succeeds tracked attempt →
    (service.replaces ∨ NoneGone tracked (service.days connection attempt) attempt.answers.flatten
      connection.snapshots) ∧
    ∀ last ∈ connection.windows.getLast?, (service.days connection attempt).start ≤ last.stop

/-! ### What one attempt does -/

theorem mirrors_writes_iff {days : Span ℤ} (h : Answered (service.calls days) answers)
    (snapshots : Snapshots φ) :
    Mirrors tracked days answers.flatten
        (applyAll (service.writes tracked days answers) snapshots) ↔
      service.replaces ∨ NoneGone tracked days answers.flatten snapshots := by
  constructor
  · intro hmirrors
    rw [or_iff_not_imp_left]
    intro hkeeps campaign hcampaign day hday hstored hgone
    have hwritten := hmirrors campaign hcampaign day hday
    rw [service.writes_store h hcampaign hday, if_neg hkeeps, hgone, Option.none_or] at hwritten
    exact hstored hwritten
  · intro hor campaign hcampaign day hday
    rw [service.writes_store h hcampaign hday]
    rcases hor with hreplaces | hnone
    · rw [if_pos hreplaces, Option.or_none]
    · cases hreturned : returned answers.flatten campaign.externalCampaignId day with
      | some figures => rfl
      | none =>
        have hunstored : snapshots campaign.id day = none := by
          by_contra hstored
          exact hnone campaign hcampaign day hday hstored hreturned
        rw [hunstored, ite_self, Option.none_or]

/-- The windows so far: none of them stops later than the last one, or than a window yet to come.
-/
structure Windows (service : AdsSync φ) (connection : AdsConnection φ) : Prop where
  proper : ∀ days ∈ connection.windows, days.start ≤ days.stop
  latest : ∀ last ∈ connection.windows.getLast?, ∀ days ∈ connection.windows,
    days.stop ≤ last.stop
  before : ∀ days ∈ connection.windows, ∀ lastSyncedAt now, connection.clock ≤ now →
    days.stop ≤ (service.window lastSyncedAt now).stop

variable {connection : AdsConnection φ}

theorem Windows.days_later (h : Windows service connection) (attempt : Attempt φ) {days : Span ℤ}
    (hdays : days ∈ connection.windows) : days.stop ≤ (service.days connection attempt).stop :=
  h.before days hdays _ _ (by omega)

theorem Windows.later {connection' : AdsConnection φ} (h : Windows service connection)
    (hwindows : connection'.windows = connection.windows)
    (hclock : connection.clock ≤ connection'.clock) : Windows service connection' := by
  refine ⟨hwindows ▸ h.proper, hwindows ▸ h.latest, ?_⟩
  intro days hdays lastSyncedAt now hnow
  rw [hwindows] at hdays
  exact h.before days hdays lastSyncedAt now (le_trans hclock hnow)

/-- **Every attempt keeps the windows in order.** -/
theorem Windows.sync (h : Windows service connection) (attempt : Attempt φ) :
    Windows service (service.sync tracked connection attempt) := by
  rw [AdsSync.sync]
  split
  · exact h.later rfl (by dsimp only; omega)
  · split
    · exact h.later rfl (by dsimp only; omega)
    · refine ⟨?_, ?_, ?_⟩
      · intro days hdays
        rcases List.mem_append.1 hdays with hdays | hdays
        · exact h.proper days hdays
        · rw [List.mem_singleton.1 hdays]
          exact service.window_proper _ _
      · intro last hlast days hdays
        rw [List.getLast?_concat, Option.mem_some_iff] at hlast
        rw [← hlast]
        rcases List.mem_append.1 hdays with hdays | hdays
        · exact h.days_later attempt hdays
        · rw [List.mem_singleton.1 hdays]
      · intro days hdays lastSyncedAt now hnow
        dsimp only at hnow
        rcases List.mem_append.1 hdays with hdays | hdays
        · exact h.before days hdays lastSyncedAt now (by omega)
        · rw [List.mem_singleton.1 hdays]
          exact service.window_later (by omega)

theorem stepSound_iff (hwindows : Windows service connection)
    (hgapless : Gapless connection.windows) {attempt : Attempt φ}
    (hanswers : AnswersSound service tracked connection attempt) :
    Faithful service tracked connection attempt ↔ StepSound service tracked connection attempt := by
  refine forall_congr' fun hsucceeds => ?_
  have hsync : service.sync tracked connection attempt =
      { snapshots := applyAll (service.writes tracked (service.days connection attempt)
          attempt.answers) connection.snapshots
        lastSyncedAt := some (connection.clock + attempt.waits + attempt.lasts)
        clock := connection.clock + attempt.waits + attempt.lasts
        windows := connection.windows ++ [service.days connection attempt] } := by
    rw [AdsSync.sync, if_neg hsucceeds.1, hsucceeds.2]
  rw [hsync]
  dsimp only
  rw [mirrors_writes_iff (hanswers hsucceeds)]
  refine and_congr_right fun _ => ?_
  cases hlast : connection.windows.getLast? with
  | none =>
    rw [List.getLast?_eq_none_iff.1 hlast, List.nil_append]
    exact iff_of_true (fun last hnone => nomatch hnone) (Coverage.Gapless.singleton _)
  | some last =>
    have hmem := List.mem_of_getLast? hlast
    have hproper : (service.days connection attempt).start ≤
        (service.days connection attempt).stop := service.window_proper _ _
    rw [Coverage.gapless_append_iff hgapless hmem (hwindows.latest last hlast)
      (hwindows.proper last hmem) hproper (hwindows.days_later attempt hmem)]
    exact ⟨fun h => h last rfl, fun h last' hlast' => Option.some.inj hlast' ▸ h⟩

theorem sync_windows {attempt : Attempt φ} (h : ¬ Succeeds tracked attempt) :
    (service.sync tracked connection attempt).windows = connection.windows := by
  rw [AdsSync.sync]
  split
  · rfl
  · rename_i htracked
    cases hfails : attempt.failsAfter with
    | some written => rfl
    | none => exact absurd ⟨htracked, hfails⟩ h

/-! ### Every run -/

def connected (snapshots : Snapshots φ) (clock : ℤ) : AdsConnection φ where
  snapshots := snapshots
  lastSyncedAt := none
  clock := clock
  windows := []

/-- **Every run of syncs of a connection**, failing or not: each of them that succeeds mirrors what
the provider returned, and their windows leave out no day, exactly as long as no service that only
upserts is told that a stored day is gone, and no window begins after the last one stopped. -/
theorem adsMirror (platform : AdsPlatform) (tracked : TrackedCampaigns) (snapshots : Snapshots φ)
    (clock : ℤ) (attempts : List (Attempt φ))
    (hanswers : Machine.Along ((platform.service φ).sync tracked)
      (AnswersSound (platform.service φ) tracked) (connected snapshots clock) attempts) :
    Machine.Along ((platform.service φ).sync tracked) (Faithful (platform.service φ) tracked)
        (connected snapshots clock) attempts ↔
      Machine.Along ((platform.service φ).sync tracked) (StepSound (platform.service φ) tracked)
        (connected snapshots clock) attempts := by
  refine Machine.Along.iff_of_keeps_within
    (I := fun connection => Windows (platform.service φ) connection ∧
      Gapless connection.windows) ?_ ?_ ?_ hanswers
  · intro connection attempt hinv hanswered hfaithful
    refine ⟨hinv.1.sync attempt, ?_⟩
    by_cases hsucceeds : Succeeds tracked attempt
    · exact (((stepSound_iff hinv.1 hinv.2 hanswered).1 hfaithful) hsucceeds).2
    · rw [sync_windows hsucceeds]
      exact hinv.2
  · intro connection attempt hinv hanswered
    exact stepSound_iff hinv.1 hinv.2 hanswered
  · refine ⟨⟨?_, ?_, ?_⟩, Coverage.Gapless.nil⟩
    · exact fun days hdays => absurd hdays List.not_mem_nil
    · exact fun last _ days hdays => absurd hdays List.not_mem_nil
    · exact fun days hdays => absurd hdays List.not_mem_nil

def soleCampaign : TrackedCampaigns where
  campaigns := [⟨"campaign", "provider-campaign"⟩]
  ids := by decide
  externalIds := by decide

def answered (waits : ℕ) (rows : List (Row ℕ)) : Attempt ℕ where
  waits := waits
  lasts := 0
  answers := [rows]
  failsAfter := none

def revised : List (Attempt ℕ) :=
  [answered 0 [⟨"provider-campaign", 0, 5⟩], answered 3600000 []]

def lapsed : List (Attempt ℕ) := [answered 0 [], answered 1036800000 []]

theorem answersSound_answered {service : AdsSync ℕ} {connection : AdsConnection ℕ} {waits : ℕ}
    {rows : List (Row ℕ)}
    (h : Answered (service.calls (service.days connection (answered waits rows))) [rows]) :
    AnswersSound service soleCampaign connection (answered waits rows) := fun _ => h

theorem examples_answered :
    Machine.Along ((AdsPlatform.facebook.service ℕ).sync soleCampaign)
        (AnswersSound (AdsPlatform.facebook.service ℕ) soleCampaign)
        (connected (fun _ _ => none) 0) revised ∧
      Machine.Along ((AdsPlatform.tiktok.service ℕ).sync soleCampaign)
        (AnswersSound (AdsPlatform.tiktok.service ℕ) soleCampaign)
        (connected (fun _ _ => none) 0) lapsed := by
  refine ⟨⟨answersSound_answered ?_, answersSound_answered ?_, trivial⟩,
    answersSound_answered ?_, answersSound_answered ?_, trivial⟩
  all_goals exact List.Forall₂.cons ⟨by decide, by decide⟩ List.Forall₂.nil

/-- A run of syncs of Meta whose second one is told that a day is gone. -/
theorem adsMirror_revised :
    Machine.Along ((AdsPlatform.facebook.service ℕ).sync soleCampaign)
        (Faithful (AdsPlatform.facebook.service ℕ) soleCampaign)
        (connected (fun _ _ => none) 0) revised ↔
      Machine.Along ((AdsPlatform.facebook.service ℕ).sync soleCampaign)
        (StepSound (AdsPlatform.facebook.service ℕ) soleCampaign)
        (connected (fun _ _ => none) 0) revised :=
  adsMirror .facebook soleCampaign (fun _ _ => none) 0 revised examples_answered.1

/-- **A day that Meta revised to nothing stays stored**, and twelve days without a sync of TikTok
leave days out, though every attempt succeeds. -/
theorem adsMirror_fails :
    (∀ attempt ∈ revised ++ lapsed, Succeeds soleCampaign attempt) ∧
      (Machine.Along ((AdsPlatform.facebook.service ℕ).sync soleCampaign)
        (AnswersSound (AdsPlatform.facebook.service ℕ) soleCampaign)
        (connected (fun _ _ => none) 0) revised ∧
      ¬ Machine.Along ((AdsPlatform.facebook.service ℕ).sync soleCampaign)
        (StepSound (AdsPlatform.facebook.service ℕ) soleCampaign)
        (connected (fun _ _ => none) 0) revised) ∧
      Machine.Along ((AdsPlatform.tiktok.service ℕ).sync soleCampaign)
        (AnswersSound (AdsPlatform.tiktok.service ℕ) soleCampaign)
        (connected (fun _ _ => none) 0) lapsed ∧
      ¬ Machine.Along ((AdsPlatform.tiktok.service ℕ).sync soleCampaign)
        (StepSound (AdsPlatform.tiktok.service ℕ) soleCampaign)
        (connected (fun _ _ => none) 0) lapsed := by
  have hsucceeds : ∀ waits rows, Succeeds soleCampaign (answered waits rows) :=
    fun waits rows => ⟨List.cons_ne_nil _ _, rfl⟩
  refine ⟨?_, ⟨examples_answered.1, ?_⟩, examples_answered.2, ?_⟩
  · intro attempt hattempt
    simp only [revised, lapsed, List.cons_append, List.nil_append, List.mem_cons,
      List.not_mem_nil, or_false] at hattempt
    rcases hattempt with rfl | rfl | rfl | rfl <;> exact hsucceeds _ _
  · -- the snapshot of day 0 is still there
    rintro ⟨-, hsecond, -⟩
    have hmirrors := (hsecond (hsucceeds _ _)).1 ⟨"campaign", "provider-campaign"⟩ (.head _) 0
      (by decide)
    exact absurd hmirrors (by decide)
  · -- day 1 is in none of the windows, from day -7 to day 0 and from day 5 to day 12
    rintro ⟨-, hsecond, -⟩
    have hgapless := (hsecond (hsucceeds _ _)).2
    have hwindows : ((AdsPlatform.tiktok.service ℕ).sync soleCampaign
        ((AdsPlatform.tiktok.service ℕ).sync soleCampaign (connected (fun _ _ => none) 0)
          (answered 0 [])) (answered 1036800000 [])).windows = [⟨-7, 1⟩, ⟨5, 13⟩] := rfl
    rw [hwindows] at hgapless
    have hday : ∃ days ∈ [(⟨-7, 1⟩ : Span ℤ), ⟨5, 13⟩], days.Has 1 :=
      hgapless 1 ⟨⟨-7, 1⟩, by decide, by decide⟩ ⟨⟨5, 13⟩, by decide, by decide⟩
    exact absurd hday (by decide)

end Zomaal.Ads
