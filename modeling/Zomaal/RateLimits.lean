/-
**Rate limits.**

Codes that are sent and logins are counted in fixed windows.  The counter is a key of Redis, which
is increased by one command and given an expiry by the next one; or, without Redis, it is a row that
one statement counts up or resets, and that a sweep may delete once it has expired.  This module
embeds both, side by side.  What Redis does at the very instant at which a key expires is a
parameter.

Main results:

* `rateLimits` — **when both stores keep the same windows**.
-/

import Mathlib.Data.Nat.Basic
import Mathlib.Logic.Function.Basic
import Zomaal.FixedWindow
import Zomaal.MachineRun

set_option autoImplicit false

namespace Zomaal

open FixedWindow (Event Window window)

/-! ### Counters -/

structure RatePolicy where
  limit : ℕ
  windowSeconds : ℕ
  message : String

def RatePolicy.length (policy : RatePolicy) : ℕ := policy.windowSeconds * 1000

structure RedisCounter where
  count : ℕ
  expiresAt : Option ℕ := none
  deriving DecidableEq

structure RateLimitBucket where
  count : ℕ
  expiresAt : ℕ

abbrev RedisExpiry := ℕ → ℕ → Bool

/-- **What Redis documents**: a key lives until it expires, and not longer. -/
structure RedisExpiry.Documented (expired : RedisExpiry) : Prop where
  lives : ∀ expiresAt now, now < expiresAt → expired expiresAt now = false
  expires : ∀ expiresAt now, expiresAt < now → expired expiresAt now

inductive RateOutcome
  | passed
  | tooManyRequests (message : String)
  | stopped
  deriving DecidableEq

/-- `assert`, once it has a count. -/
def RatePolicy.outcome (policy : RatePolicy) (count : ℕ) : RateOutcome :=
  if policy.limit < count then .tooManyRequests policy.message else .passed

def RedisExpiry.live (expired : RedisExpiry) (now : ℕ) : Option RedisCounter → Option RedisCounter
  | none => none
  | some counter =>
    match counter.expiresAt with
    | none => some counter
    | some expiresAt => if expired expiresAt now then none else some counter

def RedisExpiry.incr (expired : RedisExpiry) (now : ℕ) (counter : Option RedisCounter) :
    RedisCounter :=
  match expired.live now counter with
  | none => { count := 1 }
  | some counter => { counter with count := counter.count + 1 }

/-- `EXPIRE`; a key that would expire at once is deleted. -/
def RedisCounter.expire (counter : RedisCounter) (now length : ℕ) : Option RedisCounter :=
  if length = 0 then none else some { counter with expiresAt := some (now + length) }

/-- The statement of `hitDatabase`. -/
def hitBucket (now length : ℕ) : Option RateLimitBucket → RateLimitBucket
  | none => ⟨1, now + length⟩
  | some bucket =>
    if bucket.expiresAt ≤ now then ⟨1, now + length⟩ else ⟨bucket.count + 1, bucket.expiresAt⟩

/-- Both stores, and the calls that were made, by their keys. -/
structure RateLimiters where
  now : ℕ := 0
  redis : String → Option RedisCounter := fun _ => none
  buckets : String → Option RateLimitBucket := fun _ => none
  events : String → List Event := fun _ => []

/-- `stops` says that the process stops, or `EXPIRE` fails, after `INCR`; `sweeps` says that the
expired buckets are deleted. -/
inductive RateAction
  | tick (elapsed : ℕ)
  | assert (key : String) (stops sweeps : Bool)
  | clear (key : String)

namespace RateLimiters

variable (policy : String → RatePolicy) (expired : RedisExpiry) (s : RateLimiters)

variable (key : String)

/-- `hitRedis`: the counter after `INCR`. -/
def redisCounter : RedisCounter := expired.incr s.now (s.redis key)

/-- `hitDatabase`: the bucket after the statement. -/
def bucket : RateLimitBucket :=
  hitBucket s.now (policy key).length (s.buckets key)

/-- What a call of `assert` ends with, with Redis. -/
def redisOutcome (stops : Bool) : RateOutcome :=
  if stops then .stopped else (policy key).outcome (s.redisCounter expired key).count

/-- What a call of `assert` ends with, without Redis. -/
def databaseOutcome : RateOutcome :=
  (policy key).outcome (s.bucket policy key).count

/-- The key after `hitRedis`. -/
def hitRedis (stops : Bool) : Option RedisCounter :=
  let counter := s.redisCounter expired key
  if counter.count = 1 ∧ stops = false then counter.expire s.now (policy key).length
  else some counter

def sweep (now : ℕ) (buckets : String → Option RateLimitBucket) : String → Option RateLimitBucket :=
  fun key => (buckets key).filter fun bucket => now < bucket.expiresAt

def step : RateAction → RateLimiters
  | .tick elapsed => { s with now := s.now + elapsed }
  | .assert key stops sweeps =>
    let buckets := Function.update s.buckets key (some (s.bucket policy key))
    { s with
      redis := Function.update s.redis key (s.hitRedis policy expired key stops)
      buckets := if sweeps then sweep s.now buckets else buckets
      events := Function.update s.events key (s.events key ++ [.hit s.now]) }
  | .clear key =>
    { s with
      redis := Function.update s.redis key none
      buckets := Function.update s.buckets key none
      events := Function.update s.events key (s.events key ++ [.clear]) }

/-! ### What is promised -/

def windowOf : Option Window := window (policy key).length (s.events key)

/-- **A call is answered by the hits of its window**, on both stores. -/
structure Answered (stops : Bool) : Prop where
  /-- With Redis, a call that gets a count passes by the hits of the window and the limit. -/
  redis : ∀ w, window (policy key).length (s.events key ++ [.hit s.now]) = some w →
    stops = false →
      (s.redisOutcome policy expired key stops = .passed ↔ w.hits ≤ (policy key).limit)
  /-- Without Redis, the same. -/
  database : ∀ w, window (policy key).length (s.events key ++ [.hit s.now]) = some w →
    (s.databaseOutcome policy key = .passed ↔ w.hits ≤ (policy key).limit)
  /-- Both stores accept the same calls. -/
  same : stops = false → s.redisOutcome policy expired key stops = s.databaseOutcome policy key
  /-- A call is accepted when the last window is over. -/
  released : (∀ w, s.windowOf policy key = some w → w.Over (policy key).length s.now) →
    (stops = false → s.redisOutcome policy expired key stops = .passed) ∧
      s.databaseOutcome policy key = .passed

def SameWindow : RateAction → Prop
  | .assert key stops _ => s.Answered policy expired key stops
  | _ => True

/-- **Redis has a key no longer than its window**: a key that was not given an expiry is not hit
once the window is over, and a key that expires at this instant has expired.  And something is
allowed. -/
def Timely : RateAction → Prop
  | .assert key _ _ =>
    0 < (policy key).limit ∧ ∀ counter, s.redis key = some counter →
      match counter.expiresAt with
      | none => ∀ w, s.windowOf policy key = some w → ¬ w.Over (policy key).length s.now
      | some expiresAt => expiresAt = s.now → expired expiresAt s.now
  | _ => True

structure Start : Prop where
  redis : ∀ key, s.redis key = none
  buckets : ∀ key, s.buckets key = none
  events : ∀ key, s.events key = []

/-! ### The invariant -/

def RedisInv (length now : ℕ) (last : Option Window) : Option RedisCounter → Prop
  | none => ∀ w, last = some w → w.Over length now
  | some counter => ∃ w, last = some w ∧ counter.count = w.hits ∧
      (counter.expiresAt = none ∨ counter.expiresAt = some (w.start + length))

def BucketInv (length now : ℕ) (last : Option Window) : Option RateLimitBucket → Prop
  | none => ∀ w, last = some w → w.Over length now
  | some bucket => ∃ w, last = some w ∧ bucket.count = w.hits ∧ bucket.expiresAt = w.start + length

structure Inv : Prop where
  redis : ∀ key, RedisInv (policy key).length s.now (s.windowOf policy key) (s.redis key)
  buckets : ∀ key, BucketInv (policy key).length s.now (s.windowOf policy key) (s.buckets key)

variable {policy expired s}

theorem Start.inv (h : s.Start) : s.Inv policy := by
  refine ⟨fun key => ?_, fun key => ?_⟩
  · rw [h.redis key, windowOf, h.events key]
    intro w hw
    cases hw
  · rw [h.buckets key, windowOf, h.events key]
    intro w hw
    cases hw

/-! ### Hits -/

variable {last : Option Window} {length : ℕ}

variable {now : ℕ}

theorem incr_spec (hexpired : expired.Documented) {counter : Option RedisCounter}
    (h : RedisInv length now last counter)
    (htimely : ∀ own, counter = some own → match own.expiresAt with
      | none => ∀ w, last = some w → ¬ w.Over length now
      | some expiresAt => expiresAt = now → expired expiresAt now) :
    ∃ w, FixedWindow.next length last (.hit now) = some w ∧
      (expired.incr now counter).count = w.hits ∧
        ((expired.incr now counter).expiresAt = none ∨
          (expired.incr now counter).expiresAt = some (w.start + length)) ∧
            (w.hits = 1 → (∀ old, last = some old → 0 < old.hits) → w.start = now) := by
  have hfresh : expired.live now counter = none → (∀ w, last = some w → w.Over length now) →
      ∃ w, FixedWindow.next length last (.hit now) = some w ∧
        (expired.incr now counter).count = w.hits ∧
          ((expired.incr now counter).expiresAt = none ∨
            (expired.incr now counter).expiresAt = some (w.start + length)) ∧
              (w.hits = 1 → (∀ old, last = some old → 0 < old.hits) → w.start = now) := by
    intro hnone hover
    refine ⟨⟨now, 1⟩, FixedWindow.next_hit_of_over hover, ?_, ?_, fun _ _ => rfl⟩
    · rw [RedisExpiry.incr, hnone]
    · rw [RedisExpiry.incr, hnone]
      exact Or.inl rfl
  cases counter with
  | none => exact hfresh rfl h
  | some own =>
    obtain ⟨w, rfl, hcount, hexpires⟩ := h
    have hopen : expired.live now (some own) = some own → ¬ w.Over length now →
        ∃ w', FixedWindow.next length (some w) (.hit now) = some w' ∧
          (expired.incr now (some own)).count = w'.hits ∧
            ((expired.incr now (some own)).expiresAt = none ∨
              (expired.incr now (some own)).expiresAt = some (w'.start + length)) ∧
                (w'.hits = 1 → (∀ old, some w = some old → 0 < old.hits) → w'.start = now) := by
      intro hlive hnot
      refine ⟨⟨w.start, w.hits + 1⟩, FixedWindow.next_hit_of_open hnot, ?_, ?_, ?_⟩
      · rw [RedisExpiry.incr, hlive]
        exact congrArg (· + 1) hcount
      · rw [RedisExpiry.incr, hlive]
        exact hexpires
      · intro hone hpos
        have hhits := hpos w rfl
        dsimp only at hone
        omega
    have hown := htimely own rfl
    rcases hexpires with hnone | hsome
    · rw [hnone] at hown
      exact hopen (by rw [RedisExpiry.live, hnone]) (hown w rfl)
    · rw [hsome] at hown
      by_cases hover : w.Over length now
      · -- the key has expired, at this instant or before
        refine hfresh ?_ fun old hold => Option.some.inj hold ▸ hover
        rw [RedisExpiry.live, hsome]
        refine if_pos ?_
        rcases Nat.eq_or_lt_of_le hover with heq | hlt
        · exact hown heq
        · exact hexpired.expires _ _ hlt
      · refine hopen ?_ hover
        rw [RedisExpiry.live, hsome]
        exact if_neg (by rw [hexpired.lives _ _ (Nat.lt_of_not_le hover)]; decide)

variable {bucket : Option RateLimitBucket}

theorem hitBucket_spec (h : BucketInv length now last bucket) :
    ∃ w, FixedWindow.next length last (.hit now) = some w ∧
      (hitBucket now length bucket).count = w.hits ∧
        (hitBucket now length bucket).expiresAt = w.start + length := by
  cases bucket with
  | none => exact ⟨⟨now, 1⟩, FixedWindow.next_hit_of_over h, rfl, rfl⟩
  | some own =>
    obtain ⟨w, rfl, hcount, hexpires⟩ := h
    rw [hitBucket]
    by_cases hover : w.Over length now
    · rw [if_pos (by rw [hexpires]; exact hover)]
      refine ⟨⟨now, 1⟩, FixedWindow.next_hit_of_over ?_, rfl, rfl⟩
      exact fun old hold => Option.some.inj hold ▸ hover
    · rw [if_neg (by rw [hexpires]; exact hover)]
      exact ⟨⟨w.start, w.hits + 1⟩, FixedWindow.next_hit_of_open hover,
        congrArg (· + 1) hcount, hexpires⟩

theorem RedisInv.later {now' : ℕ} {counter : Option RedisCounter}
    (h : RedisInv length now last counter) (hle : now ≤ now') :
    RedisInv length now' last counter := by
  cases counter with
  | none => exact fun w hw => Nat.le_trans (h w hw) hle
  | some own => exact h

theorem BucketInv.later {now' : ℕ} (h : BucketInv length now last bucket) (hle : now ≤ now') :
    BucketInv length now' last bucket := by
  cases bucket with
  | none => exact fun w hw => Nat.le_trans (h w hw) hle
  | some own => exact h

theorem BucketInv.sweep (h : BucketInv length now last bucket) :
    BucketInv length now last (bucket.filter fun own => now < own.expiresAt) := by
  cases bucket with
  | none => exact h
  | some own =>
    by_cases hlater : now < own.expiresAt
    · rw [Option.filter_some, if_pos (decide_eq_true hlater)]
      exact h
    · rw [Option.filter_some, if_neg (by simpa using hlater)]
      obtain ⟨w, rfl, -, hexpires⟩ := h
      intro old hold
      obtain rfl := Option.some.inj hold
      change w.start + length ≤ now
      rw [← hexpires]
      exact not_lt.1 hlater

theorem window_update (key other : String) (event : Event) :
    window (policy other).length (Function.update s.events key (s.events key ++ [event]) other) =
      if other = key then
        FixedWindow.next (policy key).length (s.windowOf policy key) event
      else s.windowOf policy other := by
  by_cases heq : other = key
  · subst heq
    rw [Function.update_self, if_pos rfl, FixedWindow.window_append, windowOf]
  · rw [Function.update_of_ne heq, if_neg heq, windowOf]

theorem Inv.redis_hit (hexpired : expired.Documented) (h : s.Inv policy) {key : String}
    {stops sweeps : Bool} (htimely : s.Timely policy expired (.assert key stops sweeps)) :
    RedisInv (policy key).length s.now
      (FixedWindow.next (policy key).length (s.windowOf policy key) (.hit s.now))
      (s.hitRedis policy expired key stops) := by
  obtain ⟨w, hw, hcount, hexpires, hstart⟩ := incr_spec hexpired (h.redis key) htimely.2
  have hpos : ∀ old, s.windowOf policy key = some old → 0 < old.hits := fun old hold =>
    FixedWindow.hits_pos hold
  have hhit : s.hitRedis policy expired key stops =
      if (expired.incr s.now (s.redis key)).count = 1 ∧ stops = false then
        (expired.incr s.now (s.redis key)).expire s.now (policy key).length
      else some (expired.incr s.now (s.redis key)) := rfl
  rw [hw, hhit]
  by_cases hfirst : (expired.incr s.now (s.redis key)).count = 1 ∧ stops = false
  · rw [if_pos hfirst]
    have hone : w.hits = 1 := hcount.symm.trans hfirst.1
    have hnow := hstart hone hpos
    rw [RedisCounter.expire]
    by_cases hzero : (policy key).length = 0
    · rw [if_pos hzero]
      intro own hown
      obtain rfl := Option.some.inj hown
      change w.start + (policy key).length ≤ s.now
      omega
    · rw [if_neg hzero]
      exact ⟨w, rfl, hcount, Or.inr (by rw [hnow])⟩
  · rw [if_neg hfirst]
    exact ⟨w, rfl, hcount, hexpires⟩

/-- **Every step keeps the invariant** when Redis has its keys no longer than their windows. -/
theorem Inv.step (hexpired : expired.Documented) (h : s.Inv policy) {action : RateAction}
    (htimely : s.Timely policy expired action) : (s.step policy expired action).Inv policy := by
  cases action with
  | tick elapsed =>
    exact ⟨fun key => (h.redis key).later (Nat.le_add_right _ _),
      fun key => (h.buckets key).later (Nat.le_add_right _ _)⟩
  | clear key =>
    refine ⟨fun other => ?_, fun other => ?_⟩
    · change RedisInv _ s.now (window _ (Function.update s.events key _ other))
        (Function.update s.redis key none other)
      rw [window_update]
      by_cases heq : other = key
      · subst heq
        rw [if_pos rfl, Function.update_self]
        exact fun w hw => nomatch hw
      · rw [if_neg heq, Function.update_of_ne heq]
        exact h.redis other
    · change BucketInv _ s.now (window _ (Function.update s.events key _ other))
        (Function.update s.buckets key none other)
      rw [window_update]
      by_cases heq : other = key
      · subst heq
        rw [if_pos rfl, Function.update_self]
        exact fun w hw => nomatch hw
      · rw [if_neg heq, Function.update_of_ne heq]
        exact h.buckets other
  | assert key stops sweeps =>
    have hbuckets : ∀ other, BucketInv (policy other).length s.now
        (window (policy other).length
          (Function.update s.events key (s.events key ++ [.hit s.now]) other))
        (Function.update s.buckets key (some (s.bucket policy key)) other) := by
      intro other
      rw [window_update]
      by_cases heq : other = key
      · subst heq
        rw [if_pos rfl, Function.update_self]
        exact hitBucket_spec (h.buckets other)
      · rw [if_neg heq, Function.update_of_ne heq]
        exact h.buckets other
    refine ⟨fun other => ?_, fun other => ?_⟩
    · change RedisInv _ s.now (window _ (Function.update s.events key _ other))
        (Function.update s.redis key _ other)
      rw [window_update]
      by_cases heq : other = key
      · subst heq
        rw [if_pos rfl, Function.update_self]
        exact h.redis_hit hexpired htimely
      · rw [if_neg heq, Function.update_of_ne heq]
        exact h.redis other
    · cases sweeps with
      | false => exact hbuckets other
      | true => exact (hbuckets other).sweep

theorem outcome_passed (own : RatePolicy) (count : ℕ) :
    own.outcome count = .passed ↔ count ≤ own.limit := by
  unfold RatePolicy.outcome
  split
  · rename_i hmore
    exact ⟨(fun hpassed => nomatch hpassed), fun hle => absurd hmore (not_lt.2 hle)⟩
  · rename_i hnot
    exact ⟨fun _ => not_lt.1 hnot, fun _ => rfl⟩

theorem Inv.answered (hexpired : expired.Documented) (h : s.Inv policy) {key : String}
    {stops sweeps : Bool} (htimely : s.Timely policy expired (.assert key stops sweeps)) :
    s.Answered policy expired key stops := by
  obtain ⟨w, hw, hcount, -, -⟩ := incr_spec hexpired (h.redis key) htimely.2
  obtain ⟨w', hw', hbucket, -⟩ := hitBucket_spec (h.buckets key)
  obtain rfl := Option.some.inj (hw.symm.trans hw')
  have hwindow : ∀ own, window (policy key).length (s.events key ++ [.hit s.now]) = some own →
      own = w := by
    intro own hown
    rw [FixedWindow.window_append] at hown
    exact Option.some.inj (hown.symm.trans hw)
  have hredis : stops = false →
      s.redisOutcome policy expired key stops = (policy key).outcome w.hits := by
    rintro rfl
    rw [redisOutcome, if_neg Bool.false_ne_true, redisCounter, hcount]
  have hdatabase : s.databaseOutcome policy key = (policy key).outcome w.hits := by
    rw [databaseOutcome, bucket, hbucket]
  refine ⟨?_, ?_, fun hgoes => (hredis hgoes).trans hdatabase.symm, fun hover => ?_⟩
  · intro own hown hgoes
    rw [hwindow own hown, hredis hgoes, outcome_passed]
  · intro own hown
    rw [hwindow own hown, hdatabase, outcome_passed]
  · have hone : w.hits ≤ (policy key).limit := by
      rw [FixedWindow.next_hit_of_over hover] at hw
      obtain rfl := Option.some.inj hw
      exact htimely.1
    have hpassed := (outcome_passed (policy key) w.hits).2 hone
    exact ⟨fun hgoes => (hredis hgoes).trans hpassed, hdatabase.trans hpassed⟩

end RateLimiters

/-- **Both stores keep the same windows**, for any keys and any calls, when Redis has its keys no
longer than their windows: a call passes when its window has no more hits than the limit, and when
the last window is over. -/
theorem rateLimits (policy : String → RatePolicy) {expired : RedisExpiry}
    (hexpired : expired.Documented) {s : RateLimiters} (hstart : s.Start) {acts : List RateAction}
    (h : Machine.Along (RateLimiters.step policy expired) (RateLimiters.Timely policy expired) s
      acts) :
    Machine.Along (RateLimiters.step policy expired) (RateLimiters.SameWindow policy expired) s
      acts := by
  refine Machine.Along.of_keeps (fun _ _ hinv htimely => hinv.step hexpired htimely) ?_
    hstart.inv h
  intro t action hinv htimely
  cases action with
  | tick elapsed => exact trivial
  | clear key => exact trivial
  | assert key stops sweeps => exact hinv.answered hexpired htimely

/-! ### Runs -/

def lazyExpiry : RedisExpiry := fun expiresAt now => expiresAt < now

theorem lazyExpiry_documented : lazyExpiry.Documented where
  lives _ _ hlt := decide_eq_false (Nat.lt_asymm hlt)
  expires _ _ hlt := decide_eq_true hlt

def twoLogins : String → RatePolicy := fun _ =>
  ⟨2, 60, "Too many login attempts. Please try again later."⟩

/-- The process stops before the key is given an expiry; an hour later a login is refused. -/
theorem rateLimits_locked_out :
    lazyExpiry.Documented ∧ ({} : RateLimiters).Start ∧
      ¬ Machine.Along (RateLimiters.step twoLogins lazyExpiry)
        (RateLimiters.SameWindow twoLogins lazyExpiry) {}
        ([.assert "login" true false, .assert "login" false false, .tick 3600000] ++
          [.assert "login" false false]) := by
  refine ⟨lazyExpiry_documented, ⟨fun _ => rfl, fun _ => rfl, fun _ => rfl⟩, fun h => ?_⟩
  have hanswered : RateLimiters.Answered twoLogins lazyExpiry _ "login" false :=
    (Machine.Along.append.1 h).2.1
  have hpassed := (hanswered.released (by decide +kernel)).1 rfl
  revert hpassed
  decide +kernel

theorem RateLimiters.timely_of_none {policy : String → RatePolicy} {expired : RedisExpiry}
    {s : RateLimiters} {key : String} {stops sweeps : Bool} (hlimit : 0 < (policy key).limit)
    (hkey : s.redis key = none) : s.Timely policy expired (.assert key stops sweeps) := by
  refine ⟨hlimit, fun counter hcounter => ?_⟩
  cases hkey.symm.trans hcounter

theorem RateLimiters.timely_of_expiresAt {policy : String → RatePolicy} {expired : RedisExpiry}
    {s : RateLimiters} {key : String} {stops sweeps : Bool} (hlimit : 0 < (policy key).limit)
    {counter : RedisCounter} (hkey : s.redis key = some counter) {expiresAt : ℕ}
    (hexpires : counter.expiresAt = some expiresAt) (hne : expiresAt ≠ s.now) :
    s.Timely policy expired (.assert key stops sweeps) := by
  refine ⟨hlimit, fun own hown => ?_⟩
  obtain rfl := Option.some.inj (hkey.symm.trans hown)
  rw [hexpires]
  exact fun heq => absurd heq hne

/-- Logins in two windows, and after the counter is cleared. -/
theorem rateLimits_two_windows :
    Machine.Along (RateLimiters.step twoLogins lazyExpiry)
      (RateLimiters.SameWindow twoLogins lazyExpiry) {}
      [.assert "login" false false, .tick 59999, .assert "login" true true,
        .assert "login" false false, .tick 2, .assert "login" false true, .clear "login",
        .assert "login" false false] := by
  have hstart : ({} : RateLimiters).Start := ⟨fun _ => rfl, fun _ => rfl, fun _ => rfl⟩
  refine rateLimits twoLogins lazyExpiry_documented hstart ?_
  refine ⟨?_, trivial, ?_, ?_, trivial, ?_, trivial, ?_, trivial⟩
  · exact RateLimiters.timely_of_none (by decide) rfl
  · exact @RateLimiters.timely_of_expiresAt _ _ _ _ _ _ (by decide) ⟨1, some 60000⟩
      (by decide +kernel) 60000 rfl (by decide +kernel)
  · exact @RateLimiters.timely_of_expiresAt _ _ _ _ _ _ (by decide) ⟨2, some 60000⟩
      (by decide +kernel) 60000 rfl (by decide +kernel)
  · exact @RateLimiters.timely_of_expiresAt _ _ _ _ _ _ (by decide) ⟨3, some 60000⟩
      (by decide +kernel) 60000 rfl (by decide +kernel)
  · exact RateLimiters.timely_of_none (by decide) (by decide +kernel)

end Zomaal
