/-
**Removing a customer from the blacklist.**

A risk counter is incremented in one statement, which returns the row; when the limits are crossed
in that row, another statement blacklists the customer, without looking again.  A removal may come
between the two.  This module runs the calls of `customer-risk.service.ts` on one customer,
statement by statement, in any order.

Main results:

* `removalHolds` — **no increment is lost, and a removal holds exactly as long as the counters that
  a customer is blacklisted for still are what they were judged by**.
-/

import Zomaal.CustomerRisk
import Zomaal.MachineRun
import Zomaal.ThreadPool

set_option autoImplicit false

namespace Zomaal

/-! ### The calls -/

/-- The row of a customer, and two things that are not stored: the increments since the customer was
last removed from the blacklist, and whether the customer was added by hand since. -/
structure Monitored where
  customer : Customer
  increments : List RiskCategory := []
  addedByHand : Bool := false

inductive RiskCall
  | incrementRiskCounter (category : RiskCategory)
  /-- the counter was incremented, of a customer who was not blacklisted -/
  | counted (customer : Customer)
  /-- the limits are crossed in the row the increment returned -/
  | crossed (customer : Customer)
  | removeFromBlacklist
  /-- the customer to be removed was found -/
  | removing
  | addToBlacklist (reason : Option String)
  /-- the customer to be added was found -/
  | adding (reason : Option String) (customer : Customer)
  | finished
  deriving DecidableEq

namespace Monitored

variable (m : Monitored)

def count (category : RiskCategory) : Monitored :=
  { m with
    customer := m.customer.increment category
    increments := m.increments ++ [category] }

def blacklist (reason : String) : Monitored :=
  { m with customer := { m.customer with isBlacklisted := true, blacklistReason := some reason } }

def remove : Monitored where
  customer :=
    { m.customer with
      isBlacklisted := false
      blacklistReason := none
      returnsCount := 0
      cancellationsCount := 0
      refusalsCount := 0
      noAnswerCount := 0 }

end Monitored

/-- `reason?.trim() || autoBlacklistReason(customer)` -/
def blacklistReasonOf (reason : Option String) (customer : Customer) : String :=
  (cleaned reason).getD customer.autoBlacklistReason

def RiskCall.turn (settings : RiskLimits) (m : Monitored) : RiskCall → Monitored × RiskCall
  | .incrementRiskCounter category =>
    let m := m.count category
    (m, if m.customer.isBlacklisted then .finished else .counted m.customer)
  | .counted customer =>
    (m, if customer.evaluateThreshold settings then .crossed customer else .finished)
  | .crossed customer => (m.blacklist customer.autoBlacklistReason, .finished)
  | .removeFromBlacklist => (m, .removing)
  | .removing => (m.remove, .finished)
  | .addToBlacklist reason => (m, .adding reason m.customer)
  | .adding reason customer =>
    ({ m.blacklist (blacklistReasonOf reason customer) with addedByHand := true }, .finished)
  | .finished => (m, .finished)

inductive RiskAction
  | start (call : RiskCall)
  | turn (i : ℕ)

abbrev RiskPool := ThreadPool Monitored RiskCall

def RiskCall.isNew : RiskCall → Bool
  | .incrementRiskCounter _ | .removeFromBlacklist | .addToBlacklist _ => true
  | _ => false

def RiskPool.step (settings : RiskLimits) (w : RiskPool) : RiskAction → RiskPool
  | .start call => if call.isNew then w.spawn call else w
  | .turn i =>
    match w.threads[i]? with
    | some call =>
      let turn := call.turn settings w.shared
      w.move i turn.1 turn.2
    | none => w

/-! ### What the counters say -/

def tally (increments : List RiskCategory) : RiskCounters where
  returnsCount := increments.count .returns
  cancellationsCount := increments.count .cancellations
  refusalsCount := increments.count .refusals
  noAnswerCount := increments.count .noAnswer

/-- Some enabled limit is reached, counting from the last removal. -/
def Monitored.Reached (settings : RiskLimits) (m : Monitored) : Prop :=
  hasCrossedRiskLimit (computeRiskDistances (tally m.increments) settings) = true

theorem hasCrossedRiskLimit_append (ds ds' : List RiskDistance) :
    hasCrossedRiskLimit (ds ++ ds') = (hasCrossedRiskLimit ds || hasCrossedRiskLimit ds') :=
  List.any_append

theorem hasCrossedRiskLimit_riskDistance (category : RiskCategoryLabel) (current : ℕ) (limit : ℤ) :
    hasCrossedRiskLimit (riskDistance category current limit) = true ↔
      0 < limit ∧ limit ≤ current := by
  rw [riskDistance]
  split
  · rename_i hpos
    simp only [hasCrossedRiskLimit, List.any_cons, List.any_nil, Bool.or_false, decide_eq_true_eq]
    omega
  · rename_i hpos
    simp only [hasCrossedRiskLimit, List.any_nil]
    constructor
    · intro h
      cases h
    · exact fun h => absurd h.1 hpos

theorem not_crossed_zero (settings : RiskLimits) :
    hasCrossedRiskLimit (computeRiskDistances {} settings) = false := by
  rw [Bool.eq_false_iff]
  intro h
  have hzero : ∀ category limit, ¬ hasCrossedRiskLimit (riskDistance category 0 limit) = true := by
    intro category limit hcrossed
    rw [hasCrossedRiskLimit_riskDistance] at hcrossed
    omega
  rw [computeRiskDistances] at h
  split at h
  · exact hzero _ _ h
  · simp only [hasCrossedRiskLimit_append, Bool.or_eq_true] at h
    rcases h with ((h | h) | h) | h
    · exact hzero _ _ h
    · exact hzero _ _ h
    · exact hzero _ _ h
    · exact hzero _ _ h

theorem riskDistance_mono {category : RiskCategoryLabel} {n n' : ℕ} {limit : ℤ} (hle : n ≤ n')
    (h : hasCrossedRiskLimit (riskDistance category n limit) = true) :
    hasCrossedRiskLimit (riskDistance category n' limit) = true := by
  rw [hasCrossedRiskLimit_riskDistance] at h ⊢
  omega

theorem crossed_mono {counters counters' : RiskCounters} {settings : RiskLimits}
    (hreturns : counters.returnsCount ≤ counters'.returnsCount)
    (hcancellations : counters.cancellationsCount ≤ counters'.cancellationsCount)
    (hrefusals : counters.refusalsCount ≤ counters'.refusalsCount)
    (hnoAnswer : counters.noAnswerCount ≤ counters'.noAnswerCount)
    (h : hasCrossedRiskLimit (computeRiskDistances counters settings) = true) :
    hasCrossedRiskLimit (computeRiskDistances counters' settings) = true := by
  rw [computeRiskDistances] at h ⊢
  split at h
  · rename_i hcombined
    rw [if_pos hcombined]
    exact riskDistance_mono (by omega) h
  · rename_i hcombined
    rw [if_neg hcombined]
    simp only [hasCrossedRiskLimit_append, Bool.or_eq_true] at h ⊢
    exact h.imp (Or.imp (Or.imp (riskDistance_mono hreturns) (riskDistance_mono hcancellations))
      (riskDistance_mono hrefusals)) (riskDistance_mono hnoAnswer)

theorem tally_append (customer : Customer) (increments : List RiskCategory)
    (category : RiskCategory) (h : customer.toRiskCounters = tally increments) :
    (customer.increment category).toRiskCounters = tally (increments ++ [category]) := by
  have hcounts : ∀ c, (increments ++ [category]).count c =
      increments.count c + if category = c then 1 else 0 := by
    intro c
    rw [List.count_append, List.count_singleton]
    simp only [beq_iff_eq]
  obtain ⟨hreturns, hcancellations, hrefusals, hnoAnswer⟩ := RiskCounters.mk.inj h
  cases category
  all_goals
    simp [Customer.increment, tally, hcounts, hreturns, hcancellations, hrefusals, hnoAnswer]

variable {m : Monitored}

theorem Reached.mono {settings : RiskLimits} (category : RiskCategory) (h : m.Reached settings) :
    (m.count category).Reached settings := by
  have hle : ∀ c, m.increments.count c ≤ (m.increments ++ [category]).count c := fun c => by
    rw [List.count_append]
    exact Nat.le_add_right _ _
  exact crossed_mono (hle _) (hle _) (hle _) (hle _) h

/-! ### What holds -/

def RiskPool.Quiet (w : RiskPool) : Prop := ∀ call ∈ w.threads, call = .finished

instance RiskPool.decidableQuiet (w : RiskPool) : Decidable w.Quiet :=
  inferInstanceAs (Decidable (∀ call ∈ w.threads, call = .finished))

instance (settings : RiskLimits) (m : Monitored) : Decidable (m.Reached settings) :=
  inferInstanceAs (Decidable (_ = true))

def NoneLost (m : Monitored) : Prop := m.customer.toRiskCounters = tally m.increments

/-- When no call is under way, a customer who was not added by hand since the last removal is
blacklisted exactly when an enabled limit is reached since. -/
def RemovalHolds (settings : RiskLimits) (w : RiskPool) : Prop :=
  w.Quiet → w.shared.addedByHand = false →
    (w.shared.customer.isBlacklisted = true ↔ w.shared.Reached settings)

/-- A customer who is blacklisted was added by hand, or a limit is reached. -/
def Justified (settings : RiskLimits) (m : Monitored) : Prop :=
  m.addedByHand = false → m.customer.isBlacklisted = true → m.Reached settings

/-- If the action blacklists the customer for the counters that an increment returned, the customer
is blacklisted already, or the counters in the row cross the limits too. -/
def stillCrossed (settings : RiskLimits) (w : RiskPool) : RiskAction → Bool
  | .start _ => true
  | .turn i =>
    match w.threads[i]? with
    | some (.crossed _) =>
      w.shared.customer.isBlacklisted || w.shared.customer.evaluateThreshold settings
    | _ => true

abbrev StillCrossed (settings : RiskLimits) (w : RiskPool) (action : RiskAction) : Prop :=
  stillCrossed settings w action = true

def RiskCall.Pending (settings : RiskLimits) : RiskCall → Prop
  | .counted customer => customer.evaluateThreshold settings = true
  | .crossed _ => True
  | _ => False

/-- **The invariant**: when a limit is reached, the customer is blacklisted, or a call is about to
do so. -/
structure RiskPool.Inv (settings : RiskLimits) (w : RiskPool) : Prop where
  noneLost : NoneLost w.shared
  added : w.shared.addedByHand = true → w.shared.customer.isBlacklisted = true
  pending : w.shared.Reached settings → w.shared.customer.isBlacklisted = true ∨
    ∃ call ∈ w.threads, call.Pending settings

theorem NoneLost.evaluateThreshold {settings : RiskLimits} (h : NoneLost m) :
    m.customer.evaluateThreshold settings = true ↔ m.Reached settings := by
  rw [Customer.evaluateThreshold, h, Monitored.Reached]

theorem NoneLost.count (h : NoneLost m) (category : RiskCategory) :
    NoneLost (m.count category) := tally_append m.customer m.increments category h

theorem isBlacklisted_increment (customer : Customer) (category : RiskCategory) :
    (customer.increment category).isBlacklisted = customer.isBlacklisted := by
  cases category with
  | _ => rfl

theorem not_reached_remove (settings : RiskLimits) (m : Monitored) :
    ¬ m.remove.Reached settings := by
  rw [Monitored.Reached, Bool.not_eq_true]
  exact not_crossed_zero settings

namespace RiskPool

variable {settings : RiskLimits} {w : RiskPool}

theorem Inv.wait (h : Inv settings w) {i : ℕ} {call call' : RiskCall}
    (hcall : w.threads[i]? = some call)
    (hpending : call.Pending settings → call'.Pending settings) :
    Inv settings (w.move i w.shared call') where
  noneLost := h.noneLost
  added := h.added
  pending hreached := by
    refine (h.pending hreached).imp_right fun ⟨other, hother, hotherPending⟩ => ?_
    by_cases heq : call = other
    · exact ⟨call', ThreadPool.mem_move_self hcall _ _, hpending (heq ▸ hotherPending)⟩
    · exact ⟨other, ThreadPool.mem_move_of_ne hcall _ _ hother heq, hotherPending⟩

theorem Inv.step (h : Inv settings w) (action : RiskAction) :
    Inv settings (w.step settings action) := by
  cases action with
  | start call =>
    rw [RiskPool.step]
    split
    · refine ⟨h.noneLost, h.added, fun hreached => ?_⟩
      exact (h.pending hreached).imp_right fun ⟨other, hother, hpending⟩ =>
        ⟨other, List.mem_append_left _ hother, hpending⟩
    · exact h
  | turn i =>
    rw [RiskPool.step]
    split
    · rename_i call hcall
      cases call with
      | incrementRiskCounter category =>
        dsimp only [RiskCall.turn]
        have hsame : (w.shared.count category).customer.isBlacklisted =
            w.shared.customer.isBlacklisted := isBlacklisted_increment _ _
        refine ⟨h.noneLost.count category, fun hadded => hsame.trans (h.added hadded),
          fun hreached => ?_⟩
        by_cases hblack : (w.shared.count category).customer.isBlacklisted = true
        · exact Or.inl hblack
        · -- the increment that reaches a limit returns a row that crosses it
          rw [if_neg hblack]
          exact Or.inr ⟨_, ThreadPool.mem_move_self hcall _ _,
            (h.noneLost.count category).evaluateThreshold.2 hreached⟩
      | counted customer =>
        refine h.wait hcall fun hpending => ?_
        have hcrossed : customer.evaluateThreshold settings = true := hpending
        simp only [RiskCall.turn, hcrossed, if_true]
        trivial
      | crossed customer =>
        exact ⟨h.noneLost, fun _ => rfl, fun _ => Or.inl rfl⟩
      | removeFromBlacklist => exact h.wait hcall False.elim
      | removing =>
        exact ⟨rfl, (fun hadded => nomatch hadded),
          fun hreached => absurd hreached (not_reached_remove settings _)⟩
      | addToBlacklist reason => exact h.wait hcall False.elim
      | adding reason customer => exact ⟨h.noneLost, fun _ => rfl, fun _ => Or.inl rfl⟩
      | finished => exact h.wait hcall False.elim
    · exact h

theorem Inv.justified_iff (h : Inv settings w) (hjust : Justified settings w.shared)
    (action : RiskAction) :
    StillCrossed settings w action ↔ Justified settings (w.step settings action).shared := by
  cases action with
  | start call =>
    refine iff_of_true rfl ?_
    rw [RiskPool.step]
    split
    · exact hjust
    · exact hjust
  | turn i =>
    simp only [StillCrossed, stillCrossed, RiskPool.step]
    cases hcall : w.threads[i]? with
    | none => exact iff_of_true rfl hjust
    | some call =>
      cases call with
      | incrementRiskCounter category =>
        refine iff_of_true rfl fun hadded hblack => Reached.mono category (hjust hadded ?_)
        exact (isBlacklisted_increment _ _).symm.trans hblack
      | counted customer => exact iff_of_true rfl hjust
      | crossed customer =>
        rw [Bool.or_eq_true, h.noneLost.evaluateThreshold]
        constructor
        · rintro (hblack | hreached) hadded -
          · exact hjust hadded hblack
          · exact hreached
        · intro hnew
          cases hadded : w.shared.addedByHand with
          | true => exact Or.inl (h.added hadded)
          | false => exact Or.inr (hnew hadded rfl)
      | removeFromBlacklist => exact iff_of_true rfl hjust
      | removing => exact iff_of_true rfl fun _ hblack => nomatch hblack
      | addToBlacklist reason => exact iff_of_true rfl hjust
      | adding reason customer => exact iff_of_true rfl fun hadded => nomatch hadded
      | finished => exact iff_of_true rfl hjust

theorem Inv.quiet_iff (h : Inv settings w) (hjust : Justified settings w.shared) :
    RemovalHolds settings w := by
  intro hquiet hadded
  refine ⟨hjust hadded, fun hreached => (h.pending hreached).resolve_right ?_⟩
  rintro ⟨call, hcall, hpending⟩
  rw [hquiet call hcall] at hpending
  exact hpending

end RiskPool

/-- A customer as the calls find one: the counters say what happened since the last removal, and
nobody is blacklisted for anything else. -/
structure MonitoredStart (settings : RiskLimits) (m : Monitored) : Prop where
  noneLost : NoneLost m
  added : m.addedByHand = true → m.customer.isBlacklisted = true
  blacklisted : m.addedByHand = false → (m.customer.isBlacklisted = true ↔ m.Reached settings)

theorem MonitoredStart.inv {settings : RiskLimits} (h : MonitoredStart settings m) :
    RiskPool.Inv settings { shared := m } where
  noneLost := h.noneLost
  added := h.added
  pending hreached := by
    cases hadded : m.addedByHand with
    | true => exact Or.inl (h.added hadded)
    | false => exact Or.inl ((h.blacklisted hadded).2 hreached)

/-- **No increment is lost**, whatever the calls and their order; **and a removal holds as long as,
whenever a customer is blacklisted for the counters an increment returned, the row still says so**.
That is when, after every step, the customer is justly blacklisted. -/
theorem removalHolds {settings : RiskLimits} {m : Monitored} (hs : MonitoredStart settings m)
    (actions : List RiskAction) :
    let w := Machine.run (RiskPool.step settings) { shared := m } actions
    NoneLost w.shared ∧
    (Machine.Along (RiskPool.step settings) (StillCrossed settings) { shared := m } actions →
      RemovalHolds settings w) ∧
    (Machine.Along (RiskPool.step settings) (StillCrossed settings) { shared := m } actions ↔
      Machine.Along (RiskPool.step settings)
        (fun w action => Justified settings (w.step settings action).shared) { shared := m }
        actions) := by
  have hjust : Justified settings m := fun hadded => (hs.blacklisted hadded).1
  have hkeeps : ∀ w action, (RiskPool.Inv settings w ∧ Justified settings w.shared) →
      StillCrossed settings w action → RiskPool.Inv settings (w.step settings action) ∧
        Justified settings (w.step settings action).shared := fun w action hw hstill =>
    ⟨hw.1.step action, (hw.1.justified_iff hw.2 action).1 hstill⟩
  intro w
  refine ⟨?_, fun hstill => ?_, ?_⟩
  · exact (Machine.run_keeps (I := RiskPool.Inv settings) (fun _ action hw => hw.step action)
      hs.inv actions).noneLost
  · obtain ⟨hinv, hfinal⟩ := Machine.run_keeps_along hkeeps ⟨hs.inv, hjust⟩ hstill
    exact hinv.quiet_iff hfinal
  · exact Machine.Along.iff_of_keeps hkeeps (fun w action hw => hw.1.justified_iff hw.2 action)
      ⟨hs.inv, hjust⟩

def refuser : Monitored where
  customer := { storeId := "store", phone := "+212600000000", refusalsCount := 1 }
  increments := [.refusals]

def twoRefusals : RiskLimits := { refusalsLimit := 2 }

theorem refuser_start : MonitoredStart twoRefusals refuser where
  noneLost := rfl
  added := by decide
  blacklisted := by decide

/-- The second refusal is judged before the removal, and the third one counts alone. -/
def inTurn : List RiskAction :=
  [.start (.incrementRiskCounter .refusals), .start .removeFromBlacklist, .turn 0, .turn 0, .turn 1,
    .turn 0, .turn 1, .start (.incrementRiskCounter .refusals), .turn 2, .turn 2]

theorem removalHolds_inTurn :
    (Machine.run (RiskPool.step twoRefusals) { shared := refuser }
      inTurn).shared.customer.toRiskCounters = { refusalsCount := 1 } ∧
    RemovalHolds twoRefusals
      (Machine.run (RiskPool.step twoRefusals) { shared := refuser } inTurn) :=
  ⟨by decide, (removalHolds refuser_start inTurn).2.1 (by decide)⟩

def overtaken : List RiskAction :=
  [.start (.incrementRiskCounter .refusals), .start .removeFromBlacklist, .turn 0, .turn 0, .turn 1,
    .turn 1, .turn 0]

/-- **A removal between the increment and the blacklisting does not hold**: the customer is
blacklisted, and all counters are zero. -/
theorem removalHolds_overtaken :
    MonitoredStart twoRefusals refuser ∧
    (Machine.run (RiskPool.step twoRefusals) { shared := refuser }
      overtaken).shared.customer.toRiskCounters = {} ∧
    ¬ RemovalHolds twoRefusals
      (Machine.run (RiskPool.step twoRefusals) { shared := refuser } overtaken) := by
  refine ⟨refuser_start, by decide, fun h => ?_⟩
  have hreached := (h (by decide) (by decide)).1 (by decide)
  revert hreached
  decide

end Zomaal
