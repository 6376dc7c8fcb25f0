/-
**Payments that an admin records.**

An admin activates a plan, or renews it from the end of the access that is already paid for, and may
extend the free trial.  Both read the subscription, compute a date from it, and write that date.
This module embeds `activateManually` and `extendTrial` for one owner as a machine whose steps are
the reads and the writes: any number of calls go on in any order, and each may fail.

Main results:

* `manualBilling` — **when paid time is never lost**.
-/

import Mathlib.Data.List.Chain
import Zomaal.JsText
import Zomaal.MachineRun
import Zomaal.Subscriptions

set_option autoImplicit false

namespace Zomaal

open JsText

/-! ### Calls -/

/-- What an admin enters; the number of periods is at least one. -/
structure ManualActivationInput where
  planId : String
  interval : BillingInterval
  periods : ℕ := 1
  periods_pos : 0 < periods := by decide
  amount : Decimal
  currency : Option String := none
  paidAt : Option ℤ := none
  providerReference : Option String := none
  note : Option String := none

inductive BillingError
  | merchantNotFound
  | planNotFound
  | notSold (code : String) (interval : BillingInterval)
  | alreadyPaid
  | uniqueConstraint
  | other (message : String)

def BillingError.message : BillingError → String
  | .merchantNotFound => "Merchant not found"
  | .planNotFound => "Plan not found"
  | .notSold code interval => "Plan " ++ code ++ " is not sold " ++ interval.lower
  | .alreadyPaid => "Account is already on a paid plan"
  | .uniqueConstraint => "Unique constraint failed on the fields: (userId)"
  | .other message => message

/-- How far a call got; `fresh` says that the row it goes on with is not written yet. -/
inductive BillingPhase
  | waiting
  | activating (plan : Plan) (input : ManualActivationInput) (adminId : String) (now : ℤ)
  | activationRead (plan : Plan) (input : ManualActivationInput) (adminId : String) (now : ℤ)
      (current : Subscription) (fresh : Bool)
  | extending (days : ℕ) (now : ℤ)
  | creatingTrial (days : ℕ) (now : ℤ)
  | trialRead (days : ℕ) (now : ℤ) (current : Subscription)
  | done
  | threw (error : BillingError)

/-- The billing of one owner: whether there is a store, the plans, the subscription, the invoices as
they were recorded, and the calls. -/
structure BillingDb where
  hasStore : Bool := true
  plans : List Plan
  subscriptionId : String := "subscription"
  subscription : Option Subscription := none
  invoices : List BillingInvoice := []
  clock : ℤ := 0
  phases : ℕ → BillingPhase := fun _ => .waiting

inductive BillingAction
  | tick (elapsed : ℕ)
  | activate (call : ℕ) (input : ManualActivationInput) (adminId : String)
  | extend (call : ℕ) (days : ℕ)
  | read (call : ℕ)
  | create (call : ℕ)
  | write (call : ℕ)
  | fail (call : ℕ) (message : String)

/-- The row that `startTrialIfMissing` creates. -/
def freeTrial (id : String) (now : ℤ) : Subscription where
  id := id
  trialEndsAt := some (now + trialDays * msPerDay)
  accessEndsAt := now + trialDays * msPerDay

/-- Where a renewal goes on: the end of the access, when the account has the same plan. -/
def Subscription.renewsFrom (current : Subscription) (planId : String) (interval : BillingInterval)
    (now : ℤ) : Option ℤ :=
  if current.planId = some planId ∧ current.interval = some interval ∧
      now < current.accessEndsAt then
    some current.accessEndsAt
  else none

namespace ManualActivationInput

variable (input : ManualActivationInput) (plan : Plan) (current : Subscription) (now : ℤ)

def periodStart : ℤ := (current.renewsFrom plan.id input.interval now).getD now

def periodEnd : ℤ := addInterval (input.periodStart plan current now) input.interval input.periods

def activate (row : Subscription) : Subscription :=
  { row with
    planId := some plan.id
    interval := some input.interval
    currentPeriodStart :=
      if (current.renewsFrom plan.id input.interval now).isSome then current.currentPeriodStart
      else some (input.periodStart plan current now)
    currentPeriodEnd := some (input.periodEnd plan current now)
    accessEndsAt := input.periodEnd plan current now
    cancelAtPeriodEnd := false
    canceledAt := none
    provider := .manual }

def invoice (adminId : String) (createdAt : ℤ) : BillingInvoice where
  planId := plan.id
  planName := plan.name
  interval := input.interval
  amount := input.amount
  currency := upperCode (input.currency.getD plan.currency)
  periodStart := input.periodStart plan current now
  periodEnd := input.periodEnd plan current now
  paidAt := input.paidAt.getD now
  provider := .manual
  providerReference := input.providerReference
  note := input.note
  recordedByAdminId := some adminId
  createdAt := createdAt

end ManualActivationInput

def extendedTrial (current : Subscription) (days : ℕ) (now : ℤ) : ℤ :=
  max current.accessEndsAt now + days * msPerDay

namespace BillingDb

variable (s : BillingDb)

def setPhase (call : ℕ) (phase : BillingPhase) : BillingDb :=
  { s with phases := Function.update s.phases call phase }

def checkActivation (input : ManualActivationInput) : Except BillingError Plan :=
  if s.hasStore then
    match s.plans.find? fun plan => plan.id = input.planId with
    | none => .error .planNotFound
    | some plan =>
      if plan.price input.interval = none then .error (.notSold plan.code input.interval)
      else .ok plan
  else .error .merchantNotFound

/-- `extendTrial`, once it has the row. -/
def checkTrial (call : ℕ) (days : ℕ) (now : ℤ) (current : Subscription) : BillingDb :=
  if current.planId = none then s.setPhase call (.trialRead days now current)
  else s.setPhase call (.threw .alreadyPaid)

def commitActivation (call : ℕ) (plan : Plan) (input : ManualActivationInput) (adminId : String)
    (now : ℤ) (current row : Subscription) : BillingDb :=
  { s with
    subscription := some (input.activate plan current now row)
    invoices := s.invoices ++ [input.invoice plan current now adminId s.clock] }.setPhase call .done

def step : BillingAction → BillingDb
  | .tick elapsed => { s with clock := s.clock + elapsed }
  | .activate call input adminId =>
    match s.phases call with
    | .waiting =>
      match s.checkActivation input with
      | .error error => s.setPhase call (.threw error)
      | .ok plan => s.setPhase call (.activating plan input adminId s.clock)
    | _ => s
  | .extend call days =>
    match s.phases call with
    | .waiting =>
      if s.hasStore then s.setPhase call (.extending days s.clock)
      else s.setPhase call (.threw .merchantNotFound)
    | _ => s
  | .read call =>
    match s.phases call with
    | .activating plan input adminId now =>
      match s.subscription with
      | some current =>
        s.setPhase call (.activationRead plan input adminId now current false)
      | none =>
        s.setPhase call (.activationRead plan input adminId now
          (freeTrial s.subscriptionId now) true)
    | .extending days now =>
      match s.subscription with
      | some current => s.checkTrial call days now current
      | none => s.setPhase call (.creatingTrial days now)
    | _ => s
  | .create call =>
    match s.phases call with
    | .creatingTrial days now =>
      match s.subscription with
      | some _ => s.setPhase call (.threw .uniqueConstraint)
      | none =>
        { s with subscription := some (freeTrial s.subscriptionId now) }.setPhase call
          (.trialRead days now (freeTrial s.subscriptionId now))
    | _ => s
  | .write call =>
    match s.phases call with
    | .activationRead plan input adminId now current fresh =>
      match s.subscription, fresh with
      | some _, true => s.setPhase call (.threw .uniqueConstraint)
      | some row, false => s.commitActivation call plan input adminId now current row
      | none, true => s.commitActivation call plan input adminId now current current
      | none, false => s.setPhase call (.threw (.other "Record to update not found"))
    | .trialRead days now current =>
      match s.subscription with
      | none => s.setPhase call (.threw (.other "Record to update not found"))
      | some row =>
        { s with
          subscription := some
            { row with
              trialEndsAt := some (extendedTrial current days now)
              accessEndsAt := extendedTrial current days now } }.setPhase call .done
    | _ => s
  | .fail call message =>
    match s.phases call with
    | .done => s
    | _ => s.setPhase call (.threw (.other message))

end BillingDb

/-! ### What is promised -/

def BillingInvoice.SamePlan (invoice other : BillingInvoice) : Prop :=
  invoice.planId = other.planId ∧ invoice.interval = other.interval

/-- The account still had access, from one payment, when the next one was recorded. -/
def BillingInvoice.Gapless (invoice next : BillingInvoice) : Prop :=
  next.createdAt < invoice.periodEnd

instance (invoice other : BillingInvoice) : Decidable (invoice.SamePlan other) :=
  inferInstanceAs (Decidable (_ ∧ _))

variable (invoices : List BillingInvoice)

/-- **The periods of a plan and interval are contiguous**, where access had no gap: each starts
where the one before it ends. -/
def Contiguous : Prop :=
  ∀ before invoice between next after,
    invoices = before ++ invoice :: (between ++ next :: after) → invoice.SamePlan next →
      (∀ other ∈ between, ¬ other.SamePlan next) →
        List.IsChain BillingInvoice.Gapless (invoice :: (between ++ [next])) →
          next.periodStart = invoice.periodEnd

/-- **The periods of a plan and interval do not overlap**, where access had no gap. -/
def Apart : Prop :=
  ∀ before invoice between next after,
    invoices = before ++ invoice :: (between ++ next :: after) → invoice.SamePlan next →
      List.IsChain BillingInvoice.Gapless (invoice :: (between ++ [next])) →
        invoice.periodEnd ≤ next.periodStart

namespace BillingDb

variable (s : BillingDb)

def Switches : BillingAction → Prop
  | .write call =>
    match s.phases call, s.subscription with
    | .activationRead plan input _ _ _ _, some row =>
      ¬ (row.planId = some plan.id ∧ row.interval = some input.interval)
    | _, _ => False
  | _ => False

structure PaidTimeKept (action : BillingAction) : Prop where
  positive : ∀ invoice ∈ (s.step action).invoices, invoice.periodStart < invoice.periodEnd
  contiguous : Contiguous (s.step action).invoices
  apart : Apart (s.step action).invoices
  access : ∀ row row', s.subscription = some row → (s.step action).subscription = some row' →
    ¬ s.Switches action → row.accessEndsAt ≤ row'.accessEndsAt
  paid : ∀ row, (s.step action).subscription = some row → row.planId ≠ none →
    ∃ invoice, (s.step action).invoices.getLast? = some invoice ∧
      row.accessEndsAt = invoice.periodEnd

/-- A plan is taken up again, at the same interval, that was left while it was paid for. -/
def TakenUpAgain (next : BillingInvoice) : Prop :=
  ∃ before invoice between, invoices = before ++ invoice :: between ∧ between ≠ [] ∧
    invoice.SamePlan next ∧ (∀ other ∈ between, ¬ other.SamePlan next) ∧
      List.IsChain BillingInvoice.Gapless (invoice :: (between ++ [next]))

/-- **What a call has read still holds when it writes.** An activation starts its period where the
row says now, and the account does not take up again what it left while paid for; an extension finds
no plan, and no more access than it writes. -/
def Unraced : BillingAction → Prop
  | .write call =>
    match s.phases call, s.subscription with
    | .activationRead plan input adminId now current _, some row =>
      row.renewsFrom plan.id input.interval now =
          current.renewsFrom plan.id input.interval now ∧
        ¬ TakenUpAgain s.invoices (input.invoice plan current now adminId s.clock)
    | .trialRead days now current, some row =>
      row.planId = none ∧ row.accessEndsAt ≤ extendedTrial current days now
    | _, _ => True
  | _ => True

structure Start : Prop where
  subscription : ∀ row, s.subscription = some row → row.planId = none
  invoices : s.invoices = []
  phases : ∀ call, s.phases call = .waiting

end BillingDb

/-! ### Contiguous periods -/

theorem Contiguous.apart {invoices : List BillingInvoice} (h : Contiguous invoices)
    (hpositive : ∀ invoice ∈ invoices, invoice.periodStart < invoice.periodEnd) :
    Apart invoices := by
  intro before invoice between next after hinvoices hsame hchain
  -- by induction on the number of invoices in between: one of the same plan splits it
  induction hlength : between.length using Nat.strong_induction_on
    generalizing before invoice between next after with
  | h length ih =>
    by_cases hnone : ∀ other ∈ between, ¬ other.SamePlan next
    · exact (h before invoice between next after hinvoices hsame hnone hchain).ge
    · push Not at hnone
      obtain ⟨other, hother, hsameOther⟩ := hnone
      obtain ⟨first, last, rfl⟩ := List.append_of_mem hother
      rw [List.length_append, List.length_cons] at hlength
      have hleft : invoices =
          before ++ invoice :: (first ++ other :: (last ++ next :: after)) := by
        rw [hinvoices, List.append_assoc, List.cons_append]
      have hright : invoices =
          (before ++ invoice :: first) ++ other :: (last ++ next :: after) := by
        rw [hleft, List.append_assoc, List.cons_append]
      have hwhole : invoice :: ((first ++ other :: last) ++ [next]) =
          (invoice :: first) ++ other :: (last ++ [next]) := by
        rw [List.append_assoc, List.cons_append, List.cons_append]
      rw [hwhole, List.isChain_split, List.cons_append] at hchain
      have hsame' : invoice.SamePlan other :=
        ⟨hsame.1.trans hsameOther.1.symm, hsame.2.trans hsameOther.2.symm⟩
      have hbefore := ih first.length (by omega) before invoice first other _ hleft hsame'
        hchain.1 rfl
      have hafter := ih last.length (by omega) _ other last next after hright hsameOther
        hchain.2 rfl
      have hpos := hpositive other (by rw [hright]; simp)
      omega

theorem Contiguous.append {invoices : List BillingInvoice} (h : Contiguous invoices)
    {next : BillingInvoice}
    (hnext : ∀ before invoice between, invoices = before ++ invoice :: between →
      invoice.SamePlan next → (∀ other ∈ between, ¬ other.SamePlan next) →
        List.IsChain BillingInvoice.Gapless (invoice :: (between ++ [next])) →
          next.periodStart = invoice.periodEnd) :
    Contiguous (invoices ++ [next]) := by
  intro before invoice between last after hinvoices hsame hnone hchain
  rcases List.eq_nil_or_concat after with rfl | ⟨init, own, rfl⟩
  · have hsplit : before ++ invoice :: (between ++ [last]) =
        (before ++ invoice :: between) ++ [last] := by
      rw [List.append_assoc, List.cons_append]
    rw [hsplit] at hinvoices
    obtain ⟨hold, hlast⟩ := List.append_inj' hinvoices rfl
    obtain rfl := List.singleton_inj.1 hlast
    exact hnext before invoice between hold hsame hnone hchain
  · have hsplit : before ++ invoice :: (between ++ last :: init.concat own) =
        (before ++ invoice :: (between ++ last :: init)) ++ [own] := by
      rw [List.concat_eq_append, List.append_assoc, List.cons_append, List.append_assoc,
        List.cons_append]
    rw [hsplit] at hinvoices
    obtain ⟨hold, -⟩ := List.append_inj' hinvoices rfl
    exact h before invoice between last init hold hsame hnone hchain

/-! ### The invariant -/

def BillingPhase.now : BillingPhase → Option ℤ
  | .activating _ _ _ now => some now
  | .activationRead _ _ _ now _ _ => some now
  | .extending _ now => some now
  | .creatingTrial _ now => some now
  | .trialRead _ now _ => some now
  | .waiting => none
  | .done => none
  | .threw _ => none

namespace BillingDb

def OnPlan (subscription : Option Subscription) : Option BillingInvoice → Prop
  | none => ∀ row, subscription = some row → row.planId = none
  | some invoice => ∃ row, subscription = some row ∧ row.planId = some invoice.planId ∧
      row.interval = some invoice.interval ∧ row.accessEndsAt = invoice.periodEnd

structure Inv (s : BillingDb) : Prop where
  onPlan : OnPlan s.subscription s.invoices.getLast?
  positive : ∀ invoice ∈ s.invoices, invoice.periodStart < invoice.periodEnd
  contiguous : Contiguous s.invoices
  clock : ∀ call now, (s.phases call).now = some now → now ≤ s.clock

variable {s : BillingDb}

theorem Start.inv (h : s.Start) : s.Inv where
  onPlan := by
    rw [h.invoices]
    exact h.subscription
  positive invoice hmem := by
    rw [h.invoices] at hmem
    cases hmem
  contiguous before invoice between next after hinvoices := by
    rw [h.invoices] at hinvoices
    simp at hinvoices
  clock call now hnow := by
    rw [h.phases call] at hnow
    cases hnow

theorem Inv.paid (h : s.Inv) {row : Subscription} (hrow : s.subscription = some row)
    (hplan : row.planId ≠ none) :
    ∃ invoice, s.invoices.getLast? = some invoice ∧ row.accessEndsAt = invoice.periodEnd := by
  have honPlan := h.onPlan
  cases hlast : s.invoices.getLast? with
  | none =>
    rw [hlast] at honPlan
    exact absurd (honPlan row hrow) hplan
  | some invoice =>
    rw [hlast] at honPlan
    obtain ⟨own, hown, -, -, haccess⟩ := honPlan
    obtain rfl := Option.some.inj (hown.symm.trans hrow)
    exact ⟨invoice, rfl, haccess⟩

theorem Inv.setPhase (h : s.Inv) (call : ℕ) (phase : BillingPhase)
    (hnow : ∀ now, phase.now = some now → now ≤ s.clock) : (s.setPhase call phase).Inv where
  onPlan := h.onPlan
  positive := h.positive
  contiguous := h.contiguous
  clock other now hother := by
    change (Function.update s.phases call phase other).now = some now at hother
    rcases eq_or_ne other call with rfl | hne
    · rw [Function.update_self] at hother
      exact hnow now hother
    · rw [Function.update_of_ne hne] at hother
      exact h.clock other now hother

theorem Inv.setTrial (h : s.Inv) (row : Subscription) (hplan : row.planId = none)
    (hnone : s.invoices.getLast? = none) :
    ({ s with subscription := some row } : BillingDb).Inv where
  onPlan := by
    change OnPlan (some row) s.invoices.getLast?
    rw [hnone]
    intro own hown
    obtain rfl := Option.some.inj hown
    exact hplan
  positive := h.positive
  contiguous := h.contiguous
  clock := h.clock

theorem Inv.commitActivation (h : s.Inv) {call : ℕ} {plan : Plan} {input : ManualActivationInput}
    {adminId : String} {now : ℤ} {current row : Subscription} (hclock : now ≤ s.clock)
    (hrow : s.subscription = some row ∨ s.invoices.getLast? = none)
    (hrenews : row.renewsFrom plan.id input.interval now =
      current.renewsFrom plan.id input.interval now)
    (hagain : ¬ TakenUpAgain s.invoices (input.invoice plan current now adminId s.clock)) :
    (s.commitActivation call plan input adminId now current row).Inv := by
  have hwritten : ({ s with
      subscription := some (input.activate plan current now row)
      invoices := s.invoices ++ [input.invoice plan current now adminId s.clock] } :
        BillingDb).Inv := by
    refine ⟨?_, ?_, ?_, h.clock⟩
    · change OnPlan _ (s.invoices ++ [_]).getLast?
      rw [List.getLast?_append, List.getLast?_singleton]
      exact ⟨_, rfl, rfl, rfl, rfl⟩
    · intro invoice hmem
      rcases List.mem_append.1 hmem with hold | hnew
      · exact h.positive invoice hold
      · rw [List.mem_singleton.1 hnew]
        exact lt_addInterval _ _ (Int.natCast_pos.2 input.periods_pos)
    · refine h.contiguous.append fun before invoice between hinvoices hsame hnone hchain => ?_
      have hbetween : between = [] := by
        by_contra hne
        exact hagain ⟨before, invoice, between, hinvoices, hne, hsame, hnone, hchain⟩
      subst hbetween
      have hlast : s.invoices.getLast? = some invoice := by
        rw [hinvoices, List.getLast?_append, List.getLast?_singleton]
        rfl
      rcases hrow with hrow | hempty
      · have honPlan := h.onPlan
        rw [hlast] at honPlan
        obtain ⟨own, hown, hplan, hinterval, haccess⟩ := honPlan
        obtain rfl := Option.some.inj (hown.symm.trans hrow)
        have hgapless : s.clock < invoice.periodEnd := by
          rw [List.nil_append, List.isChain_pair] at hchain
          exact hchain
        have hrenewed : own.renewsFrom plan.id input.interval now = some own.accessEndsAt := by
          rw [Subscription.renewsFrom, if_pos]
          exact ⟨hplan.trans (congrArg some hsame.1), hinterval.trans (congrArg some hsame.2),
            by omega⟩
        change (current.renewsFrom plan.id input.interval now).getD now = invoice.periodEnd
        rw [← hrenews, hrenewed, ← haccess]
        rfl
      · cases hlast.symm.trans hempty
  exact hwritten.setPhase call .done fun _ hnow => nomatch hnow

theorem Inv.getLast?_eq_none (h : s.Inv)
    (hnone : ∀ row, s.subscription = some row → row.planId = none) :
    s.invoices.getLast? = none := by
  have honPlan := h.onPlan
  cases hlast : s.invoices.getLast? with
  | none => rfl
  | some invoice =>
    rw [hlast] at honPlan
    obtain ⟨row, hrow, hplan, -⟩ := honPlan
    cases (hnone row hrow).symm.trans hplan

theorem Inv.write (h : s.Inv) {call : ℕ} (hunraced : s.Unraced (.write call)) :
    (s.step (.write call)).Inv := by
  cases hphase : s.phases call with
  | activationRead plan input adminId now current fresh =>
    have hclock : now ≤ s.clock := h.clock call now (by rw [hphase]; rfl)
    cases hrow : s.subscription with
    | none =>
      have hlast := h.getLast?_eq_none fun row hsome => nomatch hrow.symm.trans hsome
      simp only [step, hphase, hrow]
      cases fresh with
      | false => exact h.setPhase call _ fun _ hnow => nomatch hnow
      | true =>
        refine h.commitActivation hclock (Or.inr hlast) rfl ?_
        rintro ⟨before, invoice, between, hinvoices, -⟩
        rw [List.getLast?_eq_none_iff] at hlast
        simp [hlast] at hinvoices
    | some row =>
      simp only [Unraced, hphase, hrow] at hunraced
      simp only [step, hphase, hrow]
      cases fresh with
      | true => exact h.setPhase call _ fun _ hnow => nomatch hnow
      | false => exact h.commitActivation hclock (Or.inl hrow) hunraced.1 hunraced.2
  | trialRead days now current =>
    cases hrow : s.subscription with
    | none =>
      simp only [step, hphase, hrow]
      exact h.setPhase call _ fun _ hnow => nomatch hnow
    | some row =>
      simp only [Unraced, hphase, hrow] at hunraced
      simp only [step, hphase, hrow]
      have hlast := h.getLast?_eq_none fun own hown => by
        obtain rfl := Option.some.inj (hrow.symm.trans hown)
        exact hunraced.1
      exact (h.setTrial { row with
          trialEndsAt := some (extendedTrial current days now)
          accessEndsAt := extendedTrial current days now } hunraced.1 hlast).setPhase call
        .done fun _ hnow => nomatch hnow
  | waiting | activating | extending | creatingTrial | done | threw =>
    simpa only [step, hphase] using h

variable {action : BillingAction}

theorem Inv.step (h : s.Inv) (hunraced : s.Unraced action) : (s.step action).Inv := by
  cases action with
  | tick elapsed =>
    refine ⟨h.onPlan, h.positive, h.contiguous, fun call now hnow => ?_⟩
    have hold := h.clock call now hnow
    change now ≤ s.clock + elapsed
    omega
  | activate call input adminId =>
    unfold BillingDb.step
    dsimp only
    split
    · split
      · exact h.setPhase call _ fun _ hnow => nomatch hnow
      · exact h.setPhase call _ fun now hnow => (Option.some.inj hnow).ge
    · exact h
  | extend call days =>
    unfold BillingDb.step
    dsimp only
    split
    · split
      · exact h.setPhase call _ fun now hnow => (Option.some.inj hnow).ge
      · exact h.setPhase call _ fun _ hnow => nomatch hnow
    · exact h
  | read call =>
    have hnow := h.clock call
    cases hphase : s.phases call with
    | activating plan input adminId now =>
      rw [hphase] at hnow
      cases hrow : s.subscription with
      | none =>
        simp only [BillingDb.step, hphase, hrow]
        exact h.setPhase call _ hnow
      | some row =>
        simp only [BillingDb.step, hphase, hrow]
        exact h.setPhase call _ hnow
    | extending days now =>
      rw [hphase] at hnow
      cases hrow : s.subscription with
      | none =>
        simp only [BillingDb.step, hphase, hrow]
        exact h.setPhase call _ hnow
      | some row =>
        simp only [BillingDb.step, hphase, hrow, checkTrial]
        split
        · exact h.setPhase call _ hnow
        · exact h.setPhase call _ fun _ hthrew => nomatch hthrew
    | waiting | activationRead | creatingTrial | trialRead | done | threw =>
      simpa only [BillingDb.step, hphase] using h
  | create call =>
    have hnow := h.clock call
    cases hphase : s.phases call with
    | creatingTrial days now =>
      rw [hphase] at hnow
      cases hrow : s.subscription with
      | some row =>
        simp only [BillingDb.step, hphase, hrow]
        exact h.setPhase call _ fun _ hthrew => nomatch hthrew
      | none =>
        simp only [BillingDb.step, hphase, hrow]
        have hlast := h.getLast?_eq_none fun row hsome => nomatch hrow.symm.trans hsome
        exact (h.setTrial (freeTrial s.subscriptionId now) rfl hlast).setPhase call _
          hnow
    | waiting | activating | activationRead | extending | trialRead | done | threw =>
      simpa only [BillingDb.step, hphase] using h
  | write call => exact h.write hunraced
  | fail call message =>
    unfold BillingDb.step
    dsimp only
    split
    · exact h
    · exact h.setPhase call _ fun _ hnow => nomatch hnow

/-! ### Access -/

theorem le_periodEnd {plan : Plan} {input : ManualActivationInput} {current row : Subscription}
    {now : ℤ} (hsame : row.planId = some plan.id ∧ row.interval = some input.interval)
    (hrenews : row.renewsFrom plan.id input.interval now =
      current.renewsFrom plan.id input.interval now) :
    row.accessEndsAt ≤ input.periodEnd plan current now := by
  have hperiod : input.periodStart plan current now < input.periodEnd plan current now :=
    lt_addInterval _ _ (Int.natCast_pos.2 input.periods_pos)
  refine le_trans ?_ hperiod.le
  rw [ManualActivationInput.periodStart, ← hrenews, Subscription.renewsFrom]
  split
  · exact le_rfl
  · rename_i hnot
    have hended : ¬ now < row.accessEndsAt := fun hnow => hnot ⟨hsame.1, hsame.2, hnow⟩
    exact not_lt.1 hended

theorem access_step (hunraced : s.Unraced action) {row row' : Subscription}
    (hrow : s.subscription = some row) (hrow' : (s.step action).subscription = some row')
    (hswitch : ¬ s.Switches action) : row.accessEndsAt ≤ row'.accessEndsAt := by
  have hkept : ∀ t : BillingDb, t.subscription = s.subscription → t.subscription = some row' →
      row.accessEndsAt ≤ row'.accessEndsAt := by
    intro t hsame hsome
    rw [Option.some.inj (hrow.symm.trans (hsame.symm.trans hsome))]
  cases action with
  | write call =>
    cases hphase : s.phases call with
    | activationRead plan input adminId now current fresh =>
      simp only [Unraced, hphase, hrow] at hunraced
      simp only [Switches, hphase, hrow, not_not] at hswitch
      cases fresh with
      | true =>
        simp only [BillingDb.step, hphase, hrow] at hrow'
        exact hkept _ rfl hrow'
      | false =>
        simp only [BillingDb.step, hphase, hrow] at hrow'
        obtain rfl := Option.some.inj hrow'
        exact le_periodEnd hswitch hunraced.1
    | trialRead days now current =>
      simp only [Unraced, hphase, hrow] at hunraced
      simp only [BillingDb.step, hphase, hrow] at hrow'
      obtain rfl := Option.some.inj hrow'
      exact hunraced.2
    | waiting | activating | extending | creatingTrial | done | threw =>
      simp only [BillingDb.step, hphase] at hrow'
      exact hkept _ rfl hrow'
  | create call =>
    cases hphase : s.phases call with
    | creatingTrial days now =>
      simp only [BillingDb.step, hphase, hrow] at hrow'
      exact hkept _ rfl hrow'
    | waiting | activating | activationRead | extending | trialRead | done | threw =>
      simp only [BillingDb.step, hphase] at hrow'
      exact hkept _ rfl hrow'
  | tick elapsed => exact hkept _ rfl hrow'
  | activate call input adminId =>
    refine hkept _ ?_ hrow'
    unfold BillingDb.step
    dsimp only
    split
    · split <;> rfl
    · rfl
  | extend call days =>
    refine hkept _ ?_ hrow'
    unfold BillingDb.step
    dsimp only
    split
    · split <;> rfl
    · rfl
  | read call =>
    refine hkept _ ?_ hrow'
    unfold BillingDb.step
    dsimp only [checkTrial]
    split
    · split <;> rfl
    · split
      · split <;> rfl
      · rfl
    · rfl
  | fail call message =>
    refine hkept _ ?_ hrow'
    unfold BillingDb.step
    dsimp only
    split <;> rfl

theorem Inv.paidTimeKept (h : s.Inv) (hunraced : s.Unraced action) : s.PaidTimeKept action := by
  have hafter := h.step hunraced
  refine ⟨hafter.positive, hafter.contiguous, hafter.contiguous.apart hafter.positive, ?_, ?_⟩
  · intro row row' hrow hrow' hswitch
    exact access_step hunraced hrow hrow' hswitch
  · intro row hrow hplan
    exact hafter.paid hrow hplan

end BillingDb

/-- **Paid time is never lost**, for any number of calls of which any steps come in between, as long
as what a call has read still holds when it writes: the periods of a plan are contiguous and do not
overlap, a renewal or a longer trial does not lower the end of access, and who has a plan has access
to the end of the period that was paid for last. -/
theorem manualBilling {s : BillingDb} (hstart : s.Start) {acts : List BillingAction}
    (h : Machine.Along BillingDb.step BillingDb.Unraced s acts) :
    Machine.Along BillingDb.step BillingDb.PaidTimeKept s acts :=
  Machine.Along.of_keeps (fun _ _ hinv hunraced => hinv.step hunraced)
    (fun _ _ hinv hunraced => hinv.paidTimeKept hunraced) hstart.inv h

/-! ### Runs -/

def starterPlan : Plan where
  id := "starter"
  code := "STARTER"
  name := "Starter"
  monthlyPrice := some 199

def monthOfStarter : ManualActivationInput where
  planId := "starter"
  interval := .monthly
  amount := 199
  periods_pos := Nat.one_pos

/-- A trial is extended, the plan is bought, and renewed by two admins at the same time. -/
def renewedTwice : List BillingAction :=
  [.activate 0 monthOfStarter "first", .read 0, .write 0, .tick 1000,
    .activate 1 monthOfStarter "first", .activate 2 monthOfStarter "second", .read 1, .read 2,
    .write 1, .write 2]

def paidOnce : Subscription :=
  monthOfStarter.activate starterPlan (freeTrial "subscription" 0) 0 (freeTrial "subscription" 0)

/-- Both renewals are for the same month. -/
theorem manualBilling_renewed_twice :
    ({ plans := [starterPlan] } : BillingDb).Start ∧
      (∀ call, ((Machine.run BillingDb.step { plans := [starterPlan] } renewedTwice).phases
        call).now = none) ∧
      ¬ Machine.Along BillingDb.step BillingDb.PaidTimeKept { plans := [starterPlan] }
        renewedTwice := by
  refine ⟨⟨(fun _ hrow => nomatch hrow), rfl, fun _ => rfl⟩, ?_, fun h => ?_⟩
  · rintro (_ | _ | _ | call) <;> rfl
  · have hsplit : Machine.Along BillingDb.step BillingDb.PaidTimeKept { plans := [starterPlan] }
        (renewedTwice.dropLast ++ [.write 2]) := h
    have hlast := (Machine.Along.append.1 hsplit).2.1
    have hinvoices : ((Machine.run BillingDb.step { plans := [starterPlan] }
        renewedTwice.dropLast).step (.write 2)).invoices =
          [monthOfStarter.invoice starterPlan (freeTrial "subscription" 0) 0 "first" 0,
            monthOfStarter.invoice starterPlan paidOnce 1000 "first" 1000,
            monthOfStarter.invoice starterPlan paidOnce 1000 "second" 1000] := by
      decide +kernel
    have hapart := hlast.apart
    rw [hinvoices] at hapart
    have hoverlap := hapart [_] _ [] _ [] rfl ⟨rfl, rfl⟩
      (List.isChain_pair.2 (by unfold BillingInvoice.Gapless; decide +kernel))
    revert hoverlap
    decide +kernel

/-- A trial is extended, the plan is bought, and renewed while it is paid for. -/
theorem manualBilling_renewed :
    Machine.Along BillingDb.step BillingDb.PaidTimeKept { plans := [starterPlan] }
      [.extend 0 3, .read 0, .create 0, .write 0, .tick 500, .activate 1 monthOfStarter "first",
        .read 1, .write 1, .tick 1000, .activate 2 monthOfStarter "second", .read 2, .write 2] := by
  have hstart : ({ plans := [starterPlan] } : BillingDb).Start :=
    ⟨(fun _ hrow => nomatch hrow), rfl, fun _ => rfl⟩
  refine manualBilling hstart ?_
  have hnotAgain : ∀ {invoices : List BillingInvoice} {next : BillingInvoice},
      invoices.length ≤ 1 → ¬ BillingDb.TakenUpAgain invoices next := by
    rintro invoices next hlength ⟨before, invoice, between, rfl, hne, -⟩
    have hpos := List.length_pos_iff.2 hne
    simp only [List.length_append, List.length_cons] at hlength
    omega
  exact ⟨trivial, trivial, trivial, ⟨rfl, by decide +kernel⟩, trivial, trivial, trivial,
    ⟨rfl, hnotAgain (by decide +kernel)⟩, trivial, trivial, trivial,
    ⟨rfl, hnotAgain (by decide +kernel)⟩, trivial⟩

end Zomaal
