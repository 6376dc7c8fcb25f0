/-
**What a parcel of QuickLivraison says about its recipient.**

A webhook compares the normalized statuses.  A page compares the courier's own texts, among them the
payment situation, so that a refused parcel counts once more when its situation changes.  And the
answer to a creation resets the row, whatever the parcel has become.

Main results:

* `QuickLivraison.quickLivraison_risk` — **terminal statuses stay terminal, and what is recorded is
  what has moved, exactly as long as the calls find that**.
-/

import Zomaal.MachineRun
import Zomaal.QuickLivraison

set_option autoImplicit false

namespace Zomaal.QuickLivraison

open Sendit (isRisk riskOutcome)

/-! ### What moves, and what is recorded -/

def Parcel.recorded (parcel : Parcel) : ℕ :=
  parcel.outcomes.countP fun outcome => outcome.outcome = .refusals ∨ outcome.outcome = .noAnswer

variable (before after : Parcel)

def Parcel.entersRisk : Bool :=
  after.row.any fun row =>
    isRisk row.normalizedStatus &&
      before.row.all fun old => old.normalizedStatus ≠ row.normalizedStatus

def Parcel.entered : ℕ := if before.entersRisk after then 1 else 0

def Parcel.TerminalKept : Prop :=
  before.row.any (·.normalizedStatus.isTerminal) → after.row.any (·.normalizedStatus.isTerminal)

variable (unicode : UnicodeText) (userId : String)

def moves (parcel : Parcel) : List QuickLivraisonCall → ℕ
  | [] => 0
  | call :: calls =>
    parcel.entered (parcel.step unicode userId call) +
      moves (parcel.step unicode userId call) calls

structure StepSound (parcel : Parcel) (call : QuickLivraisonCall) : Prop where
  terminal : parcel.TerminalKept (parcel.step unicode userId call)
  recorded : (parcel.step unicode userId call).recorded =
    parcel.recorded + parcel.entered (parcel.step unicode userId call)

variable (current : Option QuickLivraisonShipment)

def counts (snapshot : QuickLivraisonSnapshot) : Bool :=
  statusChanged current snapshot && isRisk (snapshot.normalizedStatus unicode)

def applied (snapshots : List QuickLivraisonSnapshot) : List QuickLivraisonSnapshot :=
  snapshots.filter fun snapshot => !isStale unicode current snapshot

/-- A creation finds no terminal row; of the snapshots that a page applies to a row, only the last
may count, and it finds the row in another status. -/
def faithful (parcel : Parcel) : QuickLivraisonCall → Bool
  | .persistDeliveries _ _ => parcel.row.all fun row => !row.normalizedStatus.isTerminal
  | .reconcileProviderDeliveries connectionId snapshots =>
    connectionId.isNone || parcel.row.all fun row =>
      ((applied unicode parcel.row snapshots).dropLast.all fun snapshot =>
        !counts unicode parcel.row snapshot) &&
      ((applied unicode parcel.row snapshots).getLast?.all fun snapshot =>
        !counts unicode parcel.row snapshot ||
          row.normalizedStatus ≠ snapshot.normalizedStatus unicode)
  | .processStatusWebhook _ => true

abbrev Faithful (parcel : Parcel) (call : QuickLivraisonCall) : Prop :=
  faithful unicode parcel call = true

def Coherent (parcel : Parcel) : Prop :=
  ∀ row ∈ parcel.row, row.normalizedStatus =
    normalizeQuickLivraisonStatus unicode row.providerStatus row.providerSecondaryStatus

variable {unicode} {userId}

theorem statusKey_newParcel : statusKey unicode "NEW_PARCEL" = "NEW_PARCEL" := by
  have hascii : ("NEW_PARCEL".toList.all fun c => decide (c.toNat < 128)) = true := by decide
  rw [statusKey, unicode.normalizeNfd_ascii "NEW_PARCEL" fun c hc =>
    of_decide_eq_true (List.all_eq_true.1 hascii c hc)]
  decide

theorem normalize_newParcel :
    normalizeQuickLivraisonStatus unicode "NEW_PARCEL" none = .pending := by
  unfold normalizeQuickLivraisonStatus
  have hvalue : normalizedValue unicode (some "NEW_PARCEL") = some .pending := by
    rw [normalizedValue, Option.bind_some, if_neg (by decide), statusKey_newParcel]
    rfl
  rw [hvalue]
  rfl

theorem riskOutcome_mem (status : ShippingShipmentStatus) :
    riskOutcome status = .refusals ∨ riskOutcome status = .noAnswer := by
  rw [riskOutcome]
  split
  · exact Or.inl rfl
  · exact Or.inr rfl

theorem Parcel.entered_self (parcel : Parcel) : parcel.entered parcel = 0 := by
  rw [Parcel.entered, if_neg]
  cases hrow : parcel.row with
  | none => simp [Parcel.entersRisk, hrow]
  | some row => simp [Parcel.entersRisk, hrow]

variable {parcel : Parcel}

theorem StepSound.of_same {call : QuickLivraisonCall}
    (h : parcel.step unicode userId call = parcel) : StepSound unicode userId parcel call where
  terminal := by
    rw [h]
    exact id
  recorded := by rw [h, Parcel.entered_self, Nat.add_zero]

theorem stepSound_iff_of_row {after : Parcel} {call : QuickLivraisonCall}
    {row : QuickLivraisonShipment} {outcomes : List ShipmentOutcome}
    (hafter : parcel.step unicode userId call = after) (hrow : after.row = some row)
    (houtcomes : after.outcomes = parcel.outcomes ++ outcomes) {count : ℕ}
    (hcount : outcomes.countP (fun outcome => outcome.outcome = .refusals ∨
      outcome.outcome = .noAnswer) = count) :
    StepSound unicode userId parcel call ↔
      (parcel.row.any (·.normalizedStatus.isTerminal) → row.normalizedStatus.isTerminal) ∧
        count = if (isRisk row.normalizedStatus &&
          parcel.row.all fun old => old.normalizedStatus ≠ row.normalizedStatus) then 1 else 0 := by
  have hrecorded : after.recorded = parcel.recorded + count := by
    rw [Parcel.recorded, houtcomes, List.countP_append, hcount]
    rfl
  have hentered : parcel.entered after = if (isRisk row.normalizedStatus &&
      parcel.row.all fun old => old.normalizedStatus ≠ row.normalizedStatus) then 1 else 0 := by
    rw [Parcel.entered, Parcel.entersRisk, hrow, Option.any_some]
  constructor
  · rintro ⟨hterminal, hsound⟩
    rw [hafter] at hterminal hsound
    rw [hrecorded, hentered] at hsound
    refine ⟨fun hold => ?_, Nat.add_left_cancel hsound⟩
    have hnew := hterminal hold
    rwa [hrow, Option.any_some] at hnew
  · rintro ⟨hterminal, heq⟩
    refine ⟨?_, ?_⟩
    · rw [hafter, Parcel.TerminalKept, hrow, Option.any_some]
      exact hterminal
    · rw [hafter, hrecorded, hentered, heq]

/-! ### The calls -/

theorem countP_snapshotOutcome (snapshot : QuickLivraisonSnapshot) :
    (snapshotOutcome unicode userId current snapshot).countP (fun outcome =>
      outcome.outcome = .refusals ∨ outcome.outcome = .noAnswer) =
      if statusChanged current snapshot && isRisk (snapshot.normalizedStatus unicode) then 1
      else 0 := by
  rw [snapshotOutcome]
  split
  · rw [List.countP_singleton, if_pos (decide_eq_true (riskOutcome_mem _))]
  · rfl

theorem countP_webhookOutcome (event : QuickLivraisonWebhook) (row : QuickLivraisonShipment) :
    (webhookOutcome unicode userId event row).countP (fun outcome =>
      outcome.outcome = .refusals ∨ outcome.outcome = .noAnswer) =
      if row.normalizedStatus ≠ event.normalizedStatus unicode &&
        isRisk (event.normalizedStatus unicode) then 1 else 0 := by
  rw [webhookOutcome]
  split
  · rw [List.countP_singleton, if_pos (decide_eq_true (riskOutcome_mem _))]
  · rfl

theorem Coherent.same (h : Coherent unicode parcel) {snapshot : QuickLivraisonSnapshot}
    (hsame : statusChanged parcel.row snapshot = false) :
    ∃ row, parcel.row = some row ∧ row.normalizedStatus = snapshot.normalizedStatus unicode := by
  cases hrow : parcel.row with
  | none =>
    rw [hrow] at hsame
    cases hsame
  | some row =>
    rw [hrow, statusChanged, Option.all_some, Bool.or_eq_false_iff, Bool.or_eq_false_iff] at hsame
    obtain ⟨⟨hstatus, hsecondary⟩, -⟩ := hsame
    refine ⟨row, rfl, ?_⟩
    have hstatus : row.providerStatus = snapshot.providerStatus := by simpa using hstatus
    have hsecondary : row.providerSecondaryStatus = snapshot.providerSecondaryStatus := by
      simpa using hsecondary
    rw [h row hrow, QuickLivraisonSnapshot.normalizedStatus, hstatus, hsecondary]

theorem terminal_of_not_stale {current : Option QuickLivraisonShipment}
    {snapshot : QuickLivraisonSnapshot} (h : isStale unicode current snapshot = false)
    (hterminal : current.any (·.normalizedStatus.isTerminal)) :
    (snapshot.normalizedStatus unicode).isTerminal = true := by
  cases current with
  | none => cases hterminal
  | some row => exact (staleShipmentStatus_eq_false h).1 hterminal

variable (unicode) in
theorem reconcile_none (userId connectionId : String) (hrow : parcel.row = none)
    (snapshots : List QuickLivraisonSnapshot) :
    parcel.step unicode userId (.reconcileProviderDeliveries (some connectionId) snapshots) =
      match snapshots with
      | [snapshot] =>
        { row := some (importedRow unicode connectionId snapshot)
          outcomes := parcel.outcomes ++ snapshotOutcome unicode userId none snapshot }
      | _ => parcel := by
  have hstale (snapshot : QuickLivraisonSnapshot) : isStale unicode none snapshot = false := rfl
  simp only [Parcel.step, Parcel.reconcileProviderDeliveries, hrow]
  match snapshots with
  | [] => rfl
  | [snapshot] => simp [pageTurn, hstale, hrow]
  | first :: second :: snapshots => simp [pageTurn, hstale, hrow]

theorem pageTurns_some (connectionId : String) {current : QuickLivraisonShipment}
    (snapshots : List QuickLivraisonSnapshot) (parcel : Parcel) :
    snapshots.foldlM (pageTurn unicode userId connectionId (some current)) parcel =
      some
        { row := ((applied unicode (some current) snapshots).getLast?.map fun snapshot =>
            reconciledRow unicode connectionId snapshot current).or parcel.row
          outcomes := parcel.outcomes ++ (applied unicode (some current) snapshots).flatMap
            (snapshotOutcome unicode userId (some current)) } := by
  induction snapshots generalizing parcel with
  | nil => simp [applied]
  | cons snapshot snapshots ih =>
    rw [List.foldlM_cons]
    cases hstale : isStale unicode (some current) snapshot with
    | true =>
      have happlied : applied unicode (some current) (snapshot :: snapshots) =
          applied unicode (some current) snapshots :=
        List.filter_cons_of_neg (by simp [hstale])
      simp only [pageTurn, hstale, if_true, Option.bind_eq_bind, Option.bind_some, ih, happlied]
    | false =>
      have happlied : applied unicode (some current) (snapshot :: snapshots) =
          snapshot :: applied unicode (some current) snapshots :=
        List.filter_cons_of_pos (by simp [hstale])
      simp only [pageTurn, hstale, Bool.false_eq_true, if_false, Option.bind_eq_bind,
        Option.bind_some, ih, happlied, List.flatMap_cons, List.append_assoc]
      cases hlast : (applied unicode (some current) snapshots).getLast? with
      | none => simp [List.getLast?_cons, hlast]
      | some last => simp [List.getLast?_cons, hlast]

theorem countP_snapshotOutcomes (snapshots : List QuickLivraisonSnapshot) :
    (snapshots.flatMap (snapshotOutcome unicode userId current)).countP (fun outcome =>
      outcome.outcome = .refusals ∨ outcome.outcome = .noAnswer) =
      snapshots.countP (counts unicode current) := by
  induction snapshots with
  | nil => rfl
  | cons snapshot snapshots ih =>
    rw [List.flatMap_cons, List.countP_append, ih, countP_snapshotOutcome, List.countP_cons,
      Nat.add_comm]
    rfl

theorem stepSound_page_iff (h : Coherent unicode parcel) {current : QuickLivraisonShipment}
    (hrow : parcel.row = some current) (connectionId : String)
    (snapshots : List QuickLivraisonSnapshot) :
    Faithful unicode parcel (.reconcileProviderDeliveries (some connectionId) snapshots) ↔
      StepSound unicode userId parcel
        (.reconcileProviderDeliveries (some connectionId) snapshots) := by
  have hafter : parcel.step unicode userId
      (.reconcileProviderDeliveries (some connectionId) snapshots) =
      { row := ((applied unicode parcel.row snapshots).getLast?.map fun snapshot =>
          reconciledRow unicode connectionId snapshot current).or parcel.row
        outcomes := parcel.outcomes ++ (applied unicode parcel.row snapshots).flatMap
          (snapshotOutcome unicode userId parcel.row) } := by
    simp only [Parcel.step, Parcel.reconcileProviderDeliveries]
    rw [hrow, pageTurns_some, Option.getD_some, hrow]
  have hfaithful : Faithful unicode parcel
      (.reconcileProviderDeliveries (some connectionId) snapshots) ↔
      ((applied unicode parcel.row snapshots).dropLast.all fun snapshot =>
        !counts unicode parcel.row snapshot) = true ∧
      ((applied unicode parcel.row snapshots).getLast?.all fun snapshot =>
        !counts unicode parcel.row snapshot ||
          current.normalizedStatus ≠ snapshot.normalizedStatus unicode) = true := by
    simp only [Faithful, faithful, hrow, Option.isNone_some, Bool.false_or, Option.all_some,
      Bool.and_eq_true]
  have hfresh : ∀ snapshot ∈ applied unicode parcel.row snapshots,
      isStale unicode parcel.row snapshot = false := fun snapshot hmem => by
    simpa using (List.mem_filter.1 hmem).2
  rw [hfaithful]
  obtain hnil | ⟨earlier, last, hconcat⟩ :=
    List.eq_nil_or_concat (applied unicode parcel.row snapshots)
  · rw [hnil] at hafter ⊢
    refine iff_of_true ⟨rfl, rfl⟩ (StepSound.of_same ?_)
    rw [hafter]
    simp
  · rw [List.concat_eq_append] at hconcat
    rw [hconcat] at hafter hfresh ⊢
    rw [List.getLast?_concat, Option.map_some, Option.some_or] at hafter
    have hlast := hfresh last (by simp)
    have hstatus : (reconciledRow unicode connectionId last current).normalizedStatus =
      last.normalizedStatus unicode := rfl
    rw [stepSound_iff_of_row hafter rfl rfl (countP_snapshotOutcomes parcel.row _), hstatus,
      and_iff_right fun hterminal => terminal_of_not_stale hlast hterminal, List.countP_append,
      List.countP_singleton, List.dropLast_concat, List.getLast?_concat, Option.all_some]
    -- The earlier ones are never seen in the row; the last one is, if it has another status.
    have hearlier : (earlier.all fun snapshot => !counts unicode parcel.row snapshot) = true ↔
        earlier.countP (counts unicode parcel.row) = 0 := by
      rw [List.countP_eq_zero]
      simp
    have hmoved : (isRisk (last.normalizedStatus unicode) && parcel.row.all fun old =>
        old.normalizedStatus ≠ last.normalizedStatus unicode) =
        (counts unicode parcel.row last &&
          decide (current.normalizedStatus ≠ last.normalizedStatus unicode)) := by
      rw [counts]
      cases hchanged : statusChanged parcel.row last with
      | true => rw [Bool.true_and, hrow, Option.all_some]
      | false =>
        obtain ⟨old, hold, hsame⟩ := h.same hchanged
        obtain rfl := Option.some.inj (hrow.symm.trans hold)
        simp [hrow, hsame]
    rw [hearlier, hmoved]
    cases counts unicode parcel.row last with
    | false => simp
    | true =>
      by_cases hsame : current.normalizedStatus = last.normalizedStatus unicode
      · simp [hsame]
      · simp [hsame]

theorem stepSound_iff (h : Coherent unicode parcel) (call : QuickLivraisonCall) :
    Faithful unicode parcel call ↔ StepSound unicode userId parcel call := by
  cases call with
  | persistDeliveries connectionId request =>
    have hstatus : (createdRow unicode connectionId request
        (parcel.row.getD blankShipment)).normalizedStatus = .pending := normalize_newParcel
    have hnone : ([] : List ShipmentOutcome).countP (fun outcome =>
        outcome.outcome = .refusals ∨ outcome.outcome = .noAnswer) = 0 := rfl
    rw [stepSound_iff_of_row rfl rfl (List.append_nil _).symm hnone, hstatus]
    cases hrow : parcel.row with
    | none => simp [Faithful, faithful, hrow, isRisk]
    | some old => simp [Faithful, faithful, hrow, isRisk, ShippingShipmentStatus.isTerminal,
        terminalShipmentStatuses]
  | reconcileProviderDeliveries connectionId snapshots =>
    cases connectionId with
    | none => exact iff_of_true rfl (StepSound.of_same rfl)
    | some connectionId =>
      cases hrow : parcel.row with
      | some current => exact stepSound_page_iff h hrow connectionId snapshots
      | none =>
        refine iff_of_true (by simp [Faithful, faithful, hrow]) ?_
        have hafter := reconcile_none unicode userId connectionId hrow snapshots
        match snapshots with
        | [] => exact StepSound.of_same hafter
        | _ :: _ :: _ => exact StepSound.of_same hafter
        | [snapshot] =>
          refine (stepSound_iff_of_row hafter rfl rfl
            (countP_snapshotOutcome none snapshot)).2 ⟨fun hterminal => ?_, ?_⟩
          · rw [hrow] at hterminal
            cases hterminal
          · rw [hrow]
            simp [statusChanged, importedRow]
  | processStatusWebhook event =>
    refine iff_of_true rfl ?_
    cases hrow : parcel.row with
    | none =>
      refine StepSound.of_same ?_
      simp [Parcel.step, Parcel.processStatusWebhook, hrow]
    | some row =>
      cases happlies : webhookApplies unicode event row with
      | false =>
        refine StepSound.of_same ?_
        simp [Parcel.step, Parcel.processStatusWebhook, hrow, happlies]
      | true =>
        have hafter : parcel.step unicode userId (.processStatusWebhook event) =
            { row := some (webhookRow unicode event row)
              outcomes := parcel.outcomes ++ webhookOutcome unicode userId event row } := by
          simp [Parcel.step, Parcel.processStatusWebhook, hrow, happlies]
        refine (stepSound_iff_of_row hafter rfl rfl (countP_webhookOutcome event row)).2
          ⟨fun hterminal => ?_, ?_⟩
        · rw [hrow, Option.any_some] at hterminal
          rw [webhookApplies, Bool.and_eq_true, terminalRegressionFilter,
            hterminal] at happlies
          simpa [webhookRow] using happlies.1
        · rw [hrow, Option.all_some, Bool.and_comm]
          rfl

theorem Coherent.step (h : Coherent unicode parcel) (call : QuickLivraisonCall) :
    Coherent unicode (parcel.step unicode userId call) := by
  cases call with
  | persistDeliveries connectionId request =>
    intro row hrow
    obtain rfl := Option.some.inj hrow
    rfl
  | reconcileProviderDeliveries connectionId snapshots =>
    simp only [Parcel.step]
    unfold Parcel.reconcileProviderDeliveries
    split
    · exact h
    · rename_i connectionId
      have hturns : ∀ (snapshots : List QuickLivraisonSnapshot) (turned after : Parcel),
          Coherent unicode turned →
          snapshots.foldlM (pageTurn unicode userId connectionId parcel.row) turned = some after →
          Coherent unicode after := by
        intro snapshots
        induction snapshots with
        | nil =>
          intro turned after hturned hafter
          obtain rfl := Option.some.inj hafter
          exact hturned
        | cons snapshot snapshots ih =>
          intro turned after hturned hafter
          rw [List.foldlM_cons] at hafter
          obtain ⟨next, hnext, hafter⟩ := Option.bind_eq_some_iff.1 hafter
          refine ih next after ?_ hafter
          unfold pageTurn at hnext
          split at hnext
          · obtain rfl := Option.some.inj hnext
            exact hturned
          · dsimp only at hnext
            split at hnext
            · split at hnext
              · cases hnext
              · obtain rfl := Option.some.inj hnext
                intro row hrow
                obtain rfl := Option.some.inj hrow
                rfl
            · obtain rfl := Option.some.inj hnext
              intro row hrow
              obtain rfl := Option.some.inj hrow
              rfl
      cases hpage : snapshots.foldlM (pageTurn unicode userId connectionId parcel.row) parcel with
      | none => exact h
      | some after => exact hturns snapshots parcel after h hpage
  | processStatusWebhook event =>
    rw [Parcel.step, Parcel.processStatusWebhook]
    split
    · exact h
    · split
      · intro row hrow
        obtain rfl := Option.some.inj hrow
        rfl
      · exact h

/-! ### Runs -/

theorem recorded_eq_moves {calls : List QuickLivraisonCall}
    (h : Machine.Along (Parcel.step unicode userId) (StepSound unicode userId) parcel calls) :
    (Machine.run (Parcel.step unicode userId) parcel calls).recorded =
      parcel.recorded + moves unicode userId parcel calls := by
  induction calls generalizing parcel with
  | nil => rfl
  | cons call calls ih =>
    rw [Machine.run_cons, ih h.2, h.1.recorded, moves, Nat.add_assoc]

variable (unicode userId) in
/-- **Every run of calls about a parcel**: terminal statuses stay terminal and what is recorded is
what moves, call by call, exactly if creations find no terminal row, and of the snapshots that a
page applies only the last one counts and finds another status. -/
theorem quickLivraison_risk (calls : List QuickLivraisonCall) :
    (Machine.Along (Parcel.step unicode userId) (Faithful unicode) {} calls ↔
      Machine.Along (Parcel.step unicode userId) (StepSound unicode userId) {} calls) ∧
    (Machine.Along (Parcel.step unicode userId) (Faithful unicode) {} calls →
      (Machine.run (Parcel.step unicode userId) {} calls).recorded =
        moves unicode userId {} calls) := by
  have hall : ∀ (calls : List QuickLivraisonCall) (parcel : Parcel), Coherent unicode parcel →
      (Machine.Along (Parcel.step unicode userId) (Faithful unicode) parcel calls ↔
        Machine.Along (Parcel.step unicode userId) (StepSound unicode userId) parcel calls) := by
    intro calls
    induction calls with
    | nil => exact fun _ _ => Iff.rfl
    | cons call calls ih =>
      intro parcel hcoherent
      exact and_congr (stepSound_iff hcoherent call) (ih _ (hcoherent.step call))
  have hiff := hall calls {} fun _ hrow => nomatch hrow
  refine ⟨hiff, fun h => ?_⟩
  have hrecorded := recorded_eq_moves (hiff.1 h)
  rwa [show (({} : Parcel).recorded) = 0 from rfl, Nat.zero_add] at hrecorded

def refusedPages : List QuickLivraisonCall :=
  [.reconcileProviderDeliveries (some "q") [{ providerStatus := "REFUSED" }],
   .reconcileProviderDeliveries (some "q")
    [{ providerStatus := "REFUSED", situation := some "INVOICED" }]]

/-- A page says that the parcel was delivered, before the answer to its creation is stored. -/
def createdLate : List QuickLivraisonCall :=
  [.reconcileProviderDeliveries (some "q") [{ providerStatus := "DELIVERED" }],
   .persistDeliveries (some "q")
    { name := "Amal", phone := "0612345678", address := "12 rue", districtId := 4, amount := 100 }]

/-- One refusal is recorded twice, and a delivered parcel is pending again. -/
theorem quickLivraison_risk_fails :
    ((Machine.run (Parcel.step plainTexts "u") {} refusedPages).recorded = 2 ∧
      moves plainTexts "u" {} refusedPages = 1) ∧
    ((Machine.run (Parcel.step plainTexts "u") {} (createdLate.take 1)).row.map
        (·.normalizedStatus) = some .delivered ∧
      (Machine.run (Parcel.step plainTexts "u") {} createdLate).row.map
        (·.normalizedStatus) = some .pending) := by
  decide +kernel

end Zomaal.QuickLivraison
