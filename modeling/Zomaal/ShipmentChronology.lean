/-
**In which order a parcel's snapshots count.**

What a courier reports of a parcel arrives late and in any order.  A terminal status is not reopened
by a report of progress, and of two reports the one with the later time counts.
-/

import Zomaal.OrderLedger

set_option autoImplicit false

namespace Zomaal

def terminalShipmentStatuses : List ShippingShipmentStatus :=
  [.delivered, .cancelled, .refused, .returnedToSeller, .returnedToStock, .returnedToWarehouse,
    .returnInspection]

def ShippingShipmentStatus.isTerminal (status : ShippingShipmentStatus) : Bool :=
  status ∈ terminalShipmentStatuses

/-- What `staleShipmentStatus` looks at in a stored row. -/
structure StoredStatus where
  normalizedStatus : ShippingShipmentStatus
  providerUpdatedAt : Option ℤ

def staleShipmentStatus (previous : Option StoredStatus) (next : ShippingShipmentStatus)
    (providerUpdatedAt : Option ℤ) : Bool :=
  match previous with
  | none => false
  | some previous =>
    (match providerUpdatedAt, previous.providerUpdatedAt with
      | some updatedAt, some previousUpdatedAt =>
        updatedAt < previousUpdatedAt ||
          (updatedAt = previousUpdatedAt && next ≠ previous.normalizedStatus)
      | _, _ => false) ||
      (previous.normalizedStatus.isTerminal && !next.isTerminal)

def terminalRegressionFilter (next stored : ShippingShipmentStatus) : Bool :=
  next.isTerminal || !stored.isTerminal

/-! ### What a row may become -/

/-- A time is not earlier than another one, and not gone if that one was there. -/
def NotEarlier : Option ℤ → Option ℤ → Prop
  | none, _ => True
  | some _, none => False
  | some before, some after => before ≤ after

instance : (before after : Option ℤ) → Decidable (NotEarlier before after)
  | none, _ => inferInstanceAs (Decidable True)
  | some _, none => inferInstanceAs (Decidable False)
  | some before, some after => inferInstanceAs (Decidable (before ≤ after))

theorem NotEarlier.refl (time : Option ℤ) : NotEarlier time time := by
  cases time with
  | none => trivial
  | some time => exact le_refl time

theorem NotEarlier.trans {first second third : Option ℤ} (h : NotEarlier first second)
    (h' : NotEarlier second third) : NotEarlier first third := by
  cases first with
  | none => trivial
  | some first =>
    cases second with
    | none => exact h.elim
    | some second =>
      cases third with
      | none => exact h'.elim
      | some third => exact le_trans (show first ≤ second from h) h'

/-- **A row moves on**: it stays terminal if it was, and its last action is not earlier, nor gone. -/
structure Chronological (status status' : ShippingShipmentStatus)
    (lastActionAt lastActionAt' : Option ℤ) : Prop where
  terminal : status.isTerminal → status'.isTerminal
  lastAction : NotEarlier lastActionAt lastActionAt'

instance (status status' : ShippingShipmentStatus) (lastActionAt lastActionAt' : Option ℤ) :
    Decidable (Chronological status status' lastActionAt lastActionAt') :=
  decidable_of_iff
    ((status.isTerminal → status'.isTerminal) ∧ NotEarlier lastActionAt lastActionAt')
    ⟨fun h => ⟨h.1, h.2⟩, fun h => ⟨h.1, h.2⟩⟩

theorem Chronological.refl (status : ShippingShipmentStatus) (lastActionAt : Option ℤ) :
    Chronological status status lastActionAt lastActionAt :=
  ⟨id, .refl lastActionAt⟩

theorem Chronological.trans {status status' status'' : ShippingShipmentStatus}
    {lastActionAt lastActionAt' lastActionAt'' : Option ℤ}
    (h : Chronological status status' lastActionAt lastActionAt')
    (h' : Chronological status' status'' lastActionAt' lastActionAt'') :
    Chronological status status'' lastActionAt lastActionAt'' :=
  ⟨h'.terminal ∘ h.terminal, h.lastAction.trans h'.lastAction⟩

theorem staleShipmentStatus_eq_false {previous : StoredStatus} {next : ShippingShipmentStatus}
    {providerUpdatedAt : Option ℤ}
    (h : staleShipmentStatus (some previous) next providerUpdatedAt = false) :
    (previous.normalizedStatus.isTerminal → next.isTerminal) ∧
      ∀ a b, providerUpdatedAt = some a → previous.providerUpdatedAt = some b → b ≤ a := by
  simp only [staleShipmentStatus, Bool.or_eq_false_iff] at h
  obtain ⟨htime, hterminal⟩ := h
  refine ⟨fun hwas => ?_, fun a b ha hb => ?_⟩
  · rw [hwas] at hterminal
    simpa using hterminal
  · rw [ha, hb] at htime
    dsimp only at htime
    rw [Bool.or_eq_false_iff] at htime
    simpa using htime.1

end Zomaal
