/-
**Stock balances: the four buckets of an inventory item and the two policies that move them.**

The strict policy (`validateBalance`, used by manual adjustments and purchases) rejects a change
that would leave an invalid balance; the lenient one (`clampDelta`, used by the order flow) moves
the largest part of the change that keeps the balance valid.  This module embeds both, from
`inventory-balance.util.ts` and `order-stock.util.ts`.

Main results:

* `ValidBalance.clamped` — **the lenient policy keeps a valid balance valid**, as long as the result
  still fits its column;
* `clampDelta_eq_self` — nothing is clamped when the stock covers the change.
-/

import Zomaal.Store

set_option autoImplicit false

namespace Zomaal

/-! ### Buckets -/

def InventoryBucket.text : InventoryBucket → String
  | .onHand => "ON_HAND"
  | .reserved => "RESERVED"
  | .damaged => "DAMAGED"
  | .incoming => "INCOMING"

def bucketField : InventoryBucket → BalanceQuantities → ℤ
  | .onHand, balance => balance.onHand
  | .reserved, balance => balance.reserved
  | .damaged, balance => balance.damaged
  | .incoming, balance => balance.incoming

def setBucketField (quantity : ℤ) : InventoryBucket → BalanceQuantities → BalanceQuantities
  | .onHand, balance => { balance with onHand := quantity }
  | .reserved, balance => { balance with reserved := quantity }
  | .damaged, balance => { balance with damaged := quantity }
  | .incoming, balance => { balance with incoming := quantity }

@[simp] theorem bucketField_set_self (bucket : InventoryBucket) (quantity : ℤ)
    (balance : BalanceQuantities) :
    bucketField bucket (setBucketField quantity bucket balance) = quantity := by
  cases bucket <;> rfl

variable {bucket : InventoryBucket}

theorem bucketField_set_of_ne {bucket' : InventoryBucket} (h : bucket' ≠ bucket) (quantity : ℤ)
    (balance : BalanceQuantities) :
    bucketField bucket' (setBucketField quantity bucket balance) = bucketField bucket' balance := by
  cases bucket <;> cases bucket' <;> first | rfl | exact absurd rfl h

theorem BalanceQuantities.ext_buckets {b b' : BalanceQuantities}
    (h : ∀ bucket, bucketField bucket b = bucketField bucket b') : b = b' := by
  cases b with
  | mk onHand reserved damaged incoming =>
    cases b' with
    | mk onHand' reserved' damaged' incoming' =>
      have h₁ := h .onHand
      have h₂ := h .reserved
      have h₃ := h .damaged
      have h₄ := h .incoming
      simp only [bucketField] at h₁ h₂ h₃ h₄
      subst h₁ h₂ h₃ h₄
      rfl

/-! ### The strict policy -/

def availableQuantity (balance : BalanceQuantities) : ℤ :=
  balance.onHand - balance.reserved - balance.damaged

def maxQuantity : ℤ := 2147483647

/-- The balance is refused when a quantity is out of range, negative, or when reserved and damaged
stock exceed what is on hand. -/
def validateBalance (balance : BalanceQuantities) : Except ServiceError Unit :=
  if maxQuantity < balance.onHand ∨ maxQuantity < balance.reserved ∨
      maxQuantity < balance.damaged ∨ maxQuantity < balance.incoming then
    .error (.badRequest "Inventory quantities must be integers no greater than 2147483647")
  else if balance.onHand < 0 ∨ balance.reserved < 0 ∨ balance.damaged < 0 ∨
      balance.incoming < 0 then
    .error (.badRequest "Inventory quantities cannot become negative")
  else if balance.onHand < balance.reserved + balance.damaged then
    .error (.badRequest "Reserved and damaged stock exceed on-hand stock")
  else .ok ()

/-- **A valid balance**: no quantity is negative, what is reserved or damaged is on hand, and every
quantity fits its column. -/
structure ValidBalance (balance : BalanceQuantities) : Prop where
  onHand_nonneg : 0 ≤ balance.onHand
  reserved_nonneg : 0 ≤ balance.reserved
  damaged_nonneg : 0 ≤ balance.damaged
  incoming_nonneg : 0 ≤ balance.incoming
  coupled : balance.reserved + balance.damaged ≤ balance.onHand
  onHand_le : balance.onHand ≤ maxQuantity
  incoming_le : balance.incoming ≤ maxQuantity

theorem validateBalance_eq_ok_iff (balance : BalanceQuantities) :
    validateBalance balance = .ok () ↔ ValidBalance balance := by
  constructor
  · intro h
    unfold validateBalance at h
    split at h
    · simp at h
    · split at h
      · simp at h
      · split at h
        · simp at h
        · constructor <;> omega
  · rintro ⟨h₁, h₂, h₃, h₄, h₅, h₆, h₇⟩
    unfold validateBalance
    rw [if_neg (by omega), if_neg (by omega), if_neg (by omega)]

theorem ValidBalance.empty : ValidBalance {} := by
  constructor <;> decide

/-! ### The lenient policy -/

/-- The largest part of `delta` that keeps the balance valid.  Order flows never fail because the
merchant did not track stock: they move what is there. -/
def clampDelta (balance : BalanceQuantities) (bucket : InventoryBucket) (delta : ℤ) : ℤ :=
  let available := max (availableQuantity balance) 0
  if 0 < delta then
    if bucket = .reserved ∨ bucket = .damaged then min delta available else delta
  else
    -min (-delta) (if bucket = .onHand then available else max (bucketField bucket balance) 0)

theorem clampDelta_bounds (balance : BalanceQuantities) (bucket : InventoryBucket) (delta : ℤ) :
    (0 ≤ delta → 0 ≤ clampDelta balance bucket delta ∧ clampDelta balance bucket delta ≤ delta) ∧
      (delta ≤ 0 → delta ≤ clampDelta balance bucket delta ∧
        clampDelta balance bucket delta ≤ 0) := by
  cases bucket <;> simp only [clampDelta, bucketField, availableQuantity, reduceCtorEq, or_self,
    or_true, true_or, if_true, if_false] <;> split <;> omega

theorem ValidBalance.clamped {balance : BalanceQuantities} (h : ValidBalance balance)
    (bucket : InventoryBucket) (delta : ℤ)
    (hfit : bucketField bucket balance + clampDelta balance bucket delta ≤ maxQuantity) :
    ValidBalance
      (setBucketField (bucketField bucket balance + clampDelta balance bucket delta) bucket
        balance) := by
  obtain ⟨h₁, h₂, h₃, h₄, h₅, h₆, h₇⟩ := h
  cases bucket <;>
    simp only [clampDelta, bucketField, availableQuantity, reduceCtorEq, or_self, or_true,
      true_or, if_true, if_false] at hfit ⊢ <;>
    split at hfit <;> constructor <;> simp only [setBucketField] <;> (try split) <;> omega

theorem clampDelta_fits {balance : BalanceQuantities} (h : ValidBalance balance) {delta : ℤ}
    (hsafe : delta ≤ 0 ∨ bucket = .reserved ∨ bucket = .damaged) :
    bucketField bucket balance + clampDelta balance bucket delta ≤ maxQuantity := by
  obtain ⟨h₁, h₂, h₃, h₄, h₅, h₆, h₇⟩ := h
  cases bucket <;>
    simp only [clampDelta, bucketField, availableQuantity, reduceCtorEq, or_self, or_true,
      if_true, if_false, or_false] at hsafe ⊢ <;>
    split <;> omega

theorem clampDelta_eq_self {balance : BalanceQuantities} {delta : ℤ}
    (hup : 0 < delta → bucket = .reserved ∨ bucket = .damaged → delta ≤ availableQuantity balance)
    (hdown : delta < 0 → bucket = .onHand → -delta ≤ availableQuantity balance)
    (hdown' : delta < 0 → bucket ≠ .onHand → -delta ≤ bucketField bucket balance) :
    clampDelta balance bucket delta = delta := by
  cases bucket <;>
    simp only [clampDelta, bucketField, reduceCtorEq, or_self, or_true, true_or, if_true,
      if_false, ne_eq, not_true_eq_false, not_false_eq_true, forall_const,
      IsEmpty.forall_iff] at hup hdown hdown' ⊢ <;>
    split <;> omega

/-! ### Balances in the store -/

namespace Store

/-- The item's balance at the default location; an item without a balance row has the empty
balance, which is what `ensureDefaultBalance` creates on first use. -/
def balanceOf (s : Store) (inventoryItemId : String) : BalanceQuantities :=
  (s.balances inventoryItemId).getD {}

def ensureDefaultBalance (s : Store) (inventoryItemId : String) : Store :=
  { s with
    balances := Function.update s.balances inventoryItemId (some (s.balanceOf inventoryItemId)) }

def post (s : Store) (balance : BalanceQuantities) (movement : InventoryMovement) : Store :=
  { s with
    balances := Function.update s.balances movement.inventoryItemId (some balance)
    movements := s.movements ++ [movement] }

def findMovement (s : Store) (inventoryItemId idempotencyKey : String) :
    Option InventoryMovement :=
  s.movements.find? fun movement =>
    movement.inventoryItemId = inventoryItemId ∧ movement.idempotencyKey = some idempotencyKey

def warn (s : Store) (message : String) : Store := { s with warnings := s.warnings ++ [message] }

variable (s : Store) (inventoryItemId : String)

@[simp] theorem balanceOf_ensureDefaultBalance (item : String) :
    (s.ensureDefaultBalance inventoryItemId).balanceOf item = s.balanceOf item := by
  by_cases h : item = inventoryItemId
  · subst h
    simp [balanceOf, ensureDefaultBalance]
  · simp [balanceOf, ensureDefaultBalance, Function.update_of_ne h]

@[simp] theorem warnings_ensureDefaultBalance :
    (s.ensureDefaultBalance inventoryItemId).warnings = s.warnings := rfl

variable (balance : BalanceQuantities) (movement : InventoryMovement)

theorem balanceOf_post (item : String) :
    (s.post balance movement).balanceOf item =
      if item = movement.inventoryItemId then balance else s.balanceOf item := by
  by_cases h : item = movement.inventoryItemId
  · subst h
    simp [balanceOf, post]
  · simp [balanceOf, post, h]

@[simp] theorem movements_post :
    (s.post balance movement).movements = s.movements ++ [movement] := rfl

@[simp] theorem orders_post : (s.post balance movement).orders = s.orders := rfl

@[simp] theorem warnings_post : (s.post balance movement).warnings = s.warnings := rfl

theorem findMovement_eq_none_iff {idempotencyKey : String} :
    s.findMovement inventoryItemId idempotencyKey = none ↔
      ∀ movement ∈ s.movements, movement.inventoryItemId = inventoryItemId →
        movement.idempotencyKey ≠ some idempotencyKey := by
  simp [findMovement, List.find?_eq_none]

end Store

end Zomaal
