/-
**Prices and promo codes of the Zomaal shop.**

What a line costs, whether a promo code can be used and what an order totals are pure functions of
the catalogue's rows.  Money is kept to two decimals.

Main results:

* `Shop.checkPromo_none` — what an accepted code guarantees of its limits.
-/

import Zomaal.Store

set_option autoImplicit false

namespace Zomaal.Shop

/-- `toDecimalPlaces(2)`: to the nearest, ties away from zero. -/
def toDecimalPlaces2 (x : Decimal) : Decimal :=
  if 0 ≤ x then (⌊x * 100 + 1 / 2⌋ : ℚ) / 100 else (⌈x * 100 - 1 / 2⌉ : ℚ) / 100

/-! ### Promo codes -/

inductive ShopPromoType
  | percent
  | fixed
  deriving DecidableEq

structure ShopPromoCode where
  id : String
  code : String
  type : ShopPromoType := .fixed
  value : Decimal := 0
  minSubtotal : Option Decimal := none
  maxDiscount : Option Decimal := none
  usageLimit : Option ℕ := none
  perStoreLimit : Option ℕ := none
  usedCount : ℕ := 0
  startsAt : Option ℤ := none
  endsAt : Option ℤ := none
  isActive : Bool := true

inductive PromoRejection
  | notFound
  | inactive
  | notStarted
  | expired
  | usageLimitReached
  | storeLimitReached
  | minSubtotalNotMet

/-- Why a promo cannot be used right now, or `none` if it can. -/
def checkPromo (promo : Option ShopPromoCode) (subtotal : Decimal) (storeUses : ℕ) (now : ℤ) :
    Option PromoRejection :=
  match promo with
  | none => some .notFound
  | some promo =>
    if !promo.isActive then some .inactive
    else if promo.startsAt.any fun start => now < start then some .notStarted
    else if promo.endsAt.any fun stop => stop < now then some .expired
    else if promo.usageLimit.any fun limit => limit ≤ promo.usedCount then some .usageLimitReached
    else if promo.perStoreLimit.any fun limit => limit ≤ storeUses then some .storeLimitReached
    else if promo.minSubtotal.any fun least => subtotal < least then some .minSubtotalNotMet
    else none

/-- `toFixed(2)` of an amount that is not negative. -/
def toFixed2 (x : Decimal) : String :=
  let hundredths := ⌊x * 100 + 1 / 2⌋.toNat
  let cents := hundredths % 100
  toString (hundredths / 100) ++ "." ++ (if cents < 10 then "0" else "") ++ toString cents

def promoRejectionMessage (reason : PromoRejection) (promo : Option ShopPromoCode) : String :=
  match reason with
  | .notFound => "This promo code does not exist."
  | .inactive => "This promo code is no longer active."
  | .notStarted => "This promo code is not active yet."
  | .expired => "This promo code has expired."
  | .usageLimitReached => "This promo code has reached its usage limit."
  | .storeLimitReached =>
    "You have already used this promo code the maximum number of times."
  | .minSubtotalNotMet =>
    "This promo code needs a subtotal of at least " ++
      ((promo.bind ShopPromoCode.minSubtotal).map toFixed2).getD "0.00" ++ "."

theorem checkPromo_none {promo : Option ShopPromoCode} {subtotal : Decimal} {storeUses : ℕ}
    {now : ℤ} (h : checkPromo promo subtotal storeUses now = none) :
    ∃ found, promo = some found ∧ (∀ limit, found.usageLimit = some limit → found.usedCount < limit) ∧
      ∀ limit, found.perStoreLimit = some limit → storeUses < limit := by
  cases promo with
  | none => cases h
  | some found =>
    simp only [checkPromo] at h
    split at h
    · cases h
    · split at h
      · cases h
      · split at h
        · cases h
        · split at h
          · cases h
          · rename_i husage
            split at h
            · cases h
            · rename_i hstore
              refine ⟨found, rfl, fun limit hlimit => ?_, fun limit hlimit => ?_⟩
              · rw [hlimit] at husage
                simpa using husage
              · rw [hlimit] at hstore
                simpa using hstore

/-! ### Totals -/

structure PricedLineInput where
  unitPrice : Decimal
  quantity : ℤ

structure ShopSettings where
  deliveryFee : Decimal := 0
  freeDeliveryMinSubtotal : Option Decimal := none

structure PromoOutcome where
  code : String
  rejection : Option PromoRejection
  message : Option String

def PromoOutcome.applied (promo : PromoOutcome) : Bool := promo.rejection.isNone

structure PricingResult where
  subtotal : Decimal
  discount : Decimal
  deliveryFee : Decimal
  total : Decimal
  promo : Option PromoOutcome

structure PromoLookup where
  promo : Option ShopPromoCode
  code : String
  storeUses : ℕ

def orderSubtotal (lines : List PricedLineInput) : Decimal :=
  toDecimalPlaces2 ((lines.map fun line => line.unitPrice * (line.quantity : ℚ)).sum)

/-- The discount of an accepted code: of the subtotal only, capped for percentages, and never more
than the subtotal. -/
def promoDiscount (promo : ShopPromoCode) (subtotal : Decimal) : Decimal :=
  let raw := match promo.type with
    | .percent =>
      match promo.maxDiscount with
      | some cap => min (subtotal * promo.value / 100) cap
      | none => subtotal * promo.value / 100
    | .fixed => promo.value
  toDecimalPlaces2 (min raw subtotal)

def priceOrder (lines : List PricedLineInput) (settings : ShopSettings)
    (lookup : Option PromoLookup) (now : ℤ) : PricingResult :=
  let subtotal := orderSubtotal lines
  let freeDelivery : Bool :=
    settings.freeDeliveryMinSubtotal.any fun least => least ≤ subtotal
  let deliveryFee :=
    if lines = [] || freeDelivery then 0 else toDecimalPlaces2 settings.deliveryFee
  let rejection := lookup.bind fun found => checkPromo found.promo subtotal found.storeUses now
  let promo := lookup.map fun found =>
    match rejection, found.promo with
    | none, some promo => { code := promo.code, rejection := none, message := none : PromoOutcome }
    | reason, _ =>
      { code := found.code, rejection := reason
        message := reason.map fun reason => promoRejectionMessage reason found.promo }
  let discount := match rejection, lookup.bind PromoLookup.promo with
    | none, some promo => promoDiscount promo subtotal
    | _, _ => 0
  { subtotal, discount, deliveryFee
    total := toDecimalPlaces2 (subtotal - discount + deliveryFee)
    promo }

end Zomaal.Shop
