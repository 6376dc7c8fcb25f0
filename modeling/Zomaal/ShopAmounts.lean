/-
**The amounts of a shop order.**

An order keeps its subtotal, its discount, the delivery fee and the total, and each of its items the
total of its line.  The subtotal is rounded to cents once, as a whole, each line by itself, and the
discount after it was capped.

Main results:

* `Shop.discount_le_cap_iff` — when a discount stays under its cap;
* `Shop.addsUp_iff` — **when the amounts of an order add up**.
-/

import Zomaal.ShopCheckout
import Zomaal.StoredAmounts

set_option autoImplicit false

namespace Zomaal.Shop

/-! ### Cents -/

/-- A multiple of `0.01`. -/
def Cents (x : Decimal) : Prop := ∃ n : ℤ, x = (n : ℚ) / 100

theorem cents_toDecimalPlaces2 (x : Decimal) : Cents (toDecimalPlaces2 x) := by
  rw [toDecimalPlaces2]
  split
  · exact ⟨_, rfl⟩
  · exact ⟨_, rfl⟩

theorem Cents.toDecimalPlaces2 {x : Decimal} (h : Cents x) : toDecimalPlaces2 x = x := by
  obtain ⟨n, rfl⟩ := h
  have hcancel : (n : ℚ) / 100 * 100 = n := by
    field_simp
  have hfloor : ⌊(n : ℚ) + 1 / 2⌋ = n := by
    rw [Int.floor_eq_iff]
    constructor <;> norm_num
  have hceil : ⌈(n : ℚ) - 1 / 2⌉ = n := by
    rw [Int.ceil_eq_iff]
    constructor <;> norm_num
  rw [Shop.toDecimalPlaces2, hcancel, hfloor, hceil]
  split <;> rfl

theorem Cents.add {x y : Decimal} (hx : Cents x) (hy : Cents y) : Cents (x + y) := by
  obtain ⟨m, rfl⟩ := hx
  obtain ⟨n, rfl⟩ := hy
  refine ⟨m + n, ?_⟩
  push_cast
  ring

theorem Cents.sub {x y : Decimal} (hx : Cents x) (hy : Cents y) : Cents (x - y) := by
  obtain ⟨m, rfl⟩ := hx
  obtain ⟨n, rfl⟩ := hy
  refine ⟨m - n, ?_⟩
  push_cast
  ring

theorem Cents.sum {xs : List Decimal} (h : ∀ x ∈ xs, Cents x) : Cents xs.sum := by
  induction xs with
  | nil => exact ⟨0, by simp⟩
  | cons x xs ih =>
    rw [List.forall_mem_cons] at h
    rw [List.sum_cons]
    exact h.1.add (ih h.2)

section Rounding

variable {x y : Decimal}

theorem toDecimalPlaces2_lt_iff (hx : 0 ≤ x) (hy : Cents y) :
    toDecimalPlaces2 x < y ↔ x < y - 1 / 200 := by
  obtain ⟨n, rfl⟩ := hy
  rw [toDecimalPlaces2, if_pos hx, div_lt_div_iff_of_pos_right (by norm_num), Int.cast_lt,
    Int.floor_lt]
  constructor <;> intro h <;> linarith

theorem toDecimalPlaces2_le_iff (hx : 0 ≤ x) (hy : Cents y) :
    toDecimalPlaces2 x ≤ y ↔ x < y + 1 / 200 := by
  obtain ⟨n, rfl⟩ := hy
  rw [toDecimalPlaces2, if_pos hx, div_le_div_iff_of_pos_right (by norm_num), Int.cast_le,
    Int.floor_le_iff]
  constructor <;> intro h <;> linarith

theorem toDecimalPlaces2_le (hx : 0 ≤ x) (hy : Cents y) (h : x ≤ y) : toDecimalPlaces2 x ≤ y :=
  (toDecimalPlaces2_le_iff hx hy).2 (by linarith)

theorem toDecimalPlaces2_nonneg (hx : 0 ≤ x) : 0 ≤ toDecimalPlaces2 x := by
  refine not_lt.1 fun hneg => ?_
  have hlt := (toDecimalPlaces2_lt_iff hx ⟨0, by simp⟩).1 hneg
  linarith

/-- **What is rounded to some cents** is at most half a cent below them, and less than that above.
-/
theorem toDecimalPlaces2_eq_iff (hx : 0 ≤ x) (hy : Cents y) :
    toDecimalPlaces2 x = y ↔ -(1 / 200) ≤ x - y ∧ x - y < 1 / 200 := by
  obtain ⟨n, rfl⟩ := hy
  rw [toDecimalPlaces2, if_pos hx, div_left_inj' (by norm_num), Int.cast_inj, Int.floor_eq_iff]
  constructor <;> rintro ⟨hlow, hhigh⟩ <;> constructor <;> linarith

end Rounding

/-! ### The amounts of an order -/

/-- The total of a line, as `placeOrder` stores it. -/
def lineTotal (line : PricedLineInput) : Decimal :=
  toDecimalPlaces2 (line.unitPrice * (line.quantity : ℚ))

def appliedPromo (lines : List PricedLineInput) (lookup : Option PromoLookup) (now : ℤ) :
    Option ShopPromoCode :=
  lookup.bind fun found => found.promo.filter fun promo =>
    checkPromo (some promo) (orderSubtotal lines) found.storeUses now = none

/-- **What is expected of the amounts** of an order and its items. -/
structure AddsUp (lines : List PricedLineInput) (applied : Option ShopPromoCode)
    (pricing : PricingResult) : Prop where
  discount : 0 ≤ pricing.discount ∧ pricing.discount ≤ pricing.subtotal
  capped : ∀ promo ∈ applied, promo.type = .percent →
    ∀ cap ∈ promo.maxDiscount, pricing.discount ≤ cap
  total : pricing.total = pricing.subtotal - pricing.discount + pricing.deliveryFee ∧
    0 ≤ pricing.total
  cents : Cents pricing.subtotal ∧ Cents pricing.discount ∧ Cents pricing.deliveryFee ∧
    Cents pricing.total ∧ ∀ line ∈ lines, Cents (lineTotal line)
  subtotal : pricing.subtotal = (lines.map lineTotal).sum

def lineError (line : PricedLineInput) : Decimal :=
  line.unitPrice * (line.quantity : ℚ) - toDecimalPlaces2 (line.unitPrice * (line.quantity : ℚ))

/-- **Rounding does no harm**: what the lines lose together rounds to nothing, and a cap that is
rounded up is not reached by a discount. -/
structure RoundsOff (lines : List PricedLineInput) (applied : Option ShopPromoCode) : Prop where
  errors : -(1 / 200) ≤ (lines.map lineError).sum ∧ (lines.map lineError).sum < 1 / 200
  cap : ∀ promo ∈ applied, promo.type = .percent → ∀ cap ∈ promo.maxDiscount,
    cap < toDecimalPlaces2 cap →
      min (orderSubtotal lines * promo.value / 100) (orderSubtotal lines) <
        toDecimalPlaces2 cap - 1 / 200

section Amounts

variable {lines : List PricedLineInput} {settings : ShopSettings} {lookup : Option PromoLookup}
  {now : ℤ}

theorem priceOrder_discount : (priceOrder lines settings lookup now).discount =
    ((appliedPromo lines lookup now).map fun promo =>
      promoDiscount promo (orderSubtotal lines)).getD 0 := by
  rw [priceOrder, appliedPromo]
  cases lookup with
  | none => rfl
  | some found =>
    dsimp only [Option.bind_some]
    cases hpromo : found.promo with
    | none => rfl
    | some promo =>
      rw [Option.filter_some]
      cases hcheck : checkPromo (some promo) (orderSubtotal lines) found.storeUses now with
      | none => rfl
      | some reason => rfl

theorem orderSubtotal_nonneg (h : ∀ line ∈ lines, 0 ≤ line.unitPrice ∧ 0 < line.quantity) :
    0 ≤ (lines.map fun line => line.unitPrice * (line.quantity : ℚ)).sum ∧
      0 ≤ orderSubtotal lines := by
  have hsum : 0 ≤ (lines.map fun line => line.unitPrice * (line.quantity : ℚ)).sum := by
    refine List.sum_nonneg fun x hx => ?_
    obtain ⟨line, hline, rfl⟩ := List.mem_map.1 hx
    have hquantity : (0 : ℚ) ≤ line.quantity := by exact_mod_cast (h line hline).2.le
    exact mul_nonneg (h line hline).1 hquantity
  exact ⟨hsum, toDecimalPlaces2_nonneg hsum⟩

theorem promoDiscount_bounds {promo : ShopPromoCode}
    (hpromo : 0 ≤ promo.value ∧ ∀ cap ∈ promo.maxDiscount, 0 ≤ cap) {subtotal : Decimal}
    (hnonneg : 0 ≤ subtotal) (hcents : Cents subtotal) :
    0 ≤ promoDiscount promo subtotal ∧ promoDiscount promo subtotal ≤ subtotal := by
  have hpercent : 0 ≤ subtotal * promo.value / 100 :=
    div_nonneg (mul_nonneg hnonneg hpromo.1) (by norm_num)
  rw [promoDiscount]
  split
  · split
    · rename_i cap hcap
      have hraw := le_min (le_min hpercent (hpromo.2 cap hcap)) hnonneg
      exact ⟨toDecimalPlaces2_nonneg hraw, toDecimalPlaces2_le hraw hcents (min_le_right _ _)⟩
    · have hraw := le_min hpercent hnonneg
      exact ⟨toDecimalPlaces2_nonneg hraw, toDecimalPlaces2_le hraw hcents (min_le_right _ _)⟩
  · have hraw := le_min hpromo.1 hnonneg
    exact ⟨toDecimalPlaces2_nonneg hraw, toDecimalPlaces2_le hraw hcents (min_le_right _ _)⟩

/-- **A discount stays under its cap** unless the cap is rounded up, and the discount with it. -/
theorem discount_le_cap_iff {promo : ShopPromoCode} (hpercent : promo.type = .percent)
    (hvalue : 0 ≤ promo.value) {cap : Decimal} (hcap : promo.maxDiscount = some cap)
    (hnonneg : 0 ≤ cap) {subtotal : Decimal} (hsubtotal : 0 ≤ subtotal) :
    promoDiscount promo subtotal ≤ cap ↔
      (cap < toDecimalPlaces2 cap →
        min (subtotal * promo.value / 100) subtotal < toDecimalPlaces2 cap - 1 / 200) := by
  have hraw : 0 ≤ min (min (subtotal * promo.value / 100) cap) subtotal :=
    le_min (le_min (div_nonneg (mul_nonneg hsubtotal hvalue) (by norm_num)) hnonneg) hsubtotal
  have hdiscount : promoDiscount promo subtotal =
      toDecimalPlaces2 (min (min (subtotal * promo.value / 100) cap) subtotal) := by
    rw [promoDiscount, hpercent, hcap]
  have hcents := cents_toDecimalPlaces2 cap
  have hnear := (toDecimalPlaces2_eq_iff hnonneg hcents).1 rfl
  rw [hdiscount]
  by_cases hup : cap < toDecimalPlaces2 cap
  · -- what is under the cap is less than what the cap is rounded to
    rw [forall_prop_of_true hup]
    have hless : toDecimalPlaces2 (min (min (subtotal * promo.value / 100) cap) subtotal) ≤ cap ↔
        toDecimalPlaces2 (min (min (subtotal * promo.value / 100) cap) subtotal) <
          toDecimalPlaces2 cap := by
      refine ⟨fun h => h.trans_lt hup, fun h => ?_⟩
      have hgap := h
      obtain ⟨m, hm⟩ := cents_toDecimalPlaces2
        (min (min (subtotal * promo.value / 100) cap) subtotal)
      obtain ⟨n, hn⟩ := hcents
      rw [hm, hn, div_lt_div_iff_of_pos_right (by norm_num), Int.cast_lt, ← Int.add_one_le_iff,
        ← Int.cast_le (R := ℚ)] at hgap
      push_cast at hgap
      rw [hm]
      rw [hn] at hnear
      linarith
    rw [hless, toDecimalPlaces2_lt_iff hraw hcents, min_right_comm, min_lt_iff]
    exact or_iff_left (by linarith)
  · refine iff_of_true ?_ fun h => absurd h hup
    refine le_trans ((toDecimalPlaces2_le_iff hraw hcents).2 ?_) (not_lt.1 hup)
    calc min (min (subtotal * promo.value / 100) cap) subtotal
        ≤ cap := (min_le_left _ _).trans (min_le_right _ _)
      _ < toDecimalPlaces2 cap + 1 / 200 := by linarith

theorem priceOrder_deliveryFee (hfee : 0 ≤ settings.deliveryFee) :
    Cents (priceOrder lines settings lookup now).deliveryFee ∧
      0 ≤ (priceOrder lines settings lookup now).deliveryFee := by
  rw [priceOrder]
  dsimp only
  split
  · exact ⟨⟨0, by simp⟩, le_refl 0⟩
  · exact ⟨cents_toDecimalPlaces2 _, toDecimalPlaces2_nonneg hfee⟩

theorem subtotal_eq_sum_iff (h : ∀ line ∈ lines, 0 ≤ line.unitPrice ∧ 0 < line.quantity) :
    orderSubtotal lines = (lines.map lineTotal).sum ↔
      -(1 / 200) ≤ (lines.map lineError).sum ∧ (lines.map lineError).sum < 1 / 200 := by
  have herror : (lines.map lineError).sum =
      (lines.map fun line => line.unitPrice * (line.quantity : ℚ)).sum -
        (lines.map lineTotal).sum := by
    clear h
    induction lines with
    | nil => simp
    | cons line lines ih =>
      simp only [List.map_cons, List.sum_cons, ih]
      rw [lineError, lineTotal]
      ring
  have hcents : Cents (lines.map lineTotal).sum := by
    refine Cents.sum fun x hx => ?_
    obtain ⟨line, _, rfl⟩ := List.mem_map.1 hx
    exact cents_toDecimalPlaces2 _
  rw [orderSubtotal, toDecimalPlaces2_eq_iff (orderSubtotal_nonneg h).1 hcents, herror]

/-- **The amounts of an order add up** when rounding does no harm, and only then. -/
theorem addsUp_iff (hlines : ∀ line ∈ lines, 0 ≤ line.unitPrice ∧ 0 < line.quantity)
    (hfee : 0 ≤ settings.deliveryFee)
    (hpromo : ∀ promo ∈ lookup.bind PromoLookup.promo,
      0 ≤ promo.value ∧ ∀ cap ∈ promo.maxDiscount, 0 ≤ cap) :
    AddsUp lines (appliedPromo lines lookup now) (priceOrder lines settings lookup now) ↔
      RoundsOff lines (appliedPromo lines lookup now) := by
  have happlied : ∀ promo ∈ appliedPromo lines lookup now,
      0 ≤ promo.value ∧ ∀ cap ∈ promo.maxDiscount, 0 ≤ cap := by
    intro promo hin
    obtain ⟨found, hfound, hfilter⟩ := Option.bind_eq_some_iff.1 hin
    refine hpromo promo (Option.bind_eq_some_iff.2 ⟨found, hfound, ?_⟩)
    exact (Option.filter_eq_some_iff.1 hfilter).1
  have hnonneg := (orderSubtotal_nonneg hlines).2
  have hcents : Cents (orderSubtotal lines) := cents_toDecimalPlaces2 _
  -- a capped percentage stays under its cap exactly when the cap is not reached by rounding up
  have hcap : (∀ promo ∈ appliedPromo lines lookup now, promo.type = .percent →
      ∀ cap ∈ promo.maxDiscount, (priceOrder lines settings lookup now).discount ≤ cap) ↔
      ∀ promo ∈ appliedPromo lines lookup now, promo.type = .percent →
        ∀ cap ∈ promo.maxDiscount, cap < toDecimalPlaces2 cap →
          min (orderSubtotal lines * promo.value / 100) (orderSubtotal lines) <
            toDecimalPlaces2 cap - 1 / 200 := by
    refine forall_congr' fun promo => forall_congr' fun hin => forall_congr' fun hpercent =>
      forall_congr' fun cap => forall_congr' fun hmax => ?_
    rw [priceOrder_discount, hin]
    exact discount_le_cap_iff hpercent (happlied promo hin).1 hmax
      ((happlied promo hin).2 cap hmax) hnonneg
  constructor
  · intro h
    exact ⟨(subtotal_eq_sum_iff hlines).1 h.subtotal, hcap.1 h.capped⟩
  · intro h
    have hdiscount : 0 ≤ (priceOrder lines settings lookup now).discount ∧
        (priceOrder lines settings lookup now).discount ≤ orderSubtotal lines ∧
        Cents (priceOrder lines settings lookup now).discount := by
      rw [priceOrder_discount]
      cases hin : appliedPromo lines lookup now with
      | none => exact ⟨le_refl 0, hnonneg, 0, by simp⟩
      | some promo =>
        obtain ⟨hlow, hhigh⟩ := promoDiscount_bounds (happlied promo hin) hnonneg hcents
        exact ⟨hlow, hhigh, cents_toDecimalPlaces2 _⟩
    obtain ⟨hfeeCents, hfeeNonneg⟩ := @priceOrder_deliveryFee lines settings lookup now hfee
    have htotal : (priceOrder lines settings lookup now).total =
        orderSubtotal lines - (priceOrder lines settings lookup now).discount +
          (priceOrder lines settings lookup now).deliveryFee :=
      ((hcents.sub hdiscount.2.2).add hfeeCents).toDecimalPlaces2
    refine ⟨⟨hdiscount.1, hdiscount.2.1⟩, hcap.2 h.cap, ⟨htotal, ?_⟩,
      ⟨hcents, hdiscount.2.2, hfeeCents, ?_, fun _ _ => cents_toDecimalPlaces2 _⟩,
      (subtotal_eq_sum_iff hlines).2 h.errors⟩
    · rw [htotal]
      exact add_nonneg (sub_nonneg.2 hdiscount.2.1) hfeeNonneg
    · rw [htotal]
      exact (hcents.sub hdiscount.2.2).add hfeeCents

end Amounts

/-! ### The amounts that are stored -/

def storedLines (rows : List CartRow) : List PricedLineInput :=
  rows.map fun row => { unitPrice := row.unitPrice, quantity := row.item.quantity }

def CheckoutRequest.lookup (request : CheckoutRequest) (books : ShopBooks) : Option PromoLookup :=
  request.promoCode.map fun code => books.loadPromo code request.storeId

theorem checkout_pricing {db : ShopDb} {request : CheckoutRequest} {rows : List CartRow}
    {pricing : PricingResult} (h : db.checkout request = .ok (rows, pricing)) :
    rows = db.cartRows request.storeId ∧
      pricing = priceOrder (storedLines rows) request.settings (request.lookup db.toShopBooks)
        request.now := by
  rw [ShopDb.checkout] at h
  split at h
  · exact nomatch h
  split at h
  · exact nomatch h
  split at h
  · exact nomatch h
  rename_i hnone
  split at h
  · exact nomatch h
  obtain ⟨hrows, hpricing⟩ := Prod.mk.inj (Except.ok.inj h)
  have hall : (db.cartRows request.storeId).filter (fun row => (db.lineProblem row).isNone) =
      db.cartRows request.storeId := by
    refine List.filter_eq_self.2 fun row hrow => ?_
    simpa using List.findSome?_eq_none_iff.1 hnone row hrow
  refine ⟨hrows.symm, ?_⟩
  rw [← hpricing, hall, hrows]
  rfl

/-- Half off, and at most `1.005`. -/
def halfOff : ShopPromoCode :=
  { id := "half", code := "HALF", type := .percent, value := 50, maxDiscount := some 1.005 }

/-- A cart with one pair of something for `9.995`. -/
def pairCart : ShopDb where
  products _ := some { name := "Box", price := 9.995, stock := 5 }
  variants := []
  carts _ := [{ id := "line", productId := "box", quantity := 2, quantity_pos := pair_pos }]

end Zomaal.Shop
