/-
**Amounts as a column stores them.**

Amounts are stored with four decimals, and rounded when they have more.

Main results:

* `toFixed4_toFixed4`, `toFixed4_toDecimalPlaces2` — what is stored as it is;
* `toFixed4_add`, `toFixed4_sum` — and sums of such amounts.
-/

import Mathlib.Tactic.Positivity
import Zomaal.ShopPricing

set_option autoImplicit false

namespace Zomaal

theorem toFixed4_tenThousandths (z : ℤ) : toFixed4 ((z : ℚ) / 10000) = (z : ℚ) / 10000 := by
  have hcancel : (z : ℚ) / 10000 * 10000 = z := by
    field_simp
  have hfloor : ⌊(z : ℚ) + 1 / 2⌋ = z := by
    rw [Int.floor_eq_iff]
    constructor <;> norm_num
  have hceil : ⌈(z : ℚ) - 1 / 2⌉ = z := by
    rw [Int.ceil_eq_iff]
    constructor <;> norm_num
  rw [toFixed4, hcancel, hfloor, hceil]
  split <;> rfl

variable {x : Decimal}

theorem exists_tenThousandths (h : toFixed4 x = x) : ∃ z : ℤ, x = (z : ℚ) / 10000 := by
  rw [toFixed4] at h
  split at h
  · exact ⟨_, h.symm⟩
  · exact ⟨_, h.symm⟩

theorem toFixed4_toFixed4 (x : Decimal) : toFixed4 (toFixed4 x) = toFixed4 x := by
  have hwhole : ∃ z : ℤ, toFixed4 x = (z : ℚ) / 10000 := by
    rw [toFixed4]
    split
    · exact ⟨_, rfl⟩
    · exact ⟨_, rfl⟩
  obtain ⟨z, hz⟩ := hwhole
  rw [hz]
  exact toFixed4_tenThousandths z

theorem toFixed4_toDecimalPlaces2 (x : Decimal) :
    toFixed4 (Shop.toDecimalPlaces2 x) = Shop.toDecimalPlaces2 x := by
  have hcents : ∃ z : ℤ, Shop.toDecimalPlaces2 x = (z : ℚ) / 100 := by
    rw [Shop.toDecimalPlaces2]
    split
    · exact ⟨_, rfl⟩
    · exact ⟨_, rfl⟩
  obtain ⟨z, hz⟩ := hcents
  have hscale : (z : ℚ) / 100 = ((z * 100 : ℤ) : ℚ) / 10000 := by
    push_cast
    ring
  rw [hz, hscale]
  exact toFixed4_tenThousandths _

theorem toFixed4_zero : toFixed4 0 = 0 := by
  simpa using toFixed4_tenThousandths 0

theorem toFixed4_neg_eq (x : Decimal) : toFixed4 (-x) = -toFixed4 x := by
  rcases lt_trichotomy x 0 with hneg | rfl | hpos
  · have hceil : ⌈x * 10000 - 1 / 2⌉ = -⌊-x * 10000 + 1 / 2⌋ := by
      rw [← Int.ceil_neg]
      congr 1
      ring
    rw [toFixed4, toFixed4, if_pos (neg_pos.2 hneg).le, if_neg (not_le.2 hneg), hceil]
    push_cast
    ring
  · rw [neg_zero, toFixed4_zero, neg_zero]
  · have hceil : ⌈-x * 10000 - 1 / 2⌉ = -⌊x * 10000 + 1 / 2⌋ := by
      rw [← Int.ceil_neg]
      congr 1
      ring
    rw [toFixed4, toFixed4, if_neg (not_le.2 (neg_lt_zero.2 hpos)), if_pos hpos.le, hceil]
    push_cast
    ring

theorem toFixed4_neg (hx : toFixed4 x = x) : toFixed4 (-x) = -x := by
  rw [toFixed4_neg_eq, hx]

theorem toFixed4_nonneg (h : 0 ≤ x) : 0 ≤ toFixed4 x := by
  rw [toFixed4, if_pos h]
  have hfloor : (0 : ℤ) ≤ ⌊x * 10000 + 1 / 2⌋ := Int.floor_nonneg.2 (by positivity)
  have hcast : (0 : ℚ) ≤ (⌊x * 10000 + 1 / 2⌋ : ℚ) := by exact_mod_cast hfloor
  positivity

theorem toFixed4_max_zero (x : Decimal) : toFixed4 (max x 0) = max (toFixed4 x) 0 := by
  rcases le_total x 0 with hle | hle
  · have hround : toFixed4 x ≤ 0 := by
      have hneg := toFixed4_nonneg (neg_nonneg.2 hle)
      rwa [toFixed4_neg_eq, neg_nonneg] at hneg
    rw [max_eq_right hle, max_eq_right hround, toFixed4_zero]
  · rw [max_eq_left hle, max_eq_left (toFixed4_nonneg hle)]

theorem toFixed4_add {y : Decimal} (hx : toFixed4 x = x) (hy : toFixed4 y = y) :
    toFixed4 (x + y) = x + y := by
  obtain ⟨a, rfl⟩ := exists_tenThousandths hx
  obtain ⟨b, rfl⟩ := exists_tenThousandths hy
  have hsum : (a : ℚ) / 10000 + (b : ℚ) / 10000 = ((a + b : ℤ) : ℚ) / 10000 := by
    push_cast
    ring
  rw [hsum]
  exact toFixed4_tenThousandths _

theorem toFixed4_mul_natCast (hx : toFixed4 x = x) (n : ℕ) : toFixed4 (x * n) = x * n := by
  obtain ⟨a, rfl⟩ := exists_tenThousandths hx
  have hproduct : (a : ℚ) / 10000 * (n : ℚ) = ((a * n : ℤ) : ℚ) / 10000 := by
    push_cast
    ring
  rw [hproduct]
  exact toFixed4_tenThousandths _

theorem toFixed4_sum {xs : List Decimal} (h : ∀ x ∈ xs, toFixed4 x = x) :
    toFixed4 xs.sum = xs.sum := by
  induction xs with
  | nil => exact toFixed4_zero
  | cons x xs ih =>
    rw [List.sum_cons]
    exact toFixed4_add (h x (List.mem_cons_self ..))
      (ih fun y hy => h y (List.mem_cons_of_mem _ hy))

end Zomaal
