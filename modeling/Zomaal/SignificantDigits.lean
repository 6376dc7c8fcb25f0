/-
**Decimal arithmetic with a number of significant digits.**

A decimal type that computes with `p` digits rounds each result to `p` digits, to the nearest number
that has so many, and away from zero where two are equally near.

Main results:

* `toSignificantDigits_mono` — **the rounding keeps the order**;
* `floor_toSignificantDigits` — **a fraction rounds within the integers it lies between**;
* `sumDigits_exact` — when a sum is exact.
-/

import Mathlib.Algebra.Order.Archimedean.Basic
import Mathlib.Data.Int.Log
import Mathlib.Tactic.Positivity

set_option autoImplicit false

namespace Zomaal

/-! ### The rounding -/

/-- What the last of `p` digits of a number counts. -/
def lastDigit (p : ℕ) (x : ℚ) : ℚ := 10 ^ (Int.log 10 |x| + 1 - p)

/-- A number rounded to `p` significant digits, half away from zero. -/
def toSignificantDigits (p : ℕ) (x : ℚ) : ℚ :=
  if x = 0 then 0
  else
    let size := ⌊|x| / lastDigit p x + 1 / 2⌋ * lastDigit p x
    if x < 0 then -size else size

/-- A number that `p` decimal digits and an exponent write. -/
def HasDigits (p : ℕ) (x : ℚ) : Prop :=
  ∃ (digits : ℕ) (e : ℤ), digits < 10 ^ p ∧ x = digits * 10 ^ e

section Rounding

variable {p : ℕ} {x y : ℚ}

@[simp] theorem toSignificantDigits_zero : toSignificantDigits p 0 = 0 := if_pos rfl

theorem toSignificantDigits_of_pos (hx : 0 < x) :
    toSignificantDigits p x = ⌊x / lastDigit p x + 1 / 2⌋ * lastDigit p x := by
  rw [toSignificantDigits, if_neg hx.ne', if_neg hx.le.not_gt, abs_of_pos hx]

theorem lastDigit_pos : 0 < lastDigit p x := by
  rw [lastDigit]
  exact zpow_pos (by norm_num) _

theorem lt_lastDigit_mul (hx : 0 < x) : x < 10 ^ p * lastDigit p x := by
  have hlt := Int.lt_zpow_succ_log_self (b := 10) (by norm_num) x
  rw [lastDigit, abs_of_pos hx, ← zpow_natCast, ← zpow_add₀ (by norm_num)]
  have hexp : (p : ℤ) + (Int.log 10 x + 1 - p) = Int.log 10 x + 1 := by ring
  rw [hexp]
  exact_mod_cast hlt

theorem lastDigit_mul_le (hx : 0 < x) : 10 ^ (p - 1 : ℤ) * lastDigit p x ≤ x := by
  have hle := Int.zpow_log_le_self (b := 10) (by norm_num) hx
  rw [lastDigit, abs_of_pos hx, ← zpow_add₀ (by norm_num)]
  have hexp : (p - 1 : ℤ) + (Int.log 10 x + 1 - p) = Int.log 10 x := by ring
  rw [hexp]
  exact_mod_cast hle

theorem toSignificantDigits_nonneg (hx : 0 ≤ x) : 0 ≤ toSignificantDigits p x := by
  rcases hx.eq_or_lt with rfl | hx
  · rw [toSignificantDigits_zero]
  · rw [toSignificantDigits_of_pos hx]
    have hlast := lastDigit_pos (p := p) (x := x)
    have hfloor : 0 ≤ ⌊x / lastDigit p x + 1 / 2⌋ := Int.floor_nonneg.2 (by positivity)
    have hcast : (0 : ℚ) ≤ ⌊x / lastDigit p x + 1 / 2⌋ := by exact_mod_cast hfloor
    positivity

theorem toSignificantDigits_exact (hx : HasDigits p x) : toSignificantDigits p x = x := by
  obtain ⟨digits, e, hdigits, rfl⟩ := hx
  rcases Nat.eq_zero_or_pos digits with rfl | hpos
  · rw [Nat.cast_zero, zero_mul, toSignificantDigits_zero]
  have hcast : (0 : ℚ) < digits := by exact_mod_cast hpos
  have hx : (0 : ℚ) < digits * 10 ^ e := mul_pos hcast (zpow_pos (by norm_num) _)
  have hlog : Int.log 10 ((digits : ℚ) * 10 ^ e) < p + e := by
    rw [← Int.lt_zpow_iff_log_lt (by norm_num) hx, zpow_add₀ (by norm_num), zpow_natCast]
    have hlt : (digits : ℚ) < 10 ^ p := by exact_mod_cast hdigits
    push_cast
    exact mul_lt_mul_of_pos_right hlt (zpow_pos (by norm_num) _)
  -- the last digit counts no more than the exponent says, so the number is a multiple of it
  obtain ⟨n, hn⟩ := Int.eq_ofNat_of_zero_le
    (a := e - (Int.log 10 ((digits : ℚ) * 10 ^ e) + 1 - p)) (by omega)
  have hdiv : (digits : ℚ) * 10 ^ e / lastDigit p (digits * 10 ^ e) =
      ((digits * 10 ^ n : ℕ) : ℤ) := by
    rw [lastDigit, abs_of_pos hx, mul_div_assoc, ← zpow_sub₀ (by norm_num), hn]
    push_cast
    rw [zpow_natCast]
  rw [toSignificantDigits_of_pos hx, hdiv, Int.floor_intCast_add]
  have hhalf : ⌊(1 / 2 : ℚ)⌋ = 0 := by norm_num
  rw [hhalf, add_zero, ← hdiv, div_mul_cancel₀ _ lastDigit_pos.ne']

theorem toSignificantDigits_le_zpow (hx : 0 < x) :
    toSignificantDigits p x ≤ 10 ^ (Int.log 10 x + 1) := by
  have hlt := (div_lt_iff₀ (lastDigit_pos (p := p) (x := x))).2 (lt_lastDigit_mul hx)
  have hfloor : ⌊x / lastDigit p x + 1 / 2⌋ ≤ 10 ^ p := by
    rw [← Int.lt_add_one_iff, Int.floor_lt]
    push_cast
    linarith
  have hcast : (⌊x / lastDigit p x + 1 / 2⌋ : ℚ) ≤ 10 ^ p := by exact_mod_cast hfloor
  have hpower : (10 : ℚ) ^ p * lastDigit p x = 10 ^ (Int.log 10 x + 1) := by
    rw [lastDigit, abs_of_pos hx, ← zpow_natCast, ← zpow_add₀ (by norm_num)]
    congr 1
    ring
  rw [toSignificantDigits_of_pos hx, ← hpower]
  exact mul_le_mul_of_nonneg_right hcast lastDigit_pos.le

theorem zpow_le_toSignificantDigits (hp : 0 < p) (hx : 0 < x) :
    10 ^ Int.log 10 x ≤ toSignificantDigits p x := by
  have hle := (le_div_iff₀ (lastDigit_pos (p := p) (x := x))).2 (lastDigit_mul_le hx)
  obtain ⟨n, rfl⟩ := Nat.exists_eq_succ_of_ne_zero hp.ne'
  have hexp : ((n.succ : ℕ) - 1 : ℤ) = (n : ℤ) := by push_cast; ring
  rw [hexp, zpow_natCast] at hle
  have hfloor : (10 : ℤ) ^ n ≤ ⌊x / lastDigit n.succ x + 1 / 2⌋ := by
    rw [Int.le_floor]
    push_cast
    linarith
  have hcast : (10 : ℚ) ^ n ≤ ⌊x / lastDigit n.succ x + 1 / 2⌋ := by exact_mod_cast hfloor
  have hpower : (10 : ℚ) ^ n * lastDigit n.succ x = 10 ^ Int.log 10 x := by
    rw [lastDigit, abs_of_pos hx, ← zpow_natCast, ← zpow_add₀ (by norm_num)]
    congr 1
    push_cast
    ring
  rw [toSignificantDigits_of_pos hx, ← hpower]
  exact mul_le_mul_of_nonneg_right hcast lastDigit_pos.le

theorem toSignificantDigits_pos (hp : 0 < p) (hx : 0 < x) : 0 < toSignificantDigits p x :=
  (zpow_pos (by norm_num) _).trans_le (zpow_le_toSignificantDigits hp hx)

/-- **The rounding keeps the order.** -/
theorem toSignificantDigits_mono (hp : 0 < p) (hx : 0 ≤ x) (hxy : x ≤ y) :
    toSignificantDigits p x ≤ toSignificantDigits p y := by
  rcases hx.eq_or_lt with rfl | hx
  · rw [toSignificantDigits_zero]
    exact toSignificantDigits_nonneg hxy
  have hy := hx.trans_le hxy
  rcases (Int.log_mono_right (b := 10) hx hxy).eq_or_lt with hlog | hlog
  · -- both are rounded at the same digit
    have hsame : lastDigit p x = lastDigit p y := by
      rw [lastDigit, lastDigit, abs_of_pos hx, abs_of_pos hy, hlog]
    have hfloor : ⌊x / lastDigit p x + 1 / 2⌋ ≤ ⌊y / lastDigit p x + 1 / 2⌋ := by
      refine Int.floor_le_floor ?_
      have hdiv := div_le_div_of_nonneg_right hxy (lastDigit_pos (p := p) (x := x)).le
      linarith
    rw [toSignificantDigits_of_pos hx, toSignificantDigits_of_pos hy, ← hsame]
    exact mul_le_mul_of_nonneg_right (by exact_mod_cast hfloor) lastDigit_pos.le
  · -- a power of ten lies between them
    calc toSignificantDigits p x ≤ 10 ^ (Int.log 10 x + 1) := toSignificantDigits_le_zpow hx
      _ ≤ 10 ^ Int.log 10 y := zpow_le_zpow_right₀ (by norm_num) hlog
      _ ≤ toSignificantDigits p y := zpow_le_toSignificantDigits hp hy

/-- **A fraction rounds within the integers it lies between**, strictly, when there are digits
enough for what is left to both of them. -/
theorem floor_toSignificantDigits {k : ℕ} (hp : 0 < p) (hx : 0 ≤ x)
    (hdigits : ((⌊x⌋ : ℚ) + 1) * 10 ^ k ≤ 10 ^ p)
    (hgap : Int.fract x = 0 ∨ 1 ≤ Int.fract x * 10 ^ k ∧ Int.fract x * 10 ^ k ≤ 10 ^ k - 1) :
    ⌊toSignificantDigits p x⌋ = ⌊x⌋ ∧ (toSignificantDigits p x = ⌊x⌋ ↔ Int.fract x = 0) := by
  obtain ⟨n, hn⟩ := Int.eq_ofNat_of_zero_le (Int.floor_nonneg.2 hx)
  have hten : (0 : ℚ) < 10 ^ k := by positivity
  have hx' : x = n + Int.fract x := by
    have hparts := Int.floor_add_fract x
    rw [hn] at hparts
    exact hparts.symm
  rw [hn] at hdigits ⊢
  push_cast at hdigits ⊢
  have hnat : (n + 1) * 10 ^ k ≤ 10 ^ p := by exact_mod_cast hdigits
  rcases hgap with hzero | ⟨hlow, hhigh⟩
  · have hkept : toSignificantDigits p x = n := by
      rw [hx', hzero, add_zero]
      refine toSignificantDigits_exact ⟨n, 0, ?_, by rw [zpow_zero, mul_one]⟩
      have hone : 1 ≤ 10 ^ k := Nat.one_le_pow _ _ (by norm_num)
      nlinarith
    rw [hkept]
    exact ⟨Int.floor_natCast n, fun _ => hzero, fun _ => rfl⟩
  · -- the two numbers next to the integers that are written with `k` more digits
    have hcancel : (10 : ℚ) ^ k * 10 ^ (-(k : ℤ)) = 1 := by
      rw [zpow_neg, zpow_natCast, mul_inv_cancel₀ hten.ne']
    have hinv : (0 : ℚ) < 10 ^ (-(k : ℤ)) := zpow_pos (by norm_num) _
    have htwo : 2 ≤ 10 ^ k := by
      have hcast : (2 : ℚ) ≤ (10 ^ k : ℕ) := by
        push_cast
        linarith
      exact_mod_cast hcast
    have hlower : toSignificantDigits p (n + 10 ^ (-(k : ℤ))) = n + 10 ^ (-(k : ℤ)) := by
      refine toSignificantDigits_exact ⟨n * 10 ^ k + 1, -k, by nlinarith, ?_⟩
      push_cast
      rw [add_mul, mul_assoc, hcancel, mul_one, one_mul]
    have hupper : toSignificantDigits p (n + 1 - 10 ^ (-(k : ℤ))) = n + 1 - 10 ^ (-(k : ℤ)) := by
      refine toSignificantDigits_exact ⟨(n + 1) * 10 ^ k - 1, -k,
        (Nat.sub_lt (by positivity) one_pos).trans_le hnat, ?_⟩
      rw [Nat.cast_sub (by nlinarith)]
      push_cast
      rw [sub_mul, mul_assoc, hcancel, mul_one, one_mul]
    have hfract : Int.fract x * 10 ^ k * 10 ^ (-(k : ℤ)) = Int.fract x := by
      rw [mul_assoc, hcancel, mul_one]
    have habove : (n : ℚ) + 10 ^ (-(k : ℤ)) ≤ x := by
      have hmul := mul_le_mul_of_nonneg_right hlow hinv.le
      rw [one_mul, hfract] at hmul
      linarith
    have hbelow : x ≤ n + 1 - 10 ^ (-(k : ℤ)) := by
      have hmul := mul_le_mul_of_nonneg_right hhigh hinv.le
      rw [hfract, sub_mul, hcancel, one_mul] at hmul
      linarith
    have hround_above := toSignificantDigits_mono hp (by positivity) habove
    have hround_below := toSignificantDigits_mono hp hx hbelow
    rw [hlower] at hround_above
    rw [hupper] at hround_below
    refine ⟨Int.floor_eq_iff.2 ⟨?_, ?_⟩, fun heq => ?_, fun hzero => ?_⟩
    · push_cast
      linarith
    · push_cast
      linarith
    · rw [heq] at hround_above
      linarith
    · rw [hzero, zero_mul] at hlow
      linarith

end Rounding

theorem fract_gap {x : ℚ} {a : ℤ} {b k : ℕ} (hb : 0 < b) (hbk : b ≤ 10 ^ k) (hx : x * b = a) :
    Int.fract x = 0 ∨ 1 ≤ Int.fract x * 10 ^ k ∧ Int.fract x * 10 ^ k ≤ 10 ^ k - 1 := by
  have hb' : (0 : ℚ) < b := by exact_mod_cast hb
  have hbk' : (b : ℚ) ≤ 10 ^ k := by exact_mod_cast hbk
  have hwhole : Int.fract x * b = ((a - ⌊x⌋ * b : ℤ) : ℚ) := by
    push_cast
    rw [← hx, Int.fract]
    ring
  rcases (Int.fract_nonneg x).eq_or_lt with hzero | hpos
  · exact .inl hzero.symm
  · refine .inr ⟨?_, ?_⟩
    · have hone : (1 : ℚ) ≤ Int.fract x * b := by
        have hgt : (0 : ℚ) < Int.fract x * b := mul_pos hpos hb'
        rw [hwhole] at hgt ⊢
        exact_mod_cast hgt
      exact hone.trans (mul_le_mul_of_nonneg_left hbk' hpos.le)
    · have hlt : Int.fract x * b ≤ b - 1 := by
        have hlt : Int.fract x * b < b := by
          have hmul := mul_lt_mul_of_pos_right (Int.fract_lt_one x) hb'
          rwa [one_mul] at hmul
        rw [hwhole] at hlt ⊢
        have hint : a - ⌊x⌋ * b < b := by exact_mod_cast hlt
        have hle : a - ⌊x⌋ * b ≤ b - 1 := by omega
        exact_mod_cast hle
      -- the rest to the next integer is `1 / b` at least
      have hrest : (1 : ℚ) ≤ (1 - Int.fract x) * b := by linarith
      have hmore := hrest.trans (mul_le_mul_of_nonneg_left hbk'
        (sub_nonneg.2 (Int.fract_lt_one x).le))
      linarith

/-! ### Sums -/

def sumDigits (p : ℕ) (values : List ℚ) : ℚ :=
  values.foldl (fun sum value => toSignificantDigits p (sum + value)) 0

/-- **A sum is exact** when its terms are written with one exponent and it has digits enough. -/
theorem sumDigits_exact {p : ℕ} {e : ℤ} {values : List ℚ}
    (hvalues : ∀ value ∈ values, ∃ n : ℕ, value = n * 10 ^ e)
    (hsum : values.sum < 10 ^ p * 10 ^ e) : sumDigits p values = values.sum := by
  have hfold : ∀ (values : List ℚ) (n : ℕ), (∀ value ∈ values, ∃ n : ℕ, value = n * 10 ^ e) →
      n * 10 ^ e + values.sum < 10 ^ p * 10 ^ e →
      values.foldl (fun sum value => toSignificantDigits p (sum + value)) (n * 10 ^ e) =
        n * 10 ^ e + values.sum := by
    intro values
    induction values with
    | nil =>
      intro n _ _
      rw [List.foldl_nil, List.sum_nil, add_zero]
    | cons value values ih =>
      intro n hvalues hsum
      obtain ⟨m, rfl⟩ := hvalues value (List.mem_cons_self ..)
      have hrest : 0 ≤ values.sum := List.sum_nonneg fun value hvalue => by
        obtain ⟨k, rfl⟩ := hvalues value (List.mem_cons_of_mem _ hvalue)
        exact mul_nonneg k.cast_nonneg (zpow_pos (by norm_num) _).le
      have hten : (0 : ℚ) < 10 ^ e := zpow_pos (by norm_num) _
      have hadd : (n : ℚ) * 10 ^ e + m * 10 ^ e = ((n + m : ℕ) : ℚ) * 10 ^ e := by
        push_cast
        ring
      rw [List.sum_cons] at hsum
      have hlt : n + m < 10 ^ p := by
        have hmul : ((n + m : ℕ) : ℚ) * 10 ^ e < 10 ^ p * 10 ^ e := by
          rw [← hadd]
          linarith
        exact_mod_cast lt_of_mul_lt_mul_right hmul hten.le
      rw [List.foldl_cons, hadd, toSignificantDigits_exact ⟨n + m, e, hlt, rfl⟩,
        ih (n + m) (fun value hvalue => hvalues value (List.mem_cons_of_mem _ hvalue)) (by
          rw [← hadd]
          linarith), ← hadd, List.sum_cons, add_assoc]
  have hzero := hfold values 0 hvalues (by rwa [Nat.cast_zero, zero_mul, zero_add])
  rwa [Nat.cast_zero, zero_mul, zero_add] at hzero

end Zomaal
