/-
**What the items of an order of the shop cost.**

The amount paid for an order is shared out among its items in whole cents: each has its proportional
share rounded down, and the cents left over go to the items with the largest remainders, one each.
The decimals have sixty digits, so that only quotients are rounded, and too far from the next cent
to change what an item is due.

Main results:

* `Purchasing.costShare_spec` — **sixty digits tell shares from whole cents**;
* `Purchasing.shopCosts` — **amounts below the limit are shared out exactly**.
-/

import Mathlib.Algebra.BigOperators.Ring.Finset
import Mathlib.Algebra.Group.Action.Defs
import Zomaal.ShopDelivery
import Zomaal.SortedLists

set_option autoImplicit false

namespace Zomaal.Purchasing

open Shop (toDecimalPlaces2)

/-! ### What is due -/

def exactWeight (items : List ShopOrderItem) (item : ShopOrderItem) : ℚ :=
  if (items.map ShopOrderItem.lineTotal).sum = 0 then (item.quantity : ℚ) else item.lineTotal

def exactShare (items : List ShopOrderItem) (amount : ℚ) (item : ShopOrderItem) : ℚ :=
  amount * exactWeight items item / (items.map (exactWeight items)).sum

/-- **An allocation without a cent lost or invented**: whole cents that add up to the rounded total,
each less than a cent from its share; an item that costs nothing has nothing, unless none costs
anything. -/
structure SharedExactly (items : List ShopOrderItem) (total : Decimal)
    (costs : List (String × Decimal)) : Prop where
  each : (costs.map Prod.fst).Perm (items.map ShopOrderItem.id)
  cents : ∀ cost ∈ costs, ∃ n : ℕ, cost.2 = n / 100
  sum : (costs.map Prod.snd).sum = toDecimalPlaces2 total
  near : ∀ item ∈ items,
    |costOf costs item.id - exactShare items (toDecimalPlaces2 total) item| < 1 / 100
  free : (∃ item ∈ items, item.lineTotal ≠ 0) →
    ∀ item ∈ items, item.lineTotal = 0 → costOf costs item.id = 0

/-- An item as its row holds it: the line total with four decimals below 10¹⁶, the quantity in 32
bits. -/
structure ShopOrderItem.Stored (item : ShopOrderItem) : Prop where
  lineTotal : ∃ n : ℕ, n < 10 ^ 20 ∧ item.lineTotal = n / 10000
  quantity : item.quantity < 2 ^ 31

/-! ### The cents left over -/

section ToppedUp

variable (left : ℕ)

/-- The cents of a share in a row, where the first `left` rows have one more. -/
def toppedUp (share : CostShare) (row : ℕ) : ℤ :=
  if row < left then share.cents + 1 else share.cents

theorem sum_toppedUp (shares : List CostShare) (start : ℕ) :
    ((shares.zipIdx start).map fun row => toppedUp left row.1 row.2).sum =
      (shares.map CostShare.cents).sum + min (left - start : ℕ) shares.length := by
  induction shares generalizing start with
  | nil => simp
  | cons share shares ih =>
    rw [List.zipIdx_cons, List.map_cons, List.sum_cons, ih (start + 1), List.map_cons,
      List.sum_cons, List.length_cons, toppedUp]
    dsimp only
    split <;> omega

theorem remainder_pos_of_lt {shares : List CostShare}
    (hsorted : shares.Pairwise fun a b => b.remainder ≤ a.remainder) {i : ℕ} {share : CostShare}
    (hget : shares[i]? = some share)
    (hi : i < shares.countP fun share => 0 < share.remainder) : 0 < share.remainder := by
  induction shares generalizing i with
  | nil => cases hget
  | cons first shares ih =>
    obtain ⟨hfirst, hsorted⟩ := List.pairwise_cons.1 hsorted
    by_cases hpos : 0 < first.remainder
    · cases i with
      | zero =>
        obtain rfl : first = share := Option.some.inj hget
        exact hpos
      | succ i =>
        rw [List.countP_cons_of_pos (by rwa [decide_eq_true_eq])] at hi
        exact ih hsorted hget (by omega)
    · -- then no remainder is positive
      exfalso
      have hnone : (first :: shares).countP (fun share => 0 < share.remainder) = 0 := by
        rw [List.countP_eq_zero]
        intro other hother
        rw [decide_eq_true_eq]
        rcases List.mem_cons.1 hother with rfl | hother
        · exact hpos
        · exact fun h => hpos (h.trans_le (hfirst other hother))
      omega

end ToppedUp

/-! ### The weights -/

section Weights

variable {items : List ShopOrderItem}

theorem sumDigits_stored {e : ℤ} {weight : ShopOrderItem → ℚ} {numerator : ShopOrderItem → ℕ}
    (hlength : items.length < 2 ^ 32)
    (hweight : ∀ item ∈ items, numerator item < 10 ^ 20 ∧ weight item = numerator item * 10 ^ e) :
    sumDigits 60 (items.map weight) = (items.map weight).sum ∧
      (items.map weight).sum = ((items.map numerator).sum : ℕ) * 10 ^ e ∧
      (items.map numerator).sum ≤ 10 ^ 30 := by
  have hsum : (items.map weight).sum = ((items.map numerator).sum : ℕ) * 10 ^ e := by
    rw [List.map_congr_left fun item hitem => (hweight item hitem).2, List.sum_map_mul_right,
      Nat.cast_list_sum, List.map_map]
    rfl
  have hbound : (items.map numerator).sum ≤ 10 ^ 30 := by
    have hle := List.sum_le_card_nsmul (items.map numerator) (10 ^ 20) fun n hn => by
      obtain ⟨item, hitem, rfl⟩ := List.mem_map.1 hn
      exact (hweight item hitem).1.le
    rw [List.length_map, smul_eq_mul] at hle
    have hlen : items.length * 10 ^ 20 ≤ 2 ^ 32 * 10 ^ 20 := Nat.mul_le_mul_right _ hlength.le
    exact hle.trans (hlen.trans (by norm_num))
  refine ⟨sumDigits_exact (e := e) ?_ ?_, hsum, hbound⟩
  · intro value hvalue
    obtain ⟨item, hitem, rfl⟩ := List.mem_map.1 hvalue
    exact ⟨numerator item, (hweight item hitem).2⟩
  · rw [hsum]
    refine mul_lt_mul_of_pos_right ?_ (zpow_pos (by norm_num) _)
    have hlt : (items.map numerator).sum < 10 ^ 60 := hbound.trans_lt (by norm_num)
    exact_mod_cast hlt

theorem lineTotal_eq {item : ShopOrderItem} (hstored : item.Stored) :
    ⌊item.lineTotal * 10000⌋₊ < 10 ^ 20 ∧
      item.lineTotal = ⌊item.lineTotal * 10000⌋₊ * (10 : ℚ) ^ (-4 : ℤ) := by
  obtain ⟨n, hn, hline⟩ := hstored.lineTotal
  have hfloor : ⌊item.lineTotal * 10000⌋₊ = n := by
    rw [hline, div_mul_cancel₀ _ (by norm_num), Nat.floor_natCast]
  rw [hfloor]
  exact ⟨hn, by rw [hline, div_eq_mul_inv]; norm_num⟩

theorem quantity_eq {item : ShopOrderItem} (hstored : item.Stored) :
    item.quantity.toNat < 10 ^ 20 ∧
      (item.quantity : ℚ) = item.quantity.toNat * (10 : ℚ) ^ (0 : ℤ) := by
  have hlt := hstored.quantity
  have hpos := item.quantity_pos
  refine ⟨by omega, ?_⟩
  rw [zpow_zero, mul_one]
  exact_mod_cast (Int.toNat_of_nonneg hpos.le).symm

theorem costWeight_eq (hstored : ∀ item ∈ items, item.Stored) (hlength : items.length < 2 ^ 32) :
    costWeight items = exactWeight items := by
  funext item
  rw [costWeight, exactWeight, (sumDigits_stored hlength fun item hitem =>
    lineTotal_eq (hstored item hitem)).1]

theorem exactWeights (hne : items ≠ []) (hstored : ∀ item ∈ items, item.Stored) :
    ∃ (e : ℤ) (numerator : ShopOrderItem → ℕ),
      (∀ item ∈ items, numerator item < 10 ^ 20 ∧
        exactWeight items item = numerator item * 10 ^ e) ∧
      0 < (items.map numerator).sum := by
  by_cases hfree : (items.map ShopOrderItem.lineTotal).sum = 0
  · refine ⟨0, fun item => item.quantity.toNat, fun item hitem => ?_, ?_⟩
    · rw [exactWeight, if_pos hfree]
      exact quantity_eq (hstored item hitem)
    · refine List.sum_pos _ (fun n hn => ?_) (by simpa using hne)
      obtain ⟨item, -, rfl⟩ := List.mem_map.1 hn
      have hpos := item.quantity_pos
      omega
  · refine ⟨-4, fun item => ⌊item.lineTotal * 10000⌋₊, fun item hitem => ?_, ?_⟩
    · rw [exactWeight, if_neg hfree]
      exact lineTotal_eq (hstored item hitem)
    · refine Nat.pos_of_ne_zero fun hzero => hfree ?_
      refine List.sum_eq_zero fun value hvalue => ?_
      obtain ⟨item, hitem, rfl⟩ := List.mem_map.1 hvalue
      rw [(lineTotal_eq (hstored item hitem)).2,
        List.sum_eq_zero_iff.1 hzero _ (List.mem_map_of_mem hitem), Nat.cast_zero, zero_mul]

end Weights

/-! ### The shares -/

theorem costShare_spec {c n total : ℕ} {e : ℤ} (hc : c ≤ 10 ^ 18) (hn : n < 10 ^ 20)
    (hle : n ≤ total) (hpos : 0 < total) (htotal : total ≤ 10 ^ 30) (id : String) :
    (costShare c (n * 10 ^ e) (total * 10 ^ e) id).cents = ⌊(c * n / total : ℚ)⌋ ∧
      0 ≤ (costShare c (n * 10 ^ e) (total * 10 ^ e) id).remainder ∧
      (0 < (costShare c (n * 10 ^ e) (total * 10 ^ e) id).remainder ↔
        0 < Int.fract (c * n / total : ℚ)) := by
  have hten : (10 : ℚ) ^ e ≠ 0 := (zpow_pos (by norm_num) _).ne'
  have htotal' : (0 : ℚ) < total := by exact_mod_cast hpos
  have hproduct : precise (c * (n * 10 ^ e)) = c * n * 10 ^ e := by
    rw [← mul_assoc]
    refine toSignificantDigits_exact ⟨c * n, e, ?_, by push_cast; ring⟩
    calc c * n ≤ 10 ^ 18 * 10 ^ 20 := Nat.mul_le_mul hc hn.le
      _ < 10 ^ 60 := by norm_num
  have hquotient : (c * n * 10 ^ e / (total * 10 ^ e) : ℚ) = c * n / total :=
    mul_div_mul_right _ _ hten
  have hshare : (0 : ℚ) ≤ c * n / total := by positivity
  have hmost : (c * n / total : ℚ) ≤ 10 ^ 18 := by
    rw [div_le_iff₀ htotal']
    have hmul : c * n ≤ 10 ^ 18 * total := Nat.mul_le_mul hc hle
    exact_mod_cast hmul
  have hfloor := floor_toSignificantDigits (p := 60) (k := 30) (by norm_num) hshare (by
    have hle := Int.floor_le (c * n / total : ℚ)
    norm_num at hmost ⊢
    linarith)
    (fract_gap hpos htotal (a := (c * n : ℕ)) (by
      rw [div_mul_cancel₀ _ htotal'.ne']
      push_cast
      rfl))
  obtain ⟨hcents, hwhole⟩ := hfloor
  have hrounded : precise (precise (c * (n * 10 ^ e)) / (total * 10 ^ e)) =
      toSignificantDigits 60 (c * n / total) := by
    rw [hproduct, hquotient, precise]
  rw [costShare, hrounded, hcents]
  have hrest : (0 : ℚ) ≤ toSignificantDigits 60 (c * n / total) - ⌊(c * n / total : ℚ)⌋ := by
    rw [← hcents]
    exact sub_nonneg.2 (Int.floor_le _)
  refine ⟨rfl, toSignificantDigits_nonneg hrest, fun hremainder => ?_, fun hfract => ?_⟩
  · refine (Int.fract_nonneg _).lt_of_ne' fun hzero => ?_
    dsimp only at hremainder
    rw [hwhole.2 hzero, sub_self, precise, toSignificantDigits_zero] at hremainder
    exact hremainder.false
  · refine toSignificantDigits_pos (by norm_num) (hrest.lt_of_ne' fun hzero => ?_)
    exact hfract.ne' (hwhole.1 (sub_eq_zero.1 hzero))

section Shares

variable {items : List ShopOrderItem} {c : ℕ}

theorem exactWeight_sum_ne (hne : items ≠ []) (hstored : ∀ item ∈ items, item.Stored)
    (hlength : items.length < 2 ^ 32) : (items.map (exactWeight items)).sum ≠ 0 := by
  obtain ⟨e, numerator, hweight, hpos⟩ := exactWeights hne hstored
  rw [(sumDigits_stored hlength hweight).2.1]
  exact mul_ne_zero (by exact_mod_cast hpos.ne') (zpow_pos (by norm_num) _).ne'

theorem sum_exactShare (hsum : (items.map (exactWeight items)).sum ≠ 0) (amount : ℚ) :
    (items.map (exactShare items amount)).sum = amount := by
  have hscale : items.map (exactShare items amount) = items.map fun item =>
      exactWeight items item * (amount / (items.map (exactWeight items)).sum) :=
    List.map_congr_left fun item _ => by
      rw [exactShare, mul_comm amount, mul_div_assoc]
  rw [hscale, List.sum_map_mul_right, mul_div_cancel₀ _ hsum]

theorem costShares_spec (hne : items ≠ []) (hstored : ∀ item ∈ items, item.Stored)
    (hlength : items.length < 2 ^ 32) (hc : c ≤ 10 ^ 18) :
    ∃ share : ShopOrderItem → CostShare, costShares items c = items.map share ∧
      ∀ item ∈ items, (share item).id = item.id ∧
        (share item).cents = ⌊exactShare items c item⌋ ∧
        0 ≤ (share item).remainder ∧
        (0 < (share item).remainder ↔ 0 < Int.fract (exactShare items c item)) ∧
        0 ≤ exactShare items c item := by
  obtain ⟨e, numerator, hweight, hpos⟩ := exactWeights hne hstored
  obtain ⟨hexact, hsum, htotal⟩ := sumDigits_stored hlength hweight
  refine ⟨fun item => costShare c (costWeight items item)
    (sumDigits 60 (items.map (costWeight items))) item.id, rfl, fun item hitem => ?_⟩
  obtain ⟨hn, hw⟩ := hweight item hitem
  have hle : numerator item ≤ (items.map numerator).sum :=
    List.single_le_sum (fun _ _ => Nat.zero_le _) _ (List.mem_map_of_mem hitem)
  obtain ⟨hcents, hremainder, hfract⟩ := costShare_spec (e := e) hc hn hle hpos htotal item.id
  have hshare : exactShare items c item =
      c * numerator item / ((items.map numerator).sum : ℕ) := by
    rw [exactShare, hsum, hw, ← mul_assoc,
      mul_div_mul_right _ _ (zpow_pos (by norm_num : (0 : ℚ) < 10) e).ne']
  rw [costWeight_eq hstored hlength, hexact, hsum, hshare]
  dsimp only
  rw [hw]
  exact ⟨rfl, hcents, hremainder, hfract, by positivity⟩

theorem sum_fract_le (values : List ℚ) :
    (values.map Int.fract).sum ≤ values.countP fun value => 0 < Int.fract value := by
  induction values with
  | nil => simp
  | cons value values ih =>
    rw [List.map_cons, List.sum_cons]
    by_cases hpos : 0 < Int.fract value
    · rw [List.countP_cons_of_pos (by rwa [decide_eq_true_eq])]
      have hlt := Int.fract_lt_one value
      push_cast
      linarith
    · rw [List.countP_cons_of_neg (by rwa [decide_eq_true_eq])]
      linarith

theorem left_spec (hne : items ≠ []) (hstored : ∀ item ∈ items, item.Stored)
    (hlength : items.length < 2 ^ 32) (hc : c ≤ 10 ^ 18) :
    ∃ left : ℕ, precise (c - sumDigits 60 ((costShares items c).map fun share =>
        (share.cents : ℚ))) = left ∧
      ((costShares items c).map CostShare.cents).sum + left = c ∧
      left ≤ (costShares items c).countP fun share => 0 < share.remainder := by
  obtain ⟨share, hshares, hspec⟩ := costShares_spec hne hstored hlength hc
  have hsum := sum_exactShare (exactWeight_sum_ne hne hstored hlength) c
  have hfract : 0 ≤ ((items.map (exactShare items c)).map Int.fract).sum ∧
      ((items.map (exactShare items c)).map Int.fract).sum ≤
        ((costShares items c).countP fun share => 0 < share.remainder : ℕ) := by
    refine ⟨List.sum_nonneg fun value hvalue => ?_, (sum_fract_le _).trans_eq ?_⟩
    · obtain ⟨value, -, rfl⟩ := List.mem_map.1 hvalue
      exact Int.fract_nonneg _
    · rw [hshares, List.countP_map, List.countP_map]
      refine congrArg Nat.cast (List.countP_congr fun item hitem => ?_)
      obtain ⟨-, -, -, hpos, -⟩ := hspec item hitem
      simp only [Function.comp_apply, decide_eq_true_eq, hpos]
  have hcents : ((costShares items c).map CostShare.cents).sum =
      (items.map fun item => ⌊exactShare items c item⌋).sum := by
    rw [hshares, List.map_map]
    exact congrArg List.sum (List.map_congr_left fun item hitem => (hspec item hitem).2.1)
  have hparts : (((costShares items c).map CostShare.cents).sum : ℚ) +
      ((items.map (exactShare items c)).map Int.fract).sum = c := by
    rw [hcents, Int.cast_list_sum, List.map_map, List.map_map, ← List.sum_map_add]
    refine Eq.trans (congrArg List.sum (List.map_congr_left fun item _ => ?_)) hsum
    exact Int.floor_add_fract _
  have hnonneg : 0 ≤ ((costShares items c).map CostShare.cents).sum := by
    rw [hcents]
    refine List.sum_nonneg fun cents hcents => ?_
    obtain ⟨item, hitem, rfl⟩ := List.mem_map.1 hcents
    exact Int.floor_nonneg.2 (hspec item hitem).2.2.2.2
  have hmost : ((costShares items c).map CostShare.cents).sum ≤ c := by
    have hle : (((costShares items c).map CostShare.cents).sum : ℚ) ≤ c := by linarith
    exact_mod_cast hle
  obtain ⟨left, hleft⟩ := Int.eq_ofNat_of_zero_le (sub_nonneg.2 hmost)
  have hleft' : (left : ℚ) = c - ((costShares items c).map CostShare.cents).sum := by
    exact_mod_cast hleft.symm
  have hexact : sumDigits 60 ((costShares items c).map fun share => (share.cents : ℚ)) =
      ((costShares items c).map CostShare.cents).sum := by
    have hcast : ((costShares items c).map fun share => (share.cents : ℚ)).sum =
        ((costShares items c).map CostShare.cents).sum := by
      rw [Int.cast_list_sum, List.map_map]
      rfl
    rw [← hcast]
    refine sumDigits_exact (e := 0) (fun value hvalue => ?_) ?_
    · obtain ⟨row, hrow, rfl⟩ := List.mem_map.1 hvalue
      rw [hshares] at hrow
      obtain ⟨item, hitem, rfl⟩ := List.mem_map.1 hrow
      obtain ⟨n, hn⟩ := Int.eq_ofNat_of_zero_le (Int.floor_nonneg.2 (hspec item hitem).2.2.2.2)
      exact ⟨n, by rw [(hspec item hitem).2.1, hn, zpow_zero, mul_one]; rfl⟩
    · rw [hcast, zpow_zero, mul_one]
      have hlt : ((costShares items c).map CostShare.cents).sum < 10 ^ 60 := by omega
      exact_mod_cast hlt
  refine ⟨left, ?_, by omega, ?_⟩
  · rw [hexact, ← hleft']
    refine toSignificantDigits_exact ⟨left, 0, ?_, by rw [zpow_zero, mul_one]⟩
    omega
  · have hle : (left : ℚ) ≤
        ((costShares items c).countP fun share => 0 < share.remainder : ℕ) := by
      linarith [hfract.2]
    exact_mod_cast hle

end Shares

/-! ### The order of the shares -/

section Order

variable {localeCompare : String → String → Ordering}

theorem CostShare.before_iff {a b : CostShare} : a.before localeCompare b = true ↔
    b.remainder < a.remainder ∨
      a.remainder = b.remainder ∧ (localeCompare a.id b.id).isLE = true := by
  rw [CostShare.before, decide_eq_true_eq]

theorem CostShare.remainder_antitone {a b : CostShare} (h : a.before localeCompare b) :
    b.remainder ≤ a.remainder := by
  rcases CostShare.before_iff.1 h with hlt | ⟨heq, -⟩
  · exact hlt.le
  · exact heq.ge

variable [Std.TransCmp localeCompare]

theorem CostShare.before_trans (a b c : CostShare) (hab : a.before localeCompare b)
    (hbc : b.before localeCompare c) : a.before localeCompare c := by
  rw [CostShare.before_iff] at hab hbc ⊢
  rcases hab with hab | ⟨hab, hid⟩
  · rcases hbc with hbc | ⟨hbc, -⟩
    · exact .inl (hbc.trans hab)
    · exact .inl (hbc ▸ hab)
  · rcases hbc with hbc | ⟨hbc, hid'⟩
    · exact .inl (hab ▸ hbc)
    · exact .inr ⟨hab.trans hbc, Std.TransCmp.isLE_trans hid hid'⟩

theorem CostShare.before_total (a b : CostShare) :
    (a.before localeCompare b || b.before localeCompare a) = true := by
  rw [Bool.or_eq_true, CostShare.before_iff, CostShare.before_iff]
  rcases lt_trichotomy a.remainder b.remainder with hlt | heq | hlt
  · exact .inr (.inl hlt)
  · cases hid : localeCompare a.id b.id with
    | lt => exact .inl (.inr ⟨heq, rfl⟩)
    | eq => exact .inl (.inr ⟨heq, rfl⟩)
    | gt =>
      refine .inr (.inr ⟨heq.symm, ?_⟩)
      rw [Std.OrientedCmp.lt_of_gt hid]
      rfl
  · exact .inl (.inl hlt)

theorem mergeSort_before_perm {shares shares' : List CostShare} (hperm : shares.Perm shares')
    (hnodup : (shares.map CostShare.id).Nodup)
    (hids : ∀ a ∈ shares, ∀ b ∈ shares, localeCompare a.id b.id = .eq → a.id = b.id) :
    shares.mergeSort (CostShare.before localeCompare) =
      shares'.mergeSort (CostShare.before localeCompare) := by
  refine mergeSort_eq_of_perm CostShare.before_trans CostShare.before_total hperm
    fun a ha b hb hab hba => ?_
  have hid : localeCompare a.id b.id = .eq := by
    rcases CostShare.before_iff.1 hab with hlt | ⟨heq, hle⟩
    · exact absurd hlt (CostShare.remainder_antitone hba).not_gt
    · rcases CostShare.before_iff.1 hba with hlt | ⟨-, hle'⟩
      · exact absurd heq hlt.ne
      · exact Std.OrientedCmp.isLE_antisymm hle hle'
  exact List.inj_on_of_nodup_map hnodup ha hb (hids a ha b hb hid)

end Order

/-! ### The allocation -/

section Allocation

variable {items : List ShopOrderItem}

theorem cents_eq {total : Decimal} (hnonneg : 0 ≤ total) (hmax : total < 10000000000000000) :
    ∃ c : ℕ, c ≤ 10 ^ 18 ∧ toDecimalPlaces2 total = c / 100 ∧
      precise (toDecimalPlaces2 total * 100) = c := by
  obtain ⟨c, hc⟩ := Int.eq_ofNat_of_zero_le
    (Int.floor_nonneg.2 (by positivity : (0 : ℚ) ≤ total * 100 + 1 / 2))
  have hmost : c ≤ 10 ^ 18 := by
    have hlt : ⌊total * 100 + 1 / 2⌋ < 10 ^ 18 + 1 := by
      rw [Int.floor_lt]
      push_cast
      linarith
    omega
  have hround : toDecimalPlaces2 total = c / 100 := by
    rw [toDecimalPlaces2, if_pos hnonneg, hc]
    rfl
  refine ⟨c, hmost, hround, ?_⟩
  rw [hround, div_mul_cancel₀ _ (by norm_num)]
  exact toSignificantDigits_exact ⟨c, 0, hmost.trans_lt (by norm_num), by rw [zpow_zero, mul_one]⟩

theorem cost_eq {share : CostShare} {left row : ℕ} (hnonneg : 0 ≤ share.cents)
    (hmost : share.cents ≤ 10 ^ 18) :
    share.cost left row = (toppedUp left share row : ℤ) / 100 := by
  obtain ⟨n, hn⟩ := Int.eq_ofNat_of_zero_le hnonneg
  have hten : ∀ m : ℕ, m ≤ 10 ^ 18 + 1 → precise ((m : ℚ) / 100) = m / 100 := fun m hm =>
    toSignificantDigits_exact ⟨m, -2, hm.trans_lt (by norm_num), by rw [div_eq_mul_inv]; norm_num⟩
  have hplus : precise ((n : ℚ) + 1) = ((n + 1 : ℕ) : ℚ) := by
    rw [← Nat.cast_add_one]
    exact toSignificantDigits_exact ⟨n + 1, 0, by omega, by rw [zpow_zero, mul_one]⟩
  rw [CostShare.cost, toppedUp, hn]
  by_cases hrow : row < left
  · rw [if_pos (by exact_mod_cast hrow), if_pos hrow]
    push_cast
    rw [hplus, hten (n + 1) (by omega)]
    push_cast
    rfl
  · rw [if_neg (by exact_mod_cast hrow), if_neg hrow]
    push_cast
    exact hten n (by omega)

theorem costOf_of_mem {costs : List (String × Decimal)} (hnodup : (costs.map Prod.fst).Nodup)
    {cost : String × Decimal} (hcost : cost ∈ costs) : costOf costs cost.1 = cost.2 := by
  have hlookup := KeyedRows.lookup_of_mem Prod.fst hnodup hcost
  rw [KeyedRows.lookup] at hlookup
  rw [costOf, hlookup]
  rfl

/-- Shares of the items in some order, the largest remainders first, and the cents left over. -/
structure Allotment (items : List ShopOrderItem) (c left : ℕ) (share : ShopOrderItem → CostShare)
    (ordered : List CostShare) : Prop where
  id : ∀ item ∈ items, (share item).id = item.id
  cents : ∀ item ∈ items, (share item).cents = ⌊exactShare items c item⌋
  fract : ∀ item ∈ items, 0 < (share item).remainder → 0 < Int.fract (exactShare items c item)
  nonneg : ∀ item ∈ items, 0 ≤ exactShare items c item
  sum : (items.map (exactShare items c)).sum = c
  bound : c ≤ 10 ^ 18
  perm : ordered.Perm (items.map share)
  sorted : ordered.Pairwise fun a b => b.remainder ≤ a.remainder
  all : (ordered.map CostShare.cents).sum + left = c
  cut : left ≤ ordered.countP fun share => 0 < share.remainder

def allotted (left : ℕ) (ordered : List CostShare) : List (String × Decimal) :=
  ordered.zipIdx.map fun row => (row.1.id, row.1.cost left row.2)

namespace Allotment

variable {c left : ℕ} {share : ShopOrderItem → CostShare} {ordered : List CostShare}

theorem bounds (h : Allotment items c left share ordered) {item : ShopOrderItem}
    (hitem : item ∈ items) : 0 ≤ (share item).cents ∧ (share item).cents ≤ 10 ^ 18 := by
  rw [h.cents item hitem]
  refine ⟨Int.floor_nonneg.2 (h.nonneg item hitem), ?_⟩
  have hle : exactShare items c item ≤ c := by
    have hsingle := List.single_le_sum (l := items.map (exactShare items c)) (fun value hvalue => by
      obtain ⟨other, hother, rfl⟩ := List.mem_map.1 hvalue
      exact h.nonneg other hother) _ (List.mem_map_of_mem hitem)
    exact hsingle.trans_eq h.sum
  have hfloor := (Int.floor_le _).trans hle
  have hint : ⌊exactShare items c item⌋ ≤ c := by exact_mod_cast hfloor
  have hbound := h.bound
  omega

theorem mem_row (h : Allotment items c left share ordered) {row : CostShare × ℕ}
    (hrow : row ∈ ordered.zipIdx) : ∃ item ∈ items, share item = row.1 := by
  have hmem := h.perm.mem_iff.1 (List.mem_of_getElem? (List.mem_zipIdx_iff_getElem?.1 hrow))
  exact List.mem_map.1 hmem

theorem cost_row (h : Allotment items c left share ordered) {row : CostShare × ℕ}
    (hrow : row ∈ ordered.zipIdx) :
    row.1.cost left row.2 = (toppedUp left row.1 row.2 : ℤ) / 100 := by
  obtain ⟨item, hitem, heq⟩ := h.mem_row hrow
  rw [← heq]
  exact cost_eq (h.bounds hitem).1 (h.bounds hitem).2

theorem each (h : Allotment items c left share ordered) :
    ((allotted left ordered).map Prod.fst).Perm (items.map ShopOrderItem.id) := by
  have hids : (allotted left ordered).map Prod.fst =
      (ordered.zipIdx.map Prod.fst).map CostShare.id := by
    rw [allotted, List.map_map, List.map_map]
    rfl
  rw [hids, List.zipIdx_map_fst]
  refine (h.perm.map _).trans (List.Perm.of_eq ?_)
  rw [List.map_map]
  exact List.map_congr_left h.id

theorem costOf_item (h : Allotment items c left share ordered)
    (hnodup : (items.map ShopOrderItem.id).Nodup) {item : ShopOrderItem} (hitem : item ∈ items) :
    ∃ row, costOf (allotted left ordered) item.id = (toppedUp left (share item) row : ℤ) / 100 ∧
      (row < left → 0 < Int.fract (exactShare items c item)) := by
  have hmem : share item ∈ ordered := h.perm.mem_iff.2 (List.mem_map_of_mem hitem)
  obtain ⟨row, hrow⟩ := List.mem_iff_getElem?.1 hmem
  have hzip : (share item, row) ∈ ordered.zipIdx := List.mem_zipIdx_iff_getElem?.2 hrow
  refine ⟨row, ?_, fun hlt => ?_⟩
  · have hcost := costOf_of_mem (h.each.nodup_iff.2 hnodup)
      (List.mem_map_of_mem (f := fun row => (row.1.id, row.1.cost left row.2)) hzip)
    rw [h.id item hitem] at hcost
    rw [hcost]
    exact h.cost_row hzip
  · exact h.fract item hitem (remainder_pos_of_lt h.sorted hrow (hlt.trans_le h.cut))

theorem sum_allotted (h : Allotment items c left share ordered) :
    ((allotted left ordered).map Prod.snd).sum = c / 100 := by
  have hamounts : ((allotted left ordered).map Prod.snd).sum =
      (((ordered.zipIdx.map fun row => toppedUp left row.1 row.2).sum : ℤ) : ℚ) / 100 := by
    rw [allotted, List.map_map, Int.cast_list_sum, List.map_map, div_eq_mul_inv,
      ← List.sum_map_mul_right]
    exact congrArg List.sum (List.map_congr_left fun row hrow => h.cost_row hrow)
  have hlength : left ≤ ordered.length := h.cut.trans List.countP_le_length
  rw [hamounts, sum_toppedUp, Nat.sub_zero, min_eq_left hlength, h.all]
  rfl

theorem exactShare_free (hstored : ∀ item ∈ items, item.Stored)
    (hpaid : ∃ item ∈ items, item.lineTotal ≠ 0) {item : ShopOrderItem}
    (hfree : item.lineTotal = 0) : exactShare items c item = 0 := by
  have hgross : (items.map ShopOrderItem.lineTotal).sum ≠ 0 := by
    intro hzero
    obtain ⟨other, hother, hline⟩ := hpaid
    refine hline (List.all_zero_of_le_zero_le_of_sum_eq_zero (fun value hvalue => ?_) hzero
      (List.mem_map_of_mem hother))
    obtain ⟨item, hitem, rfl⟩ := List.mem_map.1 hvalue
    obtain ⟨n, -, hn⟩ := (hstored item hitem).lineTotal
    rw [hn]
    positivity
  rw [exactShare, exactWeight, if_neg hgross, hfree, mul_zero, zero_div]

theorem sharedExactly (h : Allotment items c left share ordered)
    (hnodup : (items.map ShopOrderItem.id).Nodup) (hstored : ∀ item ∈ items, item.Stored)
    {total : Decimal} (hround : toDecimalPlaces2 total = c / 100) :
    SharedExactly items total (allotted left ordered) := by
  refine ⟨h.each, fun cost hcost => ?_, by rw [h.sum_allotted, hround], fun item hitem => ?_,
    fun hpaid item hitem hfree => ?_⟩
  · obtain ⟨row, hrow, rfl⟩ := List.mem_map.1 hcost
    obtain ⟨item, hitem, heq⟩ := h.mem_row hrow
    have hnonneg := (h.bounds hitem).1
    rw [heq] at hnonneg
    obtain ⟨n, hn⟩ := Int.eq_ofNat_of_zero_le (a := toppedUp left row.1 row.2) (by
      rw [toppedUp]
      split <;> omega)
    exact ⟨n, by rw [h.cost_row hrow, hn]; rfl⟩
  · obtain ⟨row, hcost, hfract⟩ := h.costOf_item hnodup hitem
    have hhundredth : exactShare items (c / 100) item = exactShare items c item / 100 := by
      rw [exactShare, exactShare]
      ring
    have hfloor := Int.floor_add_fract (exactShare items c item)
    have hbelow := Int.fract_lt_one (exactShare items c item)
    have habove := Int.fract_nonneg (exactShare items c item)
    rw [hcost, hround, hhundredth, toppedUp, h.cents item hitem, abs_lt]
    split
    · rename_i hlt
      have hpos := hfract hlt
      push_cast
      constructor <;> linarith
    · constructor <;> linarith
  · obtain ⟨row, hcost, hfract⟩ := h.costOf_item hnodup hitem
    have hnothing : exactShare items c item = 0 := exactShare_free hstored hpaid hfree
    rw [hcost, toppedUp, h.cents item hitem, if_neg fun hlt => ?_, hnothing]
    · simp
    · have hpos := hfract hlt
      rw [hnothing, Int.fract_zero] at hpos
      exact hpos.false

end Allotment

variable {localeCompare : String → String → Ordering} [Std.TransCmp localeCompare]

theorem allocateShopCosts_eq (hne : items ≠ []) (hstored : ∀ item ∈ items, item.Stored)
    (hlength : items.length < 2 ^ 32) {total : Decimal} (hnonneg : 0 ≤ total)
    (hmax : total < 10000000000000000) :
    ∃ (c left : ℕ) (share : ShopOrderItem → CostShare), toDecimalPlaces2 total = c / 100 ∧
      Allotment items c left share
        ((items.map share).mergeSort (CostShare.before localeCompare)) ∧
      allocateShopCosts localeCompare items total =
        .ok (allotted left ((items.map share).mergeSort (CostShare.before localeCompare))) := by
  obtain ⟨c, hc, hround, hcents⟩ := cents_eq hnonneg hmax
  obtain ⟨share, hshares, hspec⟩ := costShares_spec hne hstored hlength hc
  obtain ⟨left, hleft, hall, hcut⟩ := left_spec hne hstored hlength hc
  have hperm := List.mergeSort_perm (items.map share) (CostShare.before localeCompare)
  refine ⟨c, left, share, hround, ?_, ?_⟩
  · rw [hshares] at hall hcut
    exact
      { id := fun item hitem => (hspec item hitem).1
        cents := fun item hitem => (hspec item hitem).2.1
        fract := fun item hitem => (hspec item hitem).2.2.2.1.1
        nonneg := fun item hitem => (hspec item hitem).2.2.2.2
        sum := sum_exactShare (exactWeight_sum_ne hne hstored hlength) c
        bound := hc
        perm := hperm
        sorted := (List.pairwise_mergeSort CostShare.before_trans CostShare.before_total _).imp
          CostShare.remainder_antitone
        all := by rw [(hperm.map CostShare.cents).sum_eq, hall]
        cut := by rwa [hperm.countP_eq] }
  · rw [allocateShopCosts, assertPersistedMoney, if_neg (by
      rw [not_or, not_lt, not_le]
      exact ⟨hnonneg, hmax⟩), if_neg hne]
    dsimp only
    rw [hcents, hleft, hshares]
    rfl

theorem ShopOrderItem.Stored.perm {items' : List ShopOrderItem} (hperm : items'.Perm items)
    (hstored : ∀ item ∈ items, item.Stored) : ∀ item ∈ items', item.Stored :=
  fun item hitem => hstored item (hperm.mem_iff.1 hitem)

theorem costShares_perm {items' : List ShopOrderItem} (hperm : items'.Perm items)
    (hne : items ≠ []) (hstored : ∀ item ∈ items, item.Stored) (hlength : items.length < 2 ^ 32)
    (cents : ℚ) : (costShares items' cents).Perm (costShares items cents) := by
  have hstored' := ShopOrderItem.Stored.perm hperm hstored
  have hlength' : items'.length < 2 ^ 32 := by rwa [hperm.length_eq]
  have hexact : exactWeight items' = exactWeight items := by
    funext item
    rw [exactWeight, exactWeight, (hperm.map ShopOrderItem.lineTotal).sum_eq]
  obtain ⟨e, numerator, hweight, -⟩ := exactWeights hne hstored
  have hweight' : ∀ item ∈ items', numerator item < 10 ^ 20 ∧
      exactWeight items item = numerator item * 10 ^ e :=
    fun item hitem => hweight item (hperm.mem_iff.1 hitem)
  rw [costShares, costShares, costWeight_eq hstored hlength, costWeight_eq hstored' hlength',
    hexact, (sumDigits_stored hlength hweight).1, (sumDigits_stored hlength' hweight').1,
    (hperm.map (exactWeight items)).sum_eq]
  exact hperm.map _

/-- **The costs do not depend on the order of the items**, when the locale tells their identifiers
apart. -/
theorem allocateShopCosts_perm {items' : List ShopOrderItem} (hperm : items'.Perm items)
    (hne : items ≠ []) (hnodup : (items.map ShopOrderItem.id).Nodup)
    (hids : ∀ a ∈ items, ∀ b ∈ items, localeCompare a.id b.id = .eq → a.id = b.id)
    (hstored : ∀ item ∈ items, item.Stored) (hlength : items.length < 2 ^ 32) {total : Decimal}
    (hnonneg : 0 ≤ total) (hmax : total < 10000000000000000) :
    allocateShopCosts localeCompare items' total = allocateShopCosts localeCompare items total := by
  have hne' : items' ≠ [] := fun hnil => hne (List.nil_perm.1 (hnil ▸ hperm))
  obtain ⟨c, hc, -, hcents⟩ := cents_eq hnonneg hmax
  have hshares := costShares_perm hperm hne hstored hlength c
  obtain ⟨left, hleft, hall, -⟩ := left_spec hne hstored hlength hc
  obtain ⟨left', hleft', hall', -⟩ := left_spec hne' (ShopOrderItem.Stored.perm hperm hstored)
    (by rwa [hperm.length_eq]) hc
  have hsame : left' = left := by
    rw [(hshares.map CostShare.cents).sum_eq] at hall'
    omega
  have hshareIds : (costShares items c).map CostShare.id = items.map ShopOrderItem.id := by
    rw [costShares, List.map_map]
    rfl
  have hsorted : (costShares items c).mergeSort (CostShare.before localeCompare) =
      (costShares items' c).mergeSort (CostShare.before localeCompare) :=
    mergeSort_before_perm hshares.symm (by rwa [hshareIds]) fun a ha b hb heq => ?_
  · rw [allocateShopCosts, allocateShopCosts, if_neg hne, if_neg hne']
    dsimp only
    rw [hcents, hleft, hleft', hsame, hsorted]
  · obtain ⟨item, hitem, rfl⟩ := List.mem_map.1 ha
    obtain ⟨other, hother, rfl⟩ := List.mem_map.1 hb
    exact hids item hitem other hother heq

end Allocation

/-- **No cent is lost or invented**: an amount below the limit is shared out exactly, whatever the
order of the items, and a larger one is rejected. -/
theorem shopCosts (localeCompare : String → String → Ordering) [Std.TransCmp localeCompare]
    {items : List ShopOrderItem} (hne : items ≠ []) (hnodup : (items.map ShopOrderItem.id).Nodup)
    (hids : ∀ a ∈ items, ∀ b ∈ items, localeCompare a.id b.id = .eq → a.id = b.id)
    (hstored : ∀ item ∈ items, item.Stored) (hlength : items.length < 2 ^ 32) {total : Decimal}
    (hnonneg : 0 ≤ total) :
    (10000000000000000 ≤ total →
      allocateShopCosts localeCompare items total =
        .error (.badRequest "Purchase cost exceeds the supported monetary range")) ∧
      (total < 10000000000000000 →
        ∃ costs, SharedExactly items total costs ∧ ∀ items', items'.Perm items →
          allocateShopCosts localeCompare items' total = .ok costs) := by
  refine ⟨fun hmax => ?_, fun hmax => ?_⟩
  · rw [allocateShopCosts, assertPersistedMoney, if_pos (.inr hmax)]
    rfl
  · obtain ⟨c, left, share, hround, hallot, hcosts⟩ :=
      @allocateShopCosts_eq items localeCompare _ hne hstored hlength total hnonneg hmax
    exact ⟨_, hallot.sharedExactly hnodup hstored hround, fun items' hperm =>
      (allocateShopCosts_perm hperm hne hnodup hids hstored hlength hnonneg hmax).trans hcosts⟩

def piece (id : String) (lineTotal : Decimal) : ShopOrderItem where
  id := id
  productId := some "piece"
  productName := "Piece"
  quantity := 1
  quantity_pos := Int.one_pos
  lineTotal := lineTotal

/-- Three pieces at the same price share two cents. -/
theorem shopCosts_pieces : ∃ costs, SharedExactly [piece "c" 1, piece "a" 1, piece "b" 1] (2 / 100)
      costs ∧ ∀ items', items'.Perm [piece "c" 1, piece "a" 1, piece "b" 1] →
    allocateShopCosts compare items' (2 / 100) = .ok costs := by
  refine (@shopCosts compare _ [piece "c" 1, piece "a" 1, piece "b" 1] (by decide) (by decide)
    (fun a _ b _ heq => Std.LawfulEqOrd.eq_of_compare heq) (fun item hitem => ?_) (by decide)
    (2 / 100) (by norm_num)).2 (by norm_num)
  have hstored : ∀ id, (piece id 1).Stored := fun id =>
    ⟨⟨10000, by norm_num, by norm_num [piece]⟩, by norm_num [piece]⟩
  simp only [List.mem_cons, List.not_mem_nil, or_false] at hitem
  rcases hitem with rfl | rfl | rfl <;> exact hstored _

def unequalPieces : List ShopOrderItem :=
  [piece "a" (1334 / 10000), piece "b" (1334 / 10000), piece "c" (7332 / 10000)]

/-- **A total at the limit is rejected**, and the shares are those of the rounded total: of 0.0549
the large piece has a cent less than its share, and more. -/
theorem shopCosts_limit :
    ((piece "a" 1).Stored ∧
      ¬∃ costs, allocateShopCosts compare [piece "a" 1] 10000000000000000 = .ok costs) ∧
    (∀ item ∈ unequalPieces, item.Stored) ∧
      ∃ costs, allocateShopCosts compare unequalPieces (549 / 10000) = .ok costs ∧
        ∃ item ∈ unequalPieces,
          1 / 100 < |costOf costs item.id - exactShare unequalPieces (549 / 10000) item| := by
  refine ⟨⟨⟨⟨10000, by norm_num, by norm_num [piece]⟩, by norm_num [piece]⟩, ?_⟩, ?_,
    [("a", 1 / 100), ("b", 1 / 100), ("c", 3 / 100)], ?_, ?_⟩
  · rintro ⟨costs, hcosts⟩
    cases hcosts
  · intro item hitem
    simp only [unequalPieces, List.mem_cons, List.not_mem_nil, or_false] at hitem
    rcases hitem with rfl | rfl | rfl
    · exact ⟨⟨1334, by norm_num, rfl⟩, by norm_num [piece]⟩
    · exact ⟨⟨1334, by norm_num, rfl⟩, by norm_num [piece]⟩
    · exact ⟨⟨7332, by norm_num, rfl⟩, by norm_num [piece]⟩
  · have hsorted :
        (costShares unequalPieces (precise (toDecimalPlaces2 (549 / 10000) * 100))).Pairwise
          fun a b => CostShare.before compare a b = true := by
      decide +kernel
    rw [allocateShopCosts, assertPersistedMoney, if_neg (by norm_num), if_neg (by decide)]
    dsimp only
    rw [List.mergeSort_of_pairwise hsorted]
    decide +kernel
  · exact ⟨piece "c" (7332 / 10000), by simp [unequalPieces], by decide +kernel⟩

end Zomaal.Purchasing
