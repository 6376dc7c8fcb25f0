/-
**Numbers written as texts, and read again.**

A CSV cell is a text, and `Number` reads it: white space around it does not matter, nothing at all
is zero, and besides decimal numerals there are hexadecimal, octal and binary ones.  Numbers are
exact here: a numeral with more digits than a double keeps is not rounded to one.

Main results:

* `JsText.number_toFixed2` — **an amount is read back as it was rounded**.
-/

import Mathlib.Tactic.Positivity
import Zomaal.JsText
import Zomaal.ShopPricing

set_option autoImplicit false

namespace JsText

/-! ### Reading numerals -/

def digits (cs : List Char) : Option ℕ :=
  if cs ≠ [] ∧ cs.all Char.isDigit then some (Nat.ofDigitChars 10 cs 0) else none

/-- What follows the digits of a decimal numeral: its exponent, or nothing. -/
def exponent : List Char → Option ℤ
  | [] => some 0
  | c :: cs =>
    if c = 'e' ∨ c = 'E' then
      match cs with
      | '-' :: cs => (digits cs).map fun n => -n
      | '+' :: cs => (digits cs).map fun n => n
      | cs => (digits cs).map fun n => n
    else none

def fraction : List Char → List Char × List Char
  | '.' :: cs => (cs.takeWhile Char.isDigit, cs.dropWhile Char.isDigit)
  | cs => ([], cs)

def unsignedDecimal (cs : List Char) : Option ℚ :=
  let whole := cs.takeWhile Char.isDigit
  let (after, rest) := fraction (cs.dropWhile Char.isDigit)
  if whole = [] ∧ after = [] then none
  else (exponent rest).map fun e =>
    (Nat.ofDigitChars 10 (whole ++ after) 0 : ℚ) / 10 ^ after.length * (10 : ℚ) ^ e

def radixDigit (c : Char) : ℕ :=
  if c.isDigit then c.toNat - '0'.toNat
  else if 'a' ≤ c ∧ c ≤ 'z' then c.toNat - 'a'.toNat + 10
  else if 'A' ≤ c ∧ c ≤ 'Z' then c.toNat - 'A'.toNat + 10
  else 36

def radixNumeral (base : ℕ) (cs : List Char) : Option ℚ :=
  if cs ≠ [] ∧ cs.all fun c => radixDigit c < base then
    some (cs.foldl (fun n c => n * base + radixDigit c) 0 : ℕ)
  else none

def numeral : List Char → Option ℚ
  | [] => some 0
  | '-' :: cs => (unsignedDecimal cs).map fun value => -value
  | '+' :: cs => unsignedDecimal cs
  | '0' :: c :: cs =>
    if c = 'x' ∨ c = 'X' then radixNumeral 16 cs
    else if c = 'o' ∨ c = 'O' then radixNumeral 8 cs
    else if c = 'b' ∨ c = 'B' then radixNumeral 2 cs
    else unsignedDecimal ('0' :: c :: cs)
  | cs => unsignedDecimal cs

def numberBound : ℚ := 2 ^ 1024 - 2 ^ 970

/-- **`Number(text)`**, where it is finite. -/
def number (text : String) : Option ℚ :=
  (numeral (trim text).toList).filter fun value => |value| < numberBound

example : (["", " 12.50 ", "-.5e1", "0x1F", "1e400", "Infinity", "12a", "."].map number) =
    [some 0, some (25 / 2), some (-5), some 31, none, none, none, none] := by
  decide +kernel

/-! ### Reading what was written -/

theorem takeWhile_digits {cs rest : List Char} (hdigits : ∀ c ∈ cs, c.isDigit = true)
    (hrest : ∀ c ∈ rest.head?, c.isDigit = false) :
    (cs ++ rest).takeWhile Char.isDigit = cs ∧ (cs ++ rest).dropWhile Char.isDigit = rest := by
  have hnone : rest.takeWhile Char.isDigit = [] ∧ rest.dropWhile Char.isDigit = rest := by
    cases rest with
    | nil => exact ⟨rfl, rfl⟩
    | cons c rest =>
      have hc : ¬ c.isDigit = true := Bool.eq_false_iff.1 (hrest c rfl)
      exact ⟨List.takeWhile_cons_of_neg hc, List.dropWhile_cons_of_neg hc⟩
  constructor
  · rw [List.takeWhile_append_of_pos hdigits, hnone.1, List.append_nil]
  · rw [List.dropWhile_append_of_pos hdigits, hnone.2]

variable {c : Char} {n : ℕ}

theorem isDigit_of_mem_toString (hc : c ∈ (toString n).toList) : c.isDigit = true := by
  have hdigits : c ∈ Nat.toDigits 10 n := by
    rw [← Nat.toList_repr]
    exact hc
  exact Nat.isDigit_of_mem_toDigits (by decide) (by decide) hdigits

theorem toString_ne_nil (n : ℕ) : (toString n).toList ≠ [] := by
  intro hnil
  have hdigits : Nat.toDigits 10 n = [] := by
    rw [← Nat.toList_repr]
    exact hnil
  have hvalue := Nat.ofDigitChars_ten_toDigits (n := n)
  rw [hdigits] at hvalue
  rw [← hvalue] at hdigits
  exact absurd hdigits (by decide)

theorem ofDigitChars_toString (n : ℕ) : Nat.ofDigitChars 10 (toString n).toList 0 = n := by
  have hdigits : (toString n).toList = Nat.toDigits 10 n := Nat.toList_repr
  rw [hdigits, Nat.ofDigitChars_ten_toDigits]

theorem unsignedDecimal_point {whole after : List Char} (hwhole : ∀ c ∈ whole, c.isDigit = true)
    (hafter : ∀ c ∈ after, c.isDigit = true) (hne : whole ≠ []) :
    unsignedDecimal (whole ++ '.' :: after) =
      some ((Nat.ofDigitChars 10 (whole ++ after) 0 : ℚ) / 10 ^ after.length) := by
  obtain ⟨htake, hdrop⟩ := @takeWhile_digits whole ('.' :: after) hwhole
    (fun c hc => by obtain rfl := Option.some.inj hc; decide)
  have hrest := @takeWhile_digits after [] hafter (fun c hc => nomatch hc)
  rw [List.append_nil] at hrest
  rw [unsignedDecimal, htake, hdrop, fraction]
  dsimp only
  rw [hrest.1, hrest.2, if_neg fun h => hne h.1, exponent, Option.map_some, zpow_zero, mul_one]

theorem unsignedDecimal_whole {whole : List Char} (hwhole : ∀ c ∈ whole, c.isDigit = true)
    (hne : whole ≠ []) :
    unsignedDecimal whole = some (Nat.ofDigitChars 10 whole 0 : ℚ) := by
  have hrest := @takeWhile_digits whole [] hwhole (fun c hc => nomatch hc)
  rw [List.append_nil] at hrest
  rw [unsignedDecimal, hrest.1, hrest.2, fraction.eq_def]
  dsimp only
  rw [if_neg fun h => hne h.1, exponent, Option.map_some, List.append_nil, List.length_nil,
    zpow_zero, mul_one, pow_zero, div_one]

theorem numeral_eq {cs : List Char} (hhead : cs.head? = some c) (hdigit : c.isDigit = true)
    (hsecond : ∀ d ∈ cs.tail.head?, d.isDigit = true ∨ d = '.') :
    numeral cs = unsignedDecimal cs := by
  obtain ⟨rest, rfl⟩ : ∃ rest, cs = c :: rest := by
    cases cs with
    | nil => cases hhead
    | cons d rest =>
      obtain rfl := Option.some.inj hhead
      exact ⟨rest, rfl⟩
  rw [numeral.eq_def]
  split
  · rename_i heq
    exact nomatch heq
  · rename_i heq
    obtain ⟨rfl, -⟩ := List.cons_eq_cons.1 heq
    exact absurd hdigit (by decide)
  · rename_i heq
    obtain ⟨rfl, -⟩ := List.cons_eq_cons.1 heq
    exact absurd hdigit (by decide)
  · rename_i d ds heq
    obtain ⟨rfl, rfl⟩ := List.cons_eq_cons.1 heq
    have hother : ∀ e : Char, e.isDigit = false → e ≠ '.' → d ≠ e := by
      rintro e hletter hpoint rfl
      rcases hsecond d rfl with hd | hd
      · rw [hletter] at hd
        cases hd
      · exact hpoint hd
    rw [if_neg (not_or.2 ⟨hother 'x' (by decide) (by decide), hother 'X' (by decide) (by decide)⟩),
      if_neg (not_or.2 ⟨hother 'o' (by decide) (by decide), hother 'O' (by decide) (by decide)⟩),
      if_neg (not_or.2 ⟨hother 'b' (by decide) (by decide), hother 'B' (by decide) (by decide)⟩)]
  · rfl

theorem trim_eq_self {text : String} (hhead : ∀ c ∈ text.toList.head?, isSpace c = false)
    (hlast : ∀ c ∈ text.toList.getLast?, isSpace c = false) : trim text = text := by
  have hkept : ∀ cs : List Char, (∀ c ∈ cs.head?, isSpace c = false) →
      cs.dropWhile isSpace = cs := by
    intro cs h
    cases cs with
    | nil => rfl
    | cons c cs => exact List.dropWhile_cons_of_neg (Bool.eq_false_iff.1 (h c rfl))
  refine String.toList_injective ?_
  rw [trim, String.toList_ofList, hkept _ hhead, hkept _ (by rwa [List.head?_reverse]),
    List.reverse_reverse]

theorem isSpace_of_isDigit (h : c.isDigit = true) : isSpace c = false := by
  rw [Char.isDigit, Bool.and_eq_true, decide_eq_true_eq, decide_eq_true_eq] at h
  have hlow : 48 ≤ c.toNat := UInt32.le_iff_toNat_le.1 h.1
  have hhigh : c.toNat ≤ 57 := UInt32.le_iff_toNat_le.1 h.2
  simp only [isSpace, Bool.or_eq_false_iff, Bool.and_eq_false_iff, decide_eq_false_iff_not]
  omega

def DigitEnds (text : String) : Prop :=
  (∃ c, text.toList.head? = some c ∧ c.isDigit = true) ∧
    ∀ c ∈ text.toList.getLast?, c.isDigit = true

theorem DigitEnds.trim {text : String} (h : DigitEnds text) : JsText.trim text = text := by
  obtain ⟨⟨c, hhead, hdigit⟩, hlast⟩ := h
  refine trim_eq_self (fun d hd => ?_) fun d hd => isSpace_of_isDigit (hlast d hd)
  rw [hhead] at hd
  obtain rfl := Option.some.inj hd
  exact isSpace_of_isDigit hdigit

theorem digitEnds_toString (n : ℕ) : DigitEnds (toString n) := by
  obtain ⟨c, rest, hcons⟩ := List.exists_cons_of_ne_nil (toString_ne_nil n)
  refine ⟨⟨c, by rw [hcons]; rfl, isDigit_of_mem_toString (n := n) (by rw [hcons]; simp)⟩, ?_⟩
  exact fun d hd => isDigit_of_mem_toString (List.mem_of_mem_getLast? hd)

theorem number_toString (hbound : (n : ℚ) < numberBound) : number (toString n) = some (n : ℚ) := by
  have hends := digitEnds_toString n
  obtain ⟨⟨c, hhead, hdigit⟩, -⟩ := hends
  have hdigits : ∀ c ∈ (toString n).toList, c.isDigit = true := fun c hc =>
    isDigit_of_mem_toString hc
  have hvalue : numeral (toString n).toList = some (n : ℚ) := by
    rw [numeral_eq hhead hdigit
      (fun d hd => .inl (hdigits d (List.mem_of_mem_tail (List.mem_of_mem_head? hd)))),
      unsignedDecimal_whole hdigits (toString_ne_nil n), ofDigitChars_toString]
  rw [number, (digitEnds_toString n).trim, hvalue, Option.filter_some, if_pos]
  rw [decide_eq_true_eq, abs_of_nonneg n.cast_nonneg]
  exact hbound

def twoDigits (n : ℕ) : List Char := ((if n < 10 then "0" else "") ++ toString n).toList

theorem twoDigits_spec (h : n < 100) :
    (twoDigits n).length = 2 ∧ (∀ c ∈ twoDigits n, c.isDigit = true) ∧
      Nat.ofDigitChars 10 (twoDigits n) 0 = n := by
  have hall : ∀ n < 100, (twoDigits n).length = 2 ∧ (twoDigits n).all Char.isDigit = true ∧
      Nat.ofDigitChars 10 (twoDigits n) 0 = n := by decide +kernel
  obtain ⟨hlength, hdigits, hvalue⟩ := hall n h
  exact ⟨hlength, List.all_eq_true.1 hdigits, hvalue⟩

open Zomaal.Shop (toFixed2 toDecimalPlaces2)

theorem toFixed2_toList (x : ℚ) : (toFixed2 x).toList =
    (toString (⌊x * 100 + 1 / 2⌋.toNat / 100)).toList ++
      '.' :: twoDigits (⌊x * 100 + 1 / 2⌋.toNat % 100) := by
  rw [toFixed2]
  simp [twoDigits]

theorem digitEnds_toFixed2 (x : ℚ) : DigitEnds (toFixed2 x) := by
  obtain ⟨hlength, hdigits, -⟩ :=
    twoDigits_spec (Nat.mod_lt ⌊x * 100 + 1 / 2⌋.toNat (by norm_num : 0 < 100))
  have hne : twoDigits (⌊x * 100 + 1 / 2⌋.toNat % 100) ≠ [] := by
    rintro hnil
    rw [hnil] at hlength
    cases hlength
  obtain ⟨⟨c, hhead, hdigit⟩, -⟩ := digitEnds_toString (⌊x * 100 + 1 / 2⌋.toNat / 100)
  rw [DigitEnds, toFixed2_toList]
  refine ⟨⟨c, ?_, hdigit⟩, fun d hd => ?_⟩
  · rw [List.head?_append, hhead]
    rfl
  · rw [List.getLast?_append_of_ne_nil _ (List.cons_ne_nil _ _),
      List.getLast?_cons_of_ne_nil hne] at hd
    exact hdigits d (List.mem_of_mem_getLast? hd)

/-- **An amount is read back as it was rounded.** -/
theorem number_toFixed2 {x : ℚ} (hx : 0 ≤ x) (hbound : toDecimalPlaces2 x < numberBound) :
    number (toFixed2 x) = some (toDecimalPlaces2 x) := by
  have hrounded : toDecimalPlaces2 x = ((⌊x * 100 + 1 / 2⌋ : ℤ) : ℚ) / 100 := if_pos hx
  rw [hrounded] at hbound ⊢
  obtain ⟨h, hh⟩ : ∃ h : ℕ, ⌊x * 100 + 1 / 2⌋ = h :=
    Int.eq_ofNat_of_zero_le (Int.floor_nonneg.2 (by positivity))
  obtain ⟨hlength, hdigits, hvalue⟩ := twoDigits_spec (Nat.mod_lt h (by norm_num : 0 < 100))
  have hwhole : ∀ c ∈ (toString (h / 100)).toList, c.isDigit = true := fun c hc =>
    isDigit_of_mem_toString hc
  have hlist := toFixed2_toList x
  rw [hh, Int.toNat_natCast] at hlist
  obtain ⟨⟨c, hhead, hcdigit⟩, -⟩ := digitEnds_toFixed2 x
  have hnumber : ((Nat.ofDigitChars 10 ((toString (h / 100)).toList ++ twoDigits (h % 100)) 0 : ℕ)
      : ℚ) = h := by
    rw [Nat.ofDigitChars_append, Nat.ofDigitChars_eq_ofDigitChars_zero, ofDigitChars_toString,
      hvalue, hlength]
    exact_mod_cast Nat.div_add_mod h 100
  have hnumeral : numeral (toFixed2 x).toList = some ((h : ℚ) / 100) := by
    rw [numeral_eq hhead hcdigit, hlist, unsignedDecimal_point hwhole hdigits (toString_ne_nil _),
      hnumber, hlength]
    · norm_num
    · -- the second character is a digit, or the point
      obtain ⟨e, rest, hcons⟩ := List.exists_cons_of_ne_nil (toString_ne_nil (h / 100))
      intro d hd
      rw [hlist, hcons] at hd
      cases rest with
      | nil =>
        obtain rfl := Option.some.inj hd
        exact .inr rfl
      | cons f rest =>
        obtain rfl := Option.some.inj hd
        exact .inl (hwhole f (by rw [hcons]; simp))
  rw [hh] at hbound ⊢
  rw [number, (digitEnds_toFixed2 x).trim, hnumeral, Option.filter_some, if_pos]
  · rfl
  · rw [decide_eq_true_eq, abs_of_nonneg (by positivity)]
    exact hbound

end JsText
