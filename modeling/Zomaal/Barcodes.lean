/-
**Barcodes are found by scanning them.**

A barcode that is typed is normalised and checked for its type; one that is scanned is normalised by
another function, and looked up.  The first puts a value into upper case if its type is that of
Zomaal's own codes, the second if it looks like one of them.  This module embeds both functions of
`barcode.service.ts`, with the check digits.

Main results:

* `Barcodes.barcodes_found` — **which accepted barcodes are found**, and stay as they are.
-/

import Zomaal.NumberTexts

set_option autoImplicit false

namespace Zomaal.Barcodes

/-! ### The two normalisations -/

structure UnicodeText where
  normalizeNfkc : String → String
  normalizeNfkc_ascii : ∀ text : String, (∀ c ∈ text.toList, c.toNat < 128) →
    normalizeNfkc text = text

inductive InventoryBarcodeType
  | internalCode128
  | gtin
  | ean13
  | upcA
  | other
  deriving DecidableEq

inductive BarcodeError
  | badRequest (message : String)
  | notFound (message : String)

structure NormalizedBarcode where
  value : String
  type : InventoryBarcodeType

/-- `/^[\x20-\x7E]+$/` -/
def isPrintableAscii (value : String) : Bool :=
  value ≠ "" && value.toList.all fun c => 0x20 ≤ c.toNat && c.toNat ≤ 0x7e

/-- `[A-F0-9]` -/
def isHexChar (c : Char) : Bool := ('A' ≤ c && c ≤ 'F') || c.isDigit

/-- `/^ZML-[A-F0-9]{12}$/`, of the characters of a value. -/
def isCode : List Char → Bool
  | 'Z' :: 'M' :: 'L' :: '-' :: code => code.length = 12 && code.all isHexChar
  | _ => false

/-- `toUpperCase` of a text in ASCII. -/
def toUpperCase (value : String) : String := String.ofList (value.toList.map Char.toUpper)

/-- `/^ZML-[A-F0-9]{12}$/i` -/
def isInternalCode (value : String) : Bool := isCode (value.toList.map Char.toUpper)

/-- `new RegExp("^\\d{length}$")` -/
def isDigits (value : String) (length : ℕ) : Bool :=
  value.toList.length = length && value.toList.all Char.isDigit

/-- The weighted sum of the digits before the check digit, from the last one on. -/
def checkSum (digits : List ℕ) : ℕ :=
  (digits.mapIdx fun index digit => digit * if index % 2 = 0 then 3 else 1).sum

def digits (value : String) : List ℕ := value.toList.map fun c => c.toNat - '0'.toNat

def isValidGtin (value : String) (length : ℕ) : Bool :=
  isDigits value length &&
    match (digits value).reverse with
    | [] => false
    | expected :: digits => expected = (10 - checkSum digits % 10) % 10

def inferBarcodeType (value : String) : InventoryBarcodeType :=
  if isInternalCode value then .internalCode128
  else if isDigits value 13 then .ean13
  else if isDigits value 12 then .upcA
  else if isDigits value 8 || isDigits value 14 then .gtin
  else .other

section Normalise

variable (unicode : UnicodeText)

variable (rawValue : String)

/-- `rawValue.normalize('NFKC').trim()` -/
def cleaned : String := JsText.trim (unicode.normalizeNfkc rawValue)

/-- The characters and the length of a barcode; a text that is not ASCII is refused in any case. -/
def isScannable (value : String) : Bool :=
  value ≠ "" && value.toList.length ≤ 100 && isPrintableAscii value

def normalizeAndValidate (requestedType : Option InventoryBarcodeType) :
    Except BarcodeError NormalizedBarcode :=
  let value := cleaned unicode rawValue
  if !isScannable value then .error (.badRequest "Barcode contains invalid characters")
  else
    let type := requestedType.getD (inferBarcodeType value)
    if type = .internalCode128 && !isInternalCode value then
      .error (.badRequest "Internal Code 128 barcode must use the ZML generated format")
    else if type = .ean13 && !isValidGtin value 13 then
      .error (.badRequest "EAN-13 barcode has an invalid check digit")
    else if type = .upcA && !isValidGtin value 12 then
      .error (.badRequest "UPC-A barcode has an invalid check digit")
    else if type = .gtin && !([8, 12, 13, 14].any fun length => isValidGtin value length) then
      .error (.badRequest "GTIN barcode has an invalid format or check digit")
    else .ok { value := if type = .internalCode128 then toUpperCase value else value, type }

def normalizeScannedValue : Except BarcodeError String :=
  let value := cleaned unicode rawValue
  if !isScannable value then .error (.badRequest "Barcode contains invalid characters")
  else .ok (if isInternalCode value then toUpperCase value else value)

structure InventoryBarcode extends NormalizedBarcode where
  storeId : String

def resolveForUser (rows : List InventoryBarcode) (storeId rawValue : String) :
    Except BarcodeError InventoryBarcode := do
  let value ← normalizeScannedValue unicode rawValue
  match rows.find? fun row => row.storeId = storeId && row.value = value with
  | some row => return row
  | none => throw (.notFound "Barcode was not found in this store")

end Normalise

/-! ### Check digits -/

def weighted (digits : List ℕ) : ℕ :=
  (digits.reverse.mapIdx fun index digit => digit * if index % 2 = 0 then 1 else 3).sum

theorem weighted_digit (before after : List ℕ) (digit : ℕ) :
    weighted (before ++ digit :: after) =
      weighted (before ++ 0 :: after) + digit * if after.length % 2 = 0 then 1 else 3 := by
  simp only [weighted, List.reverse_append, List.reverse_cons, List.append_assoc,
    List.singleton_append, List.mapIdx_append, List.mapIdx_cons, List.sum_append,
    List.sum_cons, List.length_reverse, Nat.zero_add]
  ring

theorem weighted_typo {before after : List ℕ} {digit typo : ℕ} (hdigit : digit < 10)
    (htypo : typo < 10) (hne : typo ≠ digit) (h : weighted (before ++ digit :: after) % 10 = 0) :
    weighted (before ++ typo :: after) % 10 ≠ 0 := by
  rw [weighted_digit] at h ⊢
  split at h
  · rename_i heven
    rw [if_pos heven]
    omega
  · rename_i hodd
    rw [if_neg hodd]
    omega

theorem weighted_of_isValidGtin {value : String} {length : ℕ}
    (h : isValidGtin value length = true) :
    (∀ c ∈ value.toList, c.isDigit = true) ∧ weighted (digits value) % 10 = 0 := by
  rw [isValidGtin, isDigits, Bool.and_eq_true, Bool.and_eq_true, List.all_eq_true] at h
  refine ⟨h.1.2, ?_⟩
  rw [weighted]
  have hcheck := h.2
  cases hreverse : (digits value).reverse with
  | nil => rfl
  | cons expected others =>
    rw [hreverse] at hcheck
    have hshift : (others.mapIdx fun index digit =>
        digit * if (index + 1) % 2 = 0 then 1 else 3).sum = checkSum others := by
      rw [checkSum]
      congr 2
      funext index digit
      congr 1
      split <;> split <;> omega
    rw [List.mapIdx_cons, List.sum_cons, hshift]
    have hexpected := of_decide_eq_true hcheck
    simp only [Nat.zero_mod, if_true, Nat.mul_one]
    omega

/-! ### Characters -/

theorem isDigit_bounds {c : Char} (h : c.isDigit = true) : 48 ≤ c.toNat ∧ c.toNat ≤ 57 := by
  rw [Char.isDigit, Bool.and_eq_true, decide_eq_true_eq, decide_eq_true_eq] at h
  exact h

theorem plain_char {c : Char} (h : 45 ≤ c.toNat ∧ c.toNat ≤ 90) :
    c.toUpper = c ∧ JsText.isSpace c = false := by
  constructor
  · have hnot : ¬ ('a'.val ≤ c.val ∧ c.val ≤ 'z'.val) := fun hlower => by
      have hlow : 97 ≤ c.toNat := hlower.1
      omega
    exact dif_neg hnot
  · simp only [JsText.isSpace, Bool.or_eq_false_iff, Bool.and_eq_false_iff, decide_eq_false_iff_not]
    omega

def Plain (value : String) : Prop := ∀ c ∈ value.toList, 45 ≤ c.toNat ∧ c.toNat ≤ 90

section Plain

variable {unicode : UnicodeText} {value : String}

theorem Plain.cleaned (h : Plain value) : cleaned unicode value = value := by
  rw [Barcodes.cleaned, unicode.normalizeNfkc_ascii value fun c hc => by have := h c hc; omega]
  exact JsText.trim_eq_self (fun c hc => (plain_char (h c (List.mem_of_mem_head? hc))).2)
    fun c hc => (plain_char (h c (List.mem_of_mem_getLast? hc))).2

theorem Plain.toUpperCase (h : Plain value) : toUpperCase value = value := by
  refine String.toList_injective ?_
  rw [Barcodes.toUpperCase, String.toList_ofList]
  exact (List.map_congr_left fun c hc => (plain_char (h c hc)).1).trans (List.map_id _)

theorem isScannable_iff : isScannable value = true ↔
    value ≠ "" ∧ value.toList.length ≤ 100 ∧
      ∀ c ∈ value.toList, 0x20 ≤ c.toNat ∧ c.toNat ≤ 0x7e := by
  simp only [isScannable, isPrintableAscii, Bool.and_eq_true, decide_eq_true_eq, List.all_eq_true]
  tauto

theorem cleaned_cleaned {rawValue : String} (h : isScannable (cleaned unicode rawValue) = true) :
    cleaned unicode (cleaned unicode rawValue) = cleaned unicode rawValue := by
  have hascii : ∀ c ∈ (cleaned unicode rawValue).toList, c.toNat < 128 := fun c hc => by
    have := (isScannable_iff.1 h).2.2 c hc
    omega
  rw [cleaned, unicode.normalizeNfkc_ascii _ hascii]
  exact JsText.trim_trim _

theorem isCode_spec {chars : List Char} (h : isCode chars = true) :
    chars.length = 16 ∧ (∀ c ∈ chars, 45 ≤ c.toNat ∧ c.toNat ≤ 90) ∧ '-' ∈ chars := by
  unfold isCode at h
  split at h
  · rename_i code
    rw [Bool.and_eq_true, decide_eq_true_eq, List.all_eq_true] at h
    refine ⟨by simp [h.1], fun c hc => ?_, by simp⟩
    simp only [List.mem_cons] at hc
    rcases hc with rfl | rfl | rfl | rfl | hc
    · decide
    · decide
    · decide
    · decide
    · have hhex := h.2 c hc
      rw [isHexChar, Bool.or_eq_true, Bool.and_eq_true, decide_eq_true_eq,
        decide_eq_true_eq] at hhex
      rcases hhex with ⟨hlow, hhigh⟩ | hdigit
      · have hlower : 65 ≤ c.toNat := hlow
        have hupper : c.toNat ≤ 70 := hhigh
        omega
      · have := isDigit_bounds hdigit
        omega
  · exact nomatch h

/-- **A value of Zomaal's form** may be scanned, and in upper case it is still one and stays so. -/
theorem isInternalCode_spec (h : isInternalCode value = true) :
    isScannable value = true ∧ Plain (toUpperCase value) ∧
      isInternalCode (toUpperCase value) = true ∧ isScannable (toUpperCase value) = true := by
  obtain ⟨hlength, hchars, -⟩ := isCode_spec h
  have hplain : Plain (toUpperCase value) := by rwa [Plain, toUpperCase, String.toList_ofList]
  rw [List.length_map] at hlength
  have hnonempty : value ≠ "" := fun hempty => by rw [hempty] at hlength; exact nomatch hlength
  refine ⟨isScannable_iff.2 ⟨hnonempty, by omega, fun c hc => ?_⟩, hplain, ?_, ?_⟩
  · have hupper := hchars _ (List.mem_map_of_mem hc)
    by_cases hlower : 'a'.val ≤ c.val ∧ c.val ≤ 'z'.val
    · have hlow : 97 ≤ c.toNat := hlower.1
      have hhigh : c.toNat ≤ 122 := hlower.2
      omega
    · have hstays : c.toUpper = c := dif_neg hlower
      rw [hstays] at hupper
      omega
  · have hsame : (toUpperCase (toUpperCase value)).toList = (toUpperCase value).toList := by
      rw [hplain.toUpperCase]
    rw [toUpperCase, String.toList_ofList] at hsame
    rw [isInternalCode, hsame, toUpperCase, String.toList_ofList]
    exact h
  · refine isScannable_iff.2 ⟨fun hempty => ?_, ?_, fun c hc => ?_⟩
    · have hnone := congrArg (fun text => text.toList.length) hempty
      simp [toUpperCase, hlength] at hnone
    · simp [toUpperCase, hlength]
    · have := hplain c hc
      omega

theorem plain_of_digits (h : ∀ c ∈ value.toList, c.isDigit = true) :
    Plain value ∧ isInternalCode value = false := by
  have hplain : Plain value := fun c hc => by
    have := isDigit_bounds (h c hc)
    omega
  refine ⟨hplain, Bool.eq_false_iff.2 fun hcode => ?_⟩
  obtain ⟨c, hc, hupper⟩ := List.mem_map.1 (isCode_spec hcode).2.2
  rw [(plain_char (hplain c hc)).1] at hupper
  exact absurd (h c hc) (by rw [hupper]; decide)

end Plain

/-! ### Accepted barcodes -/

def meetsType (value : String) : InventoryBarcodeType → Bool
  | .internalCode128 => isInternalCode value
  | .ean13 => isValidGtin value 13
  | .upcA => isValidGtin value 12
  | .gtin => [8, 12, 13, 14].any fun length => isValidGtin value length
  | .other => true

def HasCheckDigit (type : InventoryBarcodeType) : Prop :=
  type = .ean13 ∨ type = .upcA ∨ type = .gtin

section Accepted

variable {unicode : UnicodeText} {rawValue : String} {requestedType : Option InventoryBarcodeType}

theorem normalizeAndValidate_eq {text : String} (htext : cleaned unicode rawValue = text)
    (h : isScannable text = true) :
    ∃ error, normalizeAndValidate unicode rawValue requestedType =
      if meetsType text (requestedType.getD (inferBarcodeType text)) then
        .ok
          { value :=
              if requestedType.getD (inferBarcodeType text) = .internalCode128 then toUpperCase text
              else text
            type := requestedType.getD (inferBarcodeType text) }
      else .error error := by
  rw [normalizeAndValidate, htext, h]
  generalize requestedType.getD (inferBarcodeType text) = type
  cases type with
  | internalCode128 =>
    refine ⟨.badRequest "Internal Code 128 barcode must use the ZML generated format", ?_⟩
    cases hmeets : isInternalCode text <;> simp only [meetsType, hmeets] <;> rfl
  | gtin =>
    refine ⟨.badRequest "GTIN barcode has an invalid format or check digit", ?_⟩
    cases hmeets : [8, 12, 13, 14].any fun length => isValidGtin text length <;>
      simp only [meetsType, hmeets] <;> rfl
  | ean13 =>
    refine ⟨.badRequest "EAN-13 barcode has an invalid check digit", ?_⟩
    cases hmeets : isValidGtin text 13 <;> simp only [meetsType, hmeets] <;> rfl
  | upcA =>
    refine ⟨.badRequest "UPC-A barcode has an invalid check digit", ?_⟩
    cases hmeets : isValidGtin text 12 <;> simp only [meetsType, hmeets] <;> rfl
  | other => exact ⟨.notFound "", rfl⟩

theorem normalizeAndValidate_eq_ok {text : String} (htext : cleaned unicode rawValue = text)
    {barcode : NormalizedBarcode} :
    normalizeAndValidate unicode rawValue requestedType = .ok barcode ↔
      isScannable text = true ∧
      barcode.type = requestedType.getD (inferBarcodeType text) ∧
      meetsType text barcode.type = true ∧
      barcode.value = if barcode.type = .internalCode128 then toUpperCase text else text := by
  cases hscannable : isScannable text with
  | false =>
    rw [normalizeAndValidate, htext, hscannable]
    simp
  | true =>
    obtain ⟨error, heq⟩ := normalizeAndValidate_eq htext hscannable
    rw [heq]
    obtain ⟨value, type⟩ := barcode
    split
    · rename_i hmeets
      rw [Except.ok.injEq, NormalizedBarcode.mk.injEq]
      constructor
      · rintro ⟨rfl, rfl⟩
        exact ⟨rfl, rfl, hmeets, rfl⟩
      · rintro ⟨-, rfl, -, hvalue⟩
        exact ⟨hvalue.symm, rfl⟩
    · rename_i hmeets
      refine iff_of_false nofun ?_
      rintro ⟨-, rfl, hmeets', -⟩
      exact hmeets hmeets'

theorem normalizeScannedValue_of (h : isScannable (cleaned unicode rawValue) = true) :
    normalizeScannedValue unicode rawValue =
      .ok (if isInternalCode (cleaned unicode rawValue) then toUpperCase (cleaned unicode rawValue)
        else cleaned unicode rawValue) := by
  rw [normalizeScannedValue, h]
  rfl

structure Expected (unicode : UnicodeText) (rawValue : String)
    (requestedType : Option InventoryBarcodeType) (barcode : NormalizedBarcode) : Prop where
  scanned : normalizeScannedValue unicode rawValue = .ok barcode.value
  found : ∀ (rows : List InventoryBarcode) (storeId : String),
    (∃ row ∈ rows, row.storeId = storeId ∧ row.value = barcode.value) →
      ∃ row, resolveForUser unicode rows storeId rawValue = .ok row ∧ row.storeId = storeId ∧
        row.value = barcode.value
  stored : normalizeAndValidate unicode barcode.value requestedType = .ok barcode ∧
    normalizeScannedValue unicode barcode.value = .ok barcode.value
  /-- one digit is mistyped -/
  typo : HasCheckDigit barcode.type → ∀ before digit after,
    barcode.value.toList = before ++ digit :: after → ∀ typo : Char, typo.isDigit = true →
      typo ≠ digit → ∀ mistyped : String, mistyped.toList = before ++ typo :: after →
        mistyped.length = barcode.value.length ∧
        ∀ type, type = requestedType ∨ type = some barcode.type →
          ∃ error, normalizeAndValidate unicode mistyped type = .error error

/-- **Not a value of Zomaal's form in lower case** that is asked to be something else. -/
def Unambiguous (unicode : UnicodeText) (rawValue : String)
    (requestedType : Option InventoryBarcodeType) : Prop :=
  requestedType = some .other → isInternalCode (cleaned unicode rawValue) = true →
    toUpperCase (cleaned unicode rawValue) = cleaned unicode rawValue

end Accepted

theorem isValidGtin_typo {value mistyped : String} {before after : List Char} {digit typo : Char}
    {length : ℕ} (hvalue : value.toList = before ++ digit :: after)
    (hmistyped : mistyped.toList = before ++ typo :: after) (htypo : typo.isDigit = true)
    (hne : typo ≠ digit) (h : isValidGtin value length = true) (length' : ℕ) :
    isValidGtin mistyped length' = false := by
  refine Bool.eq_false_iff.2 fun h' => ?_
  obtain ⟨hdigits, hsum⟩ := weighted_of_isValidGtin h
  obtain ⟨-, hsum'⟩ := weighted_of_isValidGtin h'
  have hbounds := isDigit_bounds htypo
  have hbounds' := isDigit_bounds (hdigits digit (by rw [hvalue]; simp))
  have hdiffer : typo.toNat ≠ digit.toNat := fun heq => hne (Char.toNat_inj.1 heq)
  have hzero : '0'.toNat = 48 := rfl
  rw [digits, hvalue, List.map_append, List.map_cons] at hsum
  rw [digits, hmistyped, List.map_append, List.map_cons] at hsum'
  exact weighted_typo (by omega) (by omega) (by omega) hsum hsum'

theorem meetsType_digits {value : String} {type : InventoryBarcodeType} (htype : HasCheckDigit type)
    (h : meetsType value type = true) : ∃ length, isValidGtin value length = true := by
  rcases htype with rfl | rfl | rfl
  · exact ⟨13, h⟩
  · exact ⟨12, h⟩
  · obtain ⟨length, -, hvalid⟩ := List.any_eq_true.1 h
    exact ⟨length, hvalid⟩

theorem inferBarcodeType_typo {value mistyped : String}
    (hdigits : ∀ c ∈ value.toList, c.isDigit = true)
    (hdigits' : ∀ c ∈ mistyped.toList, c.isDigit = true)
    (hlength : mistyped.toList.length = value.toList.length) :
    inferBarcodeType mistyped = inferBarcodeType value := by
  have hall : ∀ length, isDigits mistyped length = isDigits value length := fun length => by
    rw [isDigits, isDigits, hlength, List.all_eq_true.2 hdigits, List.all_eq_true.2 hdigits']
  rw [inferBarcodeType, inferBarcodeType, (plain_of_digits hdigits).2, (plain_of_digits hdigits').2]
  simp only [hall]

section Normalised

variable {unicode : UnicodeText} {rawValue : String} {requestedType : Option InventoryBarcodeType}
  {barcode : NormalizedBarcode}

theorem meetsType_code {text : String} {type : InventoryBarcodeType}
    (hcode : isInternalCode text = true) (h : meetsType text type = true) :
    type = .internalCode128 ∨ type = .other := by
  have hnone : ¬ HasCheckDigit type := fun htype => by
    obtain ⟨length, hvalid⟩ := meetsType_digits htype h
    rw [(plain_of_digits (weighted_of_isValidGtin hvalid).1).2] at hcode
    exact nomatch hcode
  cases type with
  | internalCode128 => exact .inl rfl
  | other => exact .inr rfl
  | ean13 => exact absurd (.inl rfl) hnone
  | upcA => exact absurd (.inr (.inl rfl)) hnone
  | gtin => exact absurd (.inr (.inr rfl)) hnone

theorem inferBarcodeType_code {text : String} (hcode : isInternalCode text = true) :
    inferBarcodeType text = .internalCode128 := if_pos hcode

theorem Unambiguous.value (h : Unambiguous unicode rawValue requestedType)
    (hok : normalizeAndValidate unicode rawValue requestedType = .ok barcode) :
    barcode.value = if isInternalCode (cleaned unicode rawValue) then
      toUpperCase (cleaned unicode rawValue) else cleaned unicode rawValue := by
  obtain ⟨-, htype, hmeets, hvalue⟩ := (normalizeAndValidate_eq_ok rfl).1 hok
  rw [hvalue]
  cases hcode : isInternalCode (cleaned unicode rawValue) with
  | false =>
    refine if_neg fun hinternal => ?_
    rw [hinternal, meetsType, hcode] at hmeets
    exact nomatch hmeets
  | true =>
    rcases meetsType_code hcode hmeets with hinternal | hother
    · rw [hinternal]
      rfl
    · rw [hother, if_neg nofun, if_pos rfl]
      refine (h ?_ hcode).symm
      cases requestedType with
      | none =>
        rw [hother, Option.getD_none, inferBarcodeType_code hcode] at htype
        exact nomatch htype
      | some type => rw [← hother, htype, Option.getD_some]

theorem Unambiguous.fixed (h : Unambiguous unicode rawValue requestedType)
    (hok : normalizeAndValidate unicode rawValue requestedType = .ok barcode) :
    cleaned unicode barcode.value = barcode.value ∧ isScannable barcode.value = true ∧
      (isInternalCode barcode.value = true → toUpperCase barcode.value = barcode.value) ∧
      inferBarcodeType barcode.value = inferBarcodeType (cleaned unicode rawValue) ∧
      meetsType barcode.value barcode.type = true := by
  obtain ⟨hscannable, -, hmeets, -⟩ := (normalizeAndValidate_eq_ok rfl).1 hok
  rw [h.value hok]
  cases hcode : isInternalCode (cleaned unicode rawValue) with
  | false =>
    rw [if_neg Bool.false_ne_true]
    exact ⟨cleaned_cleaned hscannable, hscannable,
      fun hcode' => absurd (hcode.symm.trans hcode') Bool.false_ne_true, rfl, hmeets⟩
  | true =>
    obtain ⟨-, hplain, hcode', hscannable'⟩ := isInternalCode_spec hcode
    rw [if_pos rfl]
    refine ⟨hplain.cleaned, hscannable', fun _ => hplain.toUpperCase, ?_, ?_⟩
    · rw [inferBarcodeType_code hcode]
      exact inferBarcodeType_code hcode'
    · rcases meetsType_code hcode hmeets with hinternal | hother
      · rw [hinternal]
        exact hcode'
      · rw [hother]
        rfl

theorem Unambiguous.expected (h : Unambiguous unicode rawValue requestedType)
    (hok : normalizeAndValidate unicode rawValue requestedType = .ok barcode) :
    Expected unicode rawValue requestedType barcode := by
  obtain ⟨hscannable, htype, -, -⟩ := (normalizeAndValidate_eq_ok rfl).1 hok
  obtain ⟨hcleaned, hscannable', hupper, hinferred, hmeets⟩ := h.fixed hok
  have hscanned : normalizeScannedValue unicode rawValue = .ok barcode.value := by
    rw [normalizeScannedValue_of hscannable, h.value hok]
  refine ⟨hscanned, fun rows storeId hrow => ?_, ⟨?_, ?_⟩, ?_⟩
  · have hsome : (rows.find? fun row =>
        row.storeId = storeId && row.value = barcode.value).isSome :=
      List.find?_isSome.2 (by simpa using hrow)
    obtain ⟨row, hfind⟩ := Option.isSome_iff_exists.1 hsome
    have hrow := List.find?_some hfind
    rw [Bool.and_eq_true, decide_eq_true_eq, decide_eq_true_eq] at hrow
    refine ⟨row, ?_, hrow⟩
    rw [resolveForUser, hscanned]
    simp only [bind, Except.bind, hfind]
    rfl
  · refine (normalizeAndValidate_eq_ok hcleaned).2 ⟨hscannable', ?_, hmeets, ?_⟩
    · rw [hinferred, htype]
    · split
      · rename_i hinternal
        rw [hinternal] at hmeets
        exact (hupper hmeets).symm
      · rfl
  · rw [normalizeScannedValue_of (by rwa [hcleaned]), hcleaned]
    split
    · rename_i hcode
      rw [hupper hcode]
    · rfl
  · intro hdigit before digit after hvalue typo htypo hne mistyped hmistyped
    obtain ⟨length, hvalid⟩ := meetsType_digits hdigit hmeets
    have hdigits := (weighted_of_isValidGtin hvalid).1
    have hdigits' : ∀ c ∈ mistyped.toList, c.isDigit = true := by
      intro c hc
      rw [hmistyped, List.mem_append, List.mem_cons] at hc
      rcases hc with hc | rfl | hc
      · exact hdigits c (by rw [hvalue]; simp [hc])
      · exact htypo
      · exact hdigits c (by rw [hvalue]; simp [hc])
    have hlength : mistyped.toList.length = barcode.value.toList.length := by
      rw [hvalue, hmistyped, List.length_append, List.length_append, List.length_cons,
        List.length_cons]
    refine ⟨by rw [← String.length_toList, hlength, String.length_toList], fun type hasked => ?_⟩
    cases hrun : normalizeAndValidate unicode mistyped type with
    | error error => exact ⟨error, rfl⟩
    | ok accepted =>
      obtain ⟨-, htype', hmeets', -⟩ :=
        (normalizeAndValidate_eq_ok (plain_of_digits hdigits').1.cleaned).1 hrun
      have hsame : accepted.type = barcode.type := by
        rw [htype']
        rcases hasked with rfl | rfl
        · rw [inferBarcodeType_typo hdigits hdigits' hlength, hinferred, htype]
        · rfl
      rw [hsame] at hmeets'
      obtain ⟨length', hvalid'⟩ := meetsType_digits hdigit hmeets'
      rw [isValidGtin_typo hvalue hmistyped htypo hne hvalid] at hvalid'
      exact nomatch hvalid'

end Normalised

/-- **Accepted barcodes are found by scanning them**, stay as they are, and tell mistyped digits,
exactly if no value of Zomaal's form in lower case is asked to be something else. -/
theorem barcodes_found (unicode : UnicodeText) (rawValue : String)
    (requestedType : Option InventoryBarcodeType) :
    (∀ barcode, normalizeAndValidate unicode rawValue requestedType = .ok barcode →
      Expected unicode rawValue requestedType barcode) ↔
      Unambiguous unicode rawValue requestedType := by
  constructor
  · rintro h rfl hcode
    have hscannable := (isInternalCode_spec hcode).1
    have hok : normalizeAndValidate unicode rawValue (some .other) =
        .ok { value := cleaned unicode rawValue, type := .other } :=
      (normalizeAndValidate_eq_ok rfl).2 ⟨hscannable, rfl, rfl, rfl⟩
    have hscanned := (h _ hok).scanned
    rw [normalizeScannedValue_of hscannable, if_pos hcode] at hscanned
    exact Except.ok.inj hscanned
  · intro h barcode hok
    exact h.expected hok

def plainTexts : UnicodeText where
  normalizeNfkc text := text
  normalizeNfkc_ascii _ _ := rfl

/-- A value in lower case that is of no type is accepted, and a scan looks for another one. -/
theorem barcodes_found_lowerCase :
    ¬ ∀ barcode, normalizeAndValidate plainTexts "zml-a1b2c3d4e5f6" (some .other) = .ok barcode →
      Expected plainTexts "zml-a1b2c3d4e5f6" (some .other) barcode := by
  intro h
  have hscanned := (h { value := "zml-a1b2c3d4e5f6", type := .other }
    ((normalizeAndValidate_eq_ok rfl).2 (by decide +kernel))).scanned
  rw [normalizeScannedValue_of (by decide +kernel)] at hscanned
  exact absurd (Except.ok.inj hscanned) (by decide +kernel)

end Zomaal.Barcodes
