/-
**Money in several currencies.**

This module embeds `convertOrNull` of `currency.service.ts` and the converter of
`required-currency-converter.ts`, which refuses to invent a rate.

Main results:

* `requiredCurrencyConverter_ok` — what a conversion returns.
-/

import Zomaal.Inventory

set_option autoImplicit false

namespace Zomaal

/-- What the runtime decides by its Unicode tables: the case of letters, and the order of texts. -/
structure Locale where
  toUpperCase : String → String
  toLowerCase : String → String
  localeCompare : String → String → Ordering

/-- The exchange rates at hand, if any: how much of a currency one unit of the base currency buys.
A rate that is not a number counts as none. -/
structure CurrencyService where
  rates : Option (String → Option Decimal)

/-- `convertOrNull`: no conversion within one currency, and none without both rates. -/
def CurrencyService.convertOrNull (service : CurrencyService) (locale : Locale) (amount : Decimal)
    (fromCurrency toCurrency : String) : Option Decimal :=
  let source := locale.toUpperCase fromCurrency
  let target := locale.toUpperCase toCurrency
  if source = target then some amount
  else
    match service.rates.bind fun rates => rates source,
        service.rates.bind fun rates => rates target with
    | some rateFrom, some rateTo =>
      if rateFrom = 0 ∨ rateTo = 0 then none else some (amount * (rateTo / rateFrom))
    | _, _ => none

/-- `/^[A-Z]{3}$/`: three capital letters. -/
def isCurrencyCode (text : String) : Bool :=
  text.toList.length = 3 && text.toList.all fun c => 'A' ≤ c && c ≤ 'Z'

def requiredCurrencyConverter (locale : Locale) (currency : Option CurrencyService)
    (amount : Decimal) (fromCurrency toCurrency : Option String) :
    Except ServiceError Decimal :=
  let source := ((fromCurrency.map JsText.trim).map locale.toUpperCase).getD ""
  let target := ((toCurrency.map JsText.trim).map locale.toUpperCase).getD ""
  if isCurrencyCode source = false ∨ isCurrencyCode target = false then
    .error (.serviceUnavailable "A valid source and target currency are required")
  else if source = target ∨ amount = 0 then .ok amount
  else
    match currency.bind fun service => service.convertOrNull locale 1 source target with
    | some rate =>
      if rate ≤ 0 then
        .error (.serviceUnavailable ("Exchange rate " ++ source ++ " → " ++ target ++
          " is unavailable. Try again later."))
      else .ok (amount * rate)
    | none =>
      .error (.serviceUnavailable ("Exchange rate " ++ source ++ " → " ++ target ++
        " is unavailable. Try again later."))

/-- **What a conversion returns**: the amount at a positive rate. -/
theorem requiredCurrencyConverter_ok {locale : Locale} {currency : Option CurrencyService}
    {amount converted : Decimal} {fromCurrency toCurrency : Option String}
    (h : requiredCurrencyConverter locale currency amount fromCurrency toCurrency =
      .ok converted) : ∃ rate : Decimal, 0 < rate ∧ converted = amount * rate := by
  unfold requiredCurrencyConverter at h
  simp only at h
  split at h
  · simp at h
  · split at h
    · obtain rfl : amount = converted := by simpa using h
      exact ⟨1, one_pos, (mul_one amount).symm⟩
    · split at h
      · rename_i rate _
        split at h
        · simp at h
        · rename_i hpos
          exact ⟨rate, lt_of_not_ge hpos, by simpa using h.symm⟩
      · simp at h

end Zomaal
