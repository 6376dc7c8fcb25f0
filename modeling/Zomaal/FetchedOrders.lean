/-
**An order that a platform tells at different times.**

Lightfunnels may tell a date by how long ago it is, so the answer about an order that does not
change is another one whenever it is asked for.  This module embeds the answer as a function of the
time at which it is fetched.

Main results:

* `PlatformOrder.normalizeAt_same` — **what the adapters make of an order at two times**.
-/

import Zomaal.OrderNormalizers

set_option autoImplicit false

namespace Zomaal

open JsText

variable (env : PayloadReader)

/-! ### Dates -/

def isRelative (value : Json) : Bool :=
  match Lightfunnels.carbonDate value with
  | .string text => (Lightfunnels.relativeAge env (trim text)).isSome
  | _ => false

/-- How a platform tells the age of an instant, at the time when it is asked. -/
structure AgeTexts where
  text : ℤ → ℤ → String
  relative : ∀ now instant, isRelative env (.string (text now instant)) = true

/-- A date as the platform has it: written out, or an instant that is told by its age. -/
inductive ToldDate
  | absolute (value : Json) (fixed : isRelative env value = false)
  | relative (instant : ℤ)

namespace ToldDate

variable {env} (texts : AgeTexts env)

def told (now : ℤ) : ToldDate env → Json
  | .absolute value _ => value
  | .relative instant => .string (texts.text now instant)

def age (now instant : ℤ) : Option ℤ :=
  (Lightfunnels.relativeAge env (trim (texts.text now instant))).join

/-- **A date says the same instant at two times**: it is written out, or the age that is told has
grown by the time between. -/
def Keeps (now later : ℤ) : ToldDate env → Prop
  | .absolute _ _ => True
  | .relative instant => age texts later instant =
      (age texts now instant).map fun age => age + (later - now)

end ToldDate

/-! ### Orders -/

structure LightfunnelsOrder where
  createdAt : ToldDate env
  updatedAt : ToldDate env
  cancelledAt : Option (ToldDate env) := none
  fields : List (String × Json)

def LightfunnelsOrder.payload {env : PayloadReader} (order : LightfunnelsOrder env)
    (texts : AgeTexts env) (now : ℤ) : Json :=
  .object (("created_at", order.createdAt.told texts now) ::
    ("updated_at", order.updatedAt.told texts now) ::
    ("cancelled_at", (order.cancelledAt.map (ToldDate.told texts now)).getD .null) :: order.fields)

inductive PlatformOrder
  | youcan (order : Json) (storeCurrency : String)
  | lightfunnels (order : LightfunnelsOrder env)

namespace PlatformOrder

variable {env}

def platform : PlatformOrder env → EcommercePlatform
  | .youcan _ _ => .youcan
  | .lightfunnels _ => .lightfunnels

def normalizeAt (texts : AgeTexts env) (now : ℤ) :
    PlatformOrder env → Except String NormalizedEcommerceOrder
  | .youcan order storeCurrency => normalizeYouCanOrder env order storeCurrency
  | .lightfunnels order => normalizeLightfunnelsOrder env now (order.payload texts now)

/-- **The dates of an order say the same instants at two times**, but for that of its last
update. -/
def Keeps (texts : AgeTexts env) (now later : ℤ) : PlatformOrder env → Prop
  | .youcan _ _ => True
  | .lightfunnels order => order.createdAt.Keeps texts now later ∧
      ∀ date ∈ order.cancelledAt, date.Keeps texts now later

end PlatformOrder

/-- The columns of an order that the platform fills, but for the time of its last update. -/
def OrderData.undated (data : OrderData) : OrderData := { data with providerUpdatedAt := 0 }

/-! ### When dates say the same -/

section Dates

variable {env} {texts : AgeTexts env} {now later : ℤ}

theorem Lightfunnels.dateOf_int {time date : ℤ}
    (h : Lightfunnels.dateOf (time : Decimal) = some date) : date = time := by
  rw [Lightfunnels.dateOf] at h
  split at h
  · rw [Int.ceil_intCast, Int.floor_intCast, ite_self] at h
    exact (Option.some.inj h).symm
  · cases h

theorem Lightfunnels.timestamp_absolute {value : Json} (hfixed : isRelative env value = false)
    (now later : ℤ) (field : String) :
    Lightfunnels.timestamp env now value field = Lightfunnels.timestamp env later value field := by
  rw [isRelative] at hfixed
  rw [Lightfunnels.timestamp, Lightfunnels.timestamp]
  cases hdate : Lightfunnels.carbonDate value with
  | string text =>
    have hnone : Lightfunnels.relativeAge env (trim text) = none := by
      rw [hdate] at hfixed
      exact Option.isSome_eq_false_iff.1 hfixed |> Option.isNone_iff_eq_none.1
    have htime : (truthy (some (trim text))).bind (Lightfunnels.textTime env now) =
        (truthy (some (trim text))).bind (Lightfunnels.textTime env later) := by
      refine Option.bind_congr fun trimmed htrimmed => ?_
      obtain rfl := Option.some.inj (truthy_some htrimmed).1
      rw [Lightfunnels.textTime, Lightfunnels.textTime, hnone]
    simp only [htime]
  | _ => rfl

theorem Lightfunnels.timestamp_relative {instant date : ℤ} {field : String}
    (h : Lightfunnels.timestamp env now (.string (texts.text now instant)) field = .ok date) :
    ∃ age, ToldDate.age texts now instant = some age ∧ date = now - age := by
  have hrelative : (Lightfunnels.relativeAge env (trim (texts.text now instant))).isSome = true :=
    texts.relative now instant
  obtain ⟨said, hsaid⟩ := Option.isSome_iff_exists.1 hrelative
  rw [Lightfunnels.timestamp] at h
  cases htext : truthy (some (trim (texts.text now instant))) with
  | none => simp [Lightfunnels.carbonDate, Json.field, htext] at h
  | some trimmed =>
    obtain ⟨hsame, -⟩ := truthy_some htext
    obtain rfl := Option.some.inj hsame
    cases said with
    | none =>
      simp [Lightfunnels.carbonDate, Json.field, htext, Lightfunnels.textTime, hsaid] at h
    | some age =>
      refine ⟨age, by rw [ToldDate.age, hsaid]; rfl, ?_⟩
      cases hdate : Lightfunnels.dateOf ((now - age : ℤ) : Decimal) with
      | none =>
        simp only [Lightfunnels.carbonDate, Json.field, htext, Lightfunnels.textTime, hsaid,
          Option.bind_some, hdate] at h
        cases h
      | some read =>
        simp only [Lightfunnels.carbonDate, Json.field, htext, Lightfunnels.textTime, hsaid,
          Option.bind_some, hdate] at h
        rw [← Except.ok.inj h]
        exact Lightfunnels.dateOf_int hdate

/-- **A date is read as the same instant at two times** exactly when it says the same. -/
theorem ToldDate.keeps_iff {date : ToldDate env} {field : String} {read reread : ℤ}
    (hread : Lightfunnels.timestamp env now (date.told texts now) field = .ok read)
    (hreread : Lightfunnels.timestamp env later (date.told texts later) field = .ok reread) :
    reread = read ↔ date.Keeps texts now later := by
  cases date with
  | absolute value fixed =>
    rw [ToldDate.told, Lightfunnels.timestamp_absolute fixed now later] at hread
    exact iff_of_true (Except.ok.inj (hreread.symm.trans hread)) trivial
  | relative instant =>
    obtain ⟨age, hage, rfl⟩ := Lightfunnels.timestamp_relative hread
    obtain ⟨older, holder, rfl⟩ := Lightfunnels.timestamp_relative hreread
    rw [ToldDate.Keeps, hage, holder, Option.map_some, Option.some_inj]
    constructor <;> intro h <;> omega

/-- **The cancellation of an order is read as the same at two times** exactly when its date says the
same. -/
theorem cancellation_keeps_iff {date : Option (ToldDate env)} {read reread : Option ℤ}
    (hread : Lightfunnels.cancellation env now ((date.map (ToldDate.told texts now)).getD .null) =
      .ok read)
    (hreread : Lightfunnels.cancellation env later
      ((date.map (ToldDate.told texts later)).getD .null) = .ok reread) :
    reread.isSome = read.isSome ∧
      (reread = read ↔ ∀ told ∈ date, told.Keeps texts now later) := by
  have hread_some : ∀ {time : ℤ} {value : Json} {instant : Option ℤ}, value ≠ .null →
      Lightfunnels.cancellation env time value = .ok instant → ∃ date, instant = some date ∧
        Lightfunnels.timestamp env time value "order.cancelled_at" = .ok date := by
    intro time value instant hvalue h
    rw [Lightfunnels.cancellation.eq_def] at h
    split at h
    · exact absurd rfl hvalue
    · obtain ⟨date, hdate, rfl⟩ := Except.map_eq_ok h
      exact ⟨date, rfl, hdate⟩
  cases date with
  | none =>
    obtain rfl := Except.ok.inj hread
    obtain rfl := Except.ok.inj hreread
    exact ⟨rfl, iff_of_true rfl (by simp)⟩
  | some date =>
    rw [Option.map_some, Option.getD_some] at hread hreread
    by_cases hnull : date.told texts now = .null
    · cases date with
      | relative instant => cases hnull
      | absolute value fixed =>
        obtain rfl : value = .null := hnull
        obtain rfl := Except.ok.inj hread
        obtain rfl := Except.ok.inj hreread
        refine ⟨rfl, iff_of_true rfl fun told htold => ?_⟩
        obtain rfl := Option.some.inj htold
        exact trivial
    · have hnull' : date.told texts later ≠ .null := by
        cases date with
        | relative instant => exact fun h => nomatch h
        | absolute value fixed => exact hnull
      obtain ⟨instant, rfl, hinstant⟩ := hread_some hnull hread
      obtain ⟨again, rfl, hagain⟩ := hread_some hnull' hreread
      refine ⟨rfl, ?_⟩
      rw [Option.some_inj, ToldDate.keeps_iff hinstant hagain]
      simp

end Dates

/-! ### Orders at two times -/

section Orders

variable {env} {texts : AgeTexts env} {now later : ℤ}

theorem LightfunnelsOrder.field_payload (order : LightfunnelsOrder env) (time : ℤ) {key : String}
    (h : key ∉ ["created_at", "updated_at", "cancelled_at"]) :
    (order.payload texts time).field key = (Json.object order.fields).field key := by
  simp only [List.mem_cons, List.not_mem_nil, not_or, or_false] at h
  obtain ⟨hcreated, hupdated, hcancelled⟩ := h
  rw [payload, Json.field, Json.field, List.lookup_cons, beq_false_of_ne hcreated,
    List.lookup_cons, beq_false_of_ne hupdated, List.lookup_cons, beq_false_of_ne hcancelled]

/-- **What the adapters make of an order at two times**: but for the last update, the same exactly
when the dates say the same. -/
theorem PlatformOrder.normalizeAt_same {order : PlatformOrder env}
    {first again : NormalizedEcommerceOrder} (hfirst : order.normalizeAt texts now = .ok first)
    (hagain : order.normalizeAt texts later = .ok again) :
    again.externalOrderId = first.externalOrderId ∧ again.customerPhone = first.customerPhone ∧
      again.lines = first.lines ∧
      (again.undated = first.undated ↔ order.Keeps texts now later) := by
  cases order with
  | youcan raw storeCurrency =>
    obtain rfl := Except.ok.inj (hfirst.symm.trans hagain)
    exact ⟨rfl, rfl, rfl, iff_of_true rfl trivial⟩
  | lightfunnels raw =>
    have hfield : ∀ key ∉ ["created_at", "updated_at", "cancelled_at"],
        (raw.payload texts now).field key = (raw.payload texts later).field key :=
      fun key hkey => (raw.field_payload now hkey).trans (raw.field_payload later hkey).symm
    obtain ⟨orderId, hid, hfirst⟩ := Except.bind_eq_ok hfirst
    obtain ⟨currency, hcurrency, hfirst⟩ := Except.bind_eq_ok hfirst
    obtain ⟨gross, hgross, hfirst⟩ := Except.bind_eq_ok hfirst
    obtain ⟨discount, hdiscount, hfirst⟩ := Except.bind_eq_ok hfirst
    obtain ⟨refund, hrefund, hfirst⟩ := Except.bind_eq_ok hfirst
    obtain ⟨shipping, hshipping, hfirst⟩ := Except.bind_eq_ok hfirst
    obtain ⟨total, htotal, hfirst⟩ := Except.bind_eq_ok hfirst
    obtain ⟨financial, hfinancial, hfirst⟩ := Except.bind_eq_ok hfirst
    obtain ⟨paid, hpaid, hfirst⟩ := Except.bind_eq_ok hfirst
    obtain ⟨createdAt, hcreated, hfirst⟩ := Except.bind_eq_ok hfirst
    obtain ⟨updatedAt, -, hfirst⟩ := Except.bind_eq_ok hfirst
    obtain ⟨cancelledAt, hcancelled, hfirst⟩ := Except.bind_eq_ok hfirst
    obtain rfl := Except.ok.inj hfirst
    -- the other fields are read as they were
    change normalizeLightfunnelsOrder env later (raw.payload texts later) = .ok again at hagain
    simp only [normalizeLightfunnelsOrder, ← hfield "id" (by decide),
      ← hfield "currency" (by decide), ← hfield "subtotal" (by decide),
      ← hfield "discount_value" (by decide), ← hfield "refunded_amount" (by decide),
      ← hfield "shipping" (by decide), ← hfield "total" (by decide),
      ← hfield "financial_status" (by decide), ← hfield "net_payment" (by decide),
      ← hfield "items" (by decide), ← hfield "shipping_address" (by decide),
      ← hfield "phone" (by decide), ← hfield "name" (by decide),
      ← hfield "fulfillment_status" (by decide), hid, hcurrency, hgross, hdiscount, hrefund,
      hshipping, htotal, hfinancial, hpaid, bind,
      Except.bind] at hagain
    obtain ⟨createdAgain, hcreated', hagain⟩ := Except.bind_eq_ok hagain
    obtain ⟨updatedAgain, -, hagain⟩ := Except.bind_eq_ok hagain
    obtain ⟨cancelledAgain, hcancelled', hagain⟩ := Except.bind_eq_ok hagain
    obtain rfl := Except.ok.inj hagain
    have hdate := raw.createdAt.keeps_iff hcreated hcreated'
    obtain ⟨hsome, hcancellation⟩ := cancellation_keeps_iff hcancelled hcancelled'
    refine ⟨rfl, rfl, rfl, ?_⟩
    rw [PlatformOrder.Keeps, ← hdate, ← hcancellation]
    constructor
    · intro h
      exact ⟨congrArg OrderData.providerCreatedAt h, congrArg OrderData.cancelledAt h⟩
    · rintro ⟨rfl, rfl⟩
      rfl

end Orders

end Zomaal
