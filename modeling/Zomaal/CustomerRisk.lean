/-
**Customers and their risk counters.**

A store knows its customers by their normalised phone numbers.  Each has counters of returns,
cancellations, refusals and parcels nobody answered for; when a counter reaches the limit that the
store has set, the customer is blacklisted.  How a phone number is normalised, and which store a
user is at work for, are parameters.

Main results:

* `CustomerBook.recordShipmentOutcome_total` — **an outcome is counted once**.
-/

import Zomaal.JsText
import Zomaal.KeyedRows

set_option autoImplicit false

namespace Zomaal

/-! ### Counters and limits -/

inductive RiskCategory
  | returns
  | cancellations
  | refusals
  | noAnswer
  deriving DecidableEq

structure RiskCounters where
  returnsCount : ℕ := 0
  cancellationsCount : ℕ := 0
  refusalsCount : ℕ := 0
  noAnswerCount : ℕ := 0
  deriving DecidableEq

/-- The limits of a store; a limit of zero is switched off. -/
structure RiskLimits where
  useCombinedLimit : Bool := false
  combinedLimit : ℤ := 0
  returnsLimit : ℤ := 0
  cancellationsLimit : ℤ := 0
  refusalsLimit : ℤ := 0
  noAnswerLimit : ℤ := 0

inductive RiskCategoryLabel
  | returns
  | cancellations
  | refusals
  | noAnswer
  | combined

structure RiskDistance where
  category : RiskCategoryLabel
  current : ℤ
  limit : ℤ
  remaining : ℤ

def riskDistance (category : RiskCategoryLabel) (current : ℕ) (limit : ℤ) : List RiskDistance :=
  if 0 < limit then [{ category, current, limit, remaining := limit - current }] else []

def computeRiskDistances (counters : RiskCounters) (settings : RiskLimits) : List RiskDistance :=
  if settings.useCombinedLimit then
    riskDistance .combined
      (counters.returnsCount + counters.cancellationsCount + counters.refusalsCount +
        counters.noAnswerCount) settings.combinedLimit
  else
    riskDistance .returns counters.returnsCount settings.returnsLimit ++
      riskDistance .cancellations counters.cancellationsCount settings.cancellationsLimit ++
      riskDistance .refusals counters.refusalsCount settings.refusalsLimit ++
      riskDistance .noAnswer counters.noAnswerCount settings.noAnswerLimit

def hasCrossedRiskLimit (distances : List RiskDistance) : Bool :=
  distances.any fun distance => distance.remaining ≤ 0

/-! ### Customers -/

structure Customer extends RiskCounters where
  storeId : String
  phone : String
  name : Option String := none
  address : Option String := none
  city : Option String := none
  totalOrders : ℕ := 0
  isBlacklisted : Bool := false
  blacklistReason : Option String := none
  deriving DecidableEq

namespace Customer

variable (customer : Customer)

/-- `{ [COUNTER_FIELD[category]]: { increment: 1 } }`. -/
def increment : RiskCategory → Customer
  | .returns => { customer with returnsCount := customer.returnsCount + 1 }
  | .cancellations => { customer with cancellationsCount := customer.cancellationsCount + 1 }
  | .refusals => { customer with refusalsCount := customer.refusalsCount + 1 }
  | .noAnswer => { customer with noAnswerCount := customer.noAnswerCount + 1 }

def countedAs (count : ℕ) (label : String) : List String :=
  if 0 < count then [toString count ++ " " ++ label] else []

def plural (count : ℕ) (label : String) : String := if count = 1 then label else label ++ "s"

def autoBlacklistReason : String :=
  let parts :=
    countedAs customer.returnsCount (plural customer.returnsCount "return") ++
      countedAs customer.cancellationsCount (plural customer.cancellationsCount "cancellation") ++
      countedAs customer.refusalsCount (plural customer.refusalsCount "refusal") ++
      countedAs customer.noAnswerCount "no-answer"
  if parts = [] then "Risk threshold reached" else String.intercalate ", " parts

def evaluateThreshold (settings : RiskLimits) : Bool :=
  hasCrossedRiskLimit (computeRiskDistances customer.toRiskCounters settings)

def shipmentOutcomes : ℕ := customer.refusalsCount + customer.noAnswerCount

def key : String × String := (customer.storeId, customer.phone)

end Customer

structure PhoneIdentity where
  phone : String
  digitAliases : List String

/-- What the services ask of others: the store of a user, and the identity of a phone number in the
country of a store. -/
structure CustomerDirectory where
  requireStore : String → Option String
  customerPhoneIdentity : String → String → Option PhoneIdentity

def cleaned (text : Option String) : Option String := JsText.truthy (text.map JsText.trim)

/-- `phone.replace(/\D/g, '')`. -/
def digitsOf (phone : String) : String := String.ofList (phone.toList.filter Char.isDigit)

/-- What is known of a customer; a field that is not given is left alone. -/
structure CustomerParams where
  phone : Option String
  name : Option (Option String) := none
  address : Option (Option String) := none
  city : Option (Option String) := none

variable (params : CustomerParams)

def CustomerParams.metadata (customer : Customer) : Customer :=
  { customer with
    name := (params.name.map cleaned).getD customer.name
    address := (params.address.map cleaned).getD customer.address
    city := (params.city.map cleaned).getD customer.city }

inductive CustomerError
  | conflict (message : String)
  | uniqueConstraint

/-- The customers of all stores, and the limits that the stores have set. -/
structure CustomerBook where
  customers : List Customer := []
  settings : String → RiskLimits := fun _ => {}

namespace CustomerBook

def equivalents (directory : CustomerDirectory) (book : CustomerBook) (storeId : String)
    (identity : PhoneIdentity) : List Customer :=
  book.customers.filter fun customer =>
    customer.storeId = storeId && digitsOf customer.phone ∈ identity.digitAliases &&
      (directory.customerPhoneIdentity storeId customer.phone).any
        fun other => other.phone = identity.phone

variable (book : CustomerBook)

/-- `update({ where: { storeId_phone } })`. -/
def updateCustomer (storeId phone : String) (change : Customer → Customer) : CustomerBook :=
  { book with
    customers := KeyedRows.change Customer.key (storeId, phone) change book.customers }

/-- `upsert({ where: { storeId_phone } })`. -/
def saveCustomer (storeId phone : String) (params : CustomerParams) : CustomerBook :=
  if (KeyedRows.lookup Customer.key (storeId, phone) book.customers).isSome then
    book.updateCustomer storeId phone params.metadata
  else { book with customers := book.customers ++ [params.metadata { storeId, phone }] }

/-- `upsertCustomer`: the customers afterwards, and the phone number of the one that was asked for,
unless there is no phone number. -/
def upsertCustomer (directory : CustomerDirectory) (book : CustomerBook) (storeId : String)
    (params : CustomerParams) : Except CustomerError (Option (String × CustomerBook)) :=
  match cleaned params.phone with
  | none => .ok none
  | some raw =>
    match directory.customerPhoneIdentity storeId raw with
    | none => .ok none
    | some identity =>
      match book.equivalents directory storeId identity with
      | _ :: _ :: _ =>
        .error (.conflict ("Multiple historical customer records use this phone. " ++
          "Reconcile their histories before adding another order."))
      | [customer] =>
        if customer.phone = identity.phone then
          .ok (some (identity.phone, book.saveCustomer storeId identity.phone params))
        else if (KeyedRows.lookup Customer.key (storeId, identity.phone)
            book.customers).isSome then
          .error .uniqueConstraint
        else
          .ok (some (identity.phone, book.updateCustomer storeId customer.phone
            fun row => params.metadata { row with phone := identity.phone }))
      | [] => .ok (some (identity.phone, book.saveCustomer storeId identity.phone params))

def incrementRiskCounter (storeId phone : String) (category : RiskCategory) : CustomerBook :=
  book.updateCustomer storeId phone fun row =>
    let customer := row.increment category
    if customer.isBlacklisted then customer
    else if customer.evaluateThreshold (book.settings storeId) then
      { customer with
        isBlacklisted := true
        blacklistReason := some customer.autoBlacklistReason }
    else customer

end CustomerBook

/-- What became of a parcel: it was refused, or nobody answered. -/
structure ShipmentOutcome where
  userId : String
  phone : Option String
  name : Option String
  outcome : RiskCategory

namespace CustomerBook

/-- `recordShipmentOutcome`; its callers log an error, and go on. -/
def recordShipmentOutcome (directory : CustomerDirectory) (book : CustomerBook)
    (outcome : ShipmentOutcome) : CustomerBook :=
  match directory.requireStore outcome.userId with
  | none => book
  | some storeId =>
    match book.upsertCustomer directory storeId
        { phone := outcome.phone, name := some outcome.name } with
    | .ok (some (phone, book')) => book'.incrementRiskCounter storeId phone outcome.outcome
    | _ => book

/-! ### What is counted -/

def shipmentOutcomes (book : CustomerBook) : ℕ :=
  Ledger.total Customer.shipmentOutcomes (fun _ => true) book.customers

/-- **The customers are stored under their normalised phone numbers**, each once. -/
structure Normalised (directory : CustomerDirectory) (book : CustomerBook) : Prop where
  nodup : (book.customers.map Customer.key).Nodup
  phones : ∀ customer ∈ book.customers, ∃ identity,
    directory.customerPhoneIdentity customer.storeId customer.phone = some identity ∧
      identity.phone = customer.phone

end CustomerBook

/-- What the phone library is relied on for: any text has an identity, and a normalised number is
its own. -/
structure CustomerDirectory.Lawful (directory : CustomerDirectory) : Prop where
  identified : ∀ storeId phone raw, cleaned phone = some raw →
    (directory.customerPhoneIdentity storeId raw).isSome
  normalised : ∀ storeId raw identity,
    directory.customerPhoneIdentity storeId raw = some identity →
      ∃ again, directory.customerPhoneIdentity storeId identity.phone = some again ∧
        again.phone = identity.phone

/-! ### What the operations keep -/

namespace CustomerParams

theorem metadata_key (customer : Customer) :
    (params.metadata customer).key = customer.key := rfl

end CustomerParams

namespace CustomerBook

variable {directory : CustomerDirectory} {book : CustomerBook}

theorem Normalised.updateCustomer (h : book.Normalised directory) (storeId phone : String)
    {change : Customer → Customer} (hkey : ∀ row, (change row).key = row.key) :
    (book.updateCustomer storeId phone change).Normalised directory := by
  refine ⟨?_, fun customer hmem => ?_⟩
  · rw [CustomerBook.updateCustomer, KeyedRows.map_key_change Customer.key hkey]
    exact h.nodup
  · obtain ⟨row, hrow, rfl⟩ := List.mem_map.1 hmem
    obtain ⟨identity, hidentity, hphone⟩ := h.phones row hrow
    have hsame : (if row.key = (storeId, phone) then change row else row).key = row.key := by
      split
      · exact hkey row
      · rfl
    obtain ⟨hstore, hnumber⟩ := Prod.mk.inj hsame
    rw [hstore, hnumber]
    exact ⟨identity, hidentity, hphone⟩

theorem Normalised.equivalents (h : book.Normalised directory) (storeId : String)
    (identity : PhoneIdentity) :
    book.equivalents directory storeId identity = [] ∨
      ∃ customer, book.equivalents directory storeId identity = [customer] ∧
        customer.phone = identity.phone := by
  have hkey : ∀ customer ∈ book.equivalents directory storeId identity,
      customer.key = (storeId, identity.phone) := by
    intro customer hmem
    obtain ⟨hcustomer, hsel⟩ := List.mem_filter.1 hmem
    rw [Bool.and_eq_true, Bool.and_eq_true, decide_eq_true_eq] at hsel
    obtain ⟨⟨rfl, _⟩, hany⟩ := hsel
    obtain ⟨own, hown, hphone⟩ := h.phones customer hcustomer
    rw [hown, Option.any_some, decide_eq_true_eq] at hany
    rw [Customer.key, ← hphone, hany]
  have hnodup : ((book.equivalents directory storeId identity).map Customer.key).Nodup :=
    h.nodup.sublist (List.filter_sublist.map Customer.key)
  match hrows : book.equivalents directory storeId identity with
  | [] => exact Or.inl rfl
  | [customer] =>
    have hcustomer := hkey customer (by rw [hrows]; exact List.mem_cons_self ..)
    exact Or.inr ⟨customer, rfl, (Prod.mk.inj hcustomer).2⟩
  | first :: second :: rest =>
    rw [hrows] at hkey hnodup
    have hfirst := hkey first (List.mem_cons_self ..)
    have hsecond := hkey second (List.mem_cons_of_mem _ (List.mem_cons_self ..))
    rw [List.map_cons, List.map_cons, List.nodup_cons, hfirst, hsecond] at hnodup
    exact absurd (List.mem_cons_self ..) hnodup.1

theorem Normalised.saveCustomer (h : book.Normalised directory) {storeId phone : String}
    (params : CustomerParams)
    (hphone : ∃ identity, directory.customerPhoneIdentity storeId phone = some identity ∧
      identity.phone = phone) :
    (book.saveCustomer storeId phone params).Normalised directory ∧
      (book.saveCustomer storeId phone params).shipmentOutcomes = book.shipmentOutcomes ∧
      (KeyedRows.lookup Customer.key (storeId, phone)
        (book.saveCustomer storeId phone params).customers).isSome := by
  unfold CustomerBook.saveCustomer
  split
  · rename_i hfound
    obtain ⟨row, hrow⟩ := Option.isSome_iff_exists.1 hfound
    refine ⟨h.updateCustomer storeId phone params.metadata_key, ?_, ?_⟩
    · have htotal := KeyedRows.total_change (f := params.metadata) Customer.key
        Customer.shipmentOutcomes (fun _ => true) h.nodup hrow
      exact Nat.add_right_cancel htotal
    · rw [CustomerBook.updateCustomer, KeyedRows.lookup_change Customer.key params.metadata_key,
        hrow]
      rfl
  · rename_i hfree
    have hfree := Option.not_isSome_iff_eq_none.1 hfree
    refine ⟨⟨?_, ?_⟩, ?_, ?_⟩
    · rw [List.map_append, List.map_singleton]
      refine List.Nodup.append h.nodup (List.nodup_singleton _) ?_
      intro key hold hnew
      obtain ⟨row, hrow, rfl⟩ := List.mem_map.1 hold
      exact (KeyedRows.lookup_none Customer.key).1 hfree row hrow (List.mem_singleton.1 hnew)
    · intro customer hmem
      rcases Ledger.mem_concat.1 hmem with hold | hnew
      · exact h.phones customer hold
      · rw [hnew]
        exact hphone
    · rw [shipmentOutcomes, Ledger.total_append, shipmentOutcomes]
      rfl
    · rw [Option.isSome_iff_exists]
      cases hlookup : KeyedRows.lookup Customer.key (storeId, phone)
          (book.customers ++ [params.metadata { storeId, phone }]) with
      | some row => exact ⟨row, rfl⟩
      | none =>
        have hmiss := (KeyedRows.lookup_none Customer.key).1 hlookup
          (params.metadata { storeId, phone }) (by simp)
        exact absurd rfl hmiss

theorem incrementRiskCounter_total (hnodup : (book.customers.map Customer.key).Nodup)
    {storeId phone : String}
    (hfound : (KeyedRows.lookup Customer.key (storeId, phone) book.customers).isSome)
    {category : RiskCategory} (hcategory : category = .refusals ∨ category = .noAnswer) :
    (book.incrementRiskCounter storeId phone category).shipmentOutcomes =
      book.shipmentOutcomes + 1 := by
  obtain ⟨row, hrow⟩ := Option.isSome_iff_exists.1 hfound
  have htotal := fun change : Customer → Customer =>
    KeyedRows.total_change (f := change) Customer.key Customer.shipmentOutcomes (fun _ => true)
      hnodup hrow
  have hmore : (row.increment category).shipmentOutcomes = row.shipmentOutcomes + 1 := by
    rcases hcategory with rfl | rfl <;> simp only [Customer.increment, Customer.shipmentOutcomes]
      <;> omega
  rw [incrementRiskCounter, updateCustomer, shipmentOutcomes, shipmentOutcomes]
  refine Nat.add_right_cancel ((htotal _).trans ?_)
  have hkept : ∀ customer : Customer, (if customer.isBlacklisted then customer
      else if customer.evaluateThreshold (book.settings storeId) then
        { customer with
          isBlacklisted := true
          blacklistReason := some customer.autoBlacklistReason }
      else customer).shipmentOutcomes = customer.shipmentOutcomes := by
    intro customer
    split
    · rfl
    · split <;> rfl
  rw [if_pos rfl, if_pos rfl, hkept, hmore]
  omega

theorem Normalised.incrementRiskCounter (h : book.Normalised directory) (storeId phone : String)
    (category : RiskCategory) :
    (book.incrementRiskCounter storeId phone category).Normalised directory := by
  refine h.updateCustomer storeId phone fun row => ?_
  have hkey : (row.increment category).key = row.key := by cases category <;> rfl
  dsimp only
  split
  · exact hkey
  · split <;> exact hkey

theorem Normalised.upsertCustomer (hlawful : directory.Lawful) (h : book.Normalised directory)
    {storeId raw : String} {params : CustomerParams} (hphone : cleaned params.phone = some raw) :
    ∃ phone, book.upsertCustomer directory storeId params =
        .ok (some (phone, book.saveCustomer storeId phone params)) ∧
      ∃ identity, directory.customerPhoneIdentity storeId phone = some identity ∧
        identity.phone = phone := by
  obtain ⟨identity, hidentity⟩ :=
    Option.isSome_iff_exists.1 (hlawful.identified storeId params.phone raw hphone)
  refine ⟨identity.phone, ?_, hlawful.normalised storeId raw identity hidentity⟩
  simp only [CustomerBook.upsertCustomer, hphone, hidentity]
  rcases h.equivalents storeId identity with hnone | ⟨customer, hone, hsame⟩
  · rw [hnone]
  · rw [hone]
    exact if_pos hsame

/-- **An outcome is counted once.** -/
theorem recordShipmentOutcome_total (hlawful : directory.Lawful) (h : book.Normalised directory)
    {outcome : ShipmentOutcome} (hstore : (directory.requireStore outcome.userId).isSome)
    (hphone : cleaned outcome.phone ≠ none)
    (hcategory : outcome.outcome = .refusals ∨ outcome.outcome = .noAnswer) :
    (book.recordShipmentOutcome directory outcome).Normalised directory ∧
      (book.recordShipmentOutcome directory outcome).shipmentOutcomes =
        book.shipmentOutcomes + 1 := by
  obtain ⟨storeId, hstoreId⟩ := Option.isSome_iff_exists.1 hstore
  obtain ⟨raw, hraw⟩ := Option.ne_none_iff_exists'.1 hphone
  rw [recordShipmentOutcome, hstoreId]
  dsimp only
  generalize hparams : ({ phone := outcome.phone, name := some outcome.name } : CustomerParams) =
    params
  have hnumber : cleaned params.phone = some raw := hparams ▸ hraw
  obtain ⟨phone, hupsert, hidentity⟩ :=
    @Normalised.upsertCustomer directory book hlawful h storeId raw params hnumber
  obtain ⟨hnormal, hsame, hfound⟩ := h.saveCustomer params hidentity
  rw [hupsert]
  refine ⟨hnormal.incrementRiskCounter storeId phone _, ?_⟩
  rw [incrementRiskCounter_total hnormal.nodup hfound hcategory, hsame]

end CustomerBook

end Zomaal
