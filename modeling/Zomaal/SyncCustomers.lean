/-
**Resolving the customers of a page again.**

A retry of a page resolves its customers a second time, up to the order where the attempt before it
stopped.  It finds the same customers, not blacklisted unless they were, and changes only what is
known of the people.

Main results:

* `resolveCustomers_again` — **customers who were resolved, up to some order, are resolved again**.
-/

import Zomaal.SyncPages

set_option autoImplicit false

namespace Zomaal

/-! ### Resolving customers again -/

namespace SyncEnvironment

variable (env : SyncEnvironment)

variable (incoming : NormalizedEcommerceOrder)

def identify : Option PhoneIdentity :=
  env.directory.identify env.storeId incoming.customerPhone

def Known (book : CustomerBook) : Prop :=
  ∀ identity, env.identify incoming = some identity →
    Settled env.directory env.storeId identity book.keys

def flag (identity : PhoneIdentity) (book : CustomerBook) : Option Bool :=
  (KeyedRows.lookup Customer.key (env.storeId, identity.phone) book.customers).map
    Customer.isBlacklisted

def customerRead (book : CustomerBook) : String × Option OrderCustomer :=
  (incoming.externalOrderId, (env.identify incoming).bind fun identity =>
    (env.flag identity book).map fun isBlacklisted => { phone := identity.phone, isBlacklisted })

def Resolved (entry : String × Option OrderCustomer) (book : CustomerBook) : Prop :=
  env.Known incoming book ∧ env.customerRead incoming book = entry

end SyncEnvironment

section Resolve

variable {env : SyncEnvironment} {incoming : NormalizedEcommerceOrder} {book book' : CustomerBook}

theorem flag_bare (identity : PhoneIdentity) (book : CustomerBook) :
    env.flag identity book.bare = env.flag identity book := by
  have hlookup : KeyedRows.lookup Customer.key (env.storeId, identity.phone)
      (book.customers.map Customer.bare) =
        (KeyedRows.lookup Customer.key (env.storeId, identity.phone) book.customers).map
          Customer.bare := KeyedRows.lookup_map Customer.key (fun _ => rfl) _ _
  rw [SyncEnvironment.flag, CustomerBook.bare, hlookup, Option.map_map]
  rfl

theorem keys_bare (book : CustomerBook) : book.bare.keys = book.keys := by
  rw [CustomerBook.keys, CustomerBook.bare, List.map_map]
  rfl

theorem customerRead_of_bare (h : book.bare = book'.bare) :
    env.customerRead incoming book = env.customerRead incoming book' := by
  have hflag : ∀ identity, env.flag identity book = env.flag identity book' := fun identity => by
    rw [← flag_bare, h, flag_bare]
  simp only [SyncEnvironment.customerRead, hflag]

theorem resolveCustomer_eq (env : SyncEnvironment) (incoming : NormalizedEcommerceOrder)
    (book : CustomerBook) :
    env.resolveCustomer incoming book =
      match book.upsertCustomer env.directory env.storeId incoming.customerParams with
      | .error error => (.error error, book)
      | .ok answer =>
        let resolved := (answer.map Prod.snd).getD book
        (.ok (env.customerRead incoming resolved), resolved) := by
  rw [SyncEnvironment.resolveCustomer]
  cases hupsert : book.upsertCustomer env.directory env.storeId incoming.customerParams with
  | error error => rfl
  | ok answer =>
    cases answer with
    | none =>
      have hnone : env.identify incoming = none :=
        CustomerBook.upsertCustomer_none_iff.1 hupsert
      simp only [SyncEnvironment.customerRead, hnone]
      rfl
    | some answer =>
      obtain ⟨phone, resolved⟩ := answer
      obtain ⟨identity, hidentity, rfl, -⟩ := CustomerBook.upsertCustomer_cases hupsert
      have hsome : env.identify incoming = some identity := hidentity
      simp only [SyncEnvironment.customerRead, hsome, Option.map_some, Option.getD_some,
        Option.bind_some, SyncEnvironment.flag, Option.map_map]
      rfl

variable {entry : String × Option OrderCustomer}

theorem resolveCustomer_resolved (h : env.resolveCustomer incoming book = (.ok entry, book')) :
    env.Resolved incoming entry book' := by
  rw [resolveCustomer_eq] at h
  cases hupsert : book.upsertCustomer env.directory env.storeId incoming.customerParams with
  | error error =>
    rw [hupsert] at h
    cases h
  | ok answer =>
    rw [hupsert] at h
    obtain ⟨hentry, rfl⟩ := Prod.mk.inj h
    refine ⟨fun identity hidentity => ?_, Except.ok.inj hentry⟩
    cases answer with
    | none =>
      have hnone : env.identify incoming = none :=
        CustomerBook.upsertCustomer_none_iff.1 hupsert
      rw [hnone] at hidentity
      cases hidentity
    | some answer =>
      have hmine : env.directory.identify env.storeId incoming.customerParams.phone =
          some identity := hidentity
      exact (Settled.of_upsertCustomer hmine hupsert).2

theorem resolved_keeps (hlawful : env.directory.Lawful) (other : NormalizedEcommerceOrder) :
    Command.Keeps (env.Resolved incoming entry) (env.resolveCustomer other) := by
  intro book h
  rw [Command.final, resolveCustomer_eq]
  cases hupsert : book.upsertCustomer env.directory env.storeId other.customerParams with
  | error error => exact h
  | ok answer =>
    cases answer with
    | none => exact h
    | some answer =>
      obtain ⟨phone, resolved⟩ := answer
      obtain ⟨hknown, rfl⟩ := h
      have hkeeps := fun identity (hidentity : env.identify incoming = some identity) =>
        (hknown identity hidentity).keeps hlawful hidentity hupsert
      refine ⟨fun identity hidentity => (hkeeps identity hidentity).1, ?_⟩
      rw [SyncEnvironment.customerRead, SyncEnvironment.customerRead]
      cases hidentity : env.identify incoming with
      | none => rfl
      | some identity =>
        rw [Option.bind_some, Option.bind_some, SyncEnvironment.flag,
          SyncEnvironment.flag]
        exact congrArg (fun flag => (incoming.externalOrderId, Option.map _ flag))
          (hkeeps identity hidentity).2

/-- **A settled customer is found again**, and only what is known of the person changes. -/
theorem resolveCustomer_known (h : env.Known incoming book) :
    ∃ book', env.resolveCustomer incoming book = (.ok (env.customerRead incoming book), book') ∧
      book'.bare = book.bare := by
  rw [resolveCustomer_eq]
  cases hidentity : env.identify incoming with
  | none =>
    have hnone : book.upsertCustomer env.directory env.storeId incoming.customerParams =
        .ok none := CustomerBook.upsertCustomer_none_iff.2 hidentity
    rw [hnone]
    exact ⟨book, rfl, rfl⟩
  | some identity =>
    have hbare : (book.updateCustomer env.storeId identity.phone
        incoming.customerParams.metadata).bare = book.bare :=
      book.updateCustomer_bare_hidden _ fun _ => rfl
    have hmine : env.directory.identify env.storeId incoming.customerParams.phone =
        some identity := hidentity
    rw [(h identity hidentity).upsertCustomer hmine]
    exact ⟨_, congrArg (fun entry => (Except.ok entry, _)) (customerRead_of_bare hbare), hbare⟩

/-- Two results are the same, but for what is known of the people. -/
def Alike {α : Type} (r r' : Except CustomerError α × CustomerBook) : Prop :=
  r.1 = r'.1 ∧ r.2.bare = r'.2.bare

theorem resolveCustomer_alike (h : book.bare = book'.bare) :
    Alike (env.resolveCustomer incoming book) (env.resolveCustomer incoming book') := by
  have hbare := fun book : CustomerBook =>
    @CustomerBook.upsertCustomer_bare env.directory env.storeId book incoming.customerParams
  have hupsert := hbare book
  rw [h, ← hbare book'] at hupsert
  rw [resolveCustomer_eq, resolveCustomer_eq]
  rcases hone : book.upsertCustomer env.directory env.storeId incoming.customerParams with
    error | answer
  · rcases hother : book'.upsertCustomer env.directory env.storeId incoming.customerParams with
      error' | answer'
    · rw [hone, hother] at hupsert
      obtain rfl : error = error' := Except.error.inj hupsert
      exact ⟨rfl, h⟩
    · rw [hone, hother] at hupsert
      cases hupsert
  · rcases hother : book'.upsertCustomer env.directory env.storeId incoming.customerParams with
      error' | answer'
    · rw [hone, hother] at hupsert
      cases hupsert
    · rw [hone, hother] at hupsert
      have hanswer : answer.map (Prod.map id CustomerBook.bare) =
          answer'.map (Prod.map id CustomerBook.bare) := Except.ok.inj hupsert
      have hleft : ((answer.map Prod.snd).getD book).bare =
          ((answer'.map Prod.snd).getD book').bare := by
        cases answer with
        | none =>
          cases answer' with
          | none => exact h
          | some answer' => cases hanswer
        | some answer =>
          cases answer' with
          | none => cases hanswer
          | some answer' => exact (Prod.mk.inj (Option.some.inj hanswer)).2
      exact ⟨congrArg Except.ok (customerRead_of_bare hleft), hleft⟩

theorem resolveCustomers_cons_ok (h : env.resolveCustomer incoming book = (.ok entry, book'))
    (orders : List NormalizedEcommerceOrder) :
    env.resolveCustomers (incoming :: orders) book =
      ((env.resolveCustomers orders book').1.map (entry :: ·),
        (env.resolveCustomers orders book').2) := by
  rw [SyncEnvironment.resolveCustomers, SyncEnvironment.resolveCustomers, Command.mapEach,
    Command.bind_of_ok h]
  rcases hrest : Command.mapEach orders env.resolveCustomer book' with ⟨error | entries, rest⟩
  · rw [Command.bind_of_error hrest]
    rfl
  · rw [Command.bind_of_ok hrest]
    rfl

theorem resolveCustomers_cons_error {error : CustomerError}
    (h : env.resolveCustomer incoming book = (.error error, book'))
    (orders : List NormalizedEcommerceOrder) :
    env.resolveCustomers (incoming :: orders) book = (.error error, book') := by
  rw [SyncEnvironment.resolveCustomers, Command.mapEach, Command.bind_of_error h]

theorem resolveCustomers_alike (orders : List NormalizedEcommerceOrder)
    (h : book.bare = book'.bare) :
    Alike (env.resolveCustomers orders book) (env.resolveCustomers orders book') := by
  induction orders generalizing book book' with
  | nil => exact ⟨rfl, h⟩
  | cons incoming orders ih =>
    obtain ⟨hanswer, hleft⟩ := @resolveCustomer_alike env incoming book book' h
    rcases hone : env.resolveCustomer incoming book with ⟨error | entry, next⟩
    · rcases hother : env.resolveCustomer incoming book' with ⟨error' | entry', next'⟩
      · rw [hone, hother] at hanswer hleft
        rw [resolveCustomers_cons_error hone, resolveCustomers_cons_error hother]
        obtain rfl : error = error' := by simpa using hanswer
        exact ⟨rfl, hleft⟩
      · rw [hone, hother] at hanswer
        cases hanswer
    · rcases hother : env.resolveCustomer incoming book' with ⟨error' | entry', next'⟩
      · rw [hone, hother] at hanswer
        cases hanswer
      · rw [hone, hother] at hanswer hleft
        obtain ⟨hrest, hend⟩ := ih hleft
        rw [resolveCustomers_cons_ok hone, resolveCustomers_cons_ok hother]
        refine ⟨?_, hend⟩
        rw [hrest, Except.ok.inj hanswer]

/-- **The customers of a page that were resolved, up to some order, are resolved again.** -/
theorem resolveCustomers_again (hlawful : env.directory.Lawful)
    (orders : List NormalizedEcommerceOrder) (count : ℕ) (book : CustomerBook) :
    Alike (env.resolveCustomers orders
        ((env.resolveCustomers (orders.take count)).final book))
      (env.resolveCustomers orders book) := by
  induction orders generalizing count book with
  | nil =>
    rw [List.take_nil]
    exact ⟨rfl, rfl⟩
  | cons incoming orders ih =>
    cases count with
    | zero => exact ⟨rfl, rfl⟩
    | succ count =>
      rw [List.take_succ_cons, Command.final]
      rcases hone : env.resolveCustomer incoming book with ⟨error | entry, next⟩
      · have hleft : next = book := by
          rw [resolveCustomer_eq] at hone
          split at hone
          · exact (Prod.mk.inj hone).2.symm
          · cases hone
        rw [resolveCustomers_cons_error hone, hleft]
        exact ⟨rfl, rfl⟩
      · rw [resolveCustomers_cons_ok hone]
        have hstill : env.Resolved incoming entry
            ((env.resolveCustomers (orders.take count)).final next) :=
          Command.Keeps.mapEach (fun other _ => resolved_keeps hlawful other) next
            (resolveCustomer_resolved hone)
        obtain ⟨again, hagain, hbare⟩ := resolveCustomer_known hstill.1
        rw [hstill.2] at hagain
        rw [Command.final] at hagain hbare
        obtain ⟨hrest, hend⟩ := @resolveCustomers_alike env _ _ orders hbare
        obtain ⟨hrest', hend'⟩ := ih count next
        rw [resolveCustomers_cons_ok hagain, resolveCustomers_cons_ok hone]
        exact ⟨congrArg (Except.map (entry :: ·)) (hrest.trans hrest'), hend.trans hend'⟩

theorem known_of_resolved (hlawful : env.directory.Lawful)
    {orders : List NormalizedEcommerceOrder} {entries : List (String × Option OrderCustomer)}
    (h : env.resolveCustomers orders book = (.ok entries, book'))
    (hincoming : incoming ∈ orders) : env.Known incoming book' := by
  obtain ⟨before, after, rfl⟩ := List.append_of_mem hincoming
  obtain ⟨-, entry, later, start, next, -, hone, hrest⟩ := Command.mapEach_split h
  have hkeeps : Command.Keeps (env.Resolved incoming entry)
      (Command.mapEach after env.resolveCustomer) :=
    Command.Keeps.mapEach fun other _ => resolved_keeps hlawful other
  have hlast := hkeeps next (resolveCustomer_resolved hone)
  rw [Command.final, hrest] at hlast
  exact hlast.1

theorem resolveCustomers_known {orders : List NormalizedEcommerceOrder}
    (h : ∀ other ∈ orders, env.Known other book) :
    ∃ entries book', env.resolveCustomers orders book = (.ok entries, book') ∧
      book'.bare = book.bare := by
  induction orders generalizing book with
  | nil => exact ⟨[], book, rfl, rfl⟩
  | cons incoming orders ih =>
    obtain ⟨next, hone, hbare⟩ := resolveCustomer_known (h incoming (List.mem_cons_self ..))
    have hkeys : next.keys = book.keys := by rw [← keys_bare, hbare, keys_bare]
    have hrest : ∀ other ∈ orders, env.Known other next := fun other hother => by
      have hknown := h other (List.mem_cons_of_mem _ hother)
      rw [SyncEnvironment.Known, ← hkeys] at hknown
      exact hknown
    obtain ⟨entries, last, hlast, hend⟩ := ih hrest
    rw [resolveCustomers_cons_ok hone, hlast]
    exact ⟨_, last, rfl, hend.trans hbare⟩

end Resolve

end Zomaal
