/-
**Asking for the same customer again.**

`CustomerRiskService.upsertCustomer` finds a customer by a phone number in whatever format, creates
the customer if there is none, and normalises a number that was stored in an old format.

Main results:

* `CustomerBook.upsertCustomer_cases` — what `upsertCustomer` can do;
* `Settled.upsertCustomer`, `Settled.keeps` — **a customer who was asked for is settled, and stays
  so**.
-/

import Zomaal.CustomerRisk

set_option autoImplicit false

namespace Zomaal

/-! ### Phone numbers and their rows -/

def CustomerDirectory.identify (directory : CustomerDirectory) (storeId : String)
    (phone : Option String) : Option PhoneIdentity :=
  (cleaned phone).bind (directory.customerPhoneIdentity storeId)

def CustomerDirectory.standsFor (directory : CustomerDirectory) (storeId : String)
    (identity : PhoneIdentity) (key : String × String) : Bool :=
  key.1 = storeId && digitsOf key.2 ∈ identity.digitAliases &&
    (directory.customerPhoneIdentity storeId key.2).any fun other => other.phone = identity.phone

def CustomerBook.keys (book : CustomerBook) : List (String × String) :=
  book.customers.map Customer.key

/-- **An identity is settled**: it has its row, and no other row can be taken for it. -/
structure Settled (directory : CustomerDirectory) (storeId : String) (identity : PhoneIdentity)
    (keys : List (String × String)) : Prop where
  known : (storeId, identity.phone) ∈ keys
  alone : keys.filter (directory.standsFor storeId identity) = [] ∨
    keys.filter (directory.standsFor storeId identity) = [(storeId, identity.phone)]

section Identity

variable {directory : CustomerDirectory} {storeId : String} {identity : PhoneIdentity}

variable (book : CustomerBook)

theorem CustomerBook.keys_equivalents (directory : CustomerDirectory) (storeId : String)
    (identity : PhoneIdentity) :
    (book.equivalents directory storeId identity).map Customer.key =
      book.keys.filter (directory.standsFor storeId identity) := by
  rw [CustomerBook.keys, List.filter_map]
  rfl

theorem CustomerDirectory.standsFor_phone {key : String × String}
    (h : directory.standsFor storeId identity key = true) :
    key.1 = storeId ∧ ∃ other, directory.customerPhoneIdentity storeId key.2 = some other ∧
      other.phone = identity.phone := by
  rw [CustomerDirectory.standsFor, Bool.and_eq_true, Bool.and_eq_true, decide_eq_true_eq] at h
  obtain ⟨⟨hstore, -⟩, hany⟩ := h
  obtain ⟨other, hother, hphone⟩ := (Option.any_eq_true _ _).1 hany
  exact ⟨hstore, other, hother, of_decide_eq_true hphone⟩

theorem CustomerDirectory.Lawful.identify (hlawful : directory.Lawful) {phone : Option String}
    (h : directory.identify storeId phone = some identity) :
    ∃ again, directory.customerPhoneIdentity storeId identity.phone = some again ∧
      again.phone = identity.phone := by
  obtain ⟨raw, -, hraw⟩ := Option.bind_eq_some_iff.1 h
  exact hlawful.normalised storeId raw identity hraw

theorem CustomerDirectory.Lawful.standsFor_ne (hlawful : directory.Lawful) {phone : Option String}
    {other : PhoneIdentity} (hother : directory.identify storeId phone = some other)
    (hne : other.phone ≠ identity.phone) :
    directory.standsFor storeId identity (storeId, other.phone) = false := by
  cases hstands : directory.standsFor storeId identity (storeId, other.phone) with
  | false => rfl
  | true =>
    obtain ⟨-, own, hown, hphone⟩ := directory.standsFor_phone hstands
    obtain ⟨again, hagain, hsame⟩ := hlawful.identify hother
    obtain rfl : again = own := Option.some.inj (hagain.symm.trans hown)
    exact absurd (hsame.symm.trans hphone) hne

/-! ### What asking for a customer can do -/

theorem CustomerBook.lookup_isSome_iff {book : CustomerBook} {key : String × String} :
    (KeyedRows.lookup Customer.key key book.customers).isSome = true ↔ key ∈ book.keys := by
  rw [Option.isSome_iff_exists]
  constructor
  · rintro ⟨row, hrow⟩
    obtain ⟨hmem, hkey⟩ := KeyedRows.lookup_some Customer.key hrow
    exact List.mem_map.2 ⟨row, hmem, hkey⟩
  · intro hmem
    obtain ⟨row, hrow, hkey⟩ := List.mem_map.1 hmem
    refine Option.ne_none_iff_exists'.1 fun hnone => ?_
    exact (KeyedRows.lookup_none Customer.key).1 hnone row hrow hkey

theorem CustomerBook.keys_updateCustomer (phone : String) {change : Customer → Customer}
    (hkey : ∀ row, (change row).key = row.key) :
    (book.updateCustomer storeId phone change).keys = book.keys :=
  KeyedRows.map_key_change Customer.key hkey book.customers

def renamed (storeId old phone : String) (key : String × String) : String × String :=
  if key = (storeId, old) then (storeId, phone) else key

theorem CustomerBook.keys_rename (params : CustomerParams) (old phone : String) :
    (book.updateCustomer storeId old fun row => params.metadata { row with phone }).keys =
      book.keys.map (renamed storeId old phone) := by
  rw [CustomerBook.keys, CustomerBook.keys, CustomerBook.updateCustomer, KeyedRows.change,
    List.map_map, List.map_map]
  refine List.map_congr_left fun row _ => ?_
  rw [Function.comp_apply, Function.comp_apply, renamed]
  split
  · rename_i hkey
    exact Prod.ext (Prod.mk.inj hkey).1 rfl
  · rfl

end Identity

namespace CustomerBook

variable {directory : CustomerDirectory} {book book' : CustomerBook} {storeId phone : String}
  {params : CustomerParams}

/-- **What `upsertCustomer` can do**: update the row of a settled identity, add it, or normalise the
number of the one row that stands for it. -/
theorem upsertCustomer_cases
    (h : book.upsertCustomer directory storeId params = .ok (some (phone, book'))) :
    ∃ identity, directory.identify storeId params.phone = some identity ∧
      phone = identity.phone ∧
      ((Settled directory storeId identity book.keys ∧
          book' = book.updateCustomer storeId phone params.metadata) ∨
        (book.keys.filter (directory.standsFor storeId identity) = [] ∧
          (storeId, phone) ∉ book.keys ∧
          book' = { book with
            customers := book.customers ++ [params.metadata { storeId, phone }] }) ∨
        ∃ old, book.keys.filter (directory.standsFor storeId identity) = [(storeId, old)] ∧
          (storeId, phone) ∉ book.keys ∧
          book' = book.updateCustomer storeId old fun row =>
            params.metadata { row with phone }) := by
  rw [upsertCustomer] at h
  cases hraw : cleaned params.phone with
  | none =>
    rw [hraw] at h
    cases h
  | some raw =>
    cases hidentity : directory.customerPhoneIdentity storeId raw with
    | none =>
      rw [hraw] at h
      simp only [hidentity] at h
      cases h
    | some identity =>
      rw [hraw] at h
      simp only [hidentity] at h
      refine ⟨identity, by rw [CustomerDirectory.identify, hraw]; exact hidentity, ?_⟩
      have hfilter := book.keys_equivalents directory storeId identity
      cases hrows : book.equivalents directory storeId identity with
      | nil =>
        rw [hrows] at h hfilter
        obtain ⟨rfl, rfl⟩ := Prod.mk.inj (Option.some.inj (Except.ok.inj h))
        refine ⟨rfl, ?_⟩
        rw [saveCustomer]
        split
        · exact Or.inl ⟨⟨lookup_isSome_iff.1 ‹_›, Or.inl hfilter.symm⟩, rfl⟩
        · exact Or.inr (Or.inl ⟨hfilter.symm, mt lookup_isSome_iff.2 ‹_›, rfl⟩)
      | cons customer rest =>
        cases rest with
        | cons => simp only [hrows] at h; cases h
        | nil =>
          have hmem : customer ∈ book.equivalents directory storeId identity := by
            rw [hrows]
            exact List.mem_cons_self ..
          obtain ⟨hcustomer, hsel⟩ := List.mem_filter.1 hmem
          have hstands : directory.standsFor storeId identity customer.key = true := hsel
          have hstore : customer.storeId = storeId := (directory.standsFor_phone hstands).1
          have hkey : customer.key = (storeId, customer.phone) := Prod.ext hstore rfl
          rw [hrows, List.map_singleton, hkey] at hfilter
          simp only [hrows] at h
          split at h
          · rename_i hsame
            obtain ⟨rfl, rfl⟩ := Prod.mk.inj (Option.some.inj (Except.ok.inj h))
            have hknown : (storeId, identity.phone) ∈ book.keys := by
              rw [← hsame, ← hkey]
              exact List.mem_map_of_mem hcustomer
            refine ⟨rfl, Or.inl ⟨⟨hknown, Or.inr (hsame ▸ hfilter.symm)⟩, ?_⟩⟩
            rw [saveCustomer, if_pos (lookup_isSome_iff.2 hknown)]
          · split at h
            · cases h
            · obtain ⟨rfl, rfl⟩ := Prod.mk.inj (Option.some.inj (Except.ok.inj h))
              exact ⟨rfl, Or.inr (Or.inr ⟨customer.phone, hfilter.symm,
                mt lookup_isSome_iff.2 ‹_›, rfl⟩)⟩

theorem upsertCustomer_none_iff :
    book.upsertCustomer directory storeId params = .ok none ↔
      directory.identify storeId params.phone = none := by
  rw [upsertCustomer, CustomerDirectory.identify]
  cases cleaned params.phone with
  | none => exact ⟨fun _ => rfl, fun _ => rfl⟩
  | some raw =>
    rw [Option.bind_some]
    cases hidentity : directory.customerPhoneIdentity storeId raw with
    | none => simp only [hidentity]
    | some identity =>
      simp only [hidentity, reduceCtorEq, iff_false]
      intro h
      split at h
      · cases h
      · split at h
        · cases h
        · split at h <;> cases h
      · cases h

end CustomerBook

/-! ### Asking again -/

namespace Settled

variable {directory : CustomerDirectory} {storeId : String} {identity : PhoneIdentity}

variable {params : CustomerParams}

/-- **A settled identity**: its row is updated. -/
theorem upsertCustomer {book : CustomerBook} (h : Settled directory storeId identity book.keys)
    (hmine : directory.identify storeId params.phone = some identity) :
    book.upsertCustomer directory storeId params =
      .ok (some (identity.phone, book.updateCustomer storeId identity.phone params.metadata)) := by
  have hsave : book.saveCustomer storeId identity.phone params =
      book.updateCustomer storeId identity.phone params.metadata := by
    rw [CustomerBook.saveCustomer, if_pos (CustomerBook.lookup_isSome_iff.2 h.known)]
  have hkeys := book.keys_equivalents directory storeId identity
  obtain ⟨raw, hraw, hidentity⟩ := Option.bind_eq_some_iff.1 hmine
  rw [CustomerBook.upsertCustomer, hraw]
  simp only [hidentity]
  rcases h.alone with hnone | hone
  · rw [hnone, List.map_eq_nil_iff] at hkeys
    simp only [hkeys, hsave]
  · rw [hone] at hkeys
    obtain ⟨customer, hrows, hkey⟩ := List.map_eq_singleton_iff.1 hkeys
    simp only [hrows, if_pos (Prod.mk.inj hkey).2, hsave]

theorem of_upsertCustomer {book book' : CustomerBook} {phone : String}
    (hmine : directory.identify storeId params.phone = some identity)
    (h : book.upsertCustomer directory storeId params = .ok (some (phone, book'))) :
    phone = identity.phone ∧ Settled directory storeId identity book'.keys := by
  obtain ⟨identity', hidentity', rfl, hcases⟩ := CustomerBook.upsertCustomer_cases h
  obtain rfl : identity' = identity := Option.some.inj (hidentity'.symm.trans hmine)
  refine ⟨rfl, ?_⟩
  rcases hcases with ⟨hsettled, rfl⟩ | ⟨hnone, -, rfl⟩ | ⟨old, hone, -, rfl⟩
  · rw [book.keys_updateCustomer _ params.metadata_key]
    exact hsettled
  · rw [CustomerBook.keys, List.map_append, List.map_singleton]
    refine ⟨List.mem_append_right _ (List.mem_singleton_self _), ?_⟩
    rw [List.filter_append]
    change _ ++ [(storeId, identity'.phone)].filter _ = [] ∨
      _ ++ [(storeId, identity'.phone)].filter _ = _
    rw [CustomerBook.keys] at hnone
    rw [hnone, List.nil_append]
    cases hstands : directory.standsFor storeId identity' (storeId, identity'.phone)
    · exact Or.inl (by rw [List.filter_cons_of_neg (by rw [hstands]; decide), List.filter_nil])
    · exact Or.inr (by rw [List.filter_cons_of_pos hstands, List.filter_nil])
  · have hold : directory.standsFor storeId identity' (storeId, old) = true :=
      (List.mem_filter.1 (hone ▸ List.mem_singleton_self (storeId, old))).2
    have holdmem : (storeId, old) ∈ book.keys :=
      (List.mem_filter.1 (hone ▸ List.mem_singleton_self (storeId, old))).1
    have hnew : renamed storeId old identity'.phone (storeId, old) = (storeId, identity'.phone) :=
      if_pos rfl
    rw [book.keys_rename]
    refine ⟨List.mem_map.2 ⟨_, holdmem, hnew⟩, ?_⟩
    -- a row that may stand for the identity afterwards did so before
    have hsub : (book.keys.filter (directory.standsFor storeId identity' ∘
        renamed storeId old identity'.phone)).Sublist [(storeId, old)] := by
      rw [← hone]
      refine List.monotone_filter_right _ fun key hkey => ?_
      rw [Function.comp_apply, renamed] at hkey
      split at hkey
      · rename_i heq
        rw [heq, hold]
      · exact hkey
    rw [List.filter_map]
    rcases List.sublist_singleton.1 hsub with hempty | hsame
    · exact Or.inl (by rw [hempty, List.map_nil])
    · exact Or.inr (by rw [hsame, List.map_singleton, hnew])

theorem keeps (hlawful : directory.Lawful) {book book' : CustomerBook} {mine : Option String}
    (hmine : directory.identify storeId mine = some identity)
    (h : Settled directory storeId identity book.keys) {phone : String}
    (hok : book.upsertCustomer directory storeId params = .ok (some (phone, book'))) :
    Settled directory storeId identity book'.keys ∧
      (KeyedRows.lookup Customer.key (storeId, identity.phone) book'.customers).map
          Customer.isBlacklisted =
        (KeyedRows.lookup Customer.key (storeId, identity.phone) book.customers).map
          Customer.isBlacklisted := by
  obtain ⟨other, hother, rfl, hcases⟩ := CustomerBook.upsertCustomer_cases hok
  rcases hcases with ⟨-, rfl⟩ | ⟨-, hfresh, rfl⟩ | ⟨old, hone, hfresh, rfl⟩
  · rw [book.keys_updateCustomer _ params.metadata_key]
    refine ⟨h, ?_⟩
    rw [CustomerBook.updateCustomer, KeyedRows.lookup_change Customer.key params.metadata_key,
      Option.map_map]
    refine Option.map_congr fun row _ => ?_
    rw [Function.comp_apply]
    split <;> rfl
  · have hne : other.phone ≠ identity.phone := fun heq => hfresh (heq ▸ h.known)
    refine ⟨⟨?_, ?_⟩, ?_⟩
    · rw [CustomerBook.keys, List.map_append]
      exact List.mem_append_left _ h.known
    · rw [CustomerBook.keys, List.map_append, List.map_singleton, List.filter_append]
      change _ ++ [(storeId, other.phone)].filter _ = [] ∨
        _ ++ [(storeId, other.phone)].filter _ = _
      rw [List.filter_cons_of_neg (by rw [hlawful.standsFor_ne hother hne]; decide),
        List.filter_nil, List.append_nil]
      exact h.alone
    · obtain ⟨row, hrow⟩ := Option.isSome_iff_exists.1 (CustomerBook.lookup_isSome_iff.2 h.known)
      rw [KeyedRows.lookup] at hrow
      rw [KeyedRows.lookup, KeyedRows.lookup, List.find?_append, hrow]
      rfl
  · have hne : other.phone ≠ identity.phone := fun heq => hfresh (heq ▸ h.known)
    have hold : directory.standsFor storeId other (storeId, old) = true :=
      (List.mem_filter.1 (hone ▸ List.mem_singleton_self (storeId, old))).2
    obtain ⟨-, own, hown, hphone⟩ := directory.standsFor_phone hold
    -- neither the old number nor the new one stands for the settled identity
    have hnotold : directory.standsFor storeId identity (storeId, old) = false := by
      cases hstands : directory.standsFor storeId identity (storeId, old) with
      | false => rfl
      | true =>
        obtain ⟨-, again, hagain, hsame⟩ := directory.standsFor_phone hstands
        obtain rfl : own = again := Option.some.inj (hown.symm.trans hagain)
        exact absurd (hphone.symm.trans hsame) hne
    have hneold : (storeId, old) ≠ (storeId, identity.phone) := by
      intro heq
      obtain ⟨again, hagain, hsame⟩ := hlawful.identify hmine
      rw [(Prod.mk.inj heq).2] at hown
      obtain rfl : own = again := Option.some.inj (hown.symm.trans hagain)
      exact hne (hphone.symm.trans hsame)
    have hfixed : renamed storeId old other.phone (storeId, identity.phone) =
        (storeId, identity.phone) := if_neg hneold.symm
    have hsame : (book.keys.map (renamed storeId old other.phone)).filter
        (directory.standsFor storeId identity) =
          book.keys.filter (directory.standsFor storeId identity) := by
      generalize book.keys = keys
      induction keys with
      | nil => rfl
      | cons key keys ih =>
        rw [List.map_cons]
        by_cases hkey : key = (storeId, old)
        · rw [renamed, if_pos hkey, hkey,
            List.filter_cons_of_neg (by rw [hlawful.standsFor_ne hother hne]; decide),
            List.filter_cons_of_neg (by rw [hnotold]; decide), ih]
        · rw [renamed, if_neg hkey]
          cases hstands : directory.standsFor storeId identity key with
          | true => rw [List.filter_cons_of_pos hstands, List.filter_cons_of_pos hstands, ih]
          | false =>
            rw [List.filter_cons_of_neg (by rw [hstands]; decide),
              List.filter_cons_of_neg (by rw [hstands]; decide), ih]
    rw [book.keys_rename]
    refine ⟨⟨List.mem_map.2 ⟨_, h.known, hfixed⟩, hsame ▸ h.alone⟩, ?_⟩
    rw [CustomerBook.updateCustomer,
      KeyedRows.lookup_change_apart Customer.key hneold fun row heq => hne (Prod.mk.inj heq).2]

end Settled

/-! ### What is known of the people -/

def Customer.bare (customer : Customer) : Customer :=
  { customer with name := none, address := none, city := none }

namespace CustomerBook

variable {directory : CustomerDirectory} {storeId : String}

variable (book : CustomerBook)

def bare : CustomerBook :=
  { book with customers := book.customers.map Customer.bare }

theorem equivalents_bare (identity : PhoneIdentity) :
    book.bare.equivalents directory storeId identity =
      (book.equivalents directory storeId identity).map Customer.bare := by
  rw [equivalents, bare, List.filter_map]
  rfl

theorem updateCustomer_bare (phone : String) {change change' : Customer → Customer}
    (hbare : ∀ row : Customer, (change row).bare = change' row.bare) :
    (book.updateCustomer storeId phone change).bare =
      book.bare.updateCustomer storeId phone change' := by
  have hchange : (KeyedRows.change Customer.key (storeId, phone) change book.customers).map
      Customer.bare = KeyedRows.change Customer.key (storeId, phone) change'
        (book.customers.map Customer.bare) :=
    KeyedRows.map_change Customer.key (fun _ => rfl) _ hbare _
  exact congrArg (fun rows => { book with customers := rows }) hchange

theorem updateCustomer_bare_hidden (phone : String) {change : Customer → Customer}
    (hbare : ∀ row : Customer, (change row).bare = row.bare) :
    (book.updateCustomer storeId phone change).bare = book.bare := by
  have hchange : (KeyedRows.change Customer.key (storeId, phone) change book.customers).map
      Customer.bare = book.customers.map Customer.bare :=
    KeyedRows.map_change_hidden _ (fun row _ => hbare row) _
  exact congrArg (fun rows => { book with customers := rows }) hchange

theorem lookup_bare_isSome (key : String × String) :
    (KeyedRows.lookup Customer.key key book.bare.customers).isSome =
      (KeyedRows.lookup Customer.key key book.customers).isSome := by
  have hlookup : KeyedRows.lookup Customer.key key (book.customers.map Customer.bare) =
      (KeyedRows.lookup Customer.key key book.customers).map Customer.bare :=
    KeyedRows.lookup_map Customer.key (fun _ => rfl) _ _
  rw [bare, hlookup, Option.isSome_map]

theorem saveCustomer_bare (phone : String) (params : CustomerParams) :
    (book.saveCustomer storeId phone params).bare =
      book.bare.saveCustomer storeId phone { phone := params.phone } := by
  rw [saveCustomer, saveCustomer, lookup_bare_isSome]
  split
  · exact book.updateCustomer_bare phone fun _ => rfl
  · rw [bare, List.map_append]
    rfl

theorem upsertCustomer_bare (params : CustomerParams) :
    (book.upsertCustomer directory storeId params).map (Option.map (Prod.map id bare)) =
      book.bare.upsertCustomer directory storeId { phone := params.phone } := by
  rw [upsertCustomer, upsertCustomer]
  cases cleaned params.phone with
  | none => rfl
  | some raw =>
    dsimp only
    cases directory.customerPhoneIdentity storeId raw with
    | none => rfl
    | some identity =>
      dsimp only
      have hanswer : ∀ {saved saved' : CustomerBook}, saved.bare = saved' →
          (Except.ok (some (identity.phone, saved)) : Except CustomerError _).map
              (Option.map (Prod.map id bare)) = .ok (some (identity.phone, saved')) :=
        fun h => congrArg (fun saved => Except.ok (some (identity.phone, saved))) h
      rw [equivalents_bare]
      rcases book.equivalents directory storeId identity with _ | ⟨customer, _ | _⟩
      · exact hanswer (book.saveCustomer_bare identity.phone params)
      · rw [List.map_singleton]
        dsimp only
        rw [lookup_bare_isSome, show customer.bare.phone = customer.phone from rfl]
        split
        · exact hanswer (book.saveCustomer_bare identity.phone params)
        · split
          · rfl
          · exact hanswer (book.updateCustomer_bare customer.phone fun _ => rfl)
      · rfl

end CustomerBook

end Zomaal
