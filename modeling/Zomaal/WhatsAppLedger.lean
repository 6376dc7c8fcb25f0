/-
**The ledger of prepaid messages.**

That a message that was sent is paid exactly once, and that one that was not sent is not paid, holds
in every run in which no refund fails or is cut off, no stale row is recovered while a worker is
still at it, and no webhook reports a delivery over a failure that was written after it had read the
message.

Main results:

* `WhatsApp.prepaid_ledger` — **every message is paid exactly as it was sent**;
* `WhatsApp.prepaid_ledger_sent_unpaid` — what a slow worker does.
-/

import Zomaal.KeyFamilies
import Zomaal.MachineRun
import Zomaal.WhatsAppMessaging

set_option autoImplicit false

namespace Zomaal.WhatsApp

/-! ### Accounts -/

def outstandingCharges (entries : List WhatsAppBalanceEntry) : ℕ :=
  entries.foldl (fun n entry =>
    match entry.type with
    | .message => n + 1
    | .refund => 0
    | .topUp | .adjustment => n) 0

/-- A message, what its entries add up to, and how many of its charges are not refunded. -/
structure Account where
  row : WhatsAppMessage
  net : Decimal
  outstanding : ℕ

def WhatsAppDb.account (db : WhatsAppDb) (id : String) : Option Account :=
  (db.findMessage id).map fun row =>
    { row, net := db.net row.storeId id
      outstanding := outstandingCharges (db.entriesOf row.storeId id) }

def WhatsAppMessage.HasBeenSent (row : WhatsAppMessage) : Prop :=
  row.status = .sent ∨ row.status = .delivered ∨ row.status = .read ∨ row.status = .failed

/-- **What every account keeps**: at most one charge, none while the message waits or after it was
skipped, and exactly its cost once it was sent. -/
structure Account.Sound (a : Account) : Prop where
  charges : a.net = 0 ∧ a.outstanding = 0 ∨ a.net < 0 ∧ a.outstanding = 1
  unsent : a.row.status = .scheduled ∨ a.row.status = .skipped → a.net = 0
  sent : a.row.status = .sent ∨ a.row.status = .delivered ∨ a.row.status = .read →
    ∃ cost, a.row.cost = some cost ∧ a.net = -cost
  provider : a.row.providerMessageId.isSome → a.row.HasBeenSent

/-! ### The unique columns, the owners and the keys of the entries -/

/-- The key of an entry: nobody else's, and of a refund the number of entries it came after. -/
def WhatsAppBalanceEntry.KeyForm (db : WhatsAppDb) (entry : WhatsAppBalanceEntry) : Prop :=
  match entry.messageId with
  | none => Key.InFamily "admin:" entry.idempotencyKey
  | some id => Key.InFamily "message:" entry.idempotencyKey ∨
      ∃ n, entry.idempotencyKey = "refund:" ++ id ++ ":" ++ toString n ∧
        n < (db.entriesOf entry.storeId id).length

structure LedgerForm (db : WhatsAppDb) : Prop where
  ids : (db.messages.map (·.id)).Nodup
  prices : ∀ currency price, db.pricing currency = some price → 0 < price
  owned : ∀ entry ∈ db.entries, ∀ id, entry.messageId = some id →
    ∃ row, db.findMessage id = some row ∧ row.storeId = entry.storeId
  keys : ∀ entry ∈ db.entries, entry.KeyForm db

/-- One account becomes another one, and the others stay as they are. -/
structure Becomes (db db' : WhatsAppDb) (id : String) (a : Account) : Prop where
  form : LedgerForm db'
  self : db'.account id = some a
  others : ∀ other, other ≠ id → db'.account other = db.account other

namespace WhatsAppDb

variable {db db' : WhatsAppDb}

variable {a : Account} {id : String}

theorem account_some (h : db.account id = some a) :
    db.findMessage id = some a.row ∧ a.net = db.net a.row.storeId id ∧
      a.outstanding = outstandingCharges (db.entriesOf a.row.storeId id) := by
  obtain ⟨row, hrow, rfl⟩ := Option.map_eq_some_iff.1 h
  exact ⟨hrow, rfl, rfl⟩

/-! ### Changing a message -/

theorem updateMessage_becomes (h : LedgerForm db) (ha : db.account id = some a)
    (change : WhatsAppMessage → WhatsAppMessage) (hid : ∀ row, (change row).id = row.id)
    (hstore : ∀ row, (change row).storeId = row.storeId) :
    Becomes db (db.updateMessage id change) id { a with row := change a.row } := by
  obtain ⟨hrow, hnet, hout⟩ := account_some ha
  have hfind := fun other => findMessage_updateMessage db id other hid
  refine ⟨⟨?_, h.prices, fun entry hentry other hother => ?_, h.keys⟩, ?_, fun other hne => ?_⟩
  · exact (KeyedRows.map_key_change WhatsAppMessage.id hid db.messages).symm ▸ h.ids
  · obtain ⟨row, hfound, howner⟩ := h.owned entry hentry other hother
    rw [hfind, hfound, Option.map_some]
    refine ⟨_, rfl, ?_⟩
    split
    · rw [hstore, howner]
    · exact howner
  · rw [account, hfind, hrow, Option.map_some, if_pos rfl, Option.map_some, hnet, hout, hstore]
    rfl
  · rw [account, hfind]
    simp only [hne, if_false, Option.map_id']
    rfl

theorem updateWhere_becomes (h : LedgerForm db) (ha : db.account id = some a)
    {status : WhatsAppMessageStatus} {change : WhatsAppMessage → WhatsAppMessage}
    (hid : ∀ row, (change row).id = row.id) (hstore : ∀ row, (change row).storeId = row.storeId) :
    Becomes db (db.updateWhere id status change) id
      { a with row := if a.row.status = status then change a.row else a.row } := by
  refine updateMessage_becomes h ha _ (fun row => ?_) fun row => ?_
  · split
    · exact hid row
    · rfl
  · split
    · exact hstore row
    · rfl

/-! ### New entries -/

variable {entry : WhatsAppBalanceEntry}

theorem createEntry_ok (h : db.createEntry entry = .ok db') :
    db' = { db with entries := db.entries ++ [entry] } := by
  rw [createEntry] at h
  split at h
  · cases h
  · exact (Except.ok.inj h).symm

theorem entriesOf_concat (db : WhatsAppDb) (entry : WhatsAppBalanceEntry)
    (storeId id : String) :
    WhatsAppDb.entriesOf { db with entries := db.entries ++ [entry] } storeId id =
      db.entriesOf storeId id ++
        if entry.storeId = storeId ∧ entry.messageId = some id then [entry] else [] := by
  rw [entriesOf, List.filter_append]
  refine congrArg _ ?_
  rw [List.filter_cons]
  simp only [Bool.and_eq_true, decide_eq_true_eq, List.filter_nil]

theorem account_concat_of_ne (db : WhatsAppDb) (hne : entry.messageId ≠ some id) :
    WhatsAppDb.account { db with entries := db.entries ++ [entry] } id = db.account id := by
  have hsame : ∀ storeId, WhatsAppDb.entriesOf { db with entries := db.entries ++ [entry] }
      storeId id = db.entriesOf storeId id := by
    intro storeId
    rw [entriesOf_concat, if_neg fun heq => hne heq.2, List.append_nil]
  simp only [account, net, hsame]
  rfl

theorem form_concat (h : LedgerForm db) (howned : ∀ id, entry.messageId = some id →
      ∃ row, db.findMessage id = some row ∧ row.storeId = entry.storeId)
    (hkey : entry.KeyForm { db with entries := db.entries ++ [entry] }) :
    LedgerForm { db with entries := db.entries ++ [entry] } := by
  refine ⟨h.ids, h.prices, fun other hother id hid => ?_, fun other hother => ?_⟩
  · rcases Ledger.mem_concat.1 hother with hold | hnew
    · exact h.owned other hold id hid
    · rw [hnew] at hid ⊢
      exact howned id hid
  · rcases Ledger.mem_concat.1 hother with hold | hnew
    · have hform := h.keys other hold
      rw [WhatsAppBalanceEntry.KeyForm] at hform ⊢
      cases hid : other.messageId with
      | none => simpa [hid] using hform
      | some id =>
        rw [hid] at hform
        rcases hform with hmessage | ⟨n, hn, hlt⟩
        · exact Or.inl hmessage
        · refine Or.inr ⟨n, hn, ?_⟩
          rw [entriesOf_concat, List.length_append]
          exact Nat.lt_add_right _ hlt
    · exact hnew ▸ hkey

theorem concat_becomes (h : LedgerForm db) (ha : db.account id = some a)
    (entry : WhatsAppBalanceEntry) (hstore : entry.storeId = a.row.storeId)
    (hmessage : entry.messageId = some id)
    (hkey : entry.KeyForm { db with entries := db.entries ++ [entry] }) :
    Becomes db { db with entries := db.entries ++ [entry] } id
      { a with
        net := a.net + entry.amount
        outstanding := outstandingCharges (db.entriesOf a.row.storeId id ++ [entry]) } := by
  obtain ⟨hrow, hnet, _⟩ := account_some ha
  refine ⟨form_concat h (fun other hother => ?_) hkey, ?_, fun other hne => ?_⟩
  · obtain rfl := Option.some.inj (hmessage.symm.trans hother)
    exact ⟨a.row, hrow, hstore.symm⟩
  · have hentries : WhatsAppDb.entriesOf { db with entries := db.entries ++ [entry] }
        a.row.storeId id = db.entriesOf a.row.storeId id ++ [entry] := by
      rw [entriesOf_concat, if_pos ⟨hstore, hmessage⟩]
    have hfound : WhatsAppDb.findMessage { db with entries := db.entries ++ [entry] } id =
        some a.row := hrow
    rw [account, hfound, Option.map_some, net, hentries, hnet, net, List.map_append, List.sum_append,
      List.map_singleton, List.sum_singleton]
  · exact account_concat_of_ne db fun heq => hne (Option.some.inj (heq.symm.trans hmessage))

theorem outstandingCharges_message {entries : List WhatsAppBalanceEntry}
    (h : entry.type = .message) :
    outstandingCharges (entries ++ [entry]) = outstandingCharges entries + 1 := by
  rw [outstandingCharges, List.foldl_append, List.foldl_cons, h]
  rfl

theorem outstandingCharges_refund {entries : List WhatsAppBalanceEntry} (h : entry.type = .refund) :
    outstandingCharges (entries ++ [entry]) = 0 := by
  rw [outstandingCharges, List.foldl_append, List.foldl_cons, h]
  rfl

theorem debit_becomes (h : LedgerForm db) (ha : db.account id = some a) {attempt : ℕ}
    {price : Decimal} {currency : String}
    (hrun : db.debitForMessage a.row.storeId id attempt price currency = .ok (some db')) :
    Becomes db db' id { a with net := a.net - price, outstanding := a.outstanding + 1 } := by
  rw [debitForMessage] at hrun
  split at hrun
  · cases hrun
  · cases hcreate : db.createEntry
        { storeId := a.row.storeId, messageId := some id, type := .message, amount := -price
          currency, idempotencyKey := "message:" ++ id ++ ":" ++ toString attempt } with
    | error error => rw [hcreate] at hrun; cases hrun
    | ok created =>
      rw [hcreate] at hrun
      obtain rfl := Option.some.inj (Except.ok.inj hrun)
      obtain rfl := createEntry_ok hcreate
      have hbecomes := concat_becomes h ha
        { storeId := a.row.storeId, messageId := some id, type := .message, amount := -price
          currency, idempotencyKey := "message:" ++ id ++ ":" ++ toString attempt }
        rfl rfl (Or.inl (((Key.InFamily.intro "message:" id).append _).append _))
      obtain ⟨_, _, hout⟩ := account_some ha
      rw [outstandingCharges_message rfl, ← hout, ← sub_eq_add_neg] at hbecomes
      exact hbecomes

theorem refund_key_fresh (h : LedgerForm db) (storeId id : String) :
    (db.entries.any fun other => other.storeId = storeId && other.idempotencyKey =
      "refund:" ++ id ++ ":" ++ toString (db.entriesOf storeId id).length) = false := by
  rw [List.any_eq_false]
  intro other hother hconflict
  rw [Bool.and_eq_true, decide_eq_true_eq, decide_eq_true_eq] at hconflict
  obtain ⟨rfl, hkey⟩ := hconflict
  have hrefund : Key.InFamily "refund:" other.idempotencyKey :=
    hkey ▸ ((Key.InFamily.intro "refund:" id).append _).append _
  have hform := h.keys other hother
  rw [WhatsAppBalanceEntry.KeyForm] at hform
  split at hform
  · exact (by decide : Key.Apart "admin:" "refund:").not_both hform hrefund
  · rename_i id' _
    rcases hform with hmessage | ⟨n, hn, hlt⟩
    · exact (by decide : Key.Apart "message:" "refund:").not_both hmessage hrefund
    · obtain ⟨hids, hlen⟩ := Key.append_number_inj (hn.symm.trans hkey)
      have hlist := congrArg String.toList hids
      rw [String.toList_append, String.toList_append] at hlist
      obtain rfl := String.toList_inj.1 (List.append_cancel_left hlist)
      exact absurd hlen (Nat.ne_of_lt hlt)

theorem refunded_becomes (h : LedgerForm db) (ha : db.account id = some a)
    (hcharges : a.net = 0 ∧ a.outstanding = 0 ∨ a.net < 0 ∧ a.outstanding = 1) :
    Becomes db (db.refunded true a.row.storeId id) id { a with net := 0, outstanding := 0 } := by
  obtain ⟨_, hnet, _⟩ := account_some ha
  have hnothing : ¬ a.net < 0 → Becomes db db id { a with net := 0, outstanding := 0 } := by
    intro hnn
    rcases hcharges with ⟨hzero, hnone⟩ | ⟨hneg, _⟩
    · refine ⟨h, ?_, fun _ _ => rfl⟩
      rw [ha, ← hzero, ← hnone]
    · exact absurd hneg hnn
  rw [refunded, if_pos rfl, refundMessage]
  cases hentries : db.entriesOf a.row.storeId id with
  | nil =>
    refine hnothing ?_
    rw [hnet, net, hentries]
    exact lt_irrefl _
  | cons first rest =>
    have hsum : ((first :: rest).map (·.amount)).sum = a.net := by
      rw [hnet, net, hentries]
    dsimp only
    rw [hsum]
    by_cases hneg : a.net < 0
    · have hfresh := refund_key_fresh h a.row.storeId id
      rw [hentries] at hfresh
      rw [if_pos hneg, createEntry, hfresh]
      have hbecomes := concat_becomes h ha
        { storeId := a.row.storeId, messageId := some id, type := .refund, amount := -a.net
          currency := first.currency
          idempotencyKey := "refund:" ++ id ++ ":" ++ toString (first :: rest).length }
        rfl rfl (Or.inr ⟨_, rfl, by
          rw [entriesOf_concat, if_pos ⟨rfl, rfl⟩, hentries, List.length_append]
          exact Nat.lt_succ_self _⟩)
      rw [outstandingCharges_refund rfl, add_neg_cancel] at hbecomes
      exact hbecomes
    · rw [if_neg hneg]
      exact hnothing hneg

end WhatsAppDb

/-! ### What a task may rely on -/

namespace Task

def messageId : Task → Option String
  | .send id _ | .recover _ id _ | .takeBack _ id => some id
  | .apply _ _ message => some message.id
  | .webhook _ _ | .ended => none

def sends : Task → Option String
  | .send id _ => some id
  | _ => none

def recovers : Task → Option String
  | .recover _ id _ => some id
  | _ => none

/-- Two tasks are not at one message, if one of them is a worker and the other one is a worker or a
recovery. -/
def Apart (t u : Task) : Prop :=
  ∀ id, (t.sends = some id → u.sends ≠ some id ∧ u.recovers ≠ some id) ∧
    (u.sends = some id → t.sends ≠ some id ∧ t.recovers ≠ some id)

theorem Apart.symm {t u : Task} (h : Apart t u) : Apart u t := fun id => ⟨(h id).2, (h id).1⟩

end Task

/-- What a worker may rely on: what it has charged, and that it has charged no more. -/
def SendPhase.Relies (a : Account) : SendPhase → Prop
  | .claimed => a.net = 0
  | .loaded message => message.storeId = a.row.storeId ∧ message.id = a.row.id ∧ a.net = 0
  | .priced message price =>
    message.storeId = a.row.storeId ∧ message.id = a.row.id ∧ a.net = 0 ∧ 0 < price
  | .charged message price | .counted message price | .answered message price _ =>
    message.storeId = a.row.storeId ∧ message.id = a.row.id ∧ a.net = -price
  | .refunding message _ => message.storeId = a.row.storeId ∧ message.id = a.row.id
  | .handling message _ => message.id = a.row.id ∧ a.net = 0

/-- **What a task may rely on**, about the message it has come upon. -/
def Task.Relies (a : Account) : Task → Prop
  | .send _ phase => a.row.status = .sending ∧ phase.Relies a
  | .recover storeId _ refunded =>
    a.row.storeId = storeId ∧ (a.row.status = .sending ∨ a.row.status = .failed) ∧
      (refunded = true → a.row.status = .sending → a.net = 0)
  | .apply _ _ message => a.row.storeId = message.storeId ∧ a.row.HasBeenSent
  | .takeBack storeId _ => a.row.storeId = storeId ∧ a.row.status = .failed
  | .webhook _ _ | .ended => True

def Task.Sound (db : WhatsAppDb) (task : Task) : Prop :=
  ∀ id, task.messageId = some id → ∃ a, db.account id = some a ∧ task.Relies a

/-- **A step of a task that goes wrong in none of the ways**: a refund does not fail, and a webhook
does not report a delivery over a failure. -/
def Task.Reliable (db : WhatsAppDb) (input : TurnInput) : Task → Prop
  | .send _ (.refunding _ _) | .recover _ _ false | .takeBack _ _ => input.stored = true
  | .apply _ next message => statusRank message.status < statusRank next →
      ∀ row, db.findMessage message.id = some row → row.status ≠ .failed
  | _ => True

def Orderly (w : WhatsAppWorld) : WhatsAppAction → Prop
  | .recover id => ∀ task ∈ w.threads, task.sends ≠ some id
  | .turn i input => ∀ task, w.threads[i]? = some task → task.Reliable w.shared input
  | .crash i => ∀ storeId id, w.threads[i]? ≠ some (.takeBack storeId id)
  | .schedule _ _ _ _ _ _ | .disconnect _ | .claim _ | .webhook _ | .adminCredit _ _ _ _ _
  | .setPricing _ _ => True

/-! ### Turns -/

/-- What a turn of a task does: it changes the account of its message only, it may rely on what it
did, and it disturbs no other task. -/
structure TurnSpec (db : WhatsAppDb) (task : Task) (id : String) (a : Account)
    (next : Task × WhatsAppDb) (a' : Account) : Prop where
  becomes : Becomes db next.2 id a'
  sound : a'.Sound
  relies : next.1 = .ended ∨ next.1.messageId = some id ∧ next.1.Relies a'
  sends : ∀ other, next.1.sends = some other → task.sends = some other
  recovers : ∀ other, next.1.recovers = some other → task.recovers = some other
  undisturbed : ∀ u : Task, u.messageId = some id → Task.Apart task u → u.Relies a → u.Relies a'
  failed : a'.row.status = .failed → a'.net = 0 ∨ (∃ storeId, next.1 = .takeBack storeId id) ∨
    a.row.status = .failed ∧ a'.net = a.net ∧ ∀ storeId, task ≠ .takeBack storeId id

variable {task : Task}

variable {a : Account}

theorem TurnSpec.local {db : WhatsAppDb} {next : Task} {id : String} (h : LedgerForm db)
    (ha : db.account id = some a) (hsound : a.Sound)
    (hnext : next = .ended ∨ next.messageId = some id ∧ next.Relies a)
    (hsends : ∀ other, next.sends = some other → task.sends = some other)
    (hrecovers : ∀ other, next.recovers = some other → task.recovers = some other)
    (htask : ∀ storeId, task ≠ .takeBack storeId id) : TurnSpec db task id a (next, db) a :=
  ⟨⟨h, ha, fun _ _ => rfl⟩, hsound, hnext, hsends, hrecovers, fun _ _ _ hu => hu,
    fun hfailed => Or.inr (Or.inr ⟨hfailed, rfl, htask⟩)⟩

variable {phase : SendPhase} {u : Task}

theorem Task.not_relies_of_sending {id : String} (hsending : a.row.status = .sending)
    (hid : u.messageId = some id) (hapart : Task.Apart (.send id phase) u) : ¬ u.Relies a := by
  intro hu
  obtain ⟨hsends, hrecovers⟩ := (hapart id).1 rfl
  cases u with
  | send other otherPhase => exact hsends hid
  | recover storeId other refunded => exact hrecovers hid
  | webhook status next => cases hid
  | apply status next message =>
    rcases hu.2 with hstatus | hstatus | hstatus | hstatus <;> rw [hsending] at hstatus <;>
      cases hstatus
  | takeBack storeId other =>
    have hstatus := hu.2
    rw [hsending] at hstatus
    cases hstatus
  | ended => cases hid

theorem TurnSpec.worker {db : WhatsAppDb} {id : String} {a' : Account} {next : Task × WhatsAppDb}
    (hsending : a.row.status = .sending) (hbecomes : Becomes db next.2 id a') (hsound : a'.Sound)
    (hnext : next.1 = .ended ∨ ∃ phase', next.1 = .send id phase' ∧ next.1.Relies a')
    (hfailed : a'.row.status = .failed → a'.net = 0) :
    TurnSpec db (.send id phase) id a next a' := by
  refine ⟨hbecomes, hsound, ?_, fun other hother => ?_, fun other hother => ?_, ?_,
    fun h => Or.inl (hfailed h)⟩
  · rcases hnext with hended | ⟨phase', heq, hrelies⟩
    · exact Or.inl hended
    · exact Or.inr ⟨heq ▸ rfl, hrelies⟩
  · rcases hnext with hended | ⟨phase', heq, _⟩
    · rw [hended] at hother
      cases hother
    · rw [heq] at hother
      exact hother
  · rcases hnext with hended | ⟨phase', heq, _⟩
    · rw [hended] at hother
      cases hother
    · rw [heq] at hother
      cases hother
  · exact fun u hu hapart hrelies =>
      absurd hrelies (Task.not_relies_of_sending hsending hu hapart)

theorem Account.Sound.provider_none (h : a.Sound) (hsending : a.row.status = .sending) :
    a.row.providerMessageId = none := by
  cases hp : a.row.providerMessageId with
  | none => rfl
  | some providerMessageId =>
    have hsent := h.provider (by rw [hp]; rfl)
    rcases hsent with hstatus | hstatus | hstatus | hstatus <;> rw [hsending] at hstatus <;>
      cases hstatus

variable {row : WhatsAppMessage}

theorem Account.Sound.close (h : a.Sound) (hsending : a.row.status = .sending) (hzero : a.net = 0)
    (hprovider : row.providerMessageId = a.row.providerMessageId)
    (hstatus : row.status = .scheduled ∨ row.status = .skipped ∨ row.status = .failed) :
    ({ a with row } : Account).Sound := by
  refine ⟨h.charges, fun _ => hzero, fun hsent => ?_, fun hp => ?_⟩
  · dsimp only at hsent
    rcases hstatus with hs | hs | hs <;> rw [hs] at hsent <;>
      rcases hsent with hbad | hbad | hbad <;> cases hbad
  · dsimp only at hp
    rw [hprovider, h.provider_none hsending] at hp
    cases hp

variable {message : WhatsAppMessage}

theorem handleFailure_becomes {db : WhatsAppDb} (h : LedgerForm db) {id : String}
    (ha : db.account id = some a) (hsending : a.row.status = .sending) (hid : message.id = id)
    (now : ℤ) (error : SendError) :
    ∃ row, Becomes db (db.handleFailure message now error) id { a with row } ∧
      row.providerMessageId = a.row.providerMessageId ∧
      (row.status = .scheduled ∨ row.status = .skipped ∨ row.status = .failed) := by
  subst hid
  have hfinish : ∀ failed code text, ∃ row,
      Becomes db (db.finish message.id failed code text now) message.id { a with row } ∧
        row.providerMessageId = a.row.providerMessageId ∧
        (row.status = .scheduled ∨ row.status = .skipped ∨ row.status = .failed) := by
    intro failed code text
    refine ⟨_, WhatsAppDb.updateWhere_becomes h ha (fun _ => rfl) (fun _ => rfl), ?_, ?_⟩
    · rw [if_pos hsending]
    · rw [if_pos hsending]
      cases failed
      · exact Or.inr (Or.inl rfl)
      · exact Or.inr (Or.inr rfl)
  cases error with
  | stopSend failed code text => exact hfinish failed code text
  | metaGraph error =>
    rw [WhatsAppDb.handleFailure]
    split
    · exact hfinish true _ _
    · split
      · refine ⟨_, WhatsAppDb.updateWhere_becomes h ha (fun _ => rfl) (fun _ => rfl), ?_, ?_⟩
        · rw [if_pos hsending]
        · rw [if_pos hsending]
          exact Or.inl rfl
      · exact hfinish true _ _
  | other => exact hfinish true _ _

theorem preflight_ok {rows : PreflightRows} {db : WhatsAppDb} {price : Decimal}
    (h : preflight rows db message = .ok price) : db.pricing message.currency = some price := by
  rw [preflight] at h
  split at h
  · cases h
  · split at h
    · cases h
    · split at h
      · cases h
      · split at h
        · cases h
        · split at h
          · cases h
          · split at h
            · rename_i found hfound
              obtain rfl := Except.ok.inj h
              exact hfound
            · cases h

variable {input : TurnInput}

theorem sendTurn_spec {db : WhatsAppDb} (h : LedgerForm db) {id : String}
    (ha : db.account id = some a) (hsound : a.Sound) (hrelies : (Task.send id phase).Relies a)
    (hreliable : (Task.send id phase).Reliable db input) :
    ∃ a', TurnSpec db (.send id phase) id a (Task.sendTurn input db id phase) a' := by
  obtain ⟨hsending, hphase⟩ := hrelies
  obtain ⟨hrow, _, _⟩ := WhatsAppDb.account_some ha
  have hid : a.row.id = id := (WhatsAppDb.findMessage_some hrow).2
  have hrefl : Becomes db db id a := ⟨h, ha, fun _ _ => rfl⟩
  have hnotFailed : a.row.status = .failed → a.net = 0 := fun hf => by rw [hsending] at hf; cases hf
  match phase, hphase, hreliable with
  | .claimed, hzero, _ =>
    refine ⟨a, .worker hsending ?_ hsound ?_ hnotFailed⟩
    · rw [Task.sendTurn, hrow]
      dsimp only
      split <;> exact hrefl
    · rw [Task.sendTurn, hrow]
      dsimp only
      rw [if_pos hsending]
      exact Or.inr ⟨_, rfl, hsending, rfl, rfl, hzero⟩
  | .loaded message, ⟨hstore, hmid, hzero⟩, _ =>
    rw [Task.sendTurn]
    split
    · exact ⟨a, .worker hsending hrefl hsound (Or.inr ⟨_, rfl, hsending, hmid, hzero⟩) hnotFailed⟩
    · rename_i price hprice
      have hpos := h.prices _ _ (preflight_ok hprice)
      exact ⟨a, .worker hsending hrefl hsound
        (Or.inr ⟨_, rfl, hsending, hstore, hmid, hzero, hpos⟩) hnotFailed⟩
  | .priced message price, ⟨hstore, hmid, hzero, hpos⟩, _ =>
    have hhandling : ∀ error, ∃ a', TurnSpec db (.send id (.priced message price)) id a
        (.send id (.handling message error), db) a' := fun error =>
      ⟨a, .worker hsending hrefl hsound (Or.inr ⟨_, rfl, hsending, hmid, hzero⟩) hnotFailed⟩
    rw [Task.sendTurn]
    split
    · split
      · exact hhandling _
      · exact hhandling _
      · rename_i charged hcharged
        rw [hstore] at hcharged
        have hbecomes := WhatsAppDb.debit_becomes h ha hcharged
        have hout : a.outstanding = 0 := by
          rcases hsound.charges with ⟨_, hout⟩ | ⟨hneg, _⟩
          · exact hout
          · exact absurd (hzero ▸ hneg) (lt_irrefl _)
        refine ⟨_, .worker hsending hbecomes ⟨Or.inr ⟨?_, ?_⟩, fun hu => ?_, fun hsent => ?_,
          hsound.provider⟩ (Or.inr ⟨_, rfl, hsending, hstore, hmid, ?_⟩) fun hf => ?_⟩
        · dsimp only
          linarith
        · dsimp only
          rw [hout]
        · dsimp only at hu
          rw [hsending] at hu
          rcases hu with hbad | hbad <;> cases hbad
        · dsimp only at hsent
          rw [hsending] at hsent
          rcases hsent with hbad | hbad | hbad <;> cases hbad
        · dsimp only
          rw [hzero, zero_sub]
        · dsimp only at hf
          rw [hsending] at hf
          cases hf
    · exact hhandling _
  | .charged message price, ⟨hstore, hmid, hnet⟩, _ =>
    rw [Task.sendTurn]
    split
    · have hbecomes := WhatsAppDb.updateMessage_becomes h ha
        (fun row => { row with attempts := message.attempts + 1 }) (fun _ => rfl) fun _ => rfl
      exact ⟨_, .worker hsending hbecomes
        ⟨hsound.charges, hsound.unsent, hsound.sent, hsound.provider⟩
        (Or.inr ⟨_, rfl, hsending, hstore, hmid, hnet⟩) hnotFailed⟩
    · exact ⟨a, .worker hsending hrefl hsound (Or.inr ⟨_, rfl, hsending, hstore, hmid⟩)
        hnotFailed⟩
  | .counted message price, ⟨hstore, hmid, hnet⟩, _ =>
    rw [Task.sendTurn]
    split
    · exact ⟨a, .worker hsending hrefl hsound (Or.inr ⟨_, rfl, hsending, hstore, hmid, hnet⟩)
        hnotFailed⟩
    · exact ⟨a, .worker hsending hrefl hsound (Or.inr ⟨_, rfl, hsending, hstore, hmid⟩)
        hnotFailed⟩
  | .answered message price providerMessageId, ⟨hstore, hmid, hnet⟩, _ =>
    rw [Task.sendTurn]
    split
    · have hbecomes := WhatsAppDb.updateMessage_becomes h ha
        (fun row =>
          { row with
            status := .sent
            providerMessageId := some providerMessageId
            sentAt := some input.now
            cost := some price
            errorCode := none
            errorMessage := none }) (fun _ => rfl) fun _ => rfl
      refine ⟨_, .worker hsending hbecomes ⟨hsound.charges, fun hu => ?_, fun _ =>
        ⟨price, rfl, hnet⟩, fun _ => Or.inl rfl⟩ (Or.inl rfl) nofun⟩
      rcases hu with hbad | hbad <;> cases hbad
    · exact ⟨a, .worker hsending hrefl hsound (Or.inr ⟨_, rfl, hsending, hstore, hmid⟩)
        hnotFailed⟩
  | .refunding message error, ⟨hstore, hmid⟩, hstored =>
    have hbecomes := WhatsAppDb.refunded_becomes h ha hsound.charges
    rw [Task.sendTurn, hstore, show input.stored = true from hstored]
    refine ⟨_, .worker hsending hbecomes ⟨Or.inl ⟨rfl, rfl⟩, fun _ => rfl, fun hsent => ?_,
      hsound.provider⟩ (Or.inr ⟨_, rfl, hsending, hmid, rfl⟩) fun _ => rfl⟩
    dsimp only at hsent
    rw [hsending] at hsent
    rcases hsent with hbad | hbad | hbad <;> cases hbad
  | .handling message error, ⟨hmid, hzero⟩, _ =>
    rw [Task.sendTurn]
    split
    · obtain ⟨row, hbecomes, hprovider, hstatus⟩ :=
        handleFailure_becomes h ha hsending (hmid.trans hid) input.now error
      exact ⟨_, .worker hsending hbecomes (hsound.close hsending hzero hprovider hstatus)
        (Or.inl rfl) fun _ => hzero⟩
    · exact ⟨a, .worker hsending hrefl hsound (Or.inl rfl) hnotFailed⟩

theorem Account.Sound.refund (h : a.Sound)
    (hstatus : a.row.status = .sending ∨ a.row.status = .failed) :
    ({ a with net := 0, outstanding := 0 } : Account).Sound := by
  refine ⟨Or.inl ⟨rfl, rfl⟩, fun _ => rfl, fun hsent => ?_, h.provider⟩
  dsimp only at hsent
  rcases hstatus with hs | hs <;> rw [hs] at hsent <;> rcases hsent with hbad | hbad | hbad <;>
    cases hbad

theorem Task.Relies.refund (h : u.Relies a) (hworker : u.sends = none) :
    u.Relies { a with net := 0, outstanding := 0 } := by
  cases u with
  | send id phase => cases hworker
  | recover storeId id refunded => exact ⟨h.1, h.2.1, fun _ _ => rfl⟩
  | webhook status next => trivial
  | apply status next message => exact h
  | takeBack storeId id => exact h
  | ended => trivial

theorem recoverTurn_spec {db : WhatsAppDb} (h : LedgerForm db) {storeId id : String}
    {refunded : Bool} (ha : db.account id = some a) (hsound : a.Sound)
    (hrelies : (Task.recover storeId id refunded).Relies a)
    (hreliable : (Task.recover storeId id refunded).Reliable db input) :
    ∃ a', TurnSpec db (.recover storeId id refunded) id a
      ((Task.recover storeId id refunded).turn input db) a' := by
  obtain ⟨rfl, hstatus, hflag⟩ := hrelies
  have hworker : ∀ u : Task, u.messageId = some id →
      Task.Apart (.recover a.row.storeId id refunded) u → u.sends = none := by
    intro u hid hapart
    cases u with
    | send other phase => exact absurd rfl (((hapart id).2 hid).2)
    | _ => rfl
  cases refunded with
  | false =>
    have hstored : input.stored = true := hreliable
    have hbecomes := WhatsAppDb.refunded_becomes h ha hsound.charges
    rw [Task.turn, hstored]
    exact ⟨_, hbecomes, hsound.refund hstatus, Or.inr ⟨rfl, rfl, hstatus, fun _ _ => rfl⟩,
      fun _ hother => hother, fun _ hother => hother,
      fun u hid hapart hu => hu.refund (hworker u hid hapart), fun _ => Or.inl rfl⟩
  | true =>
    rw [Task.turn]
    split
    · have hbecomes : Becomes db (db.finish id true "SEND_INTERRUPTED"
          "Sending was interrupted; the charge was refunded" input.now) id _ :=
        WhatsAppDb.updateWhere_becomes h ha (fun _ => rfl) fun _ => rfl
      rcases hstatus with hsending | hfailed
      · rw [if_pos hsending] at hbecomes
        have hzero := hflag rfl hsending
        refine ⟨_, hbecomes, hsound.close hsending hzero rfl (Or.inr (Or.inr rfl)),
          Or.inl rfl, nofun, nofun, fun u hid hapart hu => ?_, fun _ => Or.inl hzero⟩
        cases u with
        | send other phase =>
          have hnone := hworker _ hid hapart
          cases hnone
        | recover other otherId flag => exact ⟨hu.1, Or.inr rfl, nofun⟩
        | webhook status next => trivial
        | apply status next message => exact ⟨hu.1, Or.inr (Or.inr (Or.inr rfl))⟩
        | takeBack other otherId => exact ⟨hu.1, rfl⟩
        | ended => trivial
      · rw [if_neg fun hs => by rw [hfailed] at hs; cases hs] at hbecomes
        exact ⟨_, hbecomes, hsound, Or.inl rfl, nofun, nofun, fun u _ _ hu => hu,
          fun hf => Or.inr (Or.inr ⟨hf, rfl, nofun⟩)⟩
    · exact ⟨a, .local h ha hsound (Or.inl rfl) nofun nofun nofun⟩

theorem takeBackTurn_spec {db : WhatsAppDb} (h : LedgerForm db) {storeId id : String}
    (ha : db.account id = some a) (hsound : a.Sound) (hrelies : (Task.takeBack storeId id).Relies a)
    (hreliable : (Task.takeBack storeId id).Reliable db input) :
    ∃ a', TurnSpec db (.takeBack storeId id) id a ((Task.takeBack storeId id).turn input db) a' := by
  obtain ⟨rfl, hfailed⟩ := hrelies
  have hstored : input.stored = true := hreliable
  have hbecomes := WhatsAppDb.refunded_becomes h ha hsound.charges
  rw [Task.turn, hstored]
  refine ⟨_, hbecomes, hsound.refund (Or.inr hfailed), Or.inl rfl, nofun, nofun,
    fun u _ _ hu => hu.refund ?_, fun _ => Or.inl rfl⟩
  cases u with
  | send other phase =>
    have hsending := hu.1
    rw [hfailed] at hsending
    cases hsending
  | _ => rfl

theorem Task.not_sends_of_sent (hsent : a.row.HasBeenSent) (hu : u.Relies a) : u.sends = none := by
  cases u with
  | send id phase =>
    rcases hsent with hs | hs | hs | hs <;> rw [hu.1] at hs <;> cases hs
  | _ => rfl

theorem applyTurn_spec {db : WhatsAppDb} (h : LedgerForm db) {status : StatusWebhook}
    {next : WhatsAppMessageStatus} (ha : db.account message.id = some a) (hsound : a.Sound)
    (hrelies : (Task.apply status next message).Relies a)
    (hreliable : (Task.apply status next message).Reliable db input) :
    ∃ a', TurnSpec db (.apply status next message) message.id a
      (Task.applyTurn input db status next message) a' := by
  obtain ⟨hstore, hsent⟩ := hrelies
  obtain ⟨hrow, _, _⟩ := WhatsAppDb.account_some ha
  have hlocal : ∃ a', TurnSpec db (.apply status next message) message.id a (.ended, db) a' :=
    ⟨a, .local h ha hsound (Or.inl rfl) nofun nofun nofun⟩
  rw [Task.applyTurn]
  dsimp only
  generalize (if 0 < status.timestamp then status.timestamp * 1000 else input.now) = at_
  split
  · split
    · exact hlocal
    · split
      · have hbecomes := WhatsAppDb.updateMessage_becomes h ha
          (fun row =>
            { row with
              status := .failed
              failedAt := some at_
              errorCode := some (status.errorCode.getD "UNKNOWN")
              errorMessage := status.errorMessage }) (fun _ => rfl) fun _ => rfl
        refine ⟨_, hbecomes, ⟨hsound.charges, fun hu => ?_, fun hs => ?_,
          fun _ => Or.inr (Or.inr (Or.inr rfl))⟩, Or.inr ⟨rfl, hstore, rfl⟩, nofun, nofun,
            fun u _ _ hu => ?_, fun _ => Or.inr (Or.inl ⟨_, rfl⟩)⟩
        · rcases hu with hbad | hbad <;> cases hbad
        · rcases hs with hbad | hbad | hbad <;> cases hbad
        · have hnone := Task.not_sends_of_sent hsent hu
          cases u with
          | send other phase => cases hnone
          | recover other otherId flag => exact ⟨hu.1, Or.inr rfl, nofun⟩
          | webhook other otherNext => trivial
          | apply other otherNext otherMessage => exact ⟨hu.1, Or.inr (Or.inr (Or.inr rfl))⟩
          | takeBack other otherId => exact ⟨hu.1, rfl⟩
          | ended => trivial
      · exact hlocal
  · rename_i hnext
    split
    · have hkeeps := fun row : WhatsAppMessage => row.stamp_keeps next at_
      have hbecomes := WhatsAppDb.updateMessage_becomes h ha
        (fun row =>
          { row.stamp next at_ with
            status := if statusRank message.status < statusRank next then next else row.status })
        (fun row => (hkeeps row).1) fun row => (hkeeps row).2.1
      obtain ⟨_, hstore', hcost, hprovider⟩ := hkeeps a.row
      by_cases hrank : statusRank message.status < statusRank next
      · simp only [if_pos hrank] at hbecomes ⊢
        have hlive : a.row.status ≠ .failed := hreliable hrank a.row hrow
        have hdelivered : next = .sent ∨ next = .delivered ∨ next = .read := by
          cases next <;> simp [statusRank] at hrank hnext ⊢
        obtain ⟨cost, hc, hnet⟩ := hsound.sent (by
          rcases hsent with hs | hs | hs | hs
          · exact Or.inl hs
          · exact Or.inr (Or.inl hs)
          · exact Or.inr (Or.inr hs)
          · exact absurd hs hlive)
        have hsent' : ∀ row : WhatsAppMessage, row.status = next → row.HasBeenSent := by
          rintro row rfl
          rcases hdelivered with hs | hs | hs
          · exact Or.inl hs
          · exact Or.inr (Or.inl hs)
          · exact Or.inr (Or.inr (Or.inl hs))
        refine ⟨_, hbecomes, ⟨hsound.charges, fun hu => ?_, fun _ => ⟨cost, hcost.trans hc, hnet⟩,
          fun _ => hsent' _ rfl⟩, Or.inl rfl, nofun, nofun, fun u _ _ hu => ?_, fun hf => ?_⟩
        · dsimp only at hu
          rcases hdelivered with rfl | rfl | rfl <;> rcases hu with hbad | hbad <;> cases hbad
        · have hnone := Task.not_sends_of_sent hsent hu
          cases u with
          | send other phase => cases hnone
          | recover other otherId flag =>
            rcases hu.2.1 with hs | hs
            · rcases hsent with hbad | hbad | hbad | hbad <;> rw [hs] at hbad <;> cases hbad
            · exact absurd hs hlive
          | webhook other otherNext => trivial
          | apply other otherNext otherMessage => exact ⟨hstore'.trans hu.1, hsent' _ rfl⟩
          | takeBack other otherId => exact absurd hu.2 hlive
          | ended => trivial
        · exact absurd hf hnext
      · simp only [if_neg hrank] at hbecomes ⊢
        refine ⟨_, hbecomes, ⟨hsound.charges, hsound.unsent, fun hs => ?_, fun _ => hsent⟩,
          Or.inl rfl, nofun, nofun, fun u _ _ hu => ?_, fun hf => Or.inr (Or.inr ⟨hf, rfl, nofun⟩)⟩
        · obtain ⟨cost, hc, hnet⟩ := hsound.sent hs
          exact ⟨cost, hcost.trans hc, hnet⟩
        · have hnone := Task.not_sends_of_sent hsent hu
          cases u with
          | send other phase => cases hnone
          | recover other otherId flag => exact ⟨hstore'.trans hu.1, hu.2⟩
          | webhook other otherNext => trivial
          | apply other otherNext otherMessage => exact ⟨hstore'.trans hu.1, hsent⟩
          | takeBack other otherId => exact ⟨hstore'.trans hu.1, hu.2⟩
          | ended => trivial
    · exact hlocal

/-! ### The invariant -/

structure LedgerBooks (db : WhatsAppDb) : Prop where
  form : LedgerForm db
  accounts : ∀ id a, db.account id = some a → a.Sound

/-- A failed message owes nothing, unless a webhook is about to give its charge back. -/
def FailedSettled (w : WhatsAppWorld) : Prop :=
  ∀ id a, w.shared.account id = some a → a.row.status = .failed →
    a.net = 0 ∨ ∃ storeId, .takeBack storeId id ∈ w.threads

structure LedgerInv (w : WhatsAppWorld) : Prop where
  pool : ThreadPool.Inv LedgerBooks Task.Sound Task.Apart w
  failed : FailedSettled w

theorem Task.sound_of_none {db : WhatsAppDb} (h : task.messageId = none) : task.Sound db := by
  intro id hid
  rw [h] at hid
  cases hid

variable {w : WhatsAppWorld}

theorem LedgerInv.write (h : LedgerInv w) {db : WhatsAppDb} (hform : LedgerForm db)
    (hsame : ∀ id, db.account id = w.shared.account id) : LedgerInv (w.write db) := by
  refine ⟨h.pool.write ⟨hform, fun id a ha => h.pool.shared.accounts id a (hsame id ▸ ha)⟩
    fun u _ hu id hid => ?_, fun id a ha hfailed => h.failed id a (hsame id ▸ ha) hfailed⟩
  rw [hsame]
  exact hu id hid

theorem LedgerInv.change (h : LedgerInv w) {db : WhatsAppDb} {id : String} {a' : Account}
    (ha : w.shared.account id = some a) (hbecomes : Becomes w.shared db id a') (hsound : a'.Sound)
    (hnobody : ∀ u : Task, u.messageId = some id → ¬ u.Relies a) (hlive : a'.row.status ≠ .failed) :
    LedgerInv (w.write db) := by
  have hget : ∀ other b, db.account other = some b →
      other = id ∧ b = a' ∨ other ≠ id ∧ w.shared.account other = some b := by
    intro other b hb
    by_cases hne : other = id
    · subst hne
      rw [hbecomes.self] at hb
      exact Or.inl ⟨rfl, (Option.some.inj hb).symm⟩
    · rw [hbecomes.others other hne] at hb
      exact Or.inr ⟨hne, hb⟩
  refine ⟨h.pool.write ⟨hbecomes.form, fun other b hb => ?_⟩ fun u _ hu other hother => ?_,
    fun other b hb hfailed => ?_⟩
  · rcases hget other b hb with ⟨_, rfl⟩ | ⟨_, hold⟩
    · exact hsound
    · exact h.pool.shared.accounts other b hold
  · obtain ⟨b, hb, hrelies⟩ := hu other hother
    by_cases hne : other = id
    · subst hne
      rw [ha] at hb
      obtain rfl := Option.some.inj hb
      exact absurd hrelies (hnobody u hother)
    · exact ⟨b, (hbecomes.others other hne).trans hb, hrelies⟩
  · rcases hget other b hb with ⟨_, rfl⟩ | ⟨_, hold⟩
    · exact absurd hfailed hlive
    · exact h.failed other b hold hfailed

theorem Task.not_relies_of_scheduled (hscheduled : a.row.status = .scheduled) {id : String}
    (hid : u.messageId = some id) : ¬ u.Relies a := by
  intro hu
  cases u with
  | send other phase => rw [hu.1] at hscheduled; cases hscheduled
  | recover storeId other refunded =>
    rcases hu.2.1 with hs | hs <;> rw [hs] at hscheduled <;> cases hscheduled
  | webhook status next => cases hid
  | apply status next message =>
    rcases hu.2 with hs | hs | hs | hs <;> rw [hs] at hscheduled <;> cases hscheduled
  | takeBack storeId other => rw [hu.2] at hscheduled; cases hscheduled
  | ended => cases hid

variable {i : ℕ}

theorem LedgerInv.move (h : LedgerInv w) {next : Task × WhatsAppDb}
    (htask : w.threads[i]? = some task) {id : String} {a' : Account}
    (ha : w.shared.account id = some a) (hid : task.messageId = some id)
    (hturn : TurnSpec w.shared task id a next a') : LedgerInv (w.move i next.2 next.1) := by
  have hsymm : ∀ t u : Task, Task.Apart t u → Task.Apart u t := fun _ _ => Task.Apart.symm
  have hget : ∀ other b, next.2.account other = some b →
      other = id ∧ b = a' ∨ other ≠ id ∧ w.shared.account other = some b := by
    intro other b hb
    by_cases hne : other = id
    · subst hne
      rw [hturn.becomes.self] at hb
      exact Or.inl ⟨rfl, (Option.some.inj hb).symm⟩
    · rw [hturn.becomes.others other hne] at hb
      exact Or.inr ⟨hne, hb⟩
  -- a webhook that is about to give a charge back stays, unless it is the one that moves
  have hstays : ∀ storeId other, .takeBack storeId other ∈ w.threads →
      task ≠ .takeBack storeId other →
        Task.takeBack storeId other ∈ (w.move i next.2 next.1).threads :=
    fun _ _ hmem hne => ThreadPool.mem_move_of_ne htask _ _ hmem hne
  have hmoved : next.1 ∈ (w.move i next.2 next.1).threads := ThreadPool.mem_move_self htask _ _
  refine ⟨h.pool.move hsymm htask ⟨hturn.becomes.form, fun other b hb => ?_⟩ (fun other hother => ?_)
    fun u hu hsoundu hapart => ⟨fun other hother => ?_, fun x => ⟨fun hx => ?_, fun hx => ?_⟩⟩,
    fun other b hb hfailed => ?_⟩
  · rcases hget other b hb with ⟨_, rfl⟩ | ⟨_, hold⟩
    · exact hturn.sound
    · exact h.pool.shared.accounts other b hold
  · rcases hturn.relies with hended | ⟨hsame, hrelies⟩
    · rw [hended] at hother
      cases hother
    · obtain rfl := Option.some.inj (hsame.symm.trans hother)
      exact ⟨a', hturn.becomes.self, hrelies⟩
  · obtain ⟨b, hb, hrelies⟩ := hsoundu other hother
    by_cases hne : other = id
    · subst hne
      rw [ha] at hb
      obtain rfl := Option.some.inj hb
      exact ⟨a', hturn.becomes.self, hturn.undisturbed u hother hapart hrelies⟩
    · exact ⟨b, (hturn.becomes.others other hne).trans hb, hrelies⟩
  · exact (hapart x).1 (hturn.sends x hx)
  · obtain ⟨hsends, hrecovers⟩ := (hapart x).2 hx
    exact ⟨fun heq => hsends (hturn.sends x heq), fun heq => hrecovers (hturn.recovers x heq)⟩
  · rcases hget other b hb with ⟨rfl, rfl⟩ | ⟨hne, hold⟩
    · rcases hturn.failed hfailed with hzero | ⟨storeId, htake⟩ | ⟨hwas, hnet, hnot⟩
      · exact Or.inl hzero
      · exact Or.inr ⟨storeId, htake ▸ hmoved⟩
      · rcases h.failed other a ha hwas with hzero | ⟨storeId, hmem⟩
        · exact Or.inl (hnet.trans hzero)
        · exact Or.inr ⟨storeId, hstays storeId other hmem (hnot storeId)⟩
    · rcases h.failed other b hold hfailed with hzero | ⟨storeId, hmem⟩
      · exact Or.inl hzero
      · refine Or.inr ⟨storeId, hstays storeId other hmem fun heq => ?_⟩
        rw [heq] at hid
        exact hne (Option.some.inj hid)

theorem LedgerInv.replace (h : LedgerInv w) {next : Task} (htask : w.threads[i]? = some task)
    (hsound : next.Sound w.shared) (hsends : ∀ x, next.sends = some x → task.sends = some x)
    (hrecovers : ∀ x, next.recovers = some x → task.recovers = some x)
    (hnot : ∀ storeId id, task ≠ .takeBack storeId id) : LedgerInv (w.move i w.shared next) := by
  have hsymm : ∀ t u : Task, Task.Apart t u → Task.Apart u t := fun _ _ => Task.Apart.symm
  refine ⟨h.pool.move hsymm htask h.pool.shared hsound fun u _ hu hapart =>
    ⟨hu, fun x => ⟨fun hx => (hapart x).1 (hsends x hx), fun hx => ?_⟩⟩, fun id a ha hfailed => ?_⟩
  · obtain ⟨hs, hr⟩ := (hapart x).2 hx
    exact ⟨fun heq => hs (hsends x heq), fun heq => hr (hrecovers x heq)⟩
  · rcases h.failed id a ha hfailed with hzero | ⟨storeId, hmem⟩
    · exact Or.inl hzero
    · exact Or.inr ⟨storeId, ThreadPool.mem_move_of_ne htask _ _ hmem (hnot storeId id)⟩

theorem LedgerInv.spawn (h : LedgerInv w) (hsound : task.Sound w.shared)
    (hapart : ∀ u ∈ w.threads, Task.Apart task u) : LedgerInv (w.spawn task) := by
  refine ⟨h.pool.spawn (fun _ _ => Task.Apart.symm) hsound hapart, fun id a ha hfailed => ?_⟩
  rcases h.failed id a ha hfailed with hzero | ⟨storeId, hmem⟩
  · exact Or.inl hzero
  · exact Or.inr ⟨storeId, List.mem_append_left _ hmem⟩

theorem LedgerInv.sound (h : LedgerInv w) (hu : u ∈ w.threads) : u.Sound w.shared := by
  obtain ⟨j, hj⟩ := List.mem_iff_getElem?.1 hu
  exact h.pool.thread j u hj

theorem LedgerInv.schedule (h : LedgerInv w)
    (hstatus : message.status = .scheduled ∨ message.status = .skipped)
    (hprovider : message.providerMessageId = none) :
    LedgerInv (w.write (w.shared.createMessage message)) := by
  rw [WhatsAppDb.createMessage]
  split
  · exact h.write h.pool.shared.form fun _ => rfl
  · rename_i hnew
    have hnone : w.shared.findMessage message.id = none := by simpa using hnew
    have hform := h.pool.shared.form
    have hfind : ∀ id row, w.shared.findMessage id = some row →
        WhatsAppDb.findMessage { w.shared with messages := w.shared.messages ++ [message] } id =
          some row := by
      intro id row hrow
      have hfound : w.shared.messages.find? (fun other => other.id = id) = some row := hrow
      rw [WhatsAppDb.findMessage, List.find?_append, hfound]
      rfl
    have hself : WhatsAppDb.findMessage
        { w.shared with messages := w.shared.messages ++ [message] } message.id = some message := by
      have hmissing : w.shared.messages.find? (fun other => other.id = message.id) = none := hnone
      rw [WhatsAppDb.findMessage, List.find?_append, hmissing]
      simp
    have hother : ∀ id, id ≠ message.id →
        WhatsAppDb.account { w.shared with messages := w.shared.messages ++ [message] } id =
          w.shared.account id := by
      intro id hne
      have hsame : WhatsAppDb.findMessage
          { w.shared with messages := w.shared.messages ++ [message] } id =
            w.shared.findMessage id := by
        rw [WhatsAppDb.findMessage, List.find?_append]
        simp [WhatsAppDb.findMessage, Ne.symm hne]
      rw [WhatsAppDb.account, hsame]
      rfl
    have hentries : ∀ storeId, w.shared.entriesOf storeId message.id = [] := by
      intro storeId
      refine List.filter_eq_nil_iff.2 fun entry hentry hmatch => ?_
      rw [Bool.and_eq_true, decide_eq_true_eq, decide_eq_true_eq] at hmatch
      obtain ⟨row, hrow, _⟩ := hform.owned entry hentry message.id hmatch.2
      rw [hnone] at hrow
      cases hrow
    have hmine : WhatsAppDb.account
        { w.shared with messages := w.shared.messages ++ [message] } message.id =
          some { row := message, net := 0, outstanding := 0 } := by
      have hempty : WhatsAppDb.entriesOf
          { w.shared with messages := w.shared.messages ++ [message] } message.storeId
            message.id = [] := hentries message.storeId
      rw [WhatsAppDb.account, hself, Option.map_some, WhatsAppDb.net, hempty]
      rfl
    have hget : ∀ id a, WhatsAppDb.account
        { w.shared with messages := w.shared.messages ++ [message] } id = some a →
          id = message.id ∧ a = { row := message, net := 0, outstanding := 0 } ∨
            w.shared.account id = some a := by
      intro id a ha
      by_cases hid : id = message.id
      · subst hid
        rw [hmine] at ha
        exact Or.inl ⟨rfl, (Option.some.inj ha).symm⟩
      · rw [hother id hid] at ha
        exact Or.inr ha
    refine ⟨h.pool.write ⟨⟨?_, hform.prices, fun entry hentry id hid => ?_, hform.keys⟩,
      fun id a ha => ?_⟩ fun u _ hu id hid => ?_, fun id a ha hfailed => ?_⟩
    · exact KeyedRows.nodup_concat WhatsAppMessage.id hform.ids
        ((KeyedRows.lookup_none WhatsAppMessage.id).1 hnone)
    · obtain ⟨row, hrow, howner⟩ := hform.owned entry hentry id hid
      exact ⟨row, hfind id row hrow, howner⟩
    · rcases hget id a ha with ⟨_, rfl⟩ | hold
      · refine ⟨Or.inl ⟨rfl, rfl⟩, fun _ => rfl, fun hs => ?_, fun hp => ?_⟩
        · dsimp only at hs
          rcases hstatus with hw | hw <;> rw [hw] at hs <;> rcases hs with hbad | hbad | hbad <;>
            cases hbad
        · dsimp only at hp
          rw [hprovider] at hp
          cases hp
      · exact h.pool.shared.accounts id a hold
    · obtain ⟨a, ha, hrelies⟩ := hu id hid
      have hne : id ≠ message.id := by
        rintro rfl
        rw [WhatsAppDb.account, hnone] at ha
        cases ha
      exact ⟨a, (hother id hne).trans ha, hrelies⟩
    · rcases hget id a ha with ⟨_, rfl⟩ | hold
      · exact Or.inl rfl
      · exact h.failed id a hold hfailed

theorem WhatsAppDb.account_of_findMessage {db : WhatsAppDb} {id : String}
    (h : db.findMessage id = some row) : ∃ a, db.account id = some a ∧ a.row = row :=
  ⟨_, by rw [WhatsAppDb.account, h]; rfl, rfl⟩

theorem Account.Sound.leaveQueue (h : a.Sound) (hscheduled : a.row.status = .scheduled)
    (hprovider : row.providerMessageId = a.row.providerMessageId)
    (hstatus : row.status = .sending ∨ row.status = .skipped) :
    ({ a with row } : Account).Sound := by
  refine ⟨h.charges, fun _ => h.unsent (Or.inl hscheduled), fun hs => ?_, fun hp => ?_⟩
  · dsimp only at hs
    rcases hstatus with hw | hw <;> rw [hw] at hs <;> rcases hs with hbad | hbad | hbad <;>
      cases hbad
  · dsimp only at hp
    rw [hprovider] at hp
    rcases h.provider hp with hs | hs | hs | hs <;> rw [hscheduled] at hs <;> cases hs

theorem LedgerInv.skip (h : LedgerInv w) {id : String} {change : WhatsAppMessage → WhatsAppMessage}
    (hid : ∀ row, (change row).id = row.id) (hstore : ∀ row, (change row).storeId = row.storeId)
    (hprovider : ∀ row, (change row).providerMessageId = row.providerMessageId)
    (hskipped : ∀ row, (change row).status = .skipped) :
    LedgerInv (w.write (w.shared.updateWhere id .scheduled change)) := by
  have hform := h.pool.shared.form
  cases hrow : w.shared.findMessage id with
  | none =>
    have hsame : (w.shared.updateWhere id .scheduled change).messages = w.shared.messages := by
      refine (List.map_congr_left fun message hmem => ?_).trans (List.map_id _)
      exact if_neg ((KeyedRows.lookup_none WhatsAppMessage.id).1 hrow message hmem)
    have hsame' : w.shared.updateWhere id .scheduled change = w.shared :=
      congrArg (fun messages => { w.shared with messages }) hsame
    rw [hsame']
    exact h.write hform fun _ => rfl
  | some row =>
    obtain ⟨a, ha, rfl⟩ := WhatsAppDb.account_of_findMessage hrow
    have hbecomes : Becomes w.shared (w.shared.updateWhere id .scheduled change) id _ :=
      WhatsAppDb.updateWhere_becomes hform ha hid hstore
    have hsound := h.pool.shared.accounts id a ha
    by_cases hscheduled : a.row.status = .scheduled
    · rw [if_pos hscheduled] at hbecomes
      refine h.change ha hbecomes
        (hsound.leaveQueue hscheduled (hprovider a.row) (Or.inr (hskipped a.row)))
        (fun u hu => Task.not_relies_of_scheduled hscheduled hu) ?_
      dsimp only
      rw [hskipped]
      nofun
    · rw [if_neg hscheduled] at hbecomes
      refine h.write hbecomes.form fun other => ?_
      by_cases hne : other = id
      · rw [hne, hbecomes.self, ha]
      · exact hbecomes.others other hne

theorem LedgerInv.claim (h : LedgerInv w) {id : String} (ha : w.shared.account id = some a)
    (hscheduled : a.row.status = .scheduled) :
    LedgerInv ((w.write (w.shared.updateMessage id fun row =>
      { row with status := .sending })).spawn (.send id .claimed)) := by
  have hsound := h.pool.shared.accounts id a ha
  have hbecomes : Becomes w.shared
      (w.shared.updateMessage id fun row => { row with status := .sending }) id _ :=
    WhatsAppDb.updateMessage_becomes h.pool.shared.form ha _ (fun _ => rfl) fun _ => rfl
  have hclaimed := h.change ha hbecomes (hsound.leaveQueue hscheduled rfl (Or.inl rfl))
    (fun u hid => Task.not_relies_of_scheduled hscheduled hid) nofun
  have hnobody : ∀ u ∈ w.threads, u.messageId ≠ some id := by
    intro u hu hid
    obtain ⟨b, hb, hrelies⟩ := h.sound hu id hid
    rw [ha] at hb
    obtain rfl := Option.some.inj hb
    exact Task.not_relies_of_scheduled hscheduled hid hrelies
  have hsends : ∀ u ∈ w.threads, u.sends ≠ some id := by
    intro u hu heq
    cases u with
    | send other phase => exact hnobody _ hu heq
    | _ => cases heq
  have hrecovers : ∀ u ∈ w.threads, u.recovers ≠ some id := by
    intro u hu heq
    cases u with
    | recover storeId other refunded => exact hnobody _ hu heq
    | _ => cases heq
  refine hclaimed.spawn (fun other hother => ?_) fun u hu x => ⟨fun hx => ?_, fun hx => ⟨fun heq => ?_,
    nofun⟩⟩
  · obtain rfl := Option.some.inj hother
    exact ⟨_, hbecomes.self, rfl, hsound.unsent (Or.inl hscheduled)⟩
  · obtain rfl := Option.some.inj hx
    exact ⟨hsends u hu, hrecovers u hu⟩
  · obtain rfl := Option.some.inj heq
    exact hsends u hu hx

theorem LedgerInv.sound_apply (h : LedgerInv w) {status : StatusWebhook}
    {next : WhatsAppMessageStatus}
    (hfound : w.shared.findByProviderId status.providerMessageId = some message) :
    (Task.apply status next message).Sound w.shared := by
  intro id hid
  obtain rfl := Option.some.inj hid
  have hp : message.providerMessageId = some status.providerMessageId := by
    simpa using List.find?_some hfound
  obtain ⟨a, ha, rfl⟩ := WhatsAppDb.account_of_findMessage
    (KeyedRows.lookup_of_mem WhatsAppMessage.id h.pool.shared.form.ids
      (List.mem_of_find?_eq_some hfound))
  exact ⟨a, ha, rfl, (h.pool.shared.accounts _ a ha).provider (by rw [hp]; rfl)⟩

theorem LedgerInv.turn (h : LedgerInv w) (htask : w.threads[i]? = some task)
    (hreliable : task.Reliable w.shared input) :
    LedgerInv (w.move i (task.turn input w.shared).2 (task.turn input w.shared).1) := by
  have hform := h.pool.shared.form
  have hsoundTask := h.pool.thread i task htask
  have hlocal : ∀ status next, task = .webhook status next ∨ task = .ended →
      ∀ task' : Task, task'.Sound w.shared → task'.sends = none → task'.recovers = none →
        LedgerInv (w.move i w.shared task') := by
    intro status next hkind task' hsound hsends hrecovers
    refine h.replace htask hsound (fun x hx => ?_) (fun x hx => ?_) fun storeId id heq => ?_
    · rw [hsends] at hx
      cases hx
    · rw [hrecovers] at hx
      cases hx
    · rcases hkind with hk | hk <;> rw [hk] at heq <;> cases heq
  cases task with
  | send id phase =>
    obtain ⟨a, ha, hrelies⟩ := hsoundTask id rfl
    obtain ⟨a', hturn⟩ := sendTurn_spec hform ha (h.pool.shared.accounts id a ha) hrelies
      hreliable
    exact h.move htask ha rfl hturn
  | recover storeId id refunded =>
    obtain ⟨a, ha, hrelies⟩ := hsoundTask id rfl
    obtain ⟨a', hturn⟩ := recoverTurn_spec hform ha (h.pool.shared.accounts id a ha) hrelies
      hreliable
    exact h.move htask ha rfl hturn
  | webhook status next =>
    have hended := hlocal status next (Or.inl rfl) .ended (Task.sound_of_none rfl) rfl rfl
    rw [Task.turn]
    split
    · exact hended
    · rename_i message hmessage
      split
      · exact hended
      · exact hlocal status next (Or.inl rfl) _ (h.sound_apply hmessage) rfl rfl
  | apply status next message =>
    obtain ⟨a, ha, hrelies⟩ := hsoundTask message.id rfl
    obtain ⟨a', hturn⟩ := applyTurn_spec hform ha (h.pool.shared.accounts _ a ha) hrelies
      hreliable
    exact h.move htask ha rfl hturn
  | takeBack storeId id =>
    obtain ⟨a, ha, hrelies⟩ := hsoundTask id rfl
    obtain ⟨a', hturn⟩ := takeBackTurn_spec hform ha (h.pool.shared.accounts id a ha) hrelies
      hreliable
    exact h.move htask ha rfl hturn
  | ended =>
    exact h.replace htask (Task.sound_of_none rfl) nofun nofun nofun

theorem LedgerInv.credit (h : LedgerInv w) (storeId currency : String) (topUp : Bool)
    (amount : Decimal) (key : String) :
    LedgerInv (w.write (w.shared.settle (w.shared.adminCredit storeId currency topUp amount key))) := by
  have hform := h.pool.shared.form
  have hsame := h.write hform fun _ => rfl
  rw [WhatsAppDb.adminCredit]
  split
  · exact hsame
  · split
    · exact hsame
    · split
      · exact hsame
      · split
        · exact hsame
        · cases hcreate : w.shared.createEntry
              { storeId, type := if topUp then .topUp else .adjustment, amount, currency
                idempotencyKey := "admin:" ++ key } with
          | error error => exact hsame
          | ok db =>
            obtain rfl := WhatsAppDb.createEntry_ok hcreate
            refine h.write (WhatsAppDb.form_concat hform nofun ?_) fun id => ?_
            · exact Key.InFamily.intro "admin:" key
            · exact WhatsAppDb.account_concat_of_ne w.shared nofun

theorem LedgerInv.price (h : LedgerInv w) (currency : String) (price : Decimal) :
    LedgerInv (w.write (w.shared.settle (w.shared.setPricing currency price))) := by
  have hform := h.pool.shared.form
  rw [WhatsAppDb.setPricing]
  split
  · exact h.write hform fun _ => rfl
  · rename_i hpos
    refine h.write ⟨hform.ids, fun other found hfound => ?_, hform.owned, hform.keys⟩ fun _ => rfl
    have hupdate : Function.update w.shared.pricing currency (some price) other = some found :=
      hfound
    rw [Function.update_apply] at hupdate
    split at hupdate
    · obtain rfl := Option.some.inj hupdate
      exact lt_of_not_ge hpos
    · exact hform.prices other found hupdate

theorem LedgerInv.step (h : LedgerInv w) {action : WhatsAppAction} (horderly : Orderly w action) :
    LedgerInv (WhatsAppAction.step w action) := by
  cases action with
  | schedule id storeId currency trigger orderId hasPhone =>
    exact h.schedule (by cases hasPhone <;> simp) rfl
  | disconnect id => exact h.skip (fun _ => rfl) (fun _ => rfl) (fun _ => rfl) fun _ => rfl
  | claim id =>
    rw [WhatsAppAction.step]
    split
    · exact h
    · rename_i row hrow
      obtain ⟨a, ha, rfl⟩ := WhatsAppDb.account_of_findMessage hrow
      split
      · rename_i hscheduled
        exact h.claim ha hscheduled
      · exact h
  | recover id =>
    rw [WhatsAppAction.step]
    split
    · exact h
    · rename_i row hrow
      obtain ⟨a, ha, rfl⟩ := WhatsAppDb.account_of_findMessage hrow
      split
      · rename_i hsending
        refine h.spawn (fun other hother => ?_) fun u hu x => ⟨nofun, fun hx => ⟨nofun, ?_⟩⟩
        · obtain rfl := Option.some.inj hother
          exact ⟨a, ha, rfl, Or.inl hsending, nofun⟩
        · intro heq
          obtain rfl := Option.some.inj heq
          exact horderly u hu hx
      · exact h
  | webhook status =>
    rw [WhatsAppAction.step]
    split
    · exact h
    · exact h.spawn (Task.sound_of_none rfl) fun u _ x => ⟨nofun, fun _ => ⟨nofun, nofun⟩⟩
  | turn i input =>
    rw [WhatsAppAction.step]
    cases htask : w.threads[i]? with
    | none => exact h
    | some task => exact h.turn htask (horderly task htask)
  | crash i =>
    rw [WhatsAppAction.step]
    cases htask : w.threads[i]? with
    | none => exact h
    | some task =>
      refine h.replace htask (Task.sound_of_none rfl) nofun nofun fun storeId id heq => ?_
      exact horderly storeId id (heq ▸ htask)
  | adminCredit storeId currency topUp amount key => exact h.credit storeId currency topUp amount key
  | setPricing currency price => exact h.price currency price

/-! ### No balance is negative -/

def Solvent (db : WhatsAppDb) : Prop := ∀ storeId currency, 0 ≤ db.getBalance storeId currency

namespace Solvent

variable {db db' : WhatsAppDb}

theorem of_entries (h : Solvent db) (heq : db'.entries = db.entries) : Solvent db' := by
  intro storeId currency
  rw [WhatsAppDb.getBalance, heq]
  exact h storeId currency

theorem createEntry (h : Solvent db) {entry : WhatsAppBalanceEntry}
    (hcreate : db.createEntry entry = .ok db')
    (hroom : 0 ≤ db.getBalance entry.storeId entry.currency + entry.amount) : Solvent db' := by
  obtain rfl := WhatsAppDb.createEntry_ok hcreate
  intro storeId currency
  rw [WhatsAppDb.getBalance, Ledger.total_concat]
  by_cases hmatch : entry.storeId = storeId ∧ entry.currency = currency
  · obtain ⟨rfl, rfl⟩ := hmatch
    rw [if_pos (by simp)]
    exact hroom
  · have hbalance := h storeId currency
    rw [WhatsAppDb.getBalance] at hbalance
    rw [if_neg (by simpa using fun hs hc => hmatch ⟨hs, hc⟩), add_zero]
    exact hbalance

theorem debit (h : Solvent db) {storeId id currency : String} {attempt : ℕ} {price : Decimal}
    (hrun : db.debitForMessage storeId id attempt price currency = .ok (some db')) :
    Solvent db' := by
  rw [WhatsAppDb.debitForMessage] at hrun
  split at hrun
  · cases hrun
  · rename_i henough
    cases hcreate : db.createEntry
        { storeId, messageId := some id, type := .message, amount := -price, currency
          idempotencyKey := "message:" ++ id ++ ":" ++ toString attempt } with
    | error error => rw [hcreate] at hrun; cases hrun
    | ok created =>
      rw [hcreate] at hrun
      obtain rfl := Option.some.inj (Except.ok.inj hrun)
      refine h.createEntry hcreate ?_
      dsimp only
      linarith [not_lt.1 henough]

theorem refunded (h : Solvent db) (stored : Bool) (storeId id : String) :
    Solvent (db.refunded stored storeId id) := by
  rw [WhatsAppDb.refunded]
  split
  · split
    · rename_i db' hrefund
      rw [WhatsAppDb.refundMessage] at hrefund
      split at hrefund
      · exact Except.ok.inj hrefund ▸ h
      · rename_i first rest _
        dsimp only at hrefund
        split at hrefund
        · refine h.createEntry hrefund ?_
          dsimp only
          linarith [h storeId first.currency]
        · exact Except.ok.inj hrefund ▸ h
    · exact h
  · exact h

theorem credit (h : Solvent db) {storeId currency key : String} {topUp : Bool} {amount : Decimal}
    (hrun : db.adminCredit storeId currency topUp amount key = .ok db') : Solvent db' := by
  rw [WhatsAppDb.adminCredit] at hrun
  split at hrun
  · cases hrun
  · split at hrun
    · cases hrun
    · split at hrun
      · exact Except.ok.inj hrun ▸ h
      · split at hrun
        · cases hrun
        · rename_i hroom
          exact h.createEntry hrun (not_lt.1 hroom)

theorem handleFailure (h : Solvent db) (message : WhatsAppMessage) (now : ℤ) (error : SendError) :
    Solvent (db.handleFailure message now error) := by
  refine h.of_entries ?_
  cases error with
  | stopSend failed code text => rfl
  | metaGraph error =>
    rw [WhatsAppDb.handleFailure]
    split
    · rfl
    · split <;> rfl
  | other => rfl

theorem sendTurn (h : Solvent db) (input : TurnInput) (id : String) (phase : SendPhase) :
    Solvent (Task.sendTurn input db id phase).2 := by
  cases phase with
  | claimed =>
    rw [Task.sendTurn]
    split
    · exact h
    · split <;> exact h
  | loaded message =>
    rw [Task.sendTurn]
    split <;> exact h
  | priced message price =>
    rw [Task.sendTurn]
    split
    · split
      · exact h
      · exact h
      · rename_i charged hcharged
        exact h.debit hcharged
    · exact h
  | charged message price =>
    rw [Task.sendTurn]
    split
    · exact h.of_entries rfl
    · exact h
  | counted message price =>
    rw [Task.sendTurn]
    split <;> exact h
  | answered message price providerMessageId =>
    rw [Task.sendTurn]
    split
    · exact h.of_entries rfl
    · exact h
  | refunding message error => exact h.refunded input.stored message.storeId id
  | handling message error =>
    rw [Task.sendTurn]
    split
    · exact h.handleFailure message input.now error
    · exact h

theorem turn (h : Solvent db) (input : TurnInput) (task : Task) :
    Solvent (task.turn input db).2 := by
  cases task with
  | send id phase => exact h.sendTurn input id phase
  | recover storeId id closing =>
    cases closing with
    | false => exact h.refunded input.stored storeId id
    | true =>
      rw [Task.turn]
      split
      · exact h.of_entries rfl
      · exact h
  | webhook status next =>
    rw [Task.turn]
    split
    · exact h
    · split <;> exact h
  | apply status next message =>
    rw [Task.turn, Task.applyTurn]
    dsimp only
    split
    · split
      · exact h
      · split
        · exact h.of_entries rfl
        · exact h
    · split
      · exact h.of_entries rfl
      · exact h
  | takeBack storeId id => exact h.refunded input.stored storeId id
  | ended => exact h

theorem createMessage_entries (db : WhatsAppDb) (message : WhatsAppMessage) :
    (db.createMessage message).entries = db.entries := by
  rw [WhatsAppDb.createMessage]
  split <;> rfl

theorem step (h : Solvent w.shared) (action : WhatsAppAction) :
    Solvent (WhatsAppAction.step w action).shared := by
  cases action with
  | schedule id storeId currency trigger orderId hasPhone =>
    exact of_entries h (createMessage_entries ..)
  | disconnect id => exact of_entries h rfl
  | claim id =>
    rw [WhatsAppAction.step]
    split
    · exact h
    · split
      · exact of_entries h rfl
      · exact h
  | recover id =>
    rw [WhatsAppAction.step]
    split
    · exact h
    · split <;> exact h
  | webhook status =>
    rw [WhatsAppAction.step]
    split <;> exact h
  | turn i input =>
    rw [WhatsAppAction.step]
    split
    · exact h
    · rename_i task _
      exact Solvent.turn h input task
  | crash i =>
    rw [WhatsAppAction.step]
    split <;> exact h
  | adminCredit storeId currency topUp amount key =>
    rw [WhatsAppAction.step, ThreadPool.write]
    cases hrun : w.shared.adminCredit storeId currency topUp amount key with
    | error error => exact h
    | ok db => exact h.credit hrun
  | setPricing currency price =>
    rw [WhatsAppAction.step, ThreadPool.write, WhatsAppDb.setPricing]
    split
    · exact h
    · exact of_entries h rfl

end Solvent

/-! ### The prepaid ledger -/

def WhatsAppDb.PaidAsSent (db : WhatsAppDb) (message : WhatsAppMessage) : Prop :=
  match message.status with
  | .sent | .delivered | .read =>
    ∃ cost, message.cost = some cost ∧ db.net message.storeId message.id = -cost
  | .scheduled | .failed | .skipped => db.net message.storeId message.id = 0
  | .sending => True

theorem LedgerInv.start : LedgerInv { shared := {} } := by
  refine ⟨.start ⟨⟨List.nodup_nil, nofun, nofun, nofun⟩, fun id a ha => ?_⟩, fun id a ha => ?_⟩ <;>
    cases ha

/-- **The prepaid ledger.**  In every run no balance is ever negative.  In every run of orderly steps
every message has at most one charge that is not refunded, and a message that no task is at has been
paid exactly if it was sent. -/
theorem prepaid_ledger (actions : List WhatsAppAction) :
    let reached := Machine.run WhatsAppAction.step { shared := {} } actions
    (∀ storeId currency, 0 ≤ reached.shared.getBalance storeId currency) ∧
      (Machine.Along WhatsAppAction.step Orderly { shared := {} } actions →
        ∀ message ∈ reached.shared.messages,
          outstandingCharges (reached.shared.entriesOf message.storeId message.id) ≤ 1 ∧
            ((∀ task ∈ reached.threads, task.messageId ≠ some message.id) →
              reached.shared.PaidAsSent message)) := by
  intro reached
  have hsolvent : Solvent reached.shared :=
    Machine.run_keeps (I := fun w : WhatsAppWorld => Solvent w.shared)
      (fun _ action hw => Solvent.step hw action) (fun _ _ => le_rfl) actions
  refine ⟨hsolvent, fun halong message hmem => ?_⟩
  have hreached : LedgerInv reached :=
    Machine.run_keeps_along (I := LedgerInv) (fun _ _ hw ha => hw.step ha) LedgerInv.start halong
  have hfound : reached.shared.findMessage message.id = some message :=
    KeyedRows.lookup_of_mem WhatsAppMessage.id hreached.pool.shared.form.ids hmem
  obtain ⟨a, ha, rfl⟩ := WhatsAppDb.account_of_findMessage hfound
  obtain ⟨_, hnet, hout⟩ := WhatsAppDb.account_some ha
  have hsound := hreached.pool.shared.accounts _ a ha
  refine ⟨?_, fun hnobody => ?_⟩
  · rw [← hout]
    rcases hsound.charges with ⟨_, hnone⟩ | ⟨_, hone⟩ <;> omega
  · rw [WhatsAppDb.PaidAsSent, ← hnet]
    cases hstatus : a.row.status with
    | scheduled => exact hsound.unsent (Or.inl hstatus)
    | sending => trivial
    | sent => exact hsound.sent (Or.inl hstatus)
    | delivered => exact hsound.sent (Or.inr (Or.inl hstatus))
    | read => exact hsound.sent (Or.inr (Or.inr hstatus))
    | failed =>
      rcases hreached.failed _ a ha hstatus with hzero | ⟨storeId, htake⟩
      · exact hzero
      · exact absurd rfl (hnobody _ htake)
    | skipped => exact hsound.unsent (Or.inr hstatus)

/-- A task whose next step may not fail, or may not come too late. -/
def Task.needsCare : Task → Bool
  | .send _ (.refunding _ _) | .recover _ _ false | .takeBack _ _ | .apply _ _ _ => true
  | _ => false

/-- A step that no such task takes, and that recovers nothing and cuts nothing off. -/
def WhatsAppAction.isCarefree (w : WhatsAppWorld) : WhatsAppAction → Bool
  | .turn i _ => (w.threads[i]?).all fun task => !task.needsCare
  | .recover _ | .crash _ => false
  | _ => true

def carefree : WhatsAppWorld → List WhatsAppAction → Bool
  | _, [] => true
  | w, action :: actions => action.isCarefree w && carefree (WhatsAppAction.step w action) actions

theorem along_of_carefree {actions : List WhatsAppAction} (h : carefree w actions = true) :
    Machine.Along WhatsAppAction.step Orderly w actions := by
  induction actions generalizing w with
  | nil => trivial
  | cons action actions ih =>
    rw [carefree, Bool.and_eq_true] at h
    obtain ⟨hfirst, hrest⟩ := h
    refine ⟨?_, ih hrest⟩
    cases action with
    | turn i input =>
      intro task htask
      rw [WhatsAppAction.isCarefree, htask] at hfirst
      cases task with
      | send id phase => cases phase <;> trivial
      | recover storeId id refunded => cases refunded <;> trivial
      | webhook status next => trivial
      | apply status next message => cases hfirst
      | takeBack storeId id => cases hfirst
      | ended => trivial
    | recover id => cases hfirst
    | crash i => cases hfirst
    | _ => trivial

def inTransit : TurnInput := { rows := { currentStatus := some "IN_TRANSIT" }, reply := .ok "wamid" }

/-- A store has ten, a message costs one, and one message is put in the queue and claimed. -/
def oneMessage : List WhatsAppAction :=
  [.adminCredit "store" "MAD" true 10 "top-up", .setPricing "MAD" 1,
    .schedule "message" "store" "MAD" "IN_TRANSIT" "order" true, .claim "message"]

def oneMessageSent : List WhatsAppAction := oneMessage ++ List.replicate 6 (.turn 0 inTransit)

theorem prepaid_ledger_oneMessage :
    let reached := Machine.run WhatsAppAction.step { shared := {} } oneMessageSent
    reached.shared.getBalance "store" "MAD" = 9 ∧
      ∀ message ∈ reached.shared.messages, message.status = .sent ∧
        reached.shared.PaidAsSent message := by
  intro reached
  have hledger := prepaid_ledger oneMessageSent
  have halong := @along_of_carefree { shared := {} } oneMessageSent (by decide +kernel)
  have hended : ∀ message ∈ reached.shared.messages, ∀ task ∈ reached.threads,
      task.messageId ≠ some message.id := by decide +kernel
  have hsent : ∀ message ∈ reached.shared.messages, message.status = .sent := by decide +kernel
  exact ⟨by decide +kernel, fun message hmem =>
    ⟨hsent message hmem, (hledger.2 halong message hmem).2 (hended message hmem)⟩⟩

/-- The worker has charged the message and counted the attempt; the recovery gives the charge back
and closes the message; the provider accepts it, and the worker writes it down. -/
def slowWorker : List WhatsAppAction :=
  oneMessage ++ List.replicate 4 (.turn 0 inTransit) ++
    [.recover "message", .turn 1 inTransit, .turn 1 inTransit, .turn 0 inTransit,
      .turn 0 inTransit]

/-- **A message that was sent is not paid**: the recovery was quicker than the worker. -/
theorem prepaid_ledger_sent_unpaid :
    ¬ ∀ actions : List WhatsAppAction,
      let reached := Machine.run WhatsAppAction.step { shared := {} } actions
      ∀ message ∈ reached.shared.messages,
        (∀ task ∈ reached.threads, task.messageId ≠ some message.id) →
          reached.shared.PaidAsSent message := by
  intro h
  have hpaid := h slowWorker
  dsimp only at hpaid
  generalize hreached : Machine.run WhatsAppAction.step { shared := {} } slowWorker = reached
    at hpaid
  have hunpaid : ∃ message ∈ reached.shared.messages, message.status = .sent ∧
      message.cost = some 1 ∧ reached.shared.net message.storeId message.id = 0 := by
    subst hreached
    decide +kernel
  have hended : ∀ message ∈ reached.shared.messages, ∀ task ∈ reached.threads,
      task.messageId ≠ some message.id := by
    subst hreached
    decide +kernel
  obtain ⟨message, hmem, hstatus, hcost, hnet⟩ := hunpaid
  have hclaim := hpaid message hmem (hended message hmem)
  rw [WhatsAppDb.PaidAsSent, hstatus] at hclaim
  obtain ⟨cost, hc, hn⟩ := hclaim
  rw [hcost] at hc
  obtain rfl := Option.some.inj hc
  rw [hnet] at hn
  norm_num at hn

end Zomaal.WhatsApp
