/-
**Status webhooks of a message that was sent.**

A webhook reads the message, compares the ranks of the two statuses, and writes, whatever the
message is by then.  As long as what it has checked still holds when it writes, the status only
moves forwards.

Main results:

* `WhatsApp.status_webhooks` — **the status ends at the highest rank received**;
* `WhatsApp.status_webhooks_taken_back` — what two webhooks at the same time do.
-/

import Zomaal.MachineRun
import Zomaal.WhatsAppMessaging

set_option autoImplicit false

namespace Zomaal.WhatsApp

/-! ### Webhooks only -/

def WhatsAppAction.isDelivery : WhatsAppAction → Bool
  | .webhook _ => true
  | .turn _ input => input.stored
  | _ => false

/-- A status moves forwards, or a message fails that was not delivered. -/
def Forward (status status' : WhatsAppMessageStatus) : Prop :=
  status' = status ∨ (status ≠ .failed ∧ statusRank status < statusRank status') ∨
    (status' = .failed ∧ statusRank status < 2)

def Moves (status next : WhatsAppMessageStatus) : Prop :=
  status ≠ .failed ∧ if next = .failed then statusRank status < 2
    else statusRank status < statusRank next

instance (status next : WhatsAppMessageStatus) : Decidable (Moves status next) :=
  inferInstanceAs (Decidable (_ ∧ _))

/-- **What a webhook has checked still holds** when it writes: a status that it would move as it has
read it, it would also move as it is now, unless it is there already. -/
def Task.StillMoves (db : WhatsAppDb) : Task → Prop
  | .apply _ next message => Moves message.status next →
      ∀ row ∈ db.findMessage message.id, row.status = next ∨ Moves row.status next
  | _ => True

instance (db : WhatsAppDb) : (task : Task) → Decidable (task.StillMoves db)
  | .apply _ next message =>
    inferInstanceAs (Decidable (Moves message.status next →
      ∀ row ∈ db.findMessage message.id, row.status = next ∨ Moves row.status next))
  | .send _ _ | .recover _ _ _ | .webhook _ _ | .takeBack _ _ | .ended =>
    inferInstanceAs (Decidable True)

def StillMoves (w : WhatsAppWorld) : WhatsAppAction → Prop
  | .turn i _ => ∀ task ∈ w.threads[i]?, task.StillMoves w.shared
  | _ => True

instance (w : WhatsAppWorld) : (action : WhatsAppAction) → Decidable (StillMoves w action)
  | .turn i _ => inferInstanceAs (Decidable (∀ task ∈ w.threads[i]?, task.StillMoves w.shared))
  | .schedule .. | .disconnect _ | .claim _ | .recover _ | .webhook _ | .crash _
  | .adminCredit .. | .setPricing .. => inferInstanceAs (Decidable True)

def WhatsAppDb.identities (db : WhatsAppDb) : List (String × Option String) :=
  db.messages.map fun message => (message.id, message.providerMessageId)

/-- A task of a webhook, and what it has read: the message has moved forwards since. -/
def Task.OfWebhook (db : WhatsAppDb) : Task → Prop
  | .webhook _ _ | .takeBack _ _ | .ended => True
  | .apply status _ message =>
    message.status ≠ .failed ∧ (message.id, some status.providerMessageId) ∈ db.identities ∧
      ∃ row, db.findMessage message.id = some row ∧ Forward message.status row.status
  | .send _ _ | .recover _ _ _ => False

/-! ### Forwards -/

theorem Forward.refl (status : WhatsAppMessageStatus) : Forward status status := Or.inl rfl

theorem Forward.trans {status status' status'' : WhatsAppMessageStatus}
    (h : Forward status status') (h' : Forward status' status'') : Forward status status'' := by
  have hfailed : statusRank .failed = 0 := rfl
  unfold Forward at *
  rcases h with rfl | ⟨hlive, hlt⟩ | ⟨rfl, hlow⟩
  · exact h'
  · rcases h' with rfl | ⟨_, hlt'⟩ | ⟨rfl, hlow'⟩
    · exact Or.inr (Or.inl ⟨hlive, hlt⟩)
    · exact Or.inr (Or.inl ⟨hlive, hlt.trans hlt'⟩)
    · exact Or.inr (Or.inr ⟨rfl, by omega⟩)
  · rcases h' with rfl | ⟨hlive', _⟩ | ⟨rfl, _⟩
    · exact Or.inr (Or.inr ⟨rfl, hlow⟩)
    · exact absurd rfl hlive'
    · exact Or.inr (Or.inr ⟨rfl, hlow⟩)

variable {next : WhatsAppMessageStatus}

theorem Forward.not_moves {status status' : WhatsAppMessageStatus} (h : Forward status status')
    (hlive : status ≠ .failed) (hnot : ¬ Moves status next) : ¬ Moves status' next := by
  rintro ⟨hlive', hmoves⟩
  refine hnot ⟨hlive, ?_⟩
  rcases h with rfl | ⟨_, hlt⟩ | ⟨hfailed, _⟩
  · exact hmoves
  · split at hmoves
    · rw [if_pos ‹_›]
      omega
    · rw [if_neg ‹_›]
      omega
  · exact absurd hfailed hlive'

/-! ### What a turn writes -/

namespace WhatsAppDb

theorem refunded_messages (db : WhatsAppDb) (stored : Bool) (storeId id : String) :
    (db.refunded stored storeId id).messages = db.messages := by
  rw [refunded]
  split
  · split
    · rename_i db' hrefund
      rw [refundMessage] at hrefund
      split at hrefund
      · rw [Except.ok.inj hrefund]
      · dsimp only at hrefund
        split at hrefund
        · rw [createEntry] at hrefund
          split at hrefund
          · cases hrefund
          · rw [← Except.ok.inj hrefund]
        · rw [Except.ok.inj hrefund]
    · rfl
  · rfl

theorem findMessage_of_messages {db db' : WhatsAppDb} (h : db'.messages = db.messages)
    (id : String) : db'.findMessage id = db.findMessage id := by
  rw [findMessage, h]
  rfl

theorem identities_updateMessage (db : WhatsAppDb) (id : String)
    {change : WhatsAppMessage → WhatsAppMessage} (hid : ∀ row, (change row).id = row.id)
    (hprovider : ∀ row, (change row).providerMessageId = row.providerMessageId) :
    (db.updateMessage id change).identities = db.identities := by
  rw [identities, updateMessage, List.map_map]
  refine List.map_congr_left fun message _ => ?_
  simp only [Function.comp_apply]
  split
  · rw [hid, hprovider]
  · rfl

end WhatsAppDb

def statusAfter (status next : WhatsAppMessageStatus) : WhatsAppMessageStatus :=
  if Moves status next then next else status

theorem forward_statusAfter (status next : WhatsAppMessageStatus) :
    Forward status (statusAfter status next) := by
  rw [statusAfter]
  split
  · rename_i hmoves
    obtain ⟨hlive, hlow⟩ := hmoves
    split at hlow
    · exact Or.inr (Or.inr ⟨‹_›, hlow⟩)
    · exact Or.inr (Or.inl ⟨hlive, hlow⟩)
  · exact Forward.refl status

theorem statusAfter_rank {status : WhatsAppMessageStatus} (hlive : status ≠ .failed)
    (hnext : 0 < statusRank next) :
    statusRank (statusAfter status next) = max (statusRank status) (statusRank next) := by
  have hne : next ≠ .failed := by
    rintro rfl
    exact absurd hnext (by decide)
  rw [statusAfter]
  split
  · rename_i hmoves
    have hlt := hmoves.2
    rw [if_neg hne] at hlt
    exact (max_eq_right hlt.le).symm
  · rename_i hnot
    refine (max_eq_left (not_lt.1 fun hlt => hnot ⟨hlive, ?_⟩)).symm
    rwa [if_neg hne]

variable {db : WhatsAppDb} {status : StatusWebhook}

theorem applyTurn_status {input : TurnInput} (hstored : input.stored = true)
    {message : WhatsAppMessage} (hof : (Task.apply status next message).OfWebhook db)
    (hstill : Moves message.status next → ∀ row, db.findMessage message.id = some row →
      row.status = next ∨ Moves row.status next) :
    (Task.applyTurn input db status next message).2.identities = db.identities ∧
      ∀ id row, db.findMessage id = some row →
        ∃ row', (Task.applyTurn input db status next message).2.findMessage id = some row' ∧
          row'.providerMessageId = row.providerMessageId ∧
          row'.status = if id = message.id then statusAfter row.status next else row.status := by
  obtain ⟨hlive, _, seen, hseen, hforward⟩ := hof
  -- what is written for the message, whatever else the write does
  have hwrite : ∀ change : WhatsAppMessage → WhatsAppMessage,
      (∀ row, (change row).id = row.id) →
      (∀ row, (change row).providerMessageId = row.providerMessageId) →
      (change seen).status = statusAfter seen.status next →
      (db.updateMessage message.id change).identities = db.identities ∧
        ∀ id row, db.findMessage id = some row →
          ∃ row', (db.updateMessage message.id change).findMessage id = some row' ∧
            row'.providerMessageId = row.providerMessageId ∧
            row'.status = if id = message.id then statusAfter row.status next else row.status := by
    intro change hid hprovider hstatus
    refine ⟨WhatsAppDb.identities_updateMessage db message.id hid hprovider, fun id row hrow => ?_⟩
    rw [WhatsAppDb.findMessage_updateMessage db message.id id hid, hrow, Option.map_some]
    refine ⟨_, rfl, ?_, ?_⟩
    · split
      · exact hprovider row
      · rfl
    · by_cases hmid : id = message.id
      · subst hmid
        obtain rfl := Option.some.inj (hseen.symm.trans hrow)
        rw [if_pos rfl, if_pos rfl]
        exact hstatus
      · rw [if_neg hmid, if_neg hmid]
  have hmoved : Moves message.status next → statusAfter seen.status next = next := by
    intro hmoves
    rw [statusAfter]
    split
    · rfl
    · exact (hstill hmoves seen hseen).resolve_right ‹_›
  have hstays : ¬ Moves message.status next → statusAfter seen.status next = seen.status :=
    fun hnot => if_neg (hforward.not_moves hlive hnot)
  rw [Task.applyTurn, hstored]
  dsimp only
  split
  · rename_i hfailed
    split
    · rename_i hdelivered
      have hnot : ¬ Moves message.status next := by
        rintro ⟨_, hlow⟩
        rw [if_pos hfailed] at hlow
        omega
      refine ⟨rfl, fun id row hrow => ⟨row, hrow, rfl, ?_⟩⟩
      split
      · rename_i hmid
        subst hmid
        obtain rfl := Option.some.inj (hseen.symm.trans hrow)
        exact (hstays hnot).symm
      · rfl
    · rename_i hlow
      have hmoves : Moves message.status next := by
        refine ⟨hlive, ?_⟩
        rw [if_pos hfailed]
        omega
      refine hwrite _ (fun _ => rfl) (fun _ => rfl) ?_
      rw [hmoved hmoves, hfailed]
  · rename_i hnext
    generalize (if 0 < status.timestamp then status.timestamp * 1000 else input.now) = at_
    refine hwrite _ (fun row => (row.stamp_keeps next at_).1)
      (fun row => (row.stamp_keeps next at_).2.2.2) ?_
    dsimp only
    split
    · rename_i hlt
      exact (hmoved ⟨hlive, by rw [if_neg hnext]; exact hlt⟩).symm
    · rename_i hle
      refine (hstays fun hmoves => hle ?_).symm
      have hlt := hmoves.2
      rwa [if_neg hnext] at hlt

/-! ### One step -/

structure StatusInv (identities : List (String × Option String)) (w : WhatsAppWorld) : Prop where
  nodup : (identities.map Prod.fst).Nodup
  same : w.shared.identities = identities
  tasks : ∀ task ∈ w.threads, task.OfWebhook w.shared

variable {identities : List (String × Option String)} {w : WhatsAppWorld}

theorem StatusInv.ids_nodup (h : StatusInv identities w) :
    (w.shared.messages.map WhatsAppMessage.id).Nodup := by
  have hfst := h.nodup
  rw [← h.same, WhatsAppDb.identities, List.map_map] at hfst
  exact hfst

/-- What a step does to the messages: they move forwards, and their identifiers stay. -/
def StatusStep (db db' : WhatsAppDb) : Prop :=
  db'.identities = db.identities ∧ ∀ id row, db.findMessage id = some row →
    ∃ row', db'.findMessage id = some row' ∧ Forward row.status row'.status

theorem StatusStep.trans {db' db'' : WhatsAppDb} (h : StatusStep db db')
    (h' : StatusStep db' db'') : StatusStep db db'' := by
  refine ⟨h'.1.trans h.1, fun id row hrow => ?_⟩
  obtain ⟨row', hrow', hforward⟩ := h.2 id row hrow
  obtain ⟨row'', hrow'', hforward'⟩ := h'.2 id row' hrow'
  exact ⟨row'', hrow'', hforward.trans hforward'⟩

theorem StatusStep.of_messages {db' : WhatsAppDb} (h : db'.messages = db.messages) :
    StatusStep db db' := by
  refine ⟨by rw [WhatsAppDb.identities, h]; rfl, fun id row hrow => ⟨row, ?_, Forward.refl _⟩⟩
  rw [WhatsAppDb.findMessage_of_messages h]
  exact hrow

variable {task : Task}

theorem Task.OfWebhook.mono {db' : WhatsAppDb} (h : StatusStep db db') (hof : task.OfWebhook db) :
    task.OfWebhook db' := by
  cases task with
  | apply status next message =>
    obtain ⟨hlive, hmem, row, hrow, hforward⟩ := hof
    obtain ⟨row', hrow', hforward'⟩ := h.2 message.id row hrow
    exact ⟨hlive, h.1 ▸ hmem, row', hrow', hforward.trans hforward'⟩
  | send id phase => exact hof.elim
  | recover storeId id refunded => exact hof.elim
  | webhook status next => trivial
  | takeBack storeId id => trivial
  | ended => trivial

theorem StatusInv.move (h : StatusInv identities w) (hstep : StatusStep w.shared db) (i : ℕ)
    {next : Task} (hnext : next.OfWebhook db) : StatusInv identities (w.move i db next) := by
  refine ⟨h.nodup, hstep.1.trans h.same, fun task htask => ?_⟩
  rcases ThreadPool.mem_move htask with rfl | hold
  · exact hnext
  · exact (h.tasks task hold).mono hstep

theorem applyTurn_ofWebhook (input : TurnInput) (db db' : WhatsAppDb) (status : StatusWebhook)
    (next : WhatsAppMessageStatus) (message : WhatsAppMessage) :
    (Task.applyTurn input db status next message).1.OfWebhook db' := by
  rw [Task.applyTurn]
  dsimp only
  split
  · split
    · trivial
    · split <;> trivial
  · split <;> trivial

theorem StatusInv.step (h : StatusInv identities w) {action : WhatsAppAction}
    (hdelivery : action.isDelivery = true) (hstill : StillMoves w action) :
    StatusInv identities (WhatsAppAction.step w action) ∧
      StatusStep w.shared (WhatsAppAction.step w action).shared := by
  have hidle : StatusStep w.shared w.shared := .of_messages rfl
  cases action with
  | webhook status =>
    rw [WhatsAppAction.step]
    split
    · exact ⟨h, hidle⟩
    · refine ⟨⟨h.nodup, h.same, fun task htask => ?_⟩, hidle⟩
      rcases Ledger.mem_concat.1 htask with hold | hnew
      · exact h.tasks task hold
      · rw [hnew]
        trivial
  | turn i input =>
    rw [WhatsAppAction.step]
    cases htask : w.threads[i]? with
    | none => exact ⟨h, hidle⟩
    | some task =>
      have hof := h.tasks task (List.mem_of_getElem? htask)
      cases task with
      | send id phase => exact hof.elim
      | recover storeId id refunded => exact hof.elim
      | webhook status next =>
        dsimp only
        rw [Task.turn]
        split
        · exact ⟨h.move hidle i trivial, hidle⟩
        · rename_i message hmessage
          split
          · exact ⟨h.move hidle i trivial, hidle⟩
          · rename_i hlive
            have hp : message.providerMessageId = some status.providerMessageId := by
              simpa using List.find?_some hmessage
            have hmem : message ∈ w.shared.messages := List.mem_of_find?_eq_some hmessage
            refine ⟨h.move hidle i ⟨hlive, ?_, message, ?_, Forward.refl _⟩, hidle⟩
            · rw [← hp]
              exact List.mem_map.2 ⟨message, hmem, rfl⟩
            · exact KeyedRows.lookup_of_mem WhatsAppMessage.id h.ids_nodup hmem
      | apply status next message =>
        obtain ⟨hsame, hstatus⟩ := applyTurn_status hdelivery hof
          (hstill _ htask)
        have hstep : StatusStep w.shared
            (Task.applyTurn input w.shared status next message).2 := by
          refine ⟨hsame, fun id row hrow => ?_⟩
          obtain ⟨row', hrow', _, hafter⟩ := hstatus id row hrow
          refine ⟨row', hrow', ?_⟩
          rw [hafter]
          split
          · exact forward_statusAfter row.status next
          · exact Forward.refl row.status
        exact ⟨h.move hstep i (applyTurn_ofWebhook ..), hstep⟩
      | takeBack storeId id =>
        have hstep : StatusStep w.shared (w.shared.refunded input.stored storeId id) :=
          .of_messages (w.shared.refunded_messages input.stored storeId id)
        exact ⟨h.move hstep i trivial, hstep⟩
      | ended => exact ⟨h.move hidle i trivial, hidle⟩
  | schedule id storeId currency trigger orderId hasPhone => cases hdelivery
  | disconnect id => cases hdelivery
  | claim id => cases hdelivery
  | recover id => cases hdelivery
  | crash i => cases hdelivery
  | adminCredit storeId currency topUp amount key => cases hdelivery
  | setPricing currency price => cases hdelivery

/-! ### What was received -/

def WhatsAppAction.receivedRank (providerMessageId : String) : WhatsAppAction → Option ℕ
  | .webhook status =>
    if status.providerMessageId = providerMessageId then
      (metaStatus status.status).map statusRank
    else none
  | _ => none

def receivedRanks (providerMessageId : String) (actions : List WhatsAppAction) : List ℕ :=
  actions.filterMap fun action => action.receivedRank providerMessageId

theorem receivedRanks_cons (providerMessageId : String) (action : WhatsAppAction)
    (actions : List WhatsAppAction) :
    receivedRanks providerMessageId (action :: actions) =
      (action.receivedRank providerMessageId).toList ++
        receivedRanks providerMessageId actions := by
  rw [receivedRanks, List.filterMap_cons]
  cases action.receivedRank providerMessageId <;> rfl

def Task.isEnded : Task → Bool
  | .ended => true
  | _ => false

def Task.pendingRank (providerMessageId : String) : Task → Option ℕ
  | .webhook status next | .apply status next _ =>
    if status.providerMessageId = providerMessageId then some (statusRank next) else none
  | _ => none

/-- **What is known of a message** after the webhooks of some ranks have arrived: the rank of its
status is one of them, and the ones that are higher are under way. -/
structure Progress (id providerMessageId : String) (received : List ℕ) (w : WhatsAppWorld) :
    Prop where
  positive : ∀ rank ∈ received, 0 < rank
  pending : ∀ task ∈ w.threads, ∀ rank, task.pendingRank providerMessageId = some rank →
    rank ∈ received
  row : ∃ row, w.shared.findMessage id = some row ∧
    row.providerMessageId = some providerMessageId ∧ statusRank row.status ∈ 1 :: received ∧
      ∀ rank ∈ received, rank ≤ statusRank row.status ∨
        ∃ task ∈ w.threads, task.pendingRank providerMessageId = some rank

/-- The identifiers of a message belong together, as unique columns do. -/
structure Identified (id providerMessageId : String) (identities : List (String × Option String)) :
    Prop where
  nodup : (identities.map Prod.fst).Nodup
  mem : (id, some providerMessageId) ∈ identities
  unique : ∀ other, (other, some providerMessageId) ∈ identities → other = id

variable {providerMessageId : String}

theorem Identified.provider_eq {id other : String} (h : Identified id providerMessageId identities)
    (hother : (id, some other) ∈ identities) : other = providerMessageId := by
  have heq := List.inj_on_of_nodup_map h.nodup hother h.mem rfl
  exact Option.some.inj (congrArg Prod.snd heq)

variable {received : List ℕ}

theorem Progress.live {id : String} (h : Progress id providerMessageId received w)
    {row : WhatsAppMessage} (hrow : w.shared.findMessage id = some row) : row.status ≠ .failed := by
  obtain ⟨mine, hmine, _, hrank, _⟩ := h.row
  obtain rfl := Option.some.inj (hmine.symm.trans hrow)
  intro hfailed
  rw [hfailed] at hrank
  rcases List.mem_cons.1 hrank with hzero | hzero
  · cases hzero
  · exact absurd (h.positive _ hzero) (by decide)

theorem Progress.arrive {id : String} (h : Progress id providerMessageId received w)
    (hmine : status.providerMessageId = providerMessageId) (hpos : 0 < statusRank next) :
    Progress id providerMessageId (received ++ [statusRank next])
      (w.spawn (.webhook status next)) := by
  obtain ⟨row, hrow, hprovider, hrank, hreached⟩ := h.row
  have hnew : (Task.webhook status next).pendingRank providerMessageId =
      some (statusRank next) := if_pos hmine
  refine ⟨fun rank hmem => ?_, fun task htask rank hpending => ?_, row, hrow, hprovider, ?_,
    fun rank hmem => ?_⟩
  · rcases Ledger.mem_concat.1 hmem with hold | hlast
    · exact h.positive rank hold
    · exact hlast ▸ hpos
  · rcases Ledger.mem_concat.1 htask with hold | hlast
    · exact List.mem_append_left _ (h.pending task hold rank hpending)
    · rw [hlast, hnew] at hpending
      exact List.mem_append_right _ (List.mem_singleton.2 (Option.some.inj hpending).symm)
  · exact List.mem_cons.2 ((List.mem_cons.1 hrank).imp_right (List.mem_append_left _))
  · rcases Ledger.mem_concat.1 hmem with hold | hlast
    · rcases hreached rank hold with hle | ⟨task, htask, hpending⟩
      · exact Or.inl hle
      · exact Or.inr ⟨task, List.mem_append_left _ htask, hpending⟩
    · rw [hlast]
      exact Or.inr ⟨_, List.mem_append_right _ (List.mem_singleton.2 rfl), hnew⟩

theorem Progress.arrive_other {id : String} (h : Progress id providerMessageId received w)
    (hother : status.providerMessageId ≠ providerMessageId) :
    Progress id providerMessageId received (w.spawn (.webhook status next)) := by
  obtain ⟨row, hrow, hprovider, hrank, hreached⟩ := h.row
  refine ⟨h.positive, fun task htask rank hpending => ?_, row, hrow, hprovider, hrank,
    fun rank hmem => ?_⟩
  · rcases Ledger.mem_concat.1 htask with hold | hlast
    · exact h.pending task hold rank hpending
    · rw [hlast, Task.pendingRank, if_neg hother] at hpending
      cases hpending
  · rcases hreached rank hmem with hle | ⟨task, htask, hpending⟩
    · exact Or.inl hle
    · exact Or.inr ⟨task, List.mem_append_left _ htask, hpending⟩

theorem Progress.move {id : String} (h : Progress id providerMessageId received w) {i : ℕ}
    {next : Task} (htask : w.threads[i]? = some task)
    (hnext : next.pendingRank providerMessageId = none ∨
      next.pendingRank providerMessageId = task.pendingRank providerMessageId)
    (hwritten : ∀ row, w.shared.findMessage id = some row →
      ∃ row', db.findMessage id = some row' ∧ row'.providerMessageId = row.providerMessageId ∧
        (statusRank row'.status = statusRank row.status ∨
          ∃ rank, task.pendingRank providerMessageId = some rank ∧
            statusRank row'.status = max (statusRank row.status) rank))
    (hreported : ∀ rank, task.pendingRank providerMessageId = some rank →
      next.pendingRank providerMessageId = none → ∀ row', db.findMessage id = some row' →
        rank ≤ statusRank row'.status) :
    Progress id providerMessageId received (w.move i db next) := by
  obtain ⟨row, hrow, hprovider, hrank, hreached⟩ := h.row
  obtain ⟨row', hrow', hprovider', hmax⟩ := hwritten row hrow
  have hmem := List.mem_of_getElem? htask
  have hgrows : statusRank row.status ≤ statusRank row'.status := by
    rcases hmax with heq | ⟨rank, _, heq⟩
    · exact heq.ge
    · exact heq ▸ le_max_left _ _
  refine ⟨h.positive, fun u hu rank hpending => ?_, row', hrow', hprovider'.trans hprovider, ?_,
    fun rank hreceived => ?_⟩
  · rcases ThreadPool.mem_move hu with rfl | hold
    · rcases hnext with hnone | hsame
      · rw [hnone] at hpending
        cases hpending
      · exact h.pending task hmem rank (hsame ▸ hpending)
    · exact h.pending u hold rank hpending
  · rcases hmax with heq | ⟨rank, hpending, heq⟩
    · exact heq ▸ hrank
    · rcases max_cases (statusRank row.status) rank with ⟨hm, _⟩ | ⟨hm, _⟩
      · rw [heq, hm]
        exact hrank
      · rw [heq, hm]
        exact List.mem_cons_of_mem _ (h.pending task hmem rank hpending)
  · rcases hreached rank hreceived with hle | ⟨u, hu, hpending⟩
    · exact Or.inl (hle.trans hgrows)
    · by_cases hself : task = u
      · subst hself
        cases hkept : next.pendingRank providerMessageId with
        | none => exact Or.inl (hreported rank hpending hkept row' hrow')
        | some other =>
          rcases hnext with hnone | hsame
          · rw [hnone] at hkept
            cases hkept
          · exact Or.inr ⟨next, ThreadPool.mem_move_self htask _ _, hsame.trans hpending⟩
      · exact Or.inr ⟨u, ThreadPool.mem_move_of_ne htask _ _ hu hself, hpending⟩

theorem applyTurn_pendingRank (input : TurnInput) (db : WhatsAppDb) (status : StatusWebhook)
    (next : WhatsAppMessageStatus) (message : WhatsAppMessage) (providerMessageId : String) :
    (Task.applyTurn input db status next message).1.pendingRank providerMessageId = none := by
  rw [Task.applyTurn]
  dsimp only
  split
  · split
    · rfl
    · split <;> rfl
  · split <;> rfl

theorem Progress.turn {id : String} (hinv : StatusInv identities w)
    (hid : Identified id providerMessageId identities)
    (h : Progress id providerMessageId received w) {i : ℕ} (htask : w.threads[i]? = some task)
    {input : TurnInput} (hstored : input.stored = true) (hstill : StillMoves w (.turn i input)) :
    Progress id providerMessageId received
      (w.move i (task.turn input w.shared).2 (task.turn input w.shared).1) := by
  have hof := hinv.tasks task (List.mem_of_getElem? htask)
  obtain ⟨mine, hmine, hprovider, _⟩ := h.row
  have hmem := List.mem_of_getElem? htask
  -- a step that writes no message and reports nothing
  have hquiet : ∀ {db : WhatsAppDb} {next : Task}, db.messages = w.shared.messages →
      task.pendingRank providerMessageId = none → next.pendingRank providerMessageId = none →
        Progress id providerMessageId received (w.move i db next) := by
    intro db next hmessages hnone hnext
    refine h.move htask (Or.inl hnext) (fun row hrow => ⟨row, ?_, rfl, Or.inl rfl⟩)
      fun rank hpending => ?_
    · rw [WhatsAppDb.findMessage_of_messages hmessages]
      exact hrow
    · rw [hnone] at hpending
      cases hpending
  cases task with
  | send id phase => exact hof.elim
  | recover storeId id refunded => exact hof.elim
  | webhook status next =>
    rw [Task.turn]
    by_cases hpid : status.providerMessageId = providerMessageId
    · -- the message is found, and it has not failed
      have hrowMem : mine ∈ w.shared.messages := (WhatsAppDb.findMessage_some hmine).1
      cases hfound : w.shared.findByProviderId status.providerMessageId with
      | none =>
        have hmiss := List.find?_eq_none.1 hfound mine hrowMem
        simp [hprovider, hpid] at hmiss
      | some message =>
        have hp : message.providerMessageId = some providerMessageId := by
          rw [← hpid]
          simpa using List.find?_some hfound
        have hmessage : message ∈ w.shared.messages := List.mem_of_find?_eq_some hfound
        have hmid : message.id = id := by
          refine hid.unique message.id ?_
          rw [← hinv.same, ← hp]
          exact List.mem_map.2 ⟨message, hmessage, rfl⟩
        have hself := KeyedRows.lookup_of_mem WhatsAppMessage.id hinv.ids_nodup hmessage
        have heq : message = mine := by
          rw [hmid] at hself
          exact Option.some.inj (hself.symm.trans hmine)
        dsimp only
        rw [if_neg (heq ▸ h.live hmine)]
        exact h.move htask (Or.inr rfl) (fun row hrow => ⟨row, hrow, rfl, Or.inl rfl⟩)
          fun rank hpending hnone => by
            rw [show (Task.apply status next message).pendingRank providerMessageId = _ from
              if_pos hpid] at hnone
            cases hnone
    · have hnone : (Task.webhook status next).pendingRank providerMessageId = none := if_neg hpid
      split
      · exact hquiet rfl hnone rfl
      · split
        · exact hquiet rfl hnone rfl
        · exact hquiet rfl hnone (if_neg hpid)
  | apply status next message =>
    obtain ⟨_, hstatus⟩ := applyTurn_status hstored hof (hstill _ htask)
    have hended := applyTurn_pendingRank input w.shared status next message providerMessageId
    by_cases hpid : status.providerMessageId = providerMessageId
    · have hmid : message.id = id := hid.unique message.id (hpid ▸ hinv.same ▸ hof.2.1)
      have hpending : (Task.apply status next message).pendingRank providerMessageId =
          some (statusRank next) := if_pos hpid
      have hpos := h.positive _ (h.pending _ hmem _ hpending)
      have hmax : ∀ row, w.shared.findMessage id = some row →
          ∃ row', (Task.applyTurn input w.shared status next message).2.findMessage id =
            some row' ∧ row'.providerMessageId = row.providerMessageId ∧
            statusRank row'.status = max (statusRank row.status) (statusRank next) := by
        intro row hrow
        obtain ⟨row', hrow', hprovider', hafter⟩ := hstatus id row hrow
        refine ⟨row', hrow', hprovider', ?_⟩
        rw [hafter, if_pos hmid.symm, statusAfter_rank (h.live hrow) hpos]
      refine h.move htask (Or.inl hended) (fun row hrow => ?_) fun rank hrankEq _ row' hrow' => ?_
      · obtain ⟨row', hrow', hprovider', heq⟩ := hmax row hrow
        exact ⟨row', hrow', hprovider', Or.inr ⟨_, hpending, heq⟩⟩
      · obtain rfl := Option.some.inj (hpending.symm.trans hrankEq)
        obtain ⟨found, hfound, _, heq⟩ := hmax mine hmine
        obtain rfl := Option.some.inj (hfound.symm.trans hrow')
        exact heq ▸ le_max_right _ _
    · have hmid : id ≠ message.id := by
        rintro rfl
        exact hpid (hid.provider_eq (hinv.same ▸ hof.2.1))
      refine h.move htask (Or.inl hended) (fun row hrow => ?_) fun rank hpending => ?_
      · obtain ⟨row', hrow', hprovider', hafter⟩ := hstatus id row hrow
        refine ⟨row', hrow', hprovider', Or.inl ?_⟩
        rw [hafter, if_neg hmid]
      · rw [show (Task.apply status next message).pendingRank providerMessageId = none from
          if_neg hpid] at hpending
        cases hpending
  | takeBack storeId other =>
    exact hquiet (w.shared.refunded_messages input.stored storeId other) rfl rfl
  | ended => exact hquiet rfl rfl rfl

theorem Progress.step {id : String} (hinv : StatusInv identities w)
    (hid : Identified id providerMessageId identities)
    (h : Progress id providerMessageId received w) {action : WhatsAppAction}
    (hdelivery : action.isDelivery = true) (hstill : StillMoves w action)
    (hpos : ∀ rank ∈ (action.receivedRank providerMessageId).toList, 0 < rank) :
    Progress id providerMessageId (received ++ (action.receivedRank providerMessageId).toList)
      (WhatsAppAction.step w action) := by
  cases action with
  | webhook status =>
    rw [WhatsAppAction.step]
    rw [WhatsAppAction.receivedRank] at hpos ⊢
    cases hmeta : metaStatus status.status with
    | none =>
      rw [Option.map_none, ite_self, Option.toList_none, List.append_nil]
      exact h
    | some next =>
      rw [hmeta] at hpos
      by_cases hpid : status.providerMessageId = providerMessageId
      · rw [if_pos hpid] at hpos ⊢
        exact h.arrive hpid (hpos _ (List.mem_singleton.2 rfl))
      · rw [if_neg hpid, Option.toList_none, List.append_nil]
        exact h.arrive_other hpid
  | turn i input =>
    have hnone : received ++ ((WhatsAppAction.turn i input).receivedRank
        providerMessageId).toList = received := List.append_nil received
    rw [hnone, WhatsAppAction.step]
    cases htask : w.threads[i]? with
    | none => exact h
    | some task => exact h.turn hinv hid htask hdelivery hstill
  | schedule id storeId currency trigger orderId hasPhone => cases hdelivery
  | disconnect id => cases hdelivery
  | claim id => cases hdelivery
  | recover id => cases hdelivery
  | crash i => cases hdelivery
  | adminCredit storeId currency topUp amount key => cases hdelivery
  | setPricing currency price => cases hdelivery

/-! ### Runs -/

theorem Progress.run {id : String} (hinv : StatusInv identities w)
    (hid : Identified id providerMessageId identities)
    (h : Progress id providerMessageId received w) {actions : List WhatsAppAction}
    (hdelivery : ∀ action ∈ actions, action.isDelivery = true)
    (hstill : Machine.Along WhatsAppAction.step StillMoves w actions)
    (hpos : ∀ rank ∈ receivedRanks providerMessageId actions, 0 < rank) :
    Progress id providerMessageId (received ++ receivedRanks providerMessageId actions)
      (Machine.run WhatsAppAction.step w actions) := by
  induction actions generalizing received w with
  | nil =>
    rw [receivedRanks, List.filterMap_nil, List.append_nil]
    exact h
  | cons action actions ih =>
    rw [receivedRanks_cons] at hpos ⊢
    have hfirst := hdelivery action (List.mem_cons_self ..)
    have hstep := h.step hinv hid hfirst hstill.1
      fun rank hrank => hpos rank (List.mem_append_left _ hrank)
    rw [← List.append_assoc]
    exact ih (hinv.step hfirst hstill.1).1 hstep
      (fun other hother => hdelivery other (List.mem_cons_of_mem _ hother)) hstill.2
      fun rank hrank => hpos rank (List.mem_append_right _ hrank)

theorem StatusInv.run (h : StatusInv identities w) {actions : List WhatsAppAction}
    (hdelivery : ∀ action ∈ actions, action.isDelivery = true)
    (hstill : Machine.Along WhatsAppAction.step StillMoves w actions) :
    StatusInv identities (Machine.run WhatsAppAction.step w actions) ∧
      StatusStep w.shared (Machine.run WhatsAppAction.step w actions).shared := by
  induction actions generalizing w with
  | nil => exact ⟨h, .of_messages rfl⟩
  | cons action actions ih =>
    obtain ⟨hinv, hfirst⟩ := h.step (hdelivery action (List.mem_cons_self ..)) hstill.1
    obtain ⟨hlast, hrest⟩ :=
      ih hinv (fun other hother => hdelivery other (List.mem_cons_of_mem _ hother)) hstill.2
    exact ⟨hlast, hfirst.trans hrest⟩

/-- **The status ends at the highest rank received, and only moves forwards.** -/
theorem status_webhooks {db : WhatsAppDb} (hids : (db.messages.map WhatsAppMessage.id).Nodup)
    (hproviders : ∀ message ∈ db.messages, ∀ other ∈ db.messages, ∀ providerMessageId,
      message.providerMessageId = some providerMessageId →
        other.providerMessageId = some providerMessageId → message = other)
    {id providerMessageId : String} {row : WhatsAppMessage} (hrow : db.findMessage id = some row)
    (hsent : row.status = .sent) (hprovider : row.providerMessageId = some providerMessageId)
    {actions : List WhatsAppAction} (hdelivery : ∀ action ∈ actions, action.isDelivery = true)
    (hstill : Machine.Along WhatsAppAction.step StillMoves { shared := db } actions) :
    (∀ earlier later, actions = earlier ++ later →
      ∀ other before,
        (Machine.run WhatsAppAction.step { shared := db } earlier).shared.findMessage other =
          some before →
        ∃ after,
          (Machine.run WhatsAppAction.step { shared := db } actions).shared.findMessage other =
            some after ∧ Forward before.status after.status) ∧
      ((∀ rank ∈ receivedRanks providerMessageId actions, 0 < rank) →
        (∀ task ∈ (Machine.run WhatsAppAction.step { shared := db } actions).threads,
          task.isEnded = true) →
        ∃ after,
          (Machine.run WhatsAppAction.step { shared := db } actions).shared.findMessage id =
            some after ∧
          statusRank after.status ∈ 1 :: receivedRanks providerMessageId actions ∧
          ∀ rank ∈ 1 :: receivedRanks providerMessageId actions,
            rank ≤ statusRank after.status) := by
  have hmem : row ∈ db.messages := (WhatsAppDb.findMessage_some hrow).1
  have hid : row.id = id := (WhatsAppDb.findMessage_some hrow).2
  have hnodup : (db.identities.map Prod.fst).Nodup := by
    rw [WhatsAppDb.identities, List.map_map]
    exact hids
  have hinv : StatusInv db.identities { shared := db } := ⟨hnodup, rfl, by simp⟩
  have hmine : Identified id providerMessageId db.identities := by
    refine ⟨hnodup, List.mem_map.2 ⟨row, hmem, by rw [hid, hprovider]⟩, fun other hother => ?_⟩
    obtain ⟨message, hmessage, heq⟩ := List.mem_map.1 hother
    obtain ⟨rfl, hp⟩ := Prod.mk.inj heq
    rw [hproviders message hmessage row hmem providerMessageId hp hprovider, hid]
  refine ⟨?_, fun hpos hended => ?_⟩
  · rintro earlier later rfl other before hbefore
    have hsplit := Machine.Along.append.1 hstill
    have hfirst := (hinv.run (fun action h => hdelivery action (List.mem_append_left _ h))
      hsplit.1).1
    have hrest := (hfirst.run (fun action h => hdelivery action (List.mem_append_right _ h))
      hsplit.2).2
    rw [Machine.run_append]
    exact hrest.2 other before hbefore
  · have hprogress : Progress id providerMessageId [] { shared := db } := by
      refine ⟨by simp, by simp, row, hrow, hprovider, ?_, by simp⟩
      rw [hsent]
      exact List.mem_cons_self ..
    obtain ⟨after, hafter, _, hrank, hreached⟩ :=
      (hprogress.run hinv hmine hdelivery hstill hpos).row
    refine ⟨after, hafter, hrank, fun rank hreceived => ?_⟩
    rcases List.mem_cons.1 hreceived with rfl | hreceived
    · rcases List.mem_cons.1 hrank with heq | hother
      · exact heq.ge
      · exact hpos _ hother
    · rcases hreached rank hreceived with hle | ⟨task, htask, hpending⟩
      · exact hle
      · have hend := hended task htask
        cases task with
        | ended => cases hpending
        | _ => cases hend

/-! ### Webhooks out of order -/

def sentMessage : WhatsAppMessage :=
  { id := "message", storeId := "store", currency := "MAD", status := .sent
    providerMessageId := some "wamid" }

def webhookOf (status : String) : WhatsAppAction :=
  .webhook { providerMessageId := "wamid", status, timestamp := 1700000000 }

/-- The message is read before it is delivered, and that it was sent is read first and written
last. -/
def outOfOrder : List WhatsAppAction :=
  [webhookOf "sent", .turn 0 {}, webhookOf "read", .turn 1 {}, .turn 1 {}, webhookOf "delivered",
    .turn 2 {}, .turn 2 {}, webhookOf "read", .turn 3 {}, .turn 3 {}, .turn 0 {}]

theorem status_webhooks_outOfOrder :
    ∃ after,
      (Machine.run WhatsAppAction.step { shared := { messages := [sentMessage] } }
        outOfOrder).shared.findMessage "message" = some after ∧ after.status = .read := by
  obtain ⟨_, hhighest⟩ := @status_webhooks { messages := [sentMessage] } (by decide)
    (by
      intro message hmessage other hother _ _ _
      rw [List.mem_singleton.1 hmessage, List.mem_singleton.1 hother])
    "message" "wamid" sentMessage (by decide) rfl rfl outOfOrder (by decide +kernel)
    (by decide +kernel)
  obtain ⟨after, hafter, hrank, hreached⟩ := hhighest (by decide +kernel) (by decide +kernel)
  have hranks : receivedRanks "wamid" outOfOrder = [1, 3, 2, 3] := by decide +kernel
  rw [hranks] at hreached
  have hthree := hreached 3 (by decide)
  refine ⟨after, hafter, ?_⟩
  revert hthree
  cases after.status <;> decide

def overlapping : List WhatsAppAction :=
  [webhookOf "read", webhookOf "delivered", .turn 0 {}, .turn 1 {}, .turn 0 {}, .turn 1 {}]

/-- **A message that was read is only delivered again.** -/
theorem status_webhooks_taken_back :
    ¬ ∀ (db : WhatsAppDb) (actions : List WhatsAppAction) (id providerMessageId : String)
      (row after : WhatsAppMessage), db.messages = [row] → row.id = id → row.status = .sent →
      row.providerMessageId = some providerMessageId →
      (∀ action ∈ actions, action.isDelivery = true) →
      (∀ rank ∈ receivedRanks providerMessageId actions, 0 < rank) →
      (∀ task ∈ (Machine.run WhatsAppAction.step { shared := db } actions).threads,
        task.isEnded = true) →
      (Machine.run WhatsAppAction.step { shared := db } actions).shared.findMessage id =
        some after →
      ∀ rank ∈ receivedRanks providerMessageId actions, rank ≤ statusRank after.status := by
  intro h
  have hclaim := h { messages := [sentMessage] } overlapping "message" "wamid" sentMessage
    { sentMessage with
      status := .delivered
      deliveredAt := some 1700000000000
      readAt := some 1700000000000 }
    rfl rfl rfl rfl (by decide +kernel) (by decide +kernel) (by decide +kernel)
    (by decide +kernel) 3 (by decide +kernel)
  exact absurd hclaim (by decide)

end Zomaal.WhatsApp
