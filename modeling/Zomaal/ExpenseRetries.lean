/-
**A retried expense is one expense.**

The advisory lock of a key makes a call alone with it from the moment it looks for an earlier
request until it commits; the lock on an upload's row makes it alone with the upload from the moment
it attaches it.

Main results:

* `Expenses.expenseRetries` — **every run is sound, and its turns are proper**.
-/

import Zomaal.Expenses

set_option autoImplicit false

namespace Zomaal.Expenses

variable {φ : Type} (env : Environment φ)

/-! ### Runs -/

inductive Action
  | create (headerKey : Option String) (dto : CreateExpenseDto)
  | remove (expenseId : String)
  | turn (i : ℕ) (moment : Moment)

abbrev Pool (φ : Type) := ThreadPool (Books φ) Call

section Runs

variable [DecidableEq φ]

variable (w : Pool φ)

def turnAt (i : ℕ) (moment : Moment) (call : Call) : Books φ × Call :=
  call.turn env moment (w.heldElsewhere Call.holds i) w.shared

def step : Action → Pool φ
  | .create headerKey dto => w.spawn (.create (CreateCall.start headerKey dto))
  | .remove expenseId => w.spawn (.remove { expenseId })
  | .turn i moment =>
    match w.threads[i]? with
    | none => w
    | some call => w.move i (turnAt env w i moment call).1 (turnAt env w i moment call).2

/-- The expense with an id was created by a request with the key and the data of this call. -/
def CreateCall.Answers (call : CreateCall) (books : Books φ) (id : String) : Prop :=
  ∃ creation ∈ books.creations, creation.key = call.key ∧ creation.payload = call.dto.payload ∧
    creation.expenseId = id

structure Sound : Prop where
  /-- Per key, one expense was ever created. -/
  once : w.shared.creations.Pairwise Creation.Apart
  /-- A call with a key returns the expense that was created with its key and its data. -/
  answered : ∀ call, .create call ∈ w.threads → call.key ≠ none →
    ∀ id, call.phase = .returned id → call.Answers w.shared id
  /-- A call whose key was used with other data writes nothing and, in the end, is rejected. -/
  refused : ∀ call, .create call ∈ w.threads → ∀ creation ∈ w.shared.creations, call.key ≠ none →
    creation.key = call.key → creation.payload ≠ call.dto.payload →
    call.committed = false ∧ (call.phase.rank = 0 → ∃ error, call.phase = .rejected error)
  /-- A rejected call has committed nothing. -/
  rejected : ∀ call ∈ w.threads, call.rejection ≠ none → call.committed = false
  /-- No upload was ever attached twice. -/
  attachedOnce : (w.shared.attachments.map Prod.fst).Nodup
  attachedTo : ∀ asset ∈ w.shared.media, ∀ id, asset.expenseId = some id →
    (asset.id, id) ∈ w.shared.attachments

structure ProperTurn (i : ℕ) (moment : Moment) (call : Call) : Prop where
  /-- Only the turns of calls that have committed change rows. -/
  unwritten : (turnAt env w i moment call).2.committed = false →
    (turnAt env w i moment call).1 = w.shared
  /-- No statement rejects a retry with the same data while the expense is there. -/
  retried : moment.failure = none → ∀ before after : CreateCall, call = .create before →
    (turnAt env w i moment call).2 = .create after → (∀ error, before.phase ≠ .rejected error) →
    ∀ error, after.phase = .rejected error →
    ∀ creation ∈ w.shared.creations, before.key ≠ none → creation.key = before.key →
      creation.payload = before.dto.payload →
      ∀ expense ∈ w.shared.expenses, expense.id ≠ creation.expenseId
  /-- The expense that a call returns is there when it does. -/
  present : ∀ before after : CreateCall, call = .create before →
    (turnAt env w i moment call).2 = .create after → ∀ id, after.phase = .returned id →
    before.phase ≠ .returned id →
    ∃ expense ∈ (turnAt env w i moment call).1.expenses, expense.id = id
  /-- A call that has not ended comes nearer to its end, or waits for another that has not. -/
  advances : call.rank ≠ 0 → (turnAt env w i moment call).2.rank < call.rank ∨
    ∃ (j : ℕ) (other : Call) (lock : Lock), j ≠ i ∧ w.threads[j]? = some other ∧
      other.holds lock = true ∧ other.rank ≠ 0

def Proper : Action → Prop
  | .turn i moment => ∀ call ∈ w.threads[i]?, ProperTurn env w i moment call
  | _ => True

end Runs

/-! ### What calls know -/

namespace CreateCall

variable (call : CreateCall) (books : Books φ)

def Alone : Prop :=
  ∀ key, call.key = some key →
    Lock.key key ∈ call.locks ∧ ∀ creation ∈ books.creations, creation.key ≠ some key

def Fresh (id : String) : Prop :=
  Lock.insert id ∈ call.locks ∧ ∀ creation ∈ books.creations, creation.expenseId ≠ id

def HoldsReceipt : Prop :=
  ∀ assetId, call.dto.receipt = .asset assetId →
    Lock.asset assetId ∈ call.locks ∧ assetId ∉ books.attachments.map Prod.fst

def KnowsIn : CreatePhase → Prop
  | .locking key => call.key = some key
  | .readingRequest key => call.key = some key ∧ Lock.key key ∈ call.locks
  | .readingExpense id => call.Answers books id
  | .readingCategory | .inserting => call.Alone books
  | .attaching expense assetId =>
    call.Alone books ∧ call.Fresh books expense.id ∧ call.dto.receipt = .asset assetId
  | .insertingRequest expense | .committing expense =>
    call.Alone books ∧ call.Fresh books expense.id ∧ call.HoldsReceipt books
  | .returned id => call.Answers books id ∧ call.locks = []
  | .rejected _ => call.locks = []

structure Knows : Prop where
  phase : call.KnowsIn books call.phase
  uncommitted : (∀ id, call.phase ≠ .returned id) → call.committed = false

end CreateCall

def RemoveCall.KnowsIn (call : RemoveCall) : RemovePhase → Prop
  | .readingAsset _ | .deletingAsset _ | .returned => call.committed = true ∧ call.locks = []
  | .rejected _ => call.committed = false ∧ call.locks = []
  | _ => call.committed = false

def Call.Knows (books : Books φ) : Call → Prop
  | .create call => call.Knows books
  | .remove call => call.KnowsIn call.phase

/-- **What a statement may add to what has happened**: creations and attachments under the locks of
their key, their id and their upload. -/
structure Steps (locks : List Lock) (books books' : Books φ) : Prop where
  creations : ∃ new, books'.creations = books.creations ++ new ∧ ∀ creation ∈ new,
    (∀ key, creation.key = some key → Lock.key key ∈ locks) ∧
      Lock.insert creation.expenseId ∈ locks
  attachments : ∃ new, books'.attachments = books.attachments ++ new ∧ ∀ attachment ∈ new,
    Lock.asset attachment.1 ∈ locks

variable {env} {books books' : Books φ}

theorem Steps.of_eq {locks : List Lock} (hcreations : books'.creations = books.creations)
    (hattachments : books'.attachments = books.attachments) : Steps locks books books' :=
  ⟨⟨[], by rw [hcreations, List.append_nil], fun _ h => absurd h List.not_mem_nil⟩,
    ⟨[], by rw [hattachments, List.append_nil], fun _ h => absurd h List.not_mem_nil⟩⟩

namespace CreateCall

variable {call : CreateCall}

theorem Answers.mono {id : String} (h : call.Answers books id)
    (hmono : ∀ creation ∈ books.creations, creation ∈ books'.creations) :
    call.Answers books' id := by
  obtain ⟨creation, hcreation, hrest⟩ := h
  exact ⟨creation, hmono creation hcreation, hrest⟩

section Stable

variable {locks : List Lock} (hsteps : Steps locks books books')
  (hexcludes : ∀ lock ∈ call.locks, lock ∉ locks)

include hsteps hexcludes

theorem Alone.stable (h : call.Alone books) : call.Alone books' := by
  obtain ⟨new, hnew, hunder⟩ := hsteps.creations
  intro key hkey
  obtain ⟨hlock, hnone⟩ := h key hkey
  refine ⟨hlock, fun creation hcreation hsame => ?_⟩
  rw [hnew] at hcreation
  rcases List.mem_append.1 hcreation with hold | hadded
  · exact hnone creation hold hsame
  · exact hexcludes _ hlock ((hunder creation hadded).1 key hsame)

theorem Fresh.stable {id : String} (h : call.Fresh books id) : call.Fresh books' id := by
  obtain ⟨new, hnew, hunder⟩ := hsteps.creations
  refine ⟨h.1, fun creation hcreation hsame => ?_⟩
  rw [hnew] at hcreation
  rcases List.mem_append.1 hcreation with hold | hadded
  · exact h.2 creation hold hsame
  · exact hexcludes _ h.1 (hsame ▸ (hunder creation hadded).2)

theorem HoldsReceipt.stable (h : call.HoldsReceipt books) : call.HoldsReceipt books' := by
  obtain ⟨new, hnew, hunder⟩ := hsteps.attachments
  intro assetId hasset
  obtain ⟨hlock, hnever⟩ := h assetId hasset
  refine ⟨hlock, fun hmem => ?_⟩
  rw [hnew, List.map_append, List.mem_append] at hmem
  rcases hmem with hold | hadded
  · exact hnever hold
  · obtain ⟨attachment, hattachment, rfl⟩ := List.mem_map.1 hadded
    exact hexcludes _ hlock (hunder attachment hattachment)

theorem KnowsIn.stable {phase : CreatePhase} (h : call.KnowsIn books phase) :
    call.KnowsIn books' phase := by
  have hmono : ∀ creation ∈ books.creations, creation ∈ books'.creations := by
    obtain ⟨new, hnew, -⟩ := hsteps.creations
    intro creation hcreation
    rw [hnew]
    exact List.mem_append_left _ hcreation
  cases phase with
  | readingExpense id => exact Answers.mono h hmono
  | readingCategory => exact Alone.stable hsteps hexcludes h
  | inserting => exact Alone.stable hsteps hexcludes h
  | attaching expense assetId =>
    exact ⟨h.1.stable hsteps hexcludes, h.2.1.stable hsteps hexcludes, h.2.2⟩
  | insertingRequest expense =>
    exact ⟨h.1.stable hsteps hexcludes, h.2.1.stable hsteps hexcludes,
      h.2.2.stable hsteps hexcludes⟩
  | committing expense =>
    exact ⟨h.1.stable hsteps hexcludes, h.2.1.stable hsteps hexcludes,
      h.2.2.stable hsteps hexcludes⟩
  | returned id => exact ⟨h.1.mono hmono, h.2⟩
  | _ => exact h

end Stable

end CreateCall

theorem Call.Knows.stable {call : Call} {locks : List Lock} (h : call.Knows books)
    (hsteps : Steps locks books books') (hexcludes : ∀ lock ∈ call.locks, lock ∉ locks) :
    call.Knows books' := by
  cases call with
  | create call => exact ⟨h.phase.stable hsteps hexcludes, h.uncommitted⟩
  | remove call => exact h

/-! ### What a statement of a creation does -/

variable (env) in
/-- A creation that has not ended, and what its statement comes to. -/
structure CreateSpec (elsewhere : Lock → Bool) (books : Books φ) (call : CreateCall)
    (result : Books φ × CreateCall) : Prop where
  wellFormed : WellFormed env result.1
  steps : Steps call.locks books result.1
  knows : result.2.Knows result.1
  locks : ∀ lock ∈ result.2.locks, lock ∈ call.locks ∨ elsewhere lock = false
  unwritten : result.2.committed = false → result.1 = books
  retried : ∀ error, result.2.phase = .rejected error → call.key ≠ none →
    ∀ creation ∈ books.creations, creation.key = call.key →
      creation.payload = call.dto.payload →
      ∀ expense ∈ books.expenses, expense.id ≠ creation.expenseId
  present : ∀ id, result.2.phase = .returned id → ∃ expense ∈ result.1.expenses, expense.id = id
  advances : result.2.phase.rank < call.phase.rank ∨
    result.2 = call ∧ ∃ lock, elsewhere lock = true

namespace CreateSpec

variable {elsewhere : Lock → Bool} {call : CreateCall}

theorem stay (hwell : WellFormed env books) (h : call.Knows books)
    (hopen : call.phase.rank ≠ 0) {lock : Lock} (hlock : elsewhere lock = true) :
    CreateSpec env elsewhere books call (books, call) where
  wellFormed := hwell
  steps := .of_eq rfl rfl
  knows := h
  locks := fun _ hmem => .inl hmem
  unwritten := fun _ => rfl
  retried := fun _ hphase => absurd (congrArg CreatePhase.rank hphase) hopen
  present := fun _ hphase => absurd (congrArg CreatePhase.rank hphase) hopen
  advances := .inr ⟨rfl, lock, hlock⟩

theorem go (hwell : WellFormed env books) (huncommitted : call.committed = false)
    {locks : List Lock}
    (hlocks : ∀ lock ∈ locks, lock ∈ call.locks ∨ elsewhere lock = false) {phase : CreatePhase}
    (hknows : ({ call with phase, locks } : CreateCall).KnowsIn books phase)
    (hrank : phase.rank < call.phase.rank) (hopen : phase.rank ≠ 0) :
    CreateSpec env elsewhere books call (books, { call with phase, locks }) where
  wellFormed := hwell
  steps := .of_eq rfl rfl
  knows := ⟨hknows, fun _ => huncommitted⟩
  locks := hlocks
  unwritten := fun _ => rfl
  retried := fun _ hphase => absurd (congrArg CreatePhase.rank hphase) hopen
  present := fun _ hphase => absurd (congrArg CreatePhase.rank hphase) hopen
  advances := .inl hrank

theorem reject (hwell : WellFormed env books) (huncommitted : call.committed = false)
    (hopen : call.phase.rank ≠ 0) (error : ServiceError)
    (hretried : call.key ≠ none → ∀ creation ∈ books.creations, creation.key = call.key →
      creation.payload = call.dto.payload →
      ∀ expense ∈ books.expenses, expense.id ≠ creation.expenseId) :
    CreateSpec env elsewhere books call (books, call.reject error) where
  wellFormed := hwell
  steps := .of_eq rfl rfl
  knows := ⟨rfl, fun _ => huncommitted⟩
  locks := fun _ hmem => absurd hmem List.not_mem_nil
  unwritten := fun _ => rfl
  retried := fun _ _ => hretried
  present := fun _ hphase => nomatch hphase
  advances := .inl (Nat.pos_of_ne_zero hopen)

theorem rejectAlone (hwell : WellFormed env books) (huncommitted : call.committed = false)
    (hopen : call.phase.rank ≠ 0) (error : ServiceError) (halone : call.Alone books) :
    CreateSpec env elsewhere books call (books, call.reject error) := by
  refine reject hwell huncommitted hopen error fun hkey creation hcreation hsame => ?_
  obtain ⟨key, hkey⟩ := Option.ne_none_iff_exists'.1 hkey
  exact absurd (hsame.trans hkey) ((halone key hkey).2 creation hcreation)

end CreateSpec

variable [DecidableEq φ]

variable {call : CreateCall}

theorem CreateCall.readingRequest_spec (hwell : WellFormed env books)
    (huncommitted : call.committed = false) (moment : Moment) (elsewhere : Lock → Bool)
    {key : String} (hphase : call.phase = .readingRequest key) (hkey : call.key = some key)
    (hlock : Lock.key key ∈ call.locks) :
    CreateSpec env elsewhere books call (call.statement env moment elsewhere books) := by
  have hopen : call.phase.rank ≠ 0 := by
    rw [hphase]
    exact Nat.succ_ne_zero _
  have hrank : 6 < call.phase.rank := by
    rw [hphase]
    exact Nat.lt_succ_self 6
  have hown : ∀ lock ∈ call.locks, lock ∈ call.locks ∨ elsewhere lock = false :=
    fun _ hmem => .inl hmem
  rw [CreateCall.statement, hphase]
  dsimp only
  cases hfind : books.requests.find? (·.idempotencyKey = key) with
  | none =>
    refine CreateSpec.go hwell huncommitted hown ?_ hrank (Nat.succ_ne_zero _)
    intro other hother
    obtain rfl : key = other := Option.some.inj (hkey.symm.trans hother)
    refine ⟨hlock, fun creation hcreation hsame => ?_⟩
    obtain ⟨request, hrequest, hrequestKey⟩ := hwell.keyed creation hcreation key hsame
    have hnot := List.find?_eq_none.1 hfind request hrequest
    exact hnot (decide_eq_true hrequestKey)
  | some prior =>
    have hprior : prior ∈ books.requests := List.mem_of_find?_eq_some hfind
    have hpriorKey : prior.idempotencyKey = key := by simpa using List.find?_some hfind
    obtain ⟨creation, hcreation, hcreationKey, hhash, hwhere⟩ := hwell.requestOf prior hprior
    have hsame : creation.key = call.key := by rw [hcreationKey, hpriorKey, hkey]
    -- the creation of the row is the one of the key
    have hone : ∀ other ∈ books.creations, other.key = call.key → other = creation :=
      fun other hother hotherKey => hwell.one hother hcreation
        (by rw [hotherKey, hkey]; exact Option.some_ne_none key) (hotherKey.trans hsame.symm)
    dsimp only
    split
    · rename_i hequal
      have hpayload : creation.payload = call.dto.payload :=
        env.injective (hhash.symm.trans hequal)
      rcases hwhere with hsome | ⟨hnone, hgone⟩
      · rw [hsome]
        exact CreateSpec.go hwell huncommitted hown
          ⟨creation, hcreation, hsame, hpayload, rfl⟩ hrank (Nat.succ_ne_zero _)
      · rw [hnone]
        refine CreateSpec.reject hwell huncommitted hopen _ fun _ other hother hotherKey _ => ?_
        rw [hone other hother hotherKey]
        exact hgone
    · rename_i hdifferent
      refine CreateSpec.reject hwell huncommitted hopen _ fun _ other hother hotherKey hdata => ?_
      rw [hone other hother hotherKey] at hdata
      rw [hhash, hdata] at hdifferent
      exact absurd rfl hdifferent

theorem CreateCall.committing_spec (hwell : WellFormed env books) (moment : Moment)
    (elsewhere : Lock → Bool) {expense : Expense} (hphase : call.phase = .committing expense)
    (halone : call.Alone books) (hfresh : call.Fresh books expense.id)
    (hreceipt : call.HoldsReceipt books) :
    CreateSpec env elsewhere books call (call.statement env moment elsewhere books) := by
  rw [CreateCall.statement, hphase]
  dsimp only
  constructor
  case wellFormed =>
    refine hwell.commit (fun creation hcreation hkey hsame => ?_) hfresh.2 fun assetId hasset =>
      (hreceipt assetId hasset).2
    obtain ⟨key, hkey⟩ := Option.ne_none_iff_exists'.1 hkey
    exact (halone key hkey).2 creation hcreation (hsame.trans hkey)
  case steps =>
    refine ⟨⟨_, rfl, fun creation hcreation => ?_⟩, ?_⟩
    · obtain rfl := List.mem_singleton.1 hcreation
      exact ⟨fun key hkey => (halone key hkey).1, hfresh.1⟩
    · rw [Books.commit]
      cases hcase : call.dto.receipt with
      | url url =>
        exact ⟨[], (List.append_nil _).symm, fun _ hmem => absurd hmem List.not_mem_nil⟩
      | asset assetId =>
        refine ⟨_, rfl, fun attachment hattachment => ?_⟩
        rw [List.mem_singleton.1 hattachment]
        exact (hreceipt assetId hcase).1
  case knows =>
    refine ⟨⟨⟨_, List.mem_append_right _ (List.mem_singleton_self _), rfl, rfl, rfl⟩, rfl⟩,
      fun hnot => absurd rfl (hnot expense.id)⟩
  case locks => exact fun _ hmem => absurd hmem List.not_mem_nil
  case unwritten => exact fun hcommitted => by cases hcommitted
  case retried => exact fun error hrejected => by cases hrejected
  case present =>
    intro id hid
    obtain rfl : expense.id = id := CreatePhase.returned.inj hid
    exact ⟨expense, List.mem_append_right _ (List.mem_singleton_self _), rfl⟩
  case advances =>
    left
    rw [hphase]
    exact Nat.succ_pos 1

theorem CreateCall.statement_spec (hwell : WellFormed env books) (h : call.Knows books)
    (moment : Moment) (elsewhere : Lock → Bool) (hopen : call.phase.rank ≠ 0) :
    CreateSpec env elsewhere books call (call.statement env moment elsewhere books) := by
  have huncommitted : call.committed = false := h.uncommitted fun id hphase => by
    rw [hphase] at hopen
    exact hopen rfl
  have hown : ∀ lock ∈ call.locks, lock ∈ call.locks ∨ elsewhere lock = false :=
    fun _ hmem => .inl hmem
  have htake : ∀ lock, elsewhere lock = false →
      ∀ other ∈ call.locks ++ [lock], other ∈ call.locks ∨ elsewhere other = false := by
    intro lock hfree other hmem
    rcases Ledger.mem_concat.1 hmem with hold | hnew
    · exact .inl hold
    · exact .inr (hnew ▸ hfree)
  have hgrow : ∀ lock, call.Alone books → ∀ phase, (call.take lock phase).Alone books :=
    fun lock halone phase key hkey =>
      ⟨List.mem_append_left _ (halone key hkey).1, (halone key hkey).2⟩
  have hknows := h.phase
  cases hphase : call.phase with
  | locking key =>
    rw [hphase] at hknows
    rw [CreateCall.statement, hphase]
    dsimp only
    split
    · exact CreateSpec.stay hwell h hopen ‹_›
    · rename_i hfree
      rw [Bool.not_eq_true] at hfree
      refine CreateSpec.go hwell huncommitted (htake _ hfree)
        ⟨hknows, List.mem_append_right _ (List.mem_singleton_self _)⟩ ?_ (Nat.succ_ne_zero _)
      rw [hphase]
      exact Nat.lt_succ_self 7
  | readingRequest key =>
    rw [hphase] at hknows
    exact readingRequest_spec hwell huncommitted moment elsewhere hphase hknows.1 hknows.2
  | readingExpense id =>
    rw [hphase] at hknows
    obtain ⟨creation, hcreation, hkey, hpayload, rfl⟩ := hknows
    rw [CreateCall.statement, hphase]
    dsimp only
    split
    · rename_i hthere
      obtain ⟨expense, hexpense, hid⟩ := List.any_eq_true.1 hthere
      exact {
        wellFormed := hwell
        steps := .of_eq rfl rfl
        knows := ⟨⟨⟨creation, hcreation, hkey, hpayload, rfl⟩, rfl⟩,
          fun hnot => absurd rfl (hnot _)⟩
        locks := fun _ hmem => absurd hmem List.not_mem_nil
        unwritten := fun _ => rfl
        retried := fun _ hrejected => nomatch hrejected
        present := fun id hreturned =>
          ⟨expense, hexpense, (of_decide_eq_true hid).trans (CreatePhase.returned.inj hreturned)⟩
        advances := .inl (Nat.pos_of_ne_zero hopen) }
    · rename_i hgone
      refine CreateSpec.reject hwell huncommitted hopen _ ?_
      intro hsome other hother hotherKey _ expense hexpense hid
      obtain rfl : other = creation :=
        hwell.one hother hcreation (by rw [hotherKey]; exact hsome) (hotherKey.trans hkey.symm)
      exact hgone (List.any_eq_true.2 ⟨expense, hexpense, decide_eq_true hid⟩)
  | readingCategory =>
    rw [hphase] at hknows
    rw [CreateCall.statement, hphase]
    dsimp only
    split
    · exact CreateSpec.rejectAlone hwell huncommitted hopen _ hknows
    · refine CreateSpec.go hwell huncommitted hown hknows ?_ (Nat.succ_ne_zero _)
      rw [hphase]
      exact Nat.lt_succ_self 5
  | inserting =>
    rw [hphase] at hknows
    rw [CreateCall.statement, hphase]
    dsimp only
    split
    · exact CreateSpec.stay hwell h hopen ‹_›
    · rename_i hfree
      rw [Bool.not_eq_true] at hfree
      split
      · exact CreateSpec.rejectAlone hwell huncommitted hopen _ hknows
      · rename_i hunused
        have hnew : ∀ creation ∈ books.creations, creation.expenseId ≠ moment.uuid := by
          intro creation hcreation hsame
          refine hunused (Bool.or_eq_true_iff.2 (.inr ?_))
          exact List.any_eq_true.2 ⟨creation, hcreation, decide_eq_true hsame⟩
        have hlast : Lock.insert moment.uuid ∈ call.locks ++ [.insert moment.uuid] :=
          List.mem_append_right _ (List.mem_singleton_self _)
        rw [CreateCall.attachOr]
        cases hcase : call.dto.receipt with
        | asset assetId =>
          refine CreateSpec.go hwell huncommitted (htake _ hfree)
            ⟨hgrow _ hknows .inserting, ⟨hlast, hnew⟩, hcase⟩ ?_ (Nat.succ_ne_zero _)
          rw [hphase]
          exact Nat.lt_succ_self 4
        | url url =>
          refine CreateSpec.go hwell huncommitted (htake _ hfree)
            ⟨hgrow _ hknows .inserting, ⟨hlast, hnew⟩, fun assetId hasset => ?_⟩ ?_
            (Nat.succ_ne_zero _)
          · cases hcase.symm.trans hasset
          · rw [hphase]
            exact Nat.lt_of_succ_lt (Nat.lt_succ_self 4)
  | attaching expense assetId =>
    rw [hphase] at hknows
    obtain ⟨halone, hfresh, hcase⟩ := hknows
    rw [CreateCall.statement, hphase]
    dsimp only
    split
    · rename_i hthere
      split
      · exact CreateSpec.stay hwell h hopen ‹_›
      · rename_i hfree
        rw [Bool.not_eq_true] at hfree
        refine CreateSpec.go hwell huncommitted (htake _ hfree)
          ⟨hgrow _ halone .inserting, ⟨List.mem_append_left _ hfresh.1, hfresh.2⟩,
            fun other hother => ?_⟩ ?_ (Nat.succ_ne_zero _)
        · obtain rfl : assetId = other := Receipt.asset.inj (hcase.symm.trans hother)
          refine ⟨List.mem_append_right _ (List.mem_singleton_self _), ?_⟩
          obtain ⟨asset, hasset, hattachable⟩ := List.any_eq_true.1 hthere
          rw [MediaAsset.attachable, Bool.and_eq_true, Bool.and_eq_true, Bool.and_eq_true,
            decide_eq_true_eq] at hattachable
          rw [← hattachable.1.1.1]
          exact hwell.temporary asset hasset hattachable.1.2
        · rw [hphase]
          exact Nat.lt_succ_self 3
    · exact CreateSpec.rejectAlone hwell huncommitted hopen _ halone
  | insertingRequest expense =>
    rw [hphase] at hknows
    rw [CreateCall.statement, hphase]
    dsimp only
    split
    · exact CreateSpec.rejectAlone hwell huncommitted hopen _ hknows.1
    · refine CreateSpec.go hwell huncommitted hown hknows ?_ (Nat.succ_ne_zero _)
      rw [hphase]
      exact Nat.lt_succ_self 2
  | committing expense =>
    rw [hphase] at hknows
    exact committing_spec hwell moment elsewhere hphase hknows.1 hknows.2.1 hknows.2.2
  | returned id => exact absurd (by rw [hphase]; rfl) hopen
  | rejected error => exact absurd (by rw [hphase]; rfl) hopen

/-! ### What a statement of a removal does -/

variable (elsewhere : Lock → Bool)

omit [DecidableEq φ] in
variable (env) in
/-- A removal that has not ended, and what its statement comes to. -/
structure RemoveSpec (books : Books φ) (call : RemoveCall) (result : Books φ × RemoveCall)
    : Prop where
  wellFormed : WellFormed env result.1
  steps : Steps call.locks books result.1
  knows : result.2.KnowsIn result.2.phase
  locks : ∀ lock ∈ result.2.locks, lock ∈ call.locks ∨ elsewhere lock = false
  unwritten : result.2.committed = false → result.1 = books
  advances : result.2.phase.rank < call.phase.rank ∨
    result.2 = call ∧ ∃ lock, elsewhere lock = true

omit [DecidableEq φ] in
theorem RemoveSpec.go {elsewhere : Lock → Bool} (hwell : WellFormed env books)
    {call after : RemoveCall} (hknows : after.KnowsIn after.phase)
    (hlocks : ∀ lock ∈ after.locks, lock ∈ call.locks ∨ elsewhere lock = false)
    (hrank : after.phase.rank < call.phase.rank) :
    RemoveSpec env elsewhere books call (books, after) :=
  ⟨hwell, .of_eq rfl rfl, hknows, hlocks, fun _ => rfl, .inl hrank⟩

omit [DecidableEq φ] in
theorem RemoveCall.statement_spec (hwell : WellFormed env books) {call : RemoveCall}
    (h : call.KnowsIn call.phase) (elsewhere : Lock → Bool) (hopen : call.phase.rank ≠ 0) :
    RemoveSpec env elsewhere books call (call.statement elsewhere books) := by
  have hown : ∀ lock ∈ call.locks, lock ∈ call.locks ∨ elsewhere lock = false :=
    fun _ hmem => .inl hmem
  have hnone : ∀ lock ∈ ([] : List Lock), lock ∈ call.locks ∨ elsewhere lock = false :=
    fun _ hmem => absurd hmem List.not_mem_nil
  have htake : ∀ lock, elsewhere lock = false →
      ∀ other ∈ call.locks ++ [lock], other ∈ call.locks ∨ elsewhere other = false := by
    intro lock hfree other hmem
    rcases Ledger.mem_concat.1 hmem with hold | hnew
    · exact .inl hold
    · exact .inr (hnew ▸ hfree)
  have hstay : ∀ lock, elsewhere lock = true → RemoveSpec env elsewhere books call (books, call) :=
    fun lock hlock => ⟨hwell, .of_eq rfl rfl, h, hown, fun _ => rfl, .inr ⟨rfl, lock, hlock⟩⟩
  have hpositive := Nat.pos_of_ne_zero hopen
  rw [RemoveCall.statement]
  cases hphase : call.phase with
  | locking =>
    rw [hphase] at h
    dsimp only
    split
    · split
      · exact hstay _ ‹_›
      · rename_i hfree
        rw [Bool.not_eq_true] at hfree
        refine RemoveSpec.go hwell h (htake _ hfree) ?_
        rw [hphase]
        exact Nat.lt_succ_self 6
    · refine RemoveSpec.go hwell h hown ?_
      rw [hphase]
      exact Nat.lt_succ_self 6
  | reading =>
    rw [hphase] at h
    dsimp only
    split
    · exact RemoveSpec.go hwell ⟨h, rfl⟩ hnone hpositive
    · split
      · exact RemoveSpec.go hwell ⟨h, rfl⟩ hnone hpositive
      · refine RemoveSpec.go hwell h hown ?_
        rw [hphase]
        exact Nat.lt_succ_self 5
  | readingReceipt =>
    rw [hphase] at h
    refine RemoveSpec.go hwell h hown ?_
    rw [hphase]
    exact Nat.lt_succ_self 4
  | deleting receipt =>
    rw [hphase] at h
    dsimp only
    split
    · split
      · exact hstay _ ‹_›
      · rename_i hfree
        rw [Bool.not_eq_true] at hfree
        refine RemoveSpec.go hwell h (htake _ hfree) ?_
        rw [hphase]
        exact Nat.lt_succ_self 3
    · exact RemoveSpec.go hwell ⟨h, rfl⟩ hnone hpositive
  | committing receipt =>
    refine ⟨hwell.removeExpense _, .of_eq rfl rfl, ?_, hnone, (fun hnot => nomatch hnot), .inl ?_⟩
    · cases receipt <;> exact ⟨rfl, rfl⟩
    · rw [hphase]
      cases receipt
      · exact Nat.succ_pos 2
      · exact Nat.lt_succ_self 2
  | readingAsset assetId =>
    rw [hphase] at h
    dsimp only
    split
    · refine RemoveSpec.go hwell h hown ?_
      rw [hphase]
      exact Nat.lt_succ_self 1
    · exact RemoveSpec.go hwell h hown hpositive
  | deletingAsset assetId =>
    rw [hphase] at h
    refine ⟨hwell.deleteAsset _, .of_eq rfl rfl, h, hown, fun hnot => ?_, .inl hpositive⟩
    cases h.1.symm.trans hnot
  | returned => exact absurd (by rw [hphase]; rfl) hopen
  | rejected error => exact absurd (by rw [hphase]; rfl) hopen

/-! ### Turns -/

omit [DecidableEq φ] in
theorem Call.Knows.ended {call : Call} (h : call.Knows books) (hended : call.rank = 0) :
    call.locks = [] := by
  cases call with
  | create call =>
    have hknows := h.phase
    rw [Call.rank] at hended
    cases hphase : call.phase with
    | returned id =>
      rw [hphase] at hknows
      exact hknows.2
    | rejected error =>
      rw [hphase] at hknows
      exact hknows
    | _ =>
      rw [hphase] at hended
      cases hended
  | remove call =>
    rw [Call.Knows] at h
    rw [Call.rank] at hended
    cases hphase : call.phase with
    | returned =>
      rw [hphase] at h
      exact h.2
    | rejected error =>
      rw [hphase] at h
      exact h.2
    | _ =>
      rw [hphase] at hended
      cases hended

omit [DecidableEq φ] in
variable (env) in
structure TurnSpec (books : Books φ) (call : Call) (result : Books φ × Call) : Prop where
  wellFormed : WellFormed env result.1
  steps : Steps call.locks books result.1
  knows : result.2.Knows result.1
  locks : ∀ lock ∈ result.2.locks, lock ∈ call.locks ∨ elsewhere lock = false
  unwritten : result.2.committed = false → result.1 = books
  advances : call.rank ≠ 0 →
    result.2.rank < call.rank ∨ ∃ lock, elsewhere lock = true

omit [DecidableEq φ] in
theorem TurnSpec.ended {elsewhere : Lock → Bool} {call : Call} (hwell : WellFormed env books)
    (h : call.Knows books) (hended : call.rank = 0) :
    TurnSpec env elsewhere books call (books, call) :=
  ⟨hwell, .of_eq rfl rfl, h, fun _ hmem => .inl hmem, fun _ => rfl,
    fun hopen => absurd hended hopen⟩

omit [DecidableEq φ] in
theorem Call.fail_spec (hwell : WellFormed env books) {call : Call} (h : call.Knows books)
    (elsewhere : Lock → Bool) (error : ServiceError) :
    TurnSpec env elsewhere books call (books, call.fail error) := by
  by_cases hended : call.rank = 0
  · have hsame : call.fail error = call := by
      cases call with
      | create call => exact congrArg Call.create (if_pos hended)
      | remove call => exact congrArg Call.remove (if_pos hended)
    rw [hsame]
    exact .ended hwell h hended
  · have hpositive := Nat.pos_of_ne_zero hended
    cases call with
    | create call =>
      have hopen : call.phase.rank ≠ 0 := hended
      rw [Call.fail, if_neg hopen]
      refine ⟨hwell, .of_eq rfl rfl, ⟨rfl, fun _ => h.uncommitted fun id hphase => ?_⟩,
        fun _ hmem => absurd hmem List.not_mem_nil, fun _ => rfl, fun _ => .inl hpositive⟩
      rw [Call.rank, hphase] at hended
      exact hended rfl
    | remove call =>
      have hopen : call.phase.rank ≠ 0 := hended
      rw [Call.fail, if_neg hopen]
      split
      · rename_i hcommitted
        refine ⟨hwell, .of_eq rfl rfl, ?_, fun _ hmem => .inl hmem, fun _ => rfl,
          fun _ => .inl hpositive⟩
        have hlocks : call.locks = [] := by
          rw [Call.Knows] at h
          cases hphase : call.phase <;> rw [hphase] at h
          case readingAsset => exact h.2
          case deletingAsset => exact h.2
          case returned => exact h.2
          case rejected => exact h.2
          all_goals cases h.symm.trans hcommitted
        exact ⟨hcommitted, hlocks⟩
      · rename_i huncommitted
        rw [Bool.not_eq_true] at huncommitted
        exact ⟨hwell, .of_eq rfl rfl, ⟨huncommitted, rfl⟩,
          fun _ hmem => absurd hmem List.not_mem_nil, fun _ => rfl, fun _ => .inl hpositive⟩

theorem CreateCall.statement_ended (moment : Moment) (elsewhere : Lock → Bool)
    (hended : call.phase.rank = 0) : call.statement env moment elsewhere books = (books, call) := by
  rw [CreateCall.statement]
  cases hphase : call.phase with
  | returned id => rfl
  | rejected error => rfl
  | _ =>
    rw [hphase] at hended
    cases hended

omit [DecidableEq φ] in
theorem RemoveCall.statement_ended {call : RemoveCall} (hended : call.phase.rank = 0)
    : call.statement elsewhere books = (books, call) := by
  rw [RemoveCall.statement]
  cases hphase : call.phase with
  | returned => rfl
  | rejected error => rfl
  | _ =>
    rw [hphase] at hended
    cases hended

theorem Call.turn_spec (hwell : WellFormed env books) {call : Call} (h : call.Knows books)
    (moment : Moment) (elsewhere : Lock → Bool) :
    TurnSpec env elsewhere books call (call.turn env moment elsewhere books) := by
  rw [Call.turn.eq_def]
  cases hfailure : moment.failure with
  | some error => exact call.fail_spec hwell h elsewhere error
  | none =>
    cases call with
    | create call =>
      dsimp only
      by_cases hended : call.phase.rank = 0
      · rw [CreateCall.statement_ended moment elsewhere hended]
        exact .ended hwell h hended
      · have hspec := CreateCall.statement_spec hwell h moment elsewhere hended
        exact ⟨hspec.wellFormed, hspec.steps, hspec.knows, hspec.locks, hspec.unwritten,
          fun _ => hspec.advances.imp_right And.right⟩
    | remove call =>
      dsimp only
      by_cases hended : call.phase.rank = 0
      · rw [RemoveCall.statement_ended elsewhere hended]
        exact .ended hwell h hended
      · have hspec := RemoveCall.statement_spec hwell h elsewhere hended
        exact ⟨hspec.wellFormed, hspec.steps, hspec.knows, hspec.locks, hspec.unwritten,
          fun _ => hspec.advances.imp_right And.right⟩

/-! ### Every run -/

variable (env) in
/-- The rows are well formed, every call knows what it knows, and no two calls hold one lock. -/
abbrev Inv : Pool φ → Prop :=
  ThreadPool.Inv (WellFormed env) (fun books call => call.Knows books)
    (ThreadPool.Excludes Call.holds)

omit [DecidableEq φ] in
theorem knows_start (books : Books φ) (headerKey : Option String) (dto : CreateExpenseDto) :
    (CreateCall.start headerKey dto).Knows books ∧ (CreateCall.start headerKey dto).locks = [] := by
  rw [CreateCall.start]
  split
  · exact ⟨⟨rfl, fun _ => rfl⟩, rfl⟩
  · exact ⟨⟨(fun key hkey => nomatch hkey), fun _ => rfl⟩, rfl⟩
  · exact ⟨⟨rfl, fun _ => rfl⟩, rfl⟩

variable {w : Pool φ}

theorem Inv.step (h : Inv env w) (action : Action) : Inv env (step env w action) := by
  have hsymm : ∀ t u : Call, ThreadPool.Excludes Call.holds t u →
      ThreadPool.Excludes Call.holds u t := fun _ _ => ThreadPool.Excludes.symm
  have hunlocked : ∀ call : Call, call.locks = [] → ∀ u ∈ w.threads,
      ThreadPool.Excludes Call.holds call u := by
    intro call hlocks u _ lock hlock
    rw [Call.holds, hlocks] at hlock
    exact absurd (of_decide_eq_true hlock) List.not_mem_nil
  cases action with
  | create headerKey dto =>
    obtain ⟨hknows, hlocks⟩ := knows_start w.shared headerKey dto
    exact h.spawn hsymm hknows (hunlocked _ hlocks)
  | remove expenseId => exact h.spawn hsymm rfl (hunlocked _ rfl)
  | turn i moment =>
    simp only [Expenses.step]
    cases hcall : w.threads[i]? with
    | none => exact h
    | some call =>
      have hspec := Call.turn_spec h.shared (h.thread i call hcall) moment
        (w.heldElsewhere Call.holds i)
      refine h.move hsymm hcall hspec.wellFormed hspec.knows
        fun u hu hother hexcludes => ⟨?_, fun lock hlock => ?_⟩
      · refine Call.Knows.stable hother hspec.steps fun lock hlock hown => ?_
        have hnot := hexcludes lock (decide_eq_true hown)
        exact of_decide_eq_false hnot hlock
      · rcases hspec.locks lock (of_decide_eq_true hlock) with hold | hfree
        · exact hexcludes lock (decide_eq_true hold)
        · exact ThreadPool.holds_of_heldElsewhere hfree hcall hu hexcludes

omit [DecidableEq φ] in
theorem Inv.knows (h : Inv env w) {call : Call} (hcall : call ∈ w.threads) :
    call.Knows w.shared := by
  obtain ⟨i, hi⟩ := List.mem_iff_getElem?.1 hcall
  exact h.thread i call hi

omit [DecidableEq φ] in
theorem Inv.sound (h : Inv env w) : Sound w := by
  have hwell := h.shared
  have hanswers : ∀ call, .create call ∈ w.threads → ∀ id, call.phase = .returned id →
      call.Answers w.shared id := by
    intro call hcall id hphase
    have hknows := (show call.Knows w.shared from h.knows hcall).phase
    rw [hphase] at hknows
    exact hknows.1
  refine ⟨hwell.once, fun call hcall _ => hanswers call hcall,
    fun call hcall creation hcreation hkey hsame hdifferent => ?_, fun call hcall hrejection => ?_,
    hwell.attachedOnce, hwell.attachedTo⟩
  · -- what the call would return is the one creation of its key
    have hnot : ∀ id, call.phase ≠ .returned id := by
      intro id hphase
      obtain ⟨other, hother, hotherKey, hpayload, -⟩ := hanswers call hcall id hphase
      obtain rfl : creation = other := hwell.one hcreation hother
        (by rw [hsame]; exact hkey) (hsame.trans hotherKey.symm)
      exact hdifferent hpayload
    refine ⟨(show call.Knows w.shared from h.knows hcall).uncommitted hnot, fun hrank => ?_⟩
    cases hphase : call.phase with
    | returned id => exact absurd hphase (hnot id)
    | rejected error => exact ⟨error, rfl⟩
    | _ =>
      rw [hphase] at hrank
      cases hrank
  · have hknows := h.knows hcall
    rw [Call.rejection.eq_def] at hrejection
    split at hrejection
    · exact hknows.uncommitted fun id hphase => nomatch hphase
    · exact hknows.1
    · exact absurd rfl hrejection

theorem Inv.proper (h : Inv env w) (action : Action) : Proper env w action := by
  cases action with
  | create headerKey dto => exact trivial
  | remove expenseId => exact trivial
  | turn i moment =>
    intro call hcall
    have hknows := h.thread i call hcall
    have hspec := Call.turn_spec h.shared hknows moment (w.heldElsewhere Call.holds i)
    refine ⟨hspec.unwritten, fun hfailure before after hbefore hafter hopen error hrejected => ?_,
      fun before after hbefore hafter id hreturned hopen => ?_, fun hopen => ?_⟩
    · subst hbefore
      have hturn : turnAt env w i moment (.create before) =
          ((before.statement env moment (w.heldElsewhere Call.holds i) w.shared).1,
            .create (before.statement env moment (w.heldElsewhere Call.holds i) w.shared).2) := by
        rw [turnAt, Call.turn, hfailure]
      rw [hturn] at hafter
      obtain rfl := Call.create.inj hafter
      by_cases hended : before.phase.rank = 0
      · rw [CreateCall.statement_ended moment _ hended] at hrejected
        exact absurd hrejected (hopen error)
      · intro creation hcreation hkey hsame
        exact (CreateCall.statement_spec h.shared hknows moment _ hended).retried error hrejected
          hkey creation hcreation hsame
    · subst hbefore
      rw [turnAt, Call.turn] at hafter ⊢
      cases hfailure : moment.failure with
      | some error =>
        -- a call that fails does not return
        rw [hfailure] at hafter
        obtain rfl := Call.create.inj hafter
        split at hreturned
        · exact absurd hreturned hopen
        · cases hreturned
      | none =>
        rw [hfailure] at hafter
        obtain rfl := Call.create.inj hafter
        by_cases hended : before.phase.rank = 0
        · rw [CreateCall.statement_ended moment _ hended] at hreturned
          exact absurd hreturned hopen
        · exact (CreateCall.statement_spec h.shared hknows moment _ hended).present id hreturned
    · refine (hspec.advances hopen).imp_right ?_
      rintro ⟨lock, hlock⟩
      obtain ⟨j, other, hj, hother, hholds⟩ := ThreadPool.exists_of_heldElsewhere hlock
      refine ⟨j, other, lock, hj, hother, hholds, fun hended => ?_⟩
      rw [Call.holds, (h.thread j other hother).ended hended] at hholds
      exact absurd (of_decide_eq_true hholds) List.not_mem_nil

/-- A store before the run: with expenses, request rows and uploads as earlier calls left them. -/
structure Start (env : Environment φ) where
  books : Books φ
  wellFormed : WellFormed env books

end Zomaal.Expenses
