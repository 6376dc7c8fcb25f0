/-
**Transactions that see what is committed.**

Under read committed every statement of a transaction sees the rows committed when the statement
begins, changed by what the transaction itself has written.  A row that was written stays locked
until the transaction ends, and a statement that would write a locked row waits.  A transaction
commits *current* when everything it read would be read the same once more at its end: then it does
what it would do if it ran alone at that moment.

Main definitions:

* `ReadCommitted.Program`, `ReadCommitted.Program.alone` — a transaction, and what it does alone;
* `ReadCommitted.StillCurrent` — the transaction that commits is current.

Main results:

* `ReadCommitted.serial`, `ReadCommitted.run_keeps` — **runs of current commits are serial**, and
  keep what transactions that run alone keep.
-/

import Mathlib.Logic.Relation
import Zomaal.MachineRun
import Zomaal.ThreadPool

set_option autoImplicit false

namespace ReadCommitted

/-! ### Programs -/

/-- A transaction: its statements may refuse the rows they find; they read, or they write rows. -/
inductive Program (σ ρ ε : Type) : Type 1
  | done
  | fail (e : ε)
  | read {β : Type} [DecidableEq β] (refuse : σ → Option ε) (query : σ → β)
      (next : β → Program σ ρ ε)
  | write (refuse : σ → Option ε) (rows : σ → List ρ) (effect : σ → σ) (next : Program σ ρ ε)

namespace Program

variable {σ ρ ε : Type}

/-- The rows after a transaction ran alone; nothing is refused. -/
def alone : Program σ ρ ε → σ → Option σ
  | .done, c => some c
  | .fail _, _ => none
  | @read _ _ _ _ _ _ query next, c => (next (query c)).alone c
  | .write _ _ effect next, c => next.alone (effect c)

def isDone : Program σ ρ ε → Bool
  | .done => true
  | _ => false

end Program

/-! ### Transactions under way -/

section Running

variable {σ ρ ε κ : Type}

structure Tx (σ ρ ε : Type) : Type 1 where
  /-- the statements that are left -/
  program : Program σ ρ ε
  /-- what it sees, over the committed rows -/
  view : σ → σ := id
  /-- the rows it has written -/
  locks : List ρ := []
  /-- whether committed rows answer what it read as it was answered -/
  answered : List (σ → Bool) := []

/-- Everything that was read would be read the same once more. -/
def Tx.current (tx : Tx σ ρ ε) (c : σ) : Bool := tx.answered.all fun same => same c

inductive Turn (σ ρ ε : Type) : Type 1
  | commit
  | fail (e : ε)
  | wait
  | go (tx : Tx σ ρ ε)

/-- The next statement, where some rows are locked by others. -/
def Tx.turn (tx : Tx σ ρ ε) (c : σ) (locked : ρ → Bool) : Turn σ ρ ε :=
  match tx.program with
  | .done => .commit
  | .fail e => .fail e
  | @Program.read _ _ _ _ _ refuse query next =>
    match refuse (tx.view c) with
    | some e => .fail e
    | none =>
      let answer := query (tx.view c)
      .go { tx with
        program := next answer
        answered := tx.answered ++ [fun c => decide (query (tx.view c) = answer)] }
  | .write refuse rows effect next =>
    match refuse (tx.view c) with
    | some e => .fail e
    | none =>
      if (rows (tx.view c)).any locked then .wait
      else .go { tx with
        program := next
        view := effect ∘ tx.view
        locks := tx.locks ++ rows (tx.view c) }

inductive Thread (κ σ ρ ε : Type) : Type 1
  | running (call : κ) (tx : Tx σ ρ ε)
  | finished (call : κ) (result : Except ε Unit)

def Thread.holds [DecidableEq ρ] : Thread κ σ ρ ε → ρ → Bool
  | .running _ tx, row => row ∈ tx.locks
  | .finished .., _ => false

def Thread.isFinished : Thread κ σ ρ ε → Bool
  | .running .. => false
  | .finished .. => true

abbrev Pool (κ σ ρ ε : Type) := ThreadPool σ (Thread κ σ ρ ε)

/-- Something that happens: a call begins, has its turn, or is broken off. -/
inductive Action (κ ε : Type)
  | start (call : κ)
  | turn (i : ℕ)
  | abort (i : ℕ) (e : ε)

variable [DecidableEq ρ]

variable (w : Pool κ σ ρ ε)

/-- A row is locked by a call other than the one at a place. -/
def lockedElsewhere (i : ℕ) (row : ρ) : Bool :=
  (w.threads.eraseIdx i).any fun thread => thread.holds row

/-- One thing happens.  What a transaction has written is seen when it commits. -/
def step (program : κ → Program σ ρ ε) (w : Pool κ σ ρ ε) : Action κ ε → Pool κ σ ρ ε
  | .start call => w.spawn (.running call { program := program call })
  | .turn i =>
    match w.threads[i]? with
    | some (.running call tx) =>
      match tx.turn w.shared (lockedElsewhere w i) with
      | .commit => w.move i (tx.view w.shared) (.finished call (.ok ()))
      | .fail e => w.move i w.shared (.finished call (.error e))
      | .wait => w
      | .go tx => w.move i w.shared (.running call tx)
    | _ => w
  | .abort i e =>
    match w.threads[i]? with
    | some (.running call _) => w.move i w.shared (.finished call (.error e))
    | _ => w

def Quiet : Prop := ∀ thread ∈ w.threads, thread.isFinished = true

instance (w : Pool κ σ ρ ε) : Decidable (Quiet w) :=
  inferInstanceAs (Decidable (∀ thread ∈ w.threads, thread.isFinished = true))

/-- If the action commits a transaction, everything the transaction read is still so. -/
def stillCurrent : Action κ ε → Bool
  | .turn i =>
    match w.threads[i]? with
    | some (.running _ tx) => !tx.program.isDone || tx.current w.shared
    | _ => true
  | _ => true

abbrev StillCurrent (action : Action κ ε) : Prop :=
  stillCurrent w action = true

/-! ### What a transaction does alone -/

variable (program : κ → Program σ ρ ε)

omit [DecidableEq ρ] in
def RunsAlone (c c' : σ) : Prop := ∃ call, (program call).alone c = some c'

/-- The link between a transaction under way and the transaction alone: from rows that answer as
those it has read did, it does what its rest does to its view. -/
def Linked : Thread κ σ ρ ε → Prop
  | .running call tx => ∀ c, tx.current c = true →
      (program call).alone c = tx.program.alone (tx.view c)
  | .finished .. => True

variable {program}

omit [DecidableEq ρ] in
theorem Linked.start (call : κ) : Linked program (.running call { program := program call }) :=
  fun _ _ => rfl

variable {tx : Tx σ ρ ε} {c : σ}

omit [DecidableEq ρ] in
theorem Linked.go {call : κ} {tx' : Tx σ ρ ε} {locked : ρ → Bool}
    (h : Linked program (.running call tx)) (hturn : tx.turn c locked = .go tx') :
    Linked program (.running call tx') := by
  intro d hcurrent
  obtain ⟨prog, view, locks, answered⟩ := tx
  cases prog with
  | done => cases hturn
  | fail e => cases hturn
  | @read _ _ refuse query next =>
    simp only [Tx.turn] at hturn
    split at hturn
    · cases hturn
    · obtain rfl := Turn.go.inj hturn
      -- the rows in question answer the statement as it was answered
      rw [Tx.current, List.all_append, Bool.and_eq_true] at hcurrent
      obtain ⟨hbefore, hanswer⟩ := hcurrent
      have hsame : query (view d) = query (view c) := by simpa using hanswer
      rw [h d hbefore, Program.alone, hsame]
  | write refuse rows effect next =>
    simp only [Tx.turn] at hturn
    split at hturn
    · cases hturn
    · split at hturn
      · cases hturn
      · obtain rfl := Turn.go.inj hturn
        exact h d hcurrent

omit [DecidableEq ρ] in
theorem Linked.commit {call : κ} (h : Linked program (.running call tx))
    (hdone : tx.program.isDone = true) (hcurrent : tx.current c = true) :
    (program call).alone c = some (tx.view c) := by
  have hprogram : tx.program = .done := by
    cases hp : tx.program with
    | done => rfl
    | _ => rw [hp] at hdone; cases hdone
  rw [h c hcurrent, hprogram, Program.alone]

omit [DecidableEq ρ] in
theorem Tx.isDone_of_commit {locked : ρ → Bool} (h : tx.turn c locked = .commit) :
    tx.program.isDone = true := by
  obtain ⟨prog, view, locks, answered⟩ := tx
  cases prog with
  | done => rfl
  | fail e => cases h
  | @read _ _ refuse query next =>
    simp only [Tx.turn] at h
    split at h
    · cases h
    · cases h
  | write refuse rows effect next =>
    simp only [Tx.turn] at h
    split at h
    · cases h
    · split at h
      · cases h
      · cases h

/-! ### Runs -/

/-- The committed rows come from transactions that ran alone, one after the other; and every call is
linked to what it does alone. -/
abbrev SerialInv (program : κ → Program σ ρ ε) (s : σ) : Pool κ σ ρ ε → Prop :=
  ThreadPool.Inv (Relation.ReflTransGen (RunsAlone program) s) (fun _ => Linked program)
    fun _ _ => True

/-- If the action commits a transaction, its call meets a condition on the rows committed so far. -/
def CommitMeets (P : κ → σ → Prop) (w : Pool κ σ ρ ε) : Action κ ε → Prop
  | .turn i =>
    match w.threads[i]? with
    | some (.running call tx) => tx.program.isDone = true → P call w.shared
    | _ => True
  | _ => True

instance (P : κ → σ → Prop) [∀ call c, Decidable (P call c)] (w : Pool κ σ ρ ε)
    (action : Action κ ε) : Decidable (CommitMeets P w action) :=
  match action with
  | .start _ => isTrue trivial
  | .abort .. => isTrue trivial
  | .turn i =>
    match h : w.threads[i]? with
    | none => isTrue (by simp [CommitMeets, h])
    | some (.finished ..) => isTrue (by simp [CommitMeets, h])
    | some (.running call tx) =>
      decidable_of_iff (tx.program.isDone = true → P call w.shared) (by simp [CommitMeets, h])

variable {I : σ → Prop}

/-- **One step keeps what a transaction keeps that runs alone**, and every call linked to what it
does alone, if it commits nothing but current transactions that meet the condition. -/
theorem linked_step {P : κ → σ → Prop}
    (hkeeps : ∀ call c c', I c → P call c → (program call).alone c = some c' → I c')
    {w : Pool κ σ ρ ε} (h : ThreadPool.Inv I (fun _ => Linked program) (fun _ _ => True) w)
    (action : Action κ ε) (hcurrent : StillCurrent w action) (hmeets : CommitMeets P w action) :
    ThreadPool.Inv I (fun _ => Linked program) (fun _ _ => True) (step program w action) := by
  cases action with
  | start call => exact h.spawn (fun _ _ _ => trivial) (Linked.start call) fun _ _ => trivial
  | turn i =>
    simp only [ReadCommitted.step, StillCurrent, stillCurrent, CommitMeets] at hcurrent hmeets ⊢
    split at hcurrent
    · rename_i call tx hthread
      rw [hthread] at hmeets
      have hlinked := h.thread i _ hthread
      have hfinish : ∀ {c : σ} (result : Except ε Unit), I c →
          ThreadPool.Inv I (fun _ => Linked program) (fun _ _ => True)
            (w.move i c (.finished call result)) :=
        fun result hI => h.move (fun _ _ _ => trivial) hthread hI trivial
          fun _ _ hu _ => ⟨hu, trivial⟩
      split
      · rename_i hturn
        have hdone := Tx.isDone_of_commit hturn
        rw [hdone, Bool.not_true, Bool.false_or] at hcurrent
        exact hfinish _ (hkeeps call _ _ h.shared (hmeets hdone)
          (hlinked.commit hdone hcurrent))
      · exact hfinish _ h.shared
      · exact h
      · rename_i tx' hturn
        exact h.move (fun _ _ _ => trivial) hthread h.shared (hlinked.go hturn)
          fun _ _ hu _ => ⟨hu, trivial⟩
    · exact h
  | abort i e =>
    simp only [ReadCommitted.step]
    split
    · rename_i call tx hthread
      exact h.move (fun _ _ _ => trivial) hthread h.shared trivial fun _ _ hu _ => ⟨hu, trivial⟩
    · exact h

omit [DecidableEq ρ] in
theorem commitMeets_true (action : Action κ ε) : CommitMeets (fun _ _ => True) w action := by
  cases action with
  | start call => trivial
  | turn i =>
    rw [CommitMeets]
    split
    · exact fun _ => trivial
    · trivial
  | abort i e => trivial

variable {s : σ}

theorem SerialInv.step {w : Pool κ σ ρ ε} (h : SerialInv program s w) (action : Action κ ε)
    (hcurrent : StillCurrent w action) : SerialInv program s (step program w action) :=
  linked_step (P := fun _ _ => True)
    (fun call _ _ hserial _ halone => hserial.tail ⟨call, halone⟩) h action hcurrent
    (commitMeets_true w action)

variable {actions : List (Action κ ε)}

/-- **Runs of current commits are serial.** -/
theorem serial
    (h : Machine.Along (step program) StillCurrent ({ shared := s } : Pool κ σ ρ ε) actions) :
    Relation.ReflTransGen (RunsAlone program) s
      (Machine.run (step program) { shared := s } actions).shared :=
  (Machine.run_keeps_along (I := SerialInv program s)
    (fun _ action hw hcurrent => hw.step action hcurrent)
    (ThreadPool.Inv.start Relation.ReflTransGen.refl) h).shared

/-- **Runs of current commits keep what transactions that run alone keep.** -/
theorem run_keeps (hkeeps : ∀ call c c', I c → (program call).alone c = some c' → I c') (hs : I s)
    (h : Machine.Along (step program) StillCurrent ({ shared := s } : Pool κ σ ρ ε) actions) :
    I (Machine.run (step program) { shared := s } actions).shared := by
  have hserial := serial h
  generalize (Machine.run (step program) { shared := s } actions).shared = c at hserial
  induction hserial with
  | refl => exact hs
  | tail _ halone ih =>
    obtain ⟨call, halone⟩ := halone
    exact hkeeps call _ _ ih halone

/-- **Runs of current commits that meet a condition** keep what transactions keep that run alone
when they meet it. -/
theorem run_keeps_when {P : κ → σ → Prop}
    (hkeeps : ∀ call c c', I c → P call c → (program call).alone c = some c' → I c') (hs : I s)
    (h : Machine.Along (step program)
      (fun w action => StillCurrent w action ∧ CommitMeets P w action)
      ({ shared := s } : Pool κ σ ρ ε) actions) :
    I (Machine.run (step program) { shared := s } actions).shared :=
  (Machine.run_keeps_along
    (I := ThreadPool.Inv I (fun _ => Linked program) fun _ _ => True)
    (fun _ action hw hcommit => linked_step hkeeps hw action hcommit.1 hcommit.2)
    (ThreadPool.Inv.start hs) h).shared

end Running

end ReadCommitted
