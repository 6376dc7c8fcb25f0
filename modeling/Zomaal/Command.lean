/-
**Commands over a shared state, and the rules for reasoning about them.**

A service method reads and writes one database and may stop with an error half-way; what it wrote
before stopping stays, unless it ran inside a transaction.  A `Command` is such a method, with two
kinds of statement and one rule for each construct:

* `Command.Keeps I c` — whatever happens, `c` leaves a state satisfying `I` in one satisfying `I`;
* `Command.Ensures P c Q` — from a state satisfying `P`, `c` does return, and `Q` holds (total
  correctness).

Main definitions:

* `Command.forEach`, `Command.anyEach`, `Command.mapEach` — the loops;
* `Command.transaction` — all or nothing, up to an `undo` that says what survives a rollback.
-/

import Mathlib.Data.List.Forall2

set_option autoImplicit false

/-- A command: it returns a value or stops with an error, and in both cases leaves a state. -/
def Command (ε σ α : Type) : Type := σ → Except ε α × σ

namespace Command

variable {ε σ α β : Type}

/-! ### The commands -/

instance : Monad (Command ε σ) where
  pure a := fun s => (.ok a, s)
  bind c f := fun s =>
    match c s with
    | (.ok a, t) => f a t
    | (.error e, t) => (.error e, t)

/-- The state a command leaves, whether it returned or stopped. -/
def final (c : Command ε σ α) (s : σ) : σ := (c s).2

def ask (f : σ → α) : Command ε σ α := fun s => (.ok (f s), s)

def modify (f : σ → σ) : Command ε σ Unit := fun s => (.ok (), f s)

def fail (e : ε) : Command ε σ α := fun s => (.error e, s)

/-- Run `f` on every element of a list, in order. -/
def forEach : List α → (α → Command ε σ Unit) → Command ε σ Unit
  | [], _ => pure ()
  | x :: xs, f => do
      f x
      forEach xs f

/-- Run `f` on every element of a list, in order, and say whether any of them answered `true`. -/
def anyEach : List α → (α → Command ε σ Bool) → Command ε σ Bool
  | [], _ => pure false
  | x :: xs, f => do
      let b ← f x
      let bs ← anyEach xs f
      pure (b || bs)

/-- Run `f` on every element of a list, in order, and collect the answers. -/
def mapEach : List α → (α → Command ε σ β) → Command ε σ (List β)
  | [], _ => pure []
  | x :: xs, f => do
      let b ← f x
      let bs ← mapEach xs f
      pure (b :: bs)

def lift (value : Except ε α) : Command ε σ α := fun s => (value, s)

/-- Run `c` as one transaction: when it stops with an error, its effects are replaced by what
`undo before after` leaves of them. -/
def transaction (undo : σ → σ → σ) (c : Command ε σ α) : Command ε σ α := fun s =>
  match c s with
  | (.ok a, t) => (.ok a, t)
  | (.error e, t) => (.error e, undo s t)

@[simp] theorem pure_apply (a : α) (s : σ) : (pure a : Command ε σ α) s = (.ok a, s) := rfl

@[simp] theorem ask_apply (f : σ → α) (s : σ) : (ask f : Command ε σ α) s = (.ok (f s), s) := rfl

@[simp] theorem modify_apply (f : σ → σ) (s : σ) :
    (modify f : Command ε σ Unit) s = (.ok (), f s) := rfl

@[simp] theorem fail_apply (e : ε) (s : σ) : (fail e : Command ε σ α) s = (.error e, s) := rfl

variable {c : Command ε σ α} {f : α → Command ε σ β} {s : σ} {a : α}

variable {t : σ}

theorem bind_of_ok (h : c s = (.ok a, t)) : (c >>= f) s = f a t := by
  change (match c s with
    | (.ok a, t) => f a t
    | (.error e, t) => (.error e, t)) = f a t
  rw [h]

theorem bind_of_error {e : ε} (h : c s = (.error e, t)) : (c >>= f) s = (.error e, t) := by
  change (match c s with
    | (.ok a, t) => f a t
    | (.error e, t) => (.error e, t)) = (.error e, t)
  rw [h]

@[simp] theorem pure_bind (a : α) (f : α → Command ε σ β) : (pure a >>= f) = f a := rfl

@[simp] theorem ask_bind_apply (f : σ → α) (g : α → Command ε σ β) (s : σ) :
    (ask f >>= g) s = g (f s) s := rfl

@[simp] theorem modify_bind_apply (f : σ → σ) (g : Unit → Command ε σ β) (s : σ) :
    (modify f >>= g) s = g () (f s) := rfl

@[simp] theorem fail_bind (e : ε) (g : α → Command ε σ β) :
    ((fail e : Command ε σ α) >>= g) = fail e := rfl

@[simp] theorem forEach_nil (f : α → Command ε σ Unit) : forEach [] f = pure () := rfl

theorem forEach_cons (x : α) (xs : List α) (f : α → Command ε σ Unit) :
    forEach (x :: xs) f = (f x >>= fun _ => forEach xs f) := rfl

theorem bind_assoc {γ : Type} (c : Command ε σ α) (f : α → Command ε σ β)
    (g : β → Command ε σ γ) : (c >>= f >>= g) = (c >>= fun a => f a >>= g) := by
  funext s
  rcases hc : c s with ⟨e | a, t⟩
  · rw [bind_of_error hc, bind_of_error (bind_of_error hc)]
  · rw [bind_of_ok hc]
    rcases hf : f a t with ⟨e | b, u⟩
    · rw [bind_of_error hf, bind_of_error (by rw [bind_of_ok hc, hf])]
    · rw [bind_of_ok hf, bind_of_ok (by rw [bind_of_ok hc, hf])]

theorem lift_bind_apply (value : Except ε α) (f : α → Command ε σ β) (s : σ) :
    (lift value >>= f) s =
      match value with
      | .error e => (.error e, s)
      | .ok a => f a s := by
  cases value <;> rfl

theorem lift_eq_ok {value : Except ε α} (h : (lift value : Command ε σ α) s = (.ok a, t)) :
    value = .ok a ∧ s = t :=
  ⟨congrArg Prod.fst h, congrArg Prod.snd h⟩

theorem forEach_append (xs ys : List α) (f : α → Command ε σ Unit) :
    forEach (xs ++ ys) f = (forEach xs f >>= fun _ => forEach ys f) := by
  induction xs with
  | nil => rfl
  | cons x xs ih => rw [List.cons_append, forEach_cons, forEach_cons, ih, bind_assoc]

theorem forEach_map (g : β → α) (xs : List β) (f : α → Command ε σ Unit) :
    forEach (xs.map g) f = forEach xs fun x => f (g x) := by
  induction xs with
  | nil => rfl
  | cons x xs ih => rw [List.map_cons, forEach_cons, forEach_cons, ih]

variable {xs : List α}

theorem forEach_of_turns {I : List α → List α → σ → Prop} {f : α → Command ε σ Unit}
    (hs : I [] xs s) (h : ∀ done x rest t, xs = done ++ x :: rest → I done (x :: rest) t →
      ∃ u, f x t = (.ok (), u) ∧ I (done ++ [x]) rest u) :
    ∃ t, forEach xs f s = (.ok (), t) ∧ I xs [] t := by
  suffices hrun : ∀ rest done t, xs = done ++ rest → I done rest t →
      ∃ u, forEach rest f t = (.ok (), u) ∧ I xs [] u from hrun xs [] s rfl hs
  intro rest
  induction rest with
  | nil =>
    intro done t hsplit ht
    rw [List.append_nil] at hsplit
    exact ⟨t, rfl, hsplit ▸ ht⟩
  | cons x rest ih =>
    intro done t hsplit ht
    obtain ⟨u, hstep, hu⟩ := h done x rest t hsplit ht
    rw [forEach_cons, bind_of_ok hstep]
    exact ih (done ++ [x]) u (by rw [hsplit, List.append_cons]) hu

theorem forEach_flatMap (g : β → List α) (xs : List β) (f : α → Command ε σ Unit) :
    forEach (xs.flatMap g) f = forEach xs fun x => forEach (g x) f := by
  induction xs with
  | nil => rfl
  | cons x xs ih => rw [List.flatMap_cons, forEach_append, forEach_cons, ih]

theorem mapEach_split {x : α} {ys : List α} {bs : List β}
    (h : mapEach (xs ++ x :: ys) f s = (.ok bs, t)) :
    ∃ bs₁ b bs₂ s₁ t₁, mapEach xs f s = (.ok bs₁, s₁) ∧ f x s₁ = (.ok b, t₁) ∧
      mapEach ys f t₁ = (.ok bs₂, t) := by
  induction xs generalizing s bs with
  | nil =>
    rcases hx : f x s with ⟨e | b, t₁⟩
    · rw [List.nil_append, mapEach, bind_of_error hx] at h
      cases h
    · rw [List.nil_append, mapEach, bind_of_ok hx] at h
      rcases hys : mapEach ys f t₁ with ⟨e | bs₂, u⟩
      · rw [bind_of_error hys] at h
        cases h
      · rw [bind_of_ok hys] at h
        obtain rfl : u = t := congrArg Prod.snd h
        exact ⟨[], b, bs₂, s, t₁, rfl, hx, hys⟩
  | cons y xs ih =>
    rcases hy : f y s with ⟨e | b, s₁⟩
    · rw [List.cons_append, mapEach, bind_of_error hy] at h
      cases h
    · rw [List.cons_append, mapEach, bind_of_ok hy] at h
      rcases hrest : mapEach (xs ++ x :: ys) f s₁ with ⟨e | bs', u⟩
      · rw [bind_of_error hrest] at h
        cases h
      · rw [bind_of_ok hrest] at h
        obtain rfl : u = t := congrArg Prod.snd h
        obtain ⟨bs₁, c, bs₂, s₂, t₁, hpre, hturn, hpost⟩ := ih hrest
        refine ⟨b :: bs₁, c, bs₂, s₂, t₁, ?_, hturn, hpost⟩
        rw [mapEach, bind_of_ok hy, bind_of_ok hpre]
        rfl

theorem bind_eq_ok {u : σ} {b : β} (h : (c >>= f) s = (.ok b, u)) :
    ∃ a t, c s = (.ok a, t) ∧ f a t = (.ok b, u) := by
  rcases hc : c s with ⟨a | e, t⟩
  · rw [bind_of_error hc] at h
    simp at h
  · rw [bind_of_ok hc] at h
    exact ⟨_, t, rfl, h⟩

/-! ### Transactions -/

variable {undo : σ → σ → σ}

theorem transaction_of_ok (h : c s = (.ok a, t)) : transaction undo c s = (.ok a, t) := by
  simp only [transaction, h]

theorem transaction_of_error {e : ε} (h : c s = (.error e, t)) :
    transaction undo c s = (.error e, undo s t) := by
  simp only [transaction, h]

theorem transaction_eq_ok (h : transaction undo c s = (.ok a, t)) : c s = (.ok a, t) := by
  rcases hc : c s with ⟨e | b, u⟩
  · rw [transaction_of_error hc] at h
    simp at h
  · rw [transaction_of_ok hc] at h
    exact h

/-! ### Whatever happens: `Keeps` -/

/-- Whatever happens, `c` keeps `I`. -/
def Keeps (I : σ → Prop) (c : Command ε σ α) : Prop := ∀ s, I s → I (c.final s)

namespace Keeps

variable {I : σ → Prop}

theorem pure (a : α) : Keeps I (Pure.pure a : Command ε σ α) := fun _ h => h

theorem ask (f : σ → α) : Keeps I (Command.ask f : Command ε σ α) := fun _ h => h

theorem fail (e : ε) : Keeps I (Command.fail e : Command ε σ α) := fun _ h => h

theorem modify {f : σ → σ} (h : ∀ s, I s → I (f s)) :
    Keeps I (Command.modify f : Command ε σ Unit) := h

theorem bind (hc : Keeps I c) (hf : ∀ a, Keeps I (f a)) : Keeps I (c >>= f) := by
  intro s hs
  have ht := hc s hs
  rcases hcs : c s with ⟨e | a, t⟩
  · rw [final, hcs] at ht
    rw [final, bind_of_error hcs]
    exact ht
  · rw [final, hcs] at ht
    rw [final, bind_of_ok hcs]
    exact hf a t ht

theorem ite {p : Prop} [Decidable p] {d : Command ε σ α} (hc : Keeps I c) (hd : Keeps I d) :
    Keeps I (if p then c else d) := by
  split
  · exact hc
  · exact hd

/-- **The loop rule**: what every turn keeps, the loop keeps. -/
theorem forEach {f : α → Command ε σ Unit} (h : ∀ x ∈ xs, Keeps I (f x)) :
    Keeps I (Command.forEach xs f) := by
  induction xs with
  | nil => exact Keeps.pure ()
  | cons x xs ih =>
    exact (h x (List.mem_cons_self ..)).bind fun _ =>
      ih fun y hy => h y (List.mem_cons_of_mem _ hy)

theorem anyEach {f : α → Command ε σ Bool} (h : ∀ x ∈ xs, Keeps I (f x)) :
    Keeps I (Command.anyEach xs f) := by
  induction xs with
  | nil => exact Keeps.pure false
  | cons x xs ih =>
    exact (h x (List.mem_cons_self ..)).bind fun _ =>
      (ih fun y hy => h y (List.mem_cons_of_mem _ hy)).bind fun _ => Keeps.pure _

theorem mapEach (h : ∀ x ∈ xs, Keeps I (f x)) : Keeps I (Command.mapEach xs f) := by
  induction xs with
  | nil => exact Keeps.pure []
  | cons x xs ih =>
    exact (h x (List.mem_cons_self ..)).bind fun _ =>
      (ih fun y hy => h y (List.mem_cons_of_mem _ hy)).bind fun _ => Keeps.pure _

theorem lift (value : Except ε α) : Keeps I (Command.lift value : Command ε σ α) := fun _ h => h

theorem transaction (hc : Keeps I c) (hundo : ∀ s t, I s → I (undo s t)) :
    Keeps I (Command.transaction undo c) := by
  intro s hs
  rcases hcs : c s with ⟨e | a, t⟩
  · rw [final, transaction_of_error hcs]
    exact hundo s t hs
  · have ht := hc s hs
    rw [final, hcs] at ht
    rw [final, transaction_of_ok hcs]
    exact ht

end Keeps

theorem final_transaction {P : σ → Prop} (hok : ∀ a t, c s = (.ok a, t) → P t)
    (hundo : ∀ t, P (undo s t)) : P ((transaction undo c).final s) := by
  rcases hc : c s with ⟨e | a, t⟩
  · rw [final, transaction_of_error hc]
    exact hundo t
  · rw [final, transaction_of_ok hc]
    exact hok a t hc

/-! ### It does return: `Ensures` -/

/-- From a state satisfying `P`, `c` returns, and `Q` holds. -/
def Ensures (P : σ → Prop) (c : Command ε σ α) (Q : α → σ → Prop) : Prop :=
  ∀ s, P s → ∃ a t, c s = (.ok a, t) ∧ Q a t

namespace Ensures

variable {P P' : σ → Prop} {Q Q' : α → σ → Prop} {R : β → σ → Prop}

theorem pure (h : ∀ s, P s → Q a s) : Ensures P (Pure.pure a : Command ε σ α) Q :=
  fun s hs => ⟨a, s, rfl, h s hs⟩

theorem modify {f : σ → σ} {Q : Unit → σ → Prop} (h : ∀ s, P s → Q () (f s)) :
    Ensures P (Command.modify f : Command ε σ Unit) Q :=
  fun s hs => ⟨(), f s, rfl, h s hs⟩

theorem bind (hc : Ensures P c Q) (hf : ∀ a, Ensures (Q a) (f a) R) : Ensures P (c >>= f) R := by
  intro s hs
  obtain ⟨a, t, hct, ht⟩ := hc s hs
  obtain ⟨b, u, hfu, hu⟩ := hf a t ht
  exact ⟨b, u, by rw [bind_of_ok hct, hfu], hu⟩

theorem ask_bind {g : σ → α} (h : ∀ a, Ensures (fun s => P s ∧ g s = a) (f a) R) :
    Ensures P (Command.ask g >>= f) R := by
  intro s hs
  obtain ⟨b, u, hfu, hu⟩ := h (g s) s ⟨hs, rfl⟩
  exact ⟨b, u, hfu, hu⟩

theorem conseq (h : Ensures P c Q) (hP : ∀ s, P' s → P s) (hQ : ∀ a s, Q a s → Q' a s) :
    Ensures P' c Q' := by
  intro s hs
  obtain ⟨a, t, hct, ht⟩ := h s (hP s hs)
  exact ⟨a, t, hct, hQ a t ht⟩

/-- **The loop rule**: the invariant speaks about the elements still to come. -/
theorem forEach {I : List α → σ → Prop} {f : α → Command ε σ Unit}
    (h : ∀ x ys, x ∈ xs → Ensures (I (x :: ys)) (f x) (fun _ => I ys)) :
    Ensures (I xs) (Command.forEach xs f) (fun _ => I []) := by
  induction xs with
  | nil => exact Ensures.pure fun _ hs => hs
  | cons x xs ih =>
    exact (h x xs (List.mem_cons_self ..)).bind fun _ =>
      ih fun y ys hy => h y ys (List.mem_cons_of_mem _ hy)

/-- A command that returns is not changed by running it as a transaction. -/
theorem transaction (h : Ensures P c Q) : Ensures P (Command.transaction undo c) Q := by
  intro s hs
  obtain ⟨a, t, hct, ht⟩ := h s hs
  exact ⟨a, t, transaction_of_ok hct, ht⟩

theorem bind_keeps {I : σ → Prop} (hc : Ensures P c (fun _ => I)) (hf : ∀ a, Keeps I (f a))
    (hs : P s) : I ((c >>= f).final s) := by
  obtain ⟨a, t, hct, ht⟩ := hc s hs
  rw [Command.final, bind_of_ok hct]
  exact hf a t ht

theorem final (h : Ensures P c Q) (hs : P s) : ∃ a, Q a (c.final s) := by
  obtain ⟨a, t, hct, ht⟩ := h s hs
  exact ⟨a, by rw [Command.final, hct]; exact ht⟩

end Ensures

end Command

/-! ### Steps that may fail and touch no state -/

namespace Except

variable {ε α β : Type}

variable {f : α → Except ε β}

theorem bind_eq_ok {x : Except ε α} {b : β} (h : x >>= f = .ok b) :
    ∃ a, x = .ok a ∧ f a = .ok b := by
  cases x with
  | error e => cases h
  | ok a => exact ⟨a, rfl, h⟩

theorem map_eq_ok {x : Except ε α} {f : α → β} {b : β} (h : x.map f = .ok b) :
    ∃ a, x = .ok a ∧ f a = b := by
  cases x with
  | error e => cases h
  | ok a => exact ⟨a, rfl, Except.ok.inj h⟩

variable {xs : List α}

theorem foldlM_keeps {I : β → Prop} {f : β → α → Except ε β}
    (h : ∀ b a b', I b → f b a = .ok b' → I b') {b b' : β} (hb : I b)
    (hrun : xs.foldlM f b = .ok b') : I b' := by
  induction xs generalizing b with
  | nil =>
    obtain rfl := Except.ok.inj hrun
    exact hb
  | cons x xs ih =>
    rw [List.foldlM_cons] at hrun
    obtain ⟨c, hstep, hrest⟩ := bind_eq_ok hrun
    exact ih (h b x c hb hstep) hrest

variable {ys : List β}

theorem mapM_eq_ok (h : xs.mapM f = .ok ys) : List.Forall₂ (fun x y => f x = .ok y) xs ys := by
  induction xs generalizing ys with
  | nil =>
    obtain rfl := Except.ok.inj h
    exact .nil
  | cons x xs ih =>
    rw [List.mapM_cons] at h
    obtain ⟨y, hy, hrest⟩ := bind_eq_ok h
    obtain ⟨ys', hys, hcons⟩ := bind_eq_ok hrest
    obtain rfl := Except.ok.inj hcons
    exact .cons hy (ih hys)

theorem mapM_of_forall₂ (h : List.Forall₂ (fun x y => f x = .ok y) xs ys) : xs.mapM f = .ok ys := by
  induction h with
  | nil => rfl
  | @cons x y xs ys hhead _ ih =>
    rw [List.mapM_cons, hhead]
    change (xs.mapM f >>= fun ys => Except.ok (y :: ys)) = _
    rw [ih]
    rfl

theorem exists_of_forall₂ {R : α → β → Prop} (h : List.Forall₂ R xs ys) {x : α} (hx : x ∈ xs) :
    ∃ y ∈ ys, R x y := by
  induction h with
  | nil => exact nomatch hx
  | cons hhead _ ih =>
    rcases List.mem_cons.1 hx with rfl | hx
    · exact ⟨_, List.mem_cons_self .., hhead⟩
    · obtain ⟨y, hy, hrelated⟩ := ih hx
      exact ⟨y, List.mem_cons_of_mem _ hy, hrelated⟩

theorem exists_mapM_ok (h : ∀ x ∈ xs, ∃ y, f x = .ok y) : ∃ ys, xs.mapM f = .ok ys := by
  induction xs with
  | nil => exact ⟨[], rfl⟩
  | cons x xs ih =>
    obtain ⟨⟨y, hy⟩, hxs⟩ := List.forall_mem_cons.1 h
    obtain ⟨ys, hys⟩ := ih hxs
    exact ⟨y :: ys, mapM_of_forall₂ (.cons hy (mapM_eq_ok hys))⟩

theorem exists_of_mapM (h : xs.mapM f = .ok ys) {y : β} (hy : y ∈ ys) : ∃ x ∈ xs, f x = .ok y :=
  exists_of_forall₂ (List.Forall₂.flip (mapM_eq_ok h)) hy

end Except
