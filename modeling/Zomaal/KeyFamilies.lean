/-
**Families of keys.**

Idempotency keys are texts made of a fixed prefix, the *family*, and of whatever tells the members
of the family apart.  Two families are apart when neither prefix begins the other.

Main results:

* `Key.Apart.append_ne` — **keys of families that are apart differ**;
* `Key.append_number_inj` — **a number after the last separator can be read back**.
-/

import Mathlib.Data.List.Basic

set_option autoImplicit false

namespace Key

def Apart (p q : String) : Prop := ¬ p.toList <+: q.toList ∧ ¬ q.toList <+: p.toList

instance (p q : String) : Decidable (Apart p q) := inferInstanceAs (Decidable (_ ∧ _))

/-- **Keys of families that are apart differ.** -/
theorem Apart.append_ne {p q : String} (h : Apart p q) (a b : String) : p ++ a ≠ q ++ b := by
  intro heq
  have hlist : p.toList ++ a.toList = q.toList ++ b.toList := by
    rw [← String.toList_append, ← String.toList_append, heq]
  have hp : p.toList <+: q.toList ++ b.toList := ⟨a.toList, hlist⟩
  have hq : q.toList <+: q.toList ++ b.toList := List.prefix_append ..
  rcases List.prefix_or_prefix_of_prefix hp hq with hpq | hqp
  · exact h.1 hpq
  · exact h.2 hqp

def InFamily (p key : String) : Prop := ∃ rest, key = p ++ rest

theorem InFamily.intro (p rest : String) : InFamily p (p ++ rest) := ⟨rest, rfl⟩

theorem InFamily.append {p key : String} (h : InFamily p key) (a : String) :
    InFamily p (key ++ a) := by
  obtain ⟨rest, rfl⟩ := h
  exact ⟨rest ++ a, String.append_assoc⟩

theorem Apart.not_both {p q key : String} (h : Apart p q) (hp : InFamily p key)
    (hq : InFamily q key) : False := by
  obtain ⟨a, rfl⟩ := hp
  obtain ⟨b, hb⟩ := hq
  exact h.append_ne a b hb

theorem toString_nat_inj {m n : ℕ} (h : toString m = toString n) : m = n := by
  have hdigits : Nat.toDigits 10 m = Nat.toDigits 10 n := by
    rw [← Nat.toList_repr, ← Nat.toList_repr]
    exact congrArg String.toList h
  rw [← Nat.ofDigitChars_ten_toDigits (n := m), hdigits, Nat.ofDigitChars_ten_toDigits]

theorem separator_notMem_toString (n : ℕ) : ':' ∉ (toString n).toList := by
  intro h
  have hdigits : ':' ∈ Nat.toDigits 10 n := by
    rw [← Nat.toList_repr]
    exact h
  have := Nat.isDigit_of_mem_toDigits (by decide) (by decide) hdigits
  exact absurd this (by decide)

theorem append_separator_inj {l l' d d' : List Char} (h : l ++ ':' :: d = l' ++ ':' :: d')
    (hd : ':' ∉ d) (hd' : ':' ∉ d') : l = l' ∧ d = d' := by
  rcases List.append_eq_append_iff.1 h with ⟨m, rfl, hm⟩ | ⟨m, rfl, hm⟩
  · cases m with
    | nil => exact ⟨(List.append_nil l).symm, by simpa using hm⟩
    | cons c m =>
      obtain ⟨-, rfl⟩ := List.cons_eq_cons.1 hm
      simp at hd
  · cases m with
    | nil => exact ⟨List.append_nil l', by simpa using hm.symm⟩
    | cons c m =>
      obtain ⟨-, rfl⟩ := List.cons_eq_cons.1 hm
      simp at hd'

/-- **A number after the last separator can be read back.** -/
theorem append_number_inj {a b : String} {m n : ℕ}
    (h : a ++ ":" ++ toString m = b ++ ":" ++ toString n) : a = b ∧ m = n := by
  have hlist : a.toList ++ ':' :: (toString m).toList = b.toList ++ ':' :: (toString n).toList := by
    simpa using congrArg String.toList h
  obtain ⟨hab, hmn⟩ := append_separator_inj hlist (separator_notMem_toString m)
    (separator_notMem_toString n)
  exact ⟨String.toList_inj.1 hab, toString_nat_inj (String.toList_inj.1 hmn)⟩

end Key
