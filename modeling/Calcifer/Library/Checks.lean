import Mathlib

/-!
# Sequenced checks

A validator is a sequence of checks in `Except ε`, each of which rejects its input with an error
of its own. This file gives the three shapes such a sequence is built from, `rejectIf`, `okOr` and
`forEach`, with the lemma that says when each of them passes, and the inversion of a bind.
-/

namespace Checks

variable {ε α β : Type}

/-- Reject with `e` when the condition holds. -/
def rejectIf (bad : Prop) [Decidable bad] (e : ε) : Except ε Unit :=
  if bad then .error e else .ok ()

/-- The value of an option, or the error `e`. -/
def okOr (o : Option α) (e : ε) : Except ε α :=
  match o with
  | some a => .ok a
  | none => .error e

/-- Run a check on every entry of a list together with its index, counted from `n`. -/
def forEachFrom (n : ℕ) : List α → (ℕ → α → Except ε Unit) → Except ε Unit
  | [], _ => .ok ()
  | a :: l, f => do
    f n a
    forEachFrom (n + 1) l f

/-- Run a check on every entry of a list together with its index. -/
def forEach (l : List α) (f : ℕ → α → Except ε Unit) : Except ε Unit :=
  forEachFrom 0 l f

@[simp] theorem rejectIf_eq_ok {bad : Prop} [Decidable bad] {e : ε} {u : Unit} :
    rejectIf bad e = .ok u ↔ ¬ bad := by
  unfold rejectIf
  split_ifs with h <;> simp [h]

theorem rejectIf_eq_error {bad : Prop} [Decidable bad] {e e' : ε} :
    rejectIf bad e = .error e' ↔ bad ∧ e = e' := by
  unfold rejectIf
  split_ifs with h <;> simp [h]

@[simp] theorem okOr_eq_ok {o : Option α} {e : ε} {a : α} : okOr o e = .ok a ↔ o = some a := by
  cases o <;> simp [okOr]

theorem okOr_eq_error {o : Option α} {e e' : ε} : okOr o e = .error e' ↔ o = none ∧ e = e' := by
  cases o <;> simp [okOr]

theorem mapError_eq_ok {ε' : Type} {x : Except ε α} {f : ε → ε'} {a : α} :
    x.mapError f = .ok a ↔ x = .ok a := by
  cases x <;> simp [Except.mapError]

theorem ok_bind (a : α) (f : α → Except ε β) : (Except.ok a >>= f) = f a := rfl

theorem error_bind (e : ε) (f : α → Except ε β) : ((.error e : Except ε α) >>= f) = .error e := rfl

/-- A sequence succeeds exactly when both of its halves do. -/
theorem bind_eq_ok {x : Except ε α} {f : α → Except ε β} {b : β} :
    (x >>= f) = .ok b ↔ ∃ a, x = .ok a ∧ f a = .ok b := by
  cases x with
  | error e => simp [bind, Except.bind]
  | ok a => simp [bind, Except.bind]

/-- A check is followed by the rest exactly when it passes. -/
theorem check_bind_eq_ok {x : Except ε Unit} {f : Unit → Except ε β} {b : β} :
    (x >>= f) = .ok b ↔ x = .ok () ∧ f () = .ok b := by
  rw [bind_eq_ok]
  exact ⟨fun ⟨_, hx, hf⟩ => ⟨hx, hf⟩, fun ⟨hx, hf⟩ => ⟨(), hx, hf⟩⟩

/-- A sequence fails in its first half or, after it, in its second. -/
theorem bind_eq_error {x : Except ε α} {f : α → Except ε β} {e : ε} :
    (x >>= f) = .error e ↔ x = .error e ∨ ∃ a, x = .ok a ∧ f a = .error e := by
  cases x with
  | error e' => simp [bind, Except.bind]
  | ok a => simp [bind, Except.bind]

@[simp] theorem pure_eq_ok {a b : α} : (pure a : Except ε α) = .ok b ↔ a = b := by
  simp [pure, Except.pure]

theorem forEachFrom_eq_ok {n : ℕ} {l : List α} {f : ℕ → α → Except ε Unit} {u : Unit} :
    forEachFrom n l f = .ok u ↔ ∀ i a, l[i]? = some a → f (n + i) a = .ok () := by
  induction l generalizing n with
  | nil => simp [forEachFrom]
  | cons a l ih =>
    rw [forEachFrom, bind_eq_ok]
    constructor
    · rintro ⟨_, ha, hl⟩ i b hb
      cases i with
      | zero =>
        obtain rfl : a = b := by simpa using hb
        exact ha
      | succ i =>
        have := ih.1 hl i b (by simpa using hb)
        rwa [Nat.add_right_comm, Nat.add_assoc] at this
    · intro h
      refine ⟨(), h 0 a rfl, ih.2 fun i b hb => ?_⟩
      have := h (i + 1) b (by simpa using hb)
      rwa [Nat.add_right_comm, Nat.add_assoc]

/-- An indexed loop passes exactly when its body passes at every index. -/
theorem forEach_eq_ok {l : List α} {f : ℕ → α → Except ε Unit} {u : Unit} :
    forEach l f = .ok u ↔ ∀ i a, l[i]? = some a → f i a = .ok () := by
  rw [forEach, forEachFrom_eq_ok]
  simp only [Nat.zero_add]

/-- A loop whose body does not look at the index passes exactly when every entry does. -/
theorem forEach_const_eq_ok {l : List α} {f : α → Except ε Unit} {u : Unit} :
    (forEach l fun _ a => f a) = .ok u ↔ ∀ a ∈ l, f a = .ok () := by
  rw [forEach_eq_ok]
  constructor
  · intro h a ha
    obtain ⟨i, hi⟩ := List.mem_iff_getElem?.1 ha
    exact h i a hi
  · intro h i a hi
    exact h a (List.mem_of_getElem? hi)

end Checks
