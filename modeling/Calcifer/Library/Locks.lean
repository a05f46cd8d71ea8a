import Mathlib

/-!
# Locks with owners

A lock names the process that holds it. Where every process knows for itself which locks it holds, the
lock and the processes agree (`Owned`) as long as a process takes a lock only when it is free.
-/

namespace Locks

variable {κ : Type}

/-- The lock after a process has taken it, kept it or dropped it. -/
def settle [DecidableEq κ] (holder : κ) (holds : Bool) (lock : Option κ) : Option κ :=
  if holds then some holder else if lock = some holder then none else lock

/-- The lock names the process that holds it. -/
def Owned (lock : Option κ) (holds : κ → Bool) : Prop :=
  ∀ holder, lock = some holder ↔ holds holder

variable {lock : Option κ} {holds : κ → Bool}

theorem Owned.unique (h : Owned lock holds) {a b : κ} (ha : holds a) (hb : holds b) : a = b :=
  Option.some.inj (((h a).2 ha).symm.trans ((h b).2 hb))

theorem Owned.settle [DecidableEq κ] (h : Owned lock holds) {holder : κ} {claims : Bool}
    (free : claims → holds holder ∨ lock.isNone) :
    Owned (settle holder claims lock) (Function.update holds holder claims) := by
  intro other
  unfold Locks.settle
  by_cases same : other = holder
  · subst same
    rw [Function.update_self]
    cases claims with
    | true => simp
    | false =>
      rw [if_neg Bool.false_ne_true]
      split_ifs with held
      · simp
      · simp [held]
  · rw [Function.update_of_ne same, ← h other]
    cases claims with
    | true =>
      rw [if_pos rfl]
      have fresh : lock ≠ some other := by
        intro held
        obtain mine | free := free rfl
        · exact same (h.unique ((h other).1 held) mine)
        · rw [held] at free
          cases free
      exact ⟨fun this => absurd (Option.some.inj this).symm same, fun held => absurd held fresh⟩
    | false =>
      rw [if_neg Bool.false_ne_true]
      split_ifs with held
      · rw [held]
        exact ⟨fun other => (by cases other), fun this => absurd (Option.some.inj this).symm same⟩
      · exact Iff.rfl

end Locks
