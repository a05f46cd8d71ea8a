import Mathlib

/-!
# Machines that say yes

A machine reads its inputs one by one and answers each: an error, not yet, or yes. `accepts` gives the
state in which it says yes for the first time, if that is at the last input. Between two changes of its
state a machine passes over inputs that leave it where it is.
-/

namespace Recognizer

variable {σ ε τ : Type} (step : σ → ε → Except τ Bool × σ)

/-- The state in which the machine says yes at the last of its inputs, and not before. -/
def accepts (s : σ) : List ε → Option σ
  | [] => none
  | e :: es =>
    match step s e with
    | (.error _, _) => none
    | (.ok true, next) => if es = [] then some next else none
    | (.ok false, next) => accepts next es

/-- The machine leaves an input aside. -/
def Passes (s : σ) (e : ε) : Prop := step s e = (.ok false, s)

/-- The machine goes on in another state. -/
def Moves (s : σ) (e : ε) (next : σ) : Prop := step s e = (.ok false, next) ∧ next ≠ s

variable {step} {s final : σ}

theorem accepts_cons {e : ε} {es : List ε} :
    accepts step s (e :: es) = some final ↔
      step s e = (.ok true, final) ∧ es = [] ∨
      ∃ next, step s e = (.ok false, next) ∧ accepts step next es = some final := by
  rcases h : step s e with ⟨_ | answer, next⟩
  · simp [accepts, h]
  · cases answer with
    | true =>
      by_cases ended : es = []
      · simp [accepts, h, ended]
      · simp [accepts, h, ended]
    | false => simp [accepts, h]

/-- A machine passes over inputs until one makes it move or say yes. -/
theorem accepts_iff {es : List ε} :
    accepts step s es = some final ↔
      ∃ passed e rest, es = passed ++ e :: rest ∧ (∀ x ∈ passed, Passes step s x) ∧
        (step s e = (.ok true, final) ∧ rest = [] ∨
          ∃ next, Moves step s e next ∧ accepts step next rest = some final) := by
  constructor
  · intro h
    induction es with
    | nil => cases h
    | cons e es ih =>
      obtain ⟨yes, rfl⟩ | ⟨next, goes, rest⟩ := accepts_cons.1 h
      · exact ⟨[], e, [], rfl, by simp, .inl ⟨yes, rfl⟩⟩
      · by_cases same : next = s
        · subst same
          obtain ⟨passed, e', tail, rfl, passes, ends⟩ := ih rest
          exact ⟨e :: passed, e', tail, rfl, List.forall_mem_cons.2 ⟨goes, passes⟩, ends⟩
        · exact ⟨[], e, es, rfl, by simp, .inr ⟨next, ⟨goes, same⟩, rest⟩⟩
  · rintro ⟨passed, e, rest, rfl, passes, ends⟩
    induction passed with
    | nil =>
      refine accepts_cons.2 (ends.imp_right ?_)
      rintro ⟨next, moves, accepted⟩
      exact ⟨next, moves.1, accepted⟩
    | cons x passed ih =>
      obtain ⟨first, others⟩ := List.forall_mem_cons.1 passes
      exact accepts_cons.2 (.inr ⟨s, first, ih others⟩)

/-- A machine that does not say yes in a state, and what its runs look like from there. -/
theorem accepts_of_moves {es : List ε} {P : ε → Prop} {M : ε → σ → Prop}
    (passes : ∀ e, Passes step s e ↔ P e) (moves : ∀ e next, Moves step s e next ↔ M e next)
    (never : ∀ e next, step s e ≠ (.ok true, next)) :
    accepts step s es = some final ↔
      ∃ passed e rest next, es = passed ++ e :: rest ∧ (∀ x ∈ passed, P x) ∧ M e next ∧
        accepts step next rest = some final := by
  rw [accepts_iff]
  simp only [passes, moves, never, false_and, false_or]
  constructor
  · rintro ⟨passed, e, rest, same, quiet, next, moved, accepted⟩
    exact ⟨passed, e, rest, next, same, quiet, moved, accepted⟩
  · rintro ⟨passed, e, rest, next, same, quiet, moved, accepted⟩
    exact ⟨passed, e, rest, same, quiet, next, moved, accepted⟩

end Recognizer
