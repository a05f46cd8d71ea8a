import Calcifer.Library.Program

/-!
# Logs in a world

A `Trace` says what a program calls and what it is answered. `Surroundings.Plays` says that a world
gives these answers, with the interference of the rest of the world before each of them. A law of the
calls of a program is then read off the log, one call at a time.
-/

namespace Program

variable {Op : Type} {Reply : Op → Type} {World : Type} {S : Surroundings Op Reply World}
variable {w w' : World} {log log' : List ((op : Op) × Reply op)} {op : Op} {r : Reply op}

/-! ## Runs that succeed -/

section

variable {ε α β : Type} {x : ExceptT ε (Program Op Reply) α} {f : α → ExceptT ε (Program Op Reply) β}

/-- A sequence succeeds when both of its parts do. -/
theorem trace_bind_ok {b : β} : Trace (x >>= f).run log (.ok b) ↔
    ∃ before after a, log = before ++ after ∧ Trace x.run before (.ok a) ∧
      Trace (f a).run after (.ok b) := by
  rw [trace_bindExcept]
  constructor
  · rintro (⟨e, he, -⟩ | h)
    · cases he
    · exact h
  · exact Or.inr

theorem trace_pure_ok {a b : α} :
    Trace (pure a : ExceptT ε (Program Op Reply) α).run log (.ok b) ↔ log = [] ∧ b = a :=
  trace_pure.trans (and_congr_right fun _ => Except.ok.injEq b a ▸ Iff.rfl)

end

/-! ## Logs in a world -/

/-- The calls of a log as the surroundings answer them, from one world to another. -/
inductive Surroundings.Plays (S : Surroundings Op Reply World) :
    World → List ((op : Op) × Reply op) → World → Prop
  | nil (w : World) : Plays S w [] w
  | call {w w₁ w₂ w' : World} {op : Op} {r : Reply op} {log : List ((op : Op) × Reply op)}
      (env : Relation.ReflTransGen S.Env w w₁) (exec : S.Exec w₁ op r w₂) (rest : Plays S w₂ log w') :
      Plays S w (⟨op, r⟩ :: log) w'

namespace Surroundings

theorem plays_nil : S.Plays w [] w' ↔ w' = w := by
  constructor
  · intro h
    cases h
    rfl
  · rintro rfl
    exact .nil w'

theorem plays_cons : S.Plays w (⟨op, r⟩ :: log) w' ↔
    ∃ w₁ w₂, Relation.ReflTransGen S.Env w w₁ ∧ S.Exec w₁ op r w₂ ∧ S.Plays w₂ log w' := by
  constructor
  · intro h
    cases h with
    | call env exec rest => exact ⟨_, _, env, exec, rest⟩
  · rintro ⟨w₁, w₂, env, exec, rest⟩
    exact .call env exec rest

theorem plays_append : S.Plays w (log ++ log') w' ↔ ∃ w₁, S.Plays w log w₁ ∧ S.Plays w₁ log' w' := by
  constructor
  · intro h
    induction log generalizing w with
    | nil => exact ⟨w, .nil w, h⟩
    | cons entry log ih =>
      obtain ⟨w₁, w₂, env, exec, rest⟩ := plays_cons.1 h
      obtain ⟨w₃, first, last⟩ := ih rest
      exact ⟨w₃, .call env exec first, last⟩
  · rintro ⟨w₁, first, last⟩
    induction first with
    | nil => exact last
    | call env exec _ ih => exact .call env exec (ih last)

/-- What every call and all interference keep, a log keeps. -/
theorem Plays.keeps {I : World → Prop} (stable : S.Stable I)
    (exec : ∀ w op r w', I w → S.Exec w op r w' → I w') (h : S.Plays w log w') (hw : I w) : I w' := by
  induction h with
  | nil => exact hw
  | call env step _ ih => exact ih (exec _ _ _ _ (stable.star hw env) step)

/-- The log of a program that is answered by a function. -/
theorem plays_record {α : Type} (answer : World → (op : Op) → Reply op × World)
    (exec : ∀ w op, S.Exec w op (answer w op).1 (answer w op).2) (p : Program Op Reply α) (w : World) :
    S.Plays w (p.record answer w).1 (p.replay answer w).2 := by
  induction p generalizing w with
  | done a => exact .nil w
  | call op next ih => exact .call .refl (exec w op) (ih _ _)

end Surroundings

end Program
