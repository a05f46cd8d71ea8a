import Mathlib

/-!
# Histories of a machine

A machine answers an input and moves on. `history` keeps every step of a run, so that a property can
say which step must lie before which; `history_split` brings it to one step of the machine, taken
where an invariant of histories (`history_invariant`) holds.
-/

namespace Machine

variable {σ ι ο : Type}

/-- One step of a run. -/
structure Step (σ ι ο : Type) where
  before : σ
  input : ι
  output : ο
  after : σ

/-- The step that a machine takes on an input. -/
def stepAt (f : σ → ι → ο × σ) (s : σ) (i : ι) : Step σ ι ο where
  before := s
  input := i
  output := (f s i).1
  after := (f s i).2

/-- Where a run ends. -/
def final (f : σ → ι → ο × σ) (s : σ) : List ι → σ
  | [] => s
  | i :: inputs => final f (f s i).2 inputs

/-- The steps of a run. -/
def history (f : σ → ι → ο × σ) (s : σ) : List ι → List (Step σ ι ο)
  | [] => []
  | i :: inputs => stepAt f s i :: history f (f s i).2 inputs

variable {f : σ → ι → ο × σ} {s : σ}

theorem final_append (inputs later : List ι) :
    final f s (inputs ++ later) = final f (final f s inputs) later := by
  induction inputs generalizing s with
  | nil => rfl
  | cons i inputs ih => exact ih

theorem final_concat (inputs : List ι) (i : ι) :
    final f s (inputs ++ [i]) = (f (final f s inputs) i).2 :=
  final_append inputs [i]

theorem history_append (inputs later : List ι) :
    history f s (inputs ++ later) = history f s inputs ++ history f (final f s inputs) later := by
  induction inputs generalizing s with
  | nil => rfl
  | cons i inputs ih =>
    rw [List.cons_append, history, history, ih, final, List.cons_append]

theorem history_concat (inputs : List ι) (i : ι) :
    history f s (inputs ++ [i]) = history f s inputs ++ [stepAt f (final f s inputs) i] :=
  history_append inputs [i]

@[simp] theorem map_input_history (inputs : List ι) : (history f s inputs).map Step.input = inputs := by
  induction inputs generalizing s with
  | nil => rfl
  | cons i inputs ih => rw [history, List.map_cons, ih, stepAt]

theorem input_mem_of_mem_history {inputs : List ι} {step : Step σ ι ο} (mem : step ∈ history f s inputs) :
    step.input ∈ inputs := by
  have mapped := List.mem_map_of_mem (f := Step.input) mem
  rwa [map_input_history] at mapped

/-- What every step of a kind keeps holds of every run that has only steps of that kind. -/
theorem history_invariant {I : List (Step σ ι ο) → σ → Prop} {P : Step σ ι ο → Prop} (start : I [] s)
    (step : ∀ past s i, I past s → P (stepAt f s i) → I (past ++ [stepAt f s i]) (f s i).2)
    (inputs : List ι) (h : ∀ step ∈ history f s inputs, P step) :
    I (history f s inputs) (final f s inputs) := by
  induction inputs using List.reverseRecOn with
  | nil => exact start
  | append_singleton inputs i ih =>
    rw [history_concat] at h ⊢
    rw [final_concat]
    have past := ih fun step mem => h step (List.mem_append_left _ mem)
    exact step _ _ i past (h _ (List.mem_append_right _ (List.mem_singleton_self _)))

/-- A step of a run is taken where the run of the inputs before it ends. -/
theorem history_split {inputs : List ι} {past later : List (Step σ ι ο)} {step : Step σ ι ο}
    (h : history f s inputs = past ++ step :: later) :
    ∃ earlier i rest, inputs = earlier ++ i :: rest ∧ past = history f s earlier ∧
      step = stepAt f (final f s earlier) i ∧ later = history f step.after rest := by
  induction past generalizing s inputs with
  | nil =>
    cases inputs with
    | nil => cases h
    | cons i rest =>
      obtain ⟨hstep, hlater⟩ := List.cons.inj h
      exact ⟨[], i, rest, rfl, rfl, hstep.symm, hstep ▸ hlater.symm⟩
  | cons first past ih =>
    cases inputs with
    | nil => cases h
    | cons i inputs =>
      obtain ⟨hfirst, tail⟩ := List.cons.inj h
      obtain ⟨earlier, j, rest, hinputs, hpast, hstep⟩ := ih tail
      refine ⟨i :: earlier, j, rest, ?_, ?_, hstep⟩
      · rw [hinputs, List.cons_append]
      · rw [history, hfirst, hpast]

end Machine
