import Mathlib

/-!
# Programs that can crash

A program is a tree of calls to its surroundings. One process at a time runs such a program on a
shared world; between any two of its calls the rest of the world may move, and at any point the
process may crash and a new one may start from the beginning. `Reach` is the reachable part of this
system.

`Safe` is the weakest precondition of a program in it, with the interference before every call built
in, and `Reach.invariant` shows that a property of worlds that the surroundings keep, and that every
call of a safe program establishes again, holds in every reachable world, however often processes
crash.
-/

/-- A program over the calls `Op`, the reply to each of which decides how it goes on. -/
inductive Program (Op : Type) (Reply : Op → Type) (α : Type) : Type where
  | done (a : α)
  | call (op : Op) (next : Reply op → Program Op Reply α)

namespace Program

variable {Op : Type} {Reply : Op → Type} {α β : Type}

/-- Run a program and continue with its result. -/
protected def bind : Program Op Reply α → (α → Program Op Reply β) → Program Op Reply β
  | .done a, f => f a
  | .call op next, f => .call op fun r => (next r).bind f

instance : Monad (Program Op Reply) where
  pure := .done
  bind := Program.bind

/-- A single call. -/
def perform (op : Op) : Program Op Reply (Reply op) := .call op .done

/-! ## Surroundings -/

/-- The surroundings of a program: what a call can answer and do to the world, what happens to the
world besides, and what the end of a process releases, be it orderly or not. -/
structure Surroundings (Op : Type) (Reply : Op → Type) (World : Type) where
  Exec : World → (op : Op) → Reply op → World → Prop
  Env : World → World → Prop
  Exit : World → World := id

variable {World : Type} {S : Surroundings Op Reply World}

/-- A property that the rest of the world keeps. -/
def Surroundings.Stable (S : Surroundings Op Reply World) (A : World → Prop) : Prop :=
  ∀ w w', A w → S.Env w w' → A w'

/-- The worlds that are reached from `w₀`, with the program that is under way, if one is. Processes
run programs of `P`. -/
inductive Reach (S : Surroundings Op Reply World) (P : Program Op Reply α → Prop) (w₀ : World) :
    World → Option (Program Op Reply α) → Prop
  | start : Reach S P w₀ w₀ none
  | enter {w : World} (p : Program Op Reply α) (hp : P p) :
      Reach S P w₀ w none → Reach S P w₀ w (some p)
  | exec {w w' : World} {op : Op} {next : Reply op → Program Op Reply α} (r : Reply op)
      (h : S.Exec w op r w') : Reach S P w₀ w (some (.call op next)) → Reach S P w₀ w' (some (next r))
  | leave {w : World} {a : α} : Reach S P w₀ w (some (.done a)) → Reach S P w₀ (S.Exit w) none
  | crash {w : World} {p : Program Op Reply α} :
      Reach S P w₀ w (some p) → Reach S P w₀ (S.Exit w) none
  | env {w w' : World} {running : Option (Program Op Reply α)} (h : S.Env w w') :
      Reach S P w₀ w running → Reach S P w₀ w' running

/-- An undisturbed run of a program, from one world to another. -/
inductive Runs (S : Surroundings Op Reply World) : World → Program Op Reply α → World → Prop
  | done {w : World} (a : α) : Runs S w (.done a) w
  | call {w w₁ w' : World} {op : Op} {next : Reply op → Program Op Reply α} (r : Reply op)
      (h : S.Exec w op r w₁) (rest : Runs S w₁ (next r) w') : Runs S w (.call op next) w'

/-- A process that runs to its end. -/
theorem Reach.run {P : Program Op Reply α → Prop} {w₀ w w' : World} {p : Program Op Reply α}
    (h : Reach S P w₀ w none) (hp : P p) (run : Runs S w p w') : Reach S P w₀ (S.Exit w') none := by
  have running := Reach.enter p hp h
  clear h hp
  induction run with
  | done a => exact running.leave
  | call r exec rest ih => exact ih (.exec r exec running)

/-- A run of a program that stops anywhere, be it at its end or before. -/
inductive Stops (S : Surroundings Op Reply World) : World → Program Op Reply α → World → Prop
  | here (w : World) (p : Program Op Reply α) : Stops S w p w
  | call {w w₁ w' : World} {op : Op} {next : Reply op → Program Op Reply α} (r : Reply op)
      (h : S.Exec w op r w₁) (rest : Stops S w₁ (next r) w') : Stops S w (.call op next) w'

/-! ## Safe programs -/

/-- Whatever happens in between, every call of the program leads to a world with `I`, and its result
to one with `Q`. -/
def Safe (S : Surroundings Op Reply World) (I : World → Prop) :
    Program Op Reply α → (α → World → Prop) → World → Prop
  | .done a, Q, w => Q a w
  | .call op next, Q, w => ∀ w₁, Relation.ReflTransGen S.Env w w₁ → ∀ r w₂, S.Exec w₁ op r w₂ →
      I w₂ ∧ Safe S I (next r) Q w₂

variable {I : World → Prop} {w : World}

theorem Surroundings.Stable.star {A : World → Prop} (stable : S.Stable A) {w w' : World} (h : A w)
    (env : Relation.ReflTransGen S.Env w w') : A w' := by
  induction env with
  | refl => exact h
  | tail _ step ih => exact stable _ _ ih step

/-- A call may rely on what the surroundings keep. -/
theorem Safe.call {op : Op} {next : Reply op → Program Op Reply α} {Q : α → World → Prop}
    (A : World → Prop) (stable : S.Stable A) (hA : A w)
    (h : ∀ w₁, A w₁ → ∀ r w₂, S.Exec w₁ op r w₂ → I w₂ ∧ Safe S I (next r) Q w₂) :
    Safe S I (.call op next) Q w :=
  fun w₁ env r w₂ exec => h w₁ (stable.star hA env) r w₂ exec

theorem Safe.mono {p : Program Op Reply α} {Q Q' : α → World → Prop} (h : Safe S I p Q w)
    (hQ : ∀ a w, Q a w → Q' a w) : Safe S I p Q' w := by
  induction p generalizing w with
  | done a => exact hQ a w h
  | call op next ih =>
    intro w₁ env r w₂ exec
    obtain ⟨hI, hnext⟩ := h w₁ env r w₂ exec
    exact ⟨hI, ih r hnext⟩

theorem Safe.weaken {p : Program Op Reply α} {Q : α → World → Prop} {I' : World → Prop}
    (h : Safe S I p Q w) (hI : ∀ w, I w → I' w) : Safe S I' p Q w := by
  induction p generalizing w with
  | done a => exact h
  | call op next ih =>
    intro w₁ env r w₂ exec
    obtain ⟨hI₂, hnext⟩ := h w₁ env r w₂ exec
    exact ⟨hI w₂ hI₂, ih r hnext⟩

/-- Sequencing: the first program establishes what the second one needs. -/
theorem Safe.bind {p : Program Op Reply α} {f : α → Program Op Reply β} {Q : β → World → Prop}
    (h : Safe S I p (fun a w => Safe S I (f a) Q w) w) : Safe S I (p >>= f) Q w := by
  induction p generalizing w with
  | done a => exact h
  | call op next ih =>
    intro w₁ env r w₂ exec
    obtain ⟨hI, hnext⟩ := h w₁ env r w₂ exec
    exact ⟨hI, ih r hnext⟩

/-- Sequencing with errors: the first program establishes what the second one needs, unless it
fails. -/
theorem Safe.bindExcept {ε : Type} {x : ExceptT ε (Program Op Reply) α}
    {f : α → ExceptT ε (Program Op Reply) β} {Q : Except ε β → World → Prop}
    (h : Safe S I x.run (fun r w => match r with
      | .ok a => Safe S I (f a).run Q w
      | .error e => Q (.error e) w) w) : Safe S I (x >>= f).run Q w := by
  refine Safe.bind (Safe.mono h fun r w hr => ?_)
  cases r with
  | ok a => exact hr
  | error e => exact hr

/-- Wherever a safe program stops, it has kept `I`. -/
theorem Stops.invariant {p : Program Op Reply α} {Q : α → World → Prop} {w' : World}
    (h : Stops S w p w') (hI : I w) (safe : Safe S I p Q w) : I w' := by
  induction h with
  | here => exact hI
  | call r exec _ ih =>
    obtain ⟨hI, hnext⟩ := safe _ .refl r _ exec
    exact ih hI hnext

/-- A program under way is safe for what is left of it. -/
theorem Reach.safe {P : Program Op Reply α → Prop} {w₀ : World} {Q : α → World → Prop} (init : I w₀)
    (stable : S.Stable I) (exit : ∀ w, I w → I (S.Exit w))
    (safe : ∀ p, P p → ∀ w, I w → Safe S I p Q w)
    {running : Option (Program Op Reply α)} (h : Reach S P w₀ w running) :
    I w ∧ ∀ p, running = some p → ∃ w₁, Relation.ReflTransGen S.Env w₁ w ∧ Safe S I p Q w₁ := by
  induction h with
  | start => exact ⟨init, nofun⟩
  | enter p hp _ ih =>
    refine ⟨ih.1, fun q hq => ?_⟩
    cases hq
    exact ⟨_, .refl, safe p hp _ ih.1⟩
  | exec r exec _ ih =>
    obtain ⟨-, ih⟩ := ih
    obtain ⟨w₁, env, hsafe⟩ := ih _ rfl
    obtain ⟨hI, hnext⟩ := hsafe _ env r _ exec
    refine ⟨hI, fun q hq => ?_⟩
    cases hq
    exact ⟨_, .refl, hnext⟩
  | leave _ ih => exact ⟨exit _ ih.1, nofun⟩
  | crash _ ih => exact ⟨exit _ ih.1, nofun⟩
  | env env _ ih =>
    refine ⟨stable _ _ ih.1 env, fun q hq => ?_⟩
    obtain ⟨w₁, star, hsafe⟩ := ih.2 q hq
    exact ⟨w₁, star.tail env, hsafe⟩

/-- What safe programs and their surroundings keep holds in every reachable world. -/
theorem Reach.invariant {P : Program Op Reply α → Prop} {w₀ : World} (init : I w₀)
    (stable : S.Stable I) (exit : ∀ w, I w → I (S.Exit w))
    (safe : ∀ p, P p → ∀ w, I w → Safe S I p (fun _ _ => True) w)
    {running : Option (Program Op Reply α)} (h : Reach S P w₀ w running) : I w :=
  (h.safe init stable exit safe).1

/-- What a safe program ends with holds when it has come to its end. -/
theorem Reach.result {P : Program Op Reply α → Prop} {w₀ : World} {Q : α → World → Prop} {a : α}
    (init : I w₀) (stable : S.Stable I) (exit : ∀ w, I w → I (S.Exit w))
    (safe : ∀ p, P p → ∀ w, I w → Safe S I p Q w) (stableQ : S.Stable (Q a))
    (h : Reach S P w₀ w (some (.done a))) : Q a w := by
  obtain ⟨-, hsafe⟩ := h.safe init stable exit safe
  obtain ⟨w₁, star, hQ⟩ := hsafe _ rfl
  exact stableQ.star hQ star

/-! ## Programs that go round

A loop without a bound is run round by round: a round ends with the point at which the next one starts,
or with the result. -/

variable {σ : Type}

/-- The worlds and the programs that a loop of `turn` leads to, when it starts in `w₀` with `p₀`. -/
inductive Rounds (S : Surroundings Op Reply World) (turn : σ → Program Op Reply (σ ⊕ α)) (w₀ : World)
    (p₀ : Program Op Reply (σ ⊕ α)) : World → Program Op Reply (σ ⊕ α) → Prop
  | start : Rounds S turn w₀ p₀ w₀ p₀
  | exec {w w' : World} {op : Op} {next : Reply op → Program Op Reply (σ ⊕ α)} (r : Reply op)
      (h : S.Exec w op r w') : Rounds S turn w₀ p₀ w (.call op next) → Rounds S turn w₀ p₀ w' (next r)
  | env {w w' : World} {p : Program Op Reply (σ ⊕ α)} (h : S.Env w w') :
      Rounds S turn w₀ p₀ w p → Rounds S turn w₀ p₀ w' p
  | round {w : World} {point : σ} :
      Rounds S turn w₀ p₀ w (.done (.inl point)) → Rounds S turn w₀ p₀ w (turn point)

/-- What a round establishes: the next one can start, or the result is as wanted. -/
def Ends (J : σ → World → Prop) (Q : α → World → Prop) : σ ⊕ α → World → Prop
  | .inl point, w => J point w
  | .inr a, w => Q a w

/-- If every round establishes what the next one needs, then so does the round under way. -/
theorem Rounds.safe {turn : σ → Program Op Reply (σ ⊕ α)} {w₀ : World}
    {p₀ p : Program Op Reply (σ ⊕ α)} {J : σ → World → Prop} {Q : α → World → Prop}
    (stable : ∀ point, S.Stable (J point)) (turns : ∀ point w, J point w → Safe S I (turn point) (Ends J Q) w)
    (init : Safe S I p₀ (Ends J Q) w₀) (h : Rounds S turn w₀ p₀ w p) :
    ∃ w₁, Relation.ReflTransGen S.Env w₁ w ∧ Safe S I p (Ends J Q) w₁ := by
  induction h with
  | start => exact ⟨_, .refl, init⟩
  | exec r exec _ ih =>
    obtain ⟨w₁, env, hsafe⟩ := ih
    obtain ⟨-, hnext⟩ := hsafe _ env r _ exec
    exact ⟨_, .refl, hnext⟩
  | env step _ ih =>
    obtain ⟨w₁, env, hsafe⟩ := ih
    exact ⟨w₁, env.tail step, hsafe⟩
  | @round w point _ ih =>
    obtain ⟨w₁, env, hJ⟩ := ih
    exact ⟨w, .refl, turns point w ((stable point).star hJ env)⟩

/-- What a loop has come to, be it the start of a round or its result. -/
theorem Rounds.ends {turn : σ → Program Op Reply (σ ⊕ α)} {w₀ : World}
    {p₀ : Program Op Reply (σ ⊕ α)} {J : σ → World → Prop} {Q : α → World → Prop} {r : σ ⊕ α}
    (stable : ∀ point, S.Stable (J point)) (stableQ : ∀ a, S.Stable (Q a))
    (turns : ∀ point w, J point w → Safe S I (turn point) (Ends J Q) w)
    (init : Safe S I p₀ (Ends J Q) w₀) (h : Rounds S turn w₀ p₀ w (.done r)) : Ends J Q r w := by
  obtain ⟨w₁, env, hends⟩ := h.safe stable turns init
  cases r with
  | inl point => exact (stable point).star hends env
  | inr a => exact (stableQ a).star hends env

/-- What safe rounds and their surroundings keep holds in every world that the loop comes to. -/
theorem Rounds.invariant {turn : σ → Program Op Reply (σ ⊕ α)} {w₀ : World}
    {p₀ p : Program Op Reply (σ ⊕ α)} {J : σ → World → Prop} {Q : α → World → Prop}
    (stable : ∀ point, S.Stable (J point)) (stableI : S.Stable I)
    (turns : ∀ point w, J point w → Safe S I (turn point) (Ends J Q) w)
    (init : Safe S I p₀ (Ends J Q) w₀) (initI : I w₀) (h : Rounds S turn w₀ p₀ w p) : I w := by
  induction h with
  | start => exact initI
  | exec r exec before _ =>
    obtain ⟨w₁, env, hsafe⟩ := before.safe stable turns init
    exact (hsafe _ env r _ exec).1
  | env step _ ih => exact stableI _ _ ih step
  | round _ ih => exact ih

/-- The loop comes to a result as wanted within the given number of further rounds. -/
def Settles (S : Surroundings Op Reply World) (turn : σ → Program Op Reply (σ ⊕ α))
    (Q : α → World → Prop) : Nat → Program Op Reply (σ ⊕ α) → World → Prop
  | 0, p, w => Safe S (fun _ => True) p (Ends (fun _ _ => False) Q) w
  | n + 1, p, w =>
    Safe S (fun _ => True) p (Ends (fun point w => Settles S turn Q n (turn point) w) Q) w

variable {turn : σ → Program Op Reply (σ ⊕ α)} {Q : α → World → Prop} {p : Program Op Reply (σ ⊕ α)}

/-- A round that comes to a result needs no further ones. -/
theorem Settles.now {n : Nat} (h : Safe S (fun _ => True) p (Ends (fun _ _ => False) Q) w) :
    Settles S turn Q n p w := by
  cases n with
  | zero => exact h
  | succ n =>
    refine Safe.mono h fun r w hr => ?_
    cases r with
    | inl point => exact hr.elim
    | inr a => exact hr

/-- Further rounds do no harm, and neither does a weaker result. -/
theorem Settles.mono {n m : Nat} {Q' : α → World → Prop} (h : Settles S turn Q n p w) (le : n ≤ m)
    (imp : ∀ a w, Q a w → Q' a w) : Settles S turn Q' m p w := by
  induction n generalizing p w m with
  | zero =>
    refine Settles.now (Safe.mono h fun r w hr => ?_)
    cases r with
    | inl point => exact hr.elim
    | inr a => exact imp a w hr
  | succ n ih =>
    obtain ⟨m, rfl⟩ := Nat.exists_eq_add_of_le' (Nat.succ_le_of_lt (Nat.lt_of_lt_of_le n.succ_pos le))
    refine Safe.mono h fun r w hr => ?_
    cases r with
    | inl point => exact ih hr (Nat.le_of_succ_le_succ le)
    | inr a => exact imp a w hr

/-! ## Surroundings that answer by a function -/

/-- What a program comes to when its calls are answered by a function. -/
def replay (answer : World → (op : Op) → Reply op × World) :
    Program Op Reply α → World → α × World
  | .done a, w => (a, w)
  | .call op next, w => (next (answer w op).1).replay answer (answer w op).2

theorem Rounds.replay {w₀ : World} {p₀ : Program Op Reply (σ ⊕ α)}
    (answer : World → (op : Op) → Reply op × World)
    (exec : ∀ w op, S.Exec w op (answer w op).1 (answer w op).2) (h : Rounds S turn w₀ p₀ w p) :
    Rounds S turn w₀ p₀ (p.replay answer w).2 (.done (p.replay answer w).1) := by
  induction p generalizing w with
  | done a => exact h
  | call op next ih => exact ih _ (h.exec _ (exec w op))

/-! ## Traces

What a program does when its calls may get any replies at all. -/

/-- The calls that a run of a program makes, each with its reply, and the result of the run. -/
inductive Trace : Program Op Reply α → List ((op : Op) × Reply op) → α → Prop
  | done (a : α) : Trace (.done a) [] a
  | call {op : Op} {next : Reply op → Program Op Reply α} {log : List ((op : Op) × Reply op)} {a : α}
      (r : Reply op) (rest : Trace (next r) log a) : Trace (.call op next) (⟨op, r⟩ :: log) a

section Trace

variable {log : List ((op : Op) × Reply op)}

@[simp] theorem trace_pure {a b : α} :
    Trace (pure a : Program Op Reply α) log b ↔ log = [] ∧ b = a := by
  constructor
  · intro h
    cases h
    exact ⟨rfl, rfl⟩
  · rintro ⟨rfl, rfl⟩
    exact .done b

@[simp] theorem trace_perform {op : Op} {r : Reply op} :
    Trace (perform op : Program Op Reply (Reply op)) log r ↔ log = [⟨op, r⟩] := by
  constructor
  · intro h
    cases h with
    | call r rest =>
      cases rest
      rfl
  · rintro rfl
    exact .call r (.done r)

/-- A run of a sequence is a run of its first part followed by one of the rest. -/
theorem trace_bind {p : Program Op Reply α} {f : α → Program Op Reply β} {b : β} :
    Trace (p >>= f) log b ↔
      ∃ before after a, log = before ++ after ∧ Trace p before a ∧ Trace (f a) after b := by
  constructor
  · intro h
    induction p generalizing log with
    | done a => exact ⟨[], log, a, rfl, .done a, h⟩
    | call op next ih =>
      cases h with
      | call r rest =>
        obtain ⟨before, after, a, rfl, hp, hf⟩ := ih r rest
        exact ⟨_ :: before, after, a, rfl, .call r hp, hf⟩
  · rintro ⟨before, after, a, rfl, hp, hf⟩
    induction hp with
    | done a => exact hf
    | call r rest ih => exact .call r (ih hf)

/-- A run of a sequence that can fail ends with the failure of its first part or goes on after it. -/
theorem trace_bindExcept {ε : Type} {x : ExceptT ε (Program Op Reply) α}
    {f : α → ExceptT ε (Program Op Reply) β} {b : Except ε β} :
    Trace (x >>= f).run log b ↔
      (∃ e, b = .error e ∧ Trace x.run log (.error e)) ∨
      ∃ before after a, log = before ++ after ∧ Trace x.run before (.ok a) ∧
        Trace (f a).run after b := by
  have hbind : (x >>= f).run = x.run >>= fun r => match r with
      | .ok a => (f a).run
      | .error e => pure (.error e) := by
    refine congrArg (x.run >>= ·) (funext fun r => ?_)
    cases r with
    | ok a => rfl
    | error e => rfl
  rw [hbind, trace_bind]
  constructor
  · rintro ⟨before, after, r, rfl, hx, hr⟩
    cases r with
    | ok a => exact Or.inr ⟨before, after, a, rfl, hx, hr⟩
    | error e =>
      obtain ⟨rfl, rfl⟩ := trace_pure.1 hr
      exact Or.inl ⟨e, rfl, by rwa [List.append_nil]⟩
  · rintro (⟨e, rfl, hx⟩ | ⟨before, after, a, rfl, hx, hf⟩)
    · exact ⟨log, [], .error e, by rw [List.append_nil], hx, trace_pure.2 ⟨rfl, rfl⟩⟩
    · exact ⟨before, after, .ok a, rfl, hx, hf⟩

end Trace

/-- The calls of a program that are answered by a function, and what it comes to. -/
def record (answer : World → (op : Op) → Reply op × World) :
    Program Op Reply α → World → List ((op : Op) × Reply op) × α
  | .done a, _ => ([], a)
  | .call op next, w =>
    let (log, a) := (next (answer w op).1).record answer (answer w op).2
    (⟨op, (answer w op).1⟩ :: log, a)

theorem trace_record (answer : World → (op : Op) → Reply op × World) (p : Program Op Reply α)
    (w : World) : Trace p (p.record answer w).1 (p.record answer w).2 := by
  induction p generalizing w with
  | done a => exact .done a
  | call op next ih => exact .call _ (ih _ _)

/-! ## Programs for the calls of a program -/

section interpret

variable {Op' : Type} {Reply' : Op' → Type} {f : (op : Op) → Program Op' Reply' (Reply op)}

/-- Run each call of a program as a program of its own. -/
def interpret (f : (op : Op) → Program Op' Reply' (Reply op)) :
    Program Op Reply α → Program Op' Reply' α
  | .done a => .done a
  | .call op next => (f op).bind fun r => (next r).interpret f

/-- The calls of programs that are run for calls, one after the other. -/
inductive Interprets (f : (op : Op) → Program Op' Reply' (Reply op)) :
    List ((op : Op) × Reply op) → List ((op : Op') × Reply' op) → Prop
  | nil : Interprets f [] []
  | cons {op : Op} {r : Reply op} {calls : List ((op : Op) × Reply op)}
      {log log' : List ((op : Op') × Reply' op)} (run : Trace (f op) log r)
      (rest : Interprets f calls log') : Interprets f (⟨op, r⟩ :: calls) (log ++ log')

/-- A run of an interpreted program is a run of the program, with a run for each of its calls. -/
theorem trace_interpret {p : Program Op Reply α} {log : List ((op : Op') × Reply' op)} {a : α} :
    Trace (p.interpret f) log a ↔ ∃ calls, Trace p calls a ∧ Interprets f calls log := by
  constructor
  · intro h
    induction p generalizing log with
    | done b =>
      cases h
      exact ⟨[], .done _, .nil⟩
    | call op next ih =>
      obtain ⟨before, after, r, rfl, hop, hnext⟩ := trace_bind.1 h
      obtain ⟨calls, hcalls, rest⟩ := ih r hnext
      exact ⟨⟨op, r⟩ :: calls, .call r hcalls, .cons hop rest⟩
  · rintro ⟨calls, hp, hcalls⟩
    induction hp generalizing log with
    | done b =>
      cases hcalls
      exact .done b
    | call r rest ih =>
      cases hcalls with
      | cons hop hrest => exact trace_bind.2 ⟨_, _, r, rfl, hop, ih hrest⟩

end interpret

/-! ## Alone in the world -/

/-- Nothing happens besides the calls of the program. -/
def Surroundings.Still (S : Surroundings Op Reply World) : Prop := ∀ w w', ¬S.Env w w'

theorem Surroundings.Still.stable (still : S.Still) (A : World → Prop) : S.Stable A :=
  fun w w' _ env => (still w w' env).elim

/-- A call without interference. -/
theorem Safe.perform (still : S.Still) {op : Op} {Q : Reply op → World → Prop}
    (h : ∀ r w', S.Exec w op r w' → I w' ∧ Q r w') : Safe S I (perform op) Q w := by
  intro w₁ env r w₂ exec
  have same : w = w₁ := by
    induction env with
    | refl => rfl
    | tail _ step _ => exact (still _ _ step).elim
  subst same
  exact h r w₂ exec

end Program
