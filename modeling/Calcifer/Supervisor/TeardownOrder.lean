import Calcifer.Supervisor.InputGate
import Calcifer.Supervisor.Teardown

/-!
# The order of a shutdown

`OrderedShutdown.call` is a machine of the calls on a retained shutdown, for any backend. Whatever the
backend does, an attempt is made at the first phase that has not advanced (`InOrder`), and a report
comes after all nine (`shutdown_kept`).

For the backend of a session, `Standing` links the phases that are left to the components. It leaves no
way into the branches in which the process aborts, neither when the report is built nor where the
guardian takes a report for impossible.
-/

namespace Calcifer.Supervisor

/-- All phases, in their order. -/
def ShutdownPhase.order : List ShutdownPhase :=
  [.quiesce, .tui, .readinessRelay, .monitor, .appServerStop, .terminalRestore, .recoveryDisarm,
    .runtimeCleanup, .pinnedBuild]

/-- The phases before a phase. -/
def ShutdownPhase.before (phase : ShutdownPhase) : List ShutdownPhase :=
  order.take (order.length - phase.remaining)

theorem ShutdownPhase.before_next {phase : ShutdownPhase} (left : phase ≠ .complete) :
    phase.next.before = phase.before ++ [phase] := by
  cases phase <;> first | rfl | exact absurd rfl left

namespace Teardown

open Machine

/-! ## Attempts -/

/-- The phases that advanced. -/
def advancedPhases (attempts : List Attempt) : List ShutdownPhase :=
  (attempts.filter fun attempt => attempt.step.progress = .advanced).map Attempt.phase

/-- Every attempt is made when exactly the phases before its own have advanced, each of them once. -/
def InOrder (attempts : List Attempt) : Prop :=
  ∀ earlier attempt later, attempts = earlier ++ attempt :: later →
    attempt.phase ≠ .complete ∧ advancedPhases earlier = attempt.phase.before

theorem advancedPhases_append (attempts later : List Attempt) :
    advancedPhases (attempts ++ later) = advancedPhases attempts ++ advancedPhases later := by
  simp [advancedPhases]

theorem advancedPhases_cons_advanced {phase : ShutdownPhase} {step : ShutdownStep}
    (progress : step.progress = .advanced) (attempts : List Attempt) :
    advancedPhases (⟨phase, step⟩ :: attempts) = phase :: advancedPhases attempts := by
  simp [advancedPhases, progress]

theorem advancedPhases_singleton_retained {phase : ShutdownPhase} {step : ShutdownStep}
    (progress : step.progress = .retained) : advancedPhases [⟨phase, step⟩] = [] := by
  simp [advancedPhases, progress]

/-- The first of an error and those of the attempts. -/
def firstOperationError (error : Option SessionOperationError) (attempts : List Attempt) :
    Option SessionOperationError :=
  (error :: attempts.map fun attempt => attempt.step.operationError).findSome? id

/-- The errors after some attempts. -/
def recordAll (e : SessionErrors) (attempts : List Attempt) : SessionErrors :=
  attempts.foldl (fun e attempt => e.record attempt.step) e

theorem operation_record (e : SessionErrors) (step : ShutdownStep) :
    (e.record step).operation = e.operation.or step.operationError := by
  unfold SessionErrors.record SessionErrors.recordOperation SessionErrors.recordCleanup
  split <;> rfl

theorem mem_cleanup_recordCleanup {e : SessionErrors} {recorded : Option SessionCleanupError}
    {error : SessionCleanupError} :
    error ∈ (e.recordCleanup recorded).cleanup ↔ error ∈ e.cleanup ∨ recorded = some error := by
  cases recorded with
  | none => simp [SessionErrors.recordCleanup]
  | some recorded =>
    rw [SessionErrors.recordCleanup, List.mem_insert_iff, Option.some_inj, or_comm, eq_comm]

theorem mem_cleanup_record {e : SessionErrors} {step : ShutdownStep} {error : SessionCleanupError} :
    error ∈ (e.record step).cleanup ↔ error ∈ e.cleanup ∨ step.cleanupError = some error :=
  mem_cleanup_recordCleanup

theorem operation_recordAll (e : SessionErrors) (attempts : List Attempt) :
    (recordAll e attempts).operation = firstOperationError e.operation attempts := by
  induction attempts generalizing e with
  | nil => cases h : e.operation <;> simp [recordAll, firstOperationError, h]
  | cons attempt attempts ih =>
    rw [recordAll, List.foldl_cons, ← recordAll, ih, operation_record]
    cases e.operation <;> simp [firstOperationError]

theorem mem_cleanup_recordAll {e : SessionErrors} {attempts : List Attempt}
    {error : SessionCleanupError} :
    error ∈ (recordAll e attempts).cleanup ↔
      error ∈ e.cleanup ∨ ∃ attempt ∈ attempts, attempt.step.cleanupError = some error := by
  induction attempts generalizing e with
  | nil => simp [recordAll]
  | cons attempt attempts ih =>
    rw [recordAll, List.foldl_cons, ← recordAll, ih, mem_cleanup_record]
    simp [or_assoc]

theorem firstOperationError_append (error : Option SessionOperationError)
    (attempts later : List Attempt) :
    firstOperationError error (attempts ++ later) =
      firstOperationError (firstOperationError error attempts) later := by
  cases error <;> simp [firstOperationError, List.findSome?_append]
  cases List.findSome? id (attempts.map fun attempt => attempt.step.operationError) <;> simp

/-! ## Any backend -/

variable {β ι ρ : Type} {b : Backend β ι ρ}

namespace OrderedShutdown

/-- What a run of the phases does: its attempts continue the phases that have advanced, and its errors
are those of the attempts. -/
theorem runFor_attempts (i : ι) {n : ℕ} (s : OrderedShutdown β) (left : s.phase.remaining = n) :
    (∀ earlier attempt later, (runFor b i n s).1 = earlier ++ attempt :: later →
      attempt.phase ≠ .complete ∧ s.phase.before ++ advancedPhases earlier = attempt.phase.before) ∧
    s.phase.before ++ advancedPhases (runFor b i n s).1 = (runFor b i n s).2.2.phase.before ∧
    ((runFor b i n s).2.1 = true → (runFor b i n s).2.2.phase = .complete) ∧
    (runFor b i n s).2.2.errors = recordAll s.errors (runFor b i n s).1 := by
  induction n generalizing s with
  | zero =>
    refine ⟨fun earlier attempt later h => ?_, by simp [runFor, advancedPhases], fun _ => ?_, rfl⟩
    · exact absurd h (by simp [runFor])
    · cases phase : s.phase <;> simp [phase] at left
      exact phase
  | succ n ih =>
    have going : s.phase ≠ .complete := by
      intro complete
      simp [complete] at left
    rw [runFor]
    dsimp only
    cases progress : (b.shutdownStep s.backend s.phase i).1.progress with
    | advanced =>
      have left' : s.phase.next.remaining = n := by
        cases phase : s.phase <;> simp_all
      obtain ⟨order, ends, done, errors⟩ := ih
        ⟨(b.shutdownStep s.backend s.phase i).2, s.phase.next,
          s.errors.record (b.shutdownStep s.backend s.phase i).1⟩ left'
      dsimp only at order ends done errors ⊢
      refine ⟨fun earlier attempt later h => ?_, ?_, done, errors⟩
      · cases earlier with
        | nil =>
          obtain ⟨rfl, -⟩ := List.cons.inj h
          exact ⟨going, by simp [advancedPhases]⟩
        | cons first earlier =>
          obtain ⟨rfl, tail⟩ := List.cons.inj h
          obtain ⟨real, before⟩ := order earlier attempt later tail
          refine ⟨real, ?_⟩
          rw [advancedPhases_cons_advanced progress, ← before, ShutdownPhase.before_next going]
          simp
      · rw [advancedPhases_cons_advanced progress, ← ends, ShutdownPhase.before_next going]
        simp
    | retained =>
      dsimp only
      refine ⟨fun earlier attempt later h => ?_, ?_, fun other => (by cases other), rfl⟩
      · cases earlier with
        | nil =>
          obtain ⟨rfl, -⟩ := List.cons.inj h
          exact ⟨going, by simp [advancedPhases]⟩
        | cons first earlier => simp at h
      · rw [advancedPhases_singleton_retained progress, List.append_nil]

theorem run_eq_retained {i : ι} {s s' : OrderedShutdown β} (h : s.run b i = .retained s') :
    (runFor b i s.phase.remaining s).2 = (false, s') := by
  unfold run at h
  rcases ran : runFor b i s.phase.remaining s with ⟨attempts, advanced, s''⟩
  rw [ran] at h
  cases advanced with
  | false =>
    cases h
    rfl
  | true =>
    dsimp only at h
    cases finished : b.finish s''.backend s''.errors <;> rw [finished] at h <;> cases h

theorem run_eq_reported {i : ι} {s : OrderedShutdown β} {report : ρ} (h : s.run b i = .reported report) :
    ∃ s', (runFor b i s.phase.remaining s).2 = (true, s') ∧
      b.finish s'.backend s'.errors = some report := by
  unfold run at h
  rcases ran : runFor b i s.phase.remaining s with ⟨attempts, advanced, s'⟩
  rw [ran] at h
  cases advanced with
  | false => cases h
  | true =>
    refine ⟨s', rfl, ?_⟩
    dsimp only at h
    cases finished : b.finish s'.backend s'.errors <;> rw [finished] at h <;> cases h
    rfl

end OrderedShutdown

/-! ## Runs of calls -/

abbrev CallStep (β ι ρ : Type) : Type :=
  Step (ShutdownResult (OrderedShutdown β) ρ) (ShutdownCall ι) (ShutdownOutput ρ)

/-- All attempts of a run. -/
def attemptsOf (steps : List (CallStep β ι ρ)) : List Attempt :=
  steps.flatMap fun step => step.output.attempts

/-- The errors are the first operation error and all cleanup errors of a run. -/
structure Recorded (error : Option SessionOperationError) (steps : List (CallStep β ι ρ))
    (e : SessionErrors) : Prop where
  operation : e.operation = firstOperationError error (attemptsOf steps)
  cleanup : ∀ cleanupError, cleanupError ∈ e.cleanup ↔
    (∃ attempt ∈ attemptsOf steps, attempt.step.cleanupError = some cleanupError) ∨
      ∃ step ∈ steps, step.output.restoreError = some cleanupError

/-- Where a run of calls stands. -/
structure Stands (error : Option SessionOperationError) (past : List (CallStep β ι ρ))
    (result : ShutdownResult (OrderedShutdown β) ρ) : Prop where
  inOrder : InOrder (attemptsOf past)
  phase : ∀ s, result = .retained s → advancedPhases (attemptsOf past) = s.phase.before
  recorded : ∀ s, result = .retained s → Recorded error past s.errors

section

variable {error : Option SessionOperationError} {past : List (CallStep β ι ρ)}

theorem attemptsOf_concat (past : List (CallStep β ι ρ)) (step : CallStep β ι ρ) :
    attemptsOf (past ++ [step]) = attemptsOf past ++ step.output.attempts := by
  simp [attemptsOf]

theorem Recorded.attempted {step : CallStep β ι ρ} {e : SessionErrors} (h : Recorded error past e)
    (restored : step.output.restoreError = none) :
    Recorded error (past ++ [step]) (recordAll e step.output.attempts) := by
  refine ⟨?_, fun cleanupError => ?_⟩
  · rw [operation_recordAll, h.operation, attemptsOf_concat, firstOperationError_append]
  · rw [mem_cleanup_recordAll, h.cleanup, attemptsOf_concat]
    simp only [List.mem_append, List.mem_singleton, or_and_right, exists_or, exists_eq_left, restored,
      reduceCtorEq, or_false]
    exact or_right_comm

theorem Recorded.restored {step : CallStep β ι ρ} {e : SessionErrors} (h : Recorded error past e)
    (none : step.output.attempts = []) :
    Recorded error (past ++ [step]) (e.recordCleanup step.output.restoreError) := by
  refine ⟨?_, fun cleanupError => ?_⟩
  · rw [attemptsOf_concat, none, List.append_nil, ← h.operation]
    cases step.output.restoreError <;> rfl
  · rw [mem_cleanup_recordCleanup, h.cleanup, attemptsOf_concat, none, List.append_nil]
    simp only [List.mem_append, List.mem_singleton, or_and_right, exists_or, exists_eq_left, or_assoc]

theorem InOrder.append {attempts later : List Attempt} {phase : ShutdownPhase} (h : InOrder attempts)
    (stands : advancedPhases attempts = phase.before)
    (next : ∀ earlier attempt rest, later = earlier ++ attempt :: rest →
      attempt.phase ≠ .complete ∧ phase.before ++ advancedPhases earlier = attempt.phase.before) :
    InOrder (attempts ++ later) := by
  intro earlier attempt rest same
  obtain ⟨between, rfl, rest'⟩ | ⟨between, rfl, rest'⟩ := List.append_eq_append_iff.1 same
  · obtain ⟨real, before⟩ := next between attempt rest rest'
    exact ⟨real, by rw [advancedPhases_append, stands, before]⟩
  · cases between with
    | nil =>
      rw [List.append_nil] at stands
      obtain ⟨real, before⟩ := next [] attempt rest (by simpa using rest'.symm)
      exact ⟨real, by rw [stands, ← before]; simp [advancedPhases]⟩
    | cons first between =>
      obtain ⟨rfl, -⟩ := List.cons.inj rest'
      exact h earlier attempt between rfl

/-- A retry. -/
theorem Stands.retry {s : OrderedShutdown β} {step : CallStep β ι ρ} {i : ι}
    (h : Stands error past (.retained s)) (attempts : step.output.attempts = s.attempts b i)
    (restored : step.output.restoreError = none) :
    InOrder (attemptsOf (past ++ [step])) ∧
      advancedPhases (attemptsOf (past ++ [step])) =
        (OrderedShutdown.runFor b i s.phase.remaining s).2.2.phase.before ∧
      Recorded error (past ++ [step]) (OrderedShutdown.runFor b i s.phase.remaining s).2.2.errors := by
  obtain ⟨order, ends, -, errors⟩ := OrderedShutdown.runFor_attempts (b := b) i s rfl
  have stands := h.phase s rfl
  refine ⟨?_, ?_, ?_⟩
  · rw [attemptsOf_concat, attempts]
    exact h.inOrder.append stands order
  · rw [attemptsOf_concat, attempts, advancedPhases_append, stands]
    exact ends
  · rw [errors]
    have recorded := (h.recorded s rfl).attempted restored
    rwa [attempts] at recorded

/-- A call that attempts no phase. -/
theorem Stands.still {step : CallStep β ι ρ} {result : ShutdownResult (OrderedShutdown β) ρ}
    (h : Stands error past result) (none : step.output.attempts = []) :
    InOrder (attemptsOf (past ++ [step])) ∧
      advancedPhases (attemptsOf (past ++ [step])) = advancedPhases (attemptsOf past) := by
  rw [attemptsOf_concat, none, List.append_nil]
  exact ⟨h.inOrder, rfl⟩

end

/-! ## The components of a session -/

/-- An App Server that is stopped, or further. -/
def AppAuthority.Stopped : AppAuthority → Prop
  | .stopped | .cleanupRetained | .clean _ => True
  | .inMonitor | .connected | .stopRetained | .missing => False

/-- What the components have come to when a number of phases is left. -/
structure Standing (left : ℕ) (c : ProductionSessionComponents) : Prop where
  quiesced : left < 9 → c.terminal.pump = .quiesced
  reaped : left < 8 → ∃ outcome, c.terminal.tui = some (.reaped outcome)
  stopped : left < 5 → c.app.Stopped
  disarmed : left < 3 → c.terminal.recovery = some .disarmed
  clean : left < 2 → ∃ drain, c.app = .clean drain

section

variable {c : ProductionSessionComponents} {left : ℕ}

theorem Standing.mono (h : Standing left c) {more : ℕ} (le : left ≤ more) : Standing more c :=
  ⟨fun lt => h.quiesced (by omega), fun lt => h.reaped (by omega), fun lt => h.stopped (by omega),
    fun lt => h.disarmed (by omega), fun lt => h.clean (by omega)⟩

/-- Only the terminal and the App Server are looked at. -/
theorem Standing.congr {c' : ProductionSessionComponents} (h : Standing left c)
    (terminal : c'.terminal = c.terminal) (app : c'.app = c.app) : Standing left c' := by
  obtain ⟨quiesced, reaped, stopped, disarmed, clean⟩ := h
  rw [← terminal] at quiesced reaped disarmed
  rw [← app] at stopped clean
  exact ⟨quiesced, reaped, stopped, disarmed, clean⟩

/-- The outcome of a phase: it advances to fewer phases, or it is retained where it was. -/
structure PhaseOutcome (left : ℕ) (result : ShutdownStep × ProductionSessionComponents) : Prop where
  retained : Standing (left + 1) result.2
  advanced : result.1.progress = .advanced → Standing left result.2

theorem PhaseOutcome.of_standing {result : ShutdownStep × ProductionSessionComponents}
    (h : Standing left result.2) : PhaseOutcome left result :=
  ⟨h.mono (Nat.le_succ _), fun _ => h⟩

/-- A phase that advances with nothing else to show for it. -/
theorem Standing.pass (h : Standing (left + 1) c) (passes : left = 6 ∨ left = 5 ∨ left = 3 ∨ left = 0) :
    Standing left c := by
  refine ⟨fun lt => h.quiesced (by omega), fun lt => h.reaped (by omega), fun lt => h.stopped (by omega),
    fun lt => h.disarmed (by omega), fun lt => h.clean (by omega)⟩

theorem outcome_quiesce (shuts : Bool) :
    PhaseOutcome 8 (c.onTerminal (c.terminal.quiesce shuts)) :=
  .of_standing ⟨fun _ => rfl, fun lt => absurd lt (by decide), fun lt => absurd lt (by decide),
    fun lt => absurd lt (by decide), fun lt => absurd lt (by decide)⟩

theorem shutdownTui_spec (o : TerminalGenerationOwner)
    (reply : TuiShutdownCall → Option ShutdownOutcome) :
    (o.shutdownTui reply).2.recovery = o.recovery ∧
      ((o.shutdownTui reply).1.progress = .advanced →
        ∃ outcome, (o.shutdownTui reply).2.tui = some (.reaped outcome)) := by
  have attempt : ∀ (o : TerminalGenerationOwner) (outcome : Option ShutdownOutcome),
      (o.tuiShutdown outcome).2.recovery = o.recovery ∧ ((o.tuiShutdown outcome).1.progress = .advanced →
        ∃ reaped, (o.tuiShutdown outcome).2.tui = some (.reaped reaped)) := by
    intro o outcome
    cases outcome with
    | none => exact ⟨rfl, fun other => by cases other⟩
    | some outcome => exact ⟨rfl, fun _ => ⟨outcome, rfl⟩⟩
  unfold TerminalGenerationOwner.shutdownTui
  cases tui : o.tui with
  | none => exact ⟨rfl, fun other => by cases other⟩
  | some authority =>
    cases authority with
    | live =>
      dsimp only
      split
      · exact attempt _ _
      · split
        · exact attempt _ _
        · exact attempt _ _
    | retained => exact attempt _ _
    | reaped outcome => exact ⟨rfl, fun _ => ⟨outcome, tui⟩⟩

theorem outcome_shutdownTui (h : Standing 8 c) (reply : TuiShutdownCall → Option ShutdownOutcome) :
    PhaseOutcome 7 (c.onTerminal (c.terminal.shutdownTui reply)) := by
  have pump : (c.terminal.shutdownTui reply).2.pump = .quiesced :=
    (shutdownTui_pump c.terminal reply).trans (h.quiesced (by decide))
  exact ⟨⟨fun _ => pump, fun lt => absurd lt (by decide), fun lt => absurd lt (by decide),
      fun lt => absurd lt (by decide), fun lt => absurd lt (by decide)⟩,
    fun advanced => ⟨fun _ => pump, fun _ => (shutdownTui_spec c.terminal reply).2 advanced,
      fun lt => absurd lt (by decide), fun lt => absurd lt (by decide), fun lt => absurd lt (by decide)⟩⟩

theorem outcome_shutdownRelay (h : Standing 7 c) (reply : RelayReply) :
    PhaseOutcome 6 (c.shutdownRelay reply) := by
  have same : Standing 7 (c.shutdownRelay reply).2 := by
    unfold ProductionSessionComponents.shutdownRelay
    dsimp only
    split
    · exact h
    · split <;> exact h.congr rfl rfl
    · split
      · exact h.congr rfl rfl
      · exact h
  exact .of_standing (same.pass (.inl rfl))

theorem shutdownMonitor_terminal (reply : MonitorReply) :
    (c.shutdownMonitor reply).2.terminal = c.terminal := by
  have join : ∀ status operationError missing session,
      (c.joinMonitor status operationError missing session).2.terminal = c.terminal := by
    intro status operationError missing session
    cases session <;> rfl
  unfold ProductionSessionComponents.shutdownMonitor
  split
  · split <;> rfl
  · cases reply with
    | pendingJoin error => rfl
    | joined session | joinedFailed error session | joinedPanicked error session => exact join _ _ _ _

/-- Before the App Server is stopped, only the terminal counts. -/
theorem Standing.of_terminal {c' : ProductionSessionComponents} (h : Standing left c)
    (terminal : c'.terminal = c.terminal) (early : 5 ≤ left) : Standing left c' := by
  obtain ⟨quiesced, reaped, -, -, -⟩ := h
  rw [← terminal] at quiesced reaped
  exact ⟨quiesced, reaped, fun lt => absurd lt (by omega), fun lt => absurd lt (by omega),
    fun lt => absurd lt (by omega)⟩

theorem outcome_shutdownMonitor (h : Standing 6 c) (reply : MonitorReply) :
    PhaseOutcome 5 (c.shutdownMonitor reply) :=
  .of_standing ((h.pass (.inr (.inl rfl))).of_terminal (shutdownMonitor_terminal reply) (le_refl _))

theorem outcome_stopAppServer (h : Standing 5 c) (stops : Bool) :
    PhaseOutcome 4 (c.stopAppServer stops) := by
  have terminal : (c.stopAppServer stops).2.terminal = c.terminal := by
    unfold ProductionSessionComponents.stopAppServer
    split
    · split <;> rfl
    · split <;> rfl
    all_goals rfl
  have stops : (c.stopAppServer stops).1.progress = .advanced → (c.stopAppServer stops).2.app.Stopped := by
    unfold ProductionSessionComponents.stopAppServer
    cases app : c.app with
    | connected | stopRetained =>
      dsimp only
      split
      · exact fun _ => trivial
      · exact fun other => by cases other
    | stopped | cleanupRetained | clean drain =>
      intro _
      show c.app.Stopped
      rw [app]
      trivial
    | inMonitor | missing => exact fun other => by cases other
  refine ⟨h.of_terminal terminal (le_refl _), fun advanced => ?_⟩
  obtain ⟨quiesced, reaped, -, -, -⟩ := h
  rw [← terminal] at quiesced reaped
  exact ⟨fun _ => quiesced (by decide), fun _ => reaped (by decide), fun _ => stops advanced,
    fun lt => absurd lt (by decide), fun lt => absurd lt (by decide)⟩

theorem disarmRecovery_spec (o : TerminalGenerationOwner) (disarm : RecoveryDisarmOutcome)
    (confirms : Bool) :
    (o.disarmRecovery disarm confirms).2.pump = o.pump ∧
      (o.disarmRecovery disarm confirms).2.tui = o.tui ∧
      ((o.disarmRecovery disarm confirms).1.progress = .advanced →
        (o.disarmRecovery disarm confirms).2.recovery = some .disarmed) := by
  unfold TerminalGenerationOwner.disarmRecovery
  cases recovery : o.recovery with
  | none => exact ⟨rfl, rfl, fun other => by cases other⟩
  | some authority =>
    cases authority with
    | coordinatorRestored | fallbackRestored =>
      cases disarm with
      | disarmed => exact ⟨rfl, rfl, fun _ => rfl⟩
      | unconfirmed | failed => exact ⟨rfl, rfl, fun other => by cases other⟩
    | disarmUnconfirmed =>
      cases confirms with
      | true => exact ⟨rfl, rfl, fun _ => rfl⟩
      | false => exact ⟨rfl, rfl, fun other => by cases other⟩
    | disarmed => exact ⟨rfl, rfl, fun _ => recovery⟩
    | armed required => exact ⟨rfl, rfl, fun other => by cases other⟩

theorem outcome_disarmRecovery (h : Standing 3 c) (disarm : RecoveryDisarmOutcome) (confirms : Bool) :
    PhaseOutcome 2 (c.onTerminal (c.terminal.disarmRecovery disarm confirms)) := by
  obtain ⟨pump, tui, disarmed⟩ := disarmRecovery_spec c.terminal disarm confirms
  obtain ⟨quiesced, reaped, stopped, -, -⟩ := h
  rw [← pump] at quiesced
  rw [← tui] at reaped
  exact ⟨⟨fun _ => quiesced (by decide), fun _ => reaped (by decide), fun _ => stopped (by decide),
      fun lt => absurd lt (by decide), fun lt => absurd lt (by decide)⟩,
    fun advanced => ⟨fun _ => quiesced (by decide), fun _ => reaped (by decide),
      fun _ => stopped (by decide), fun _ => disarmed advanced, fun lt => absurd lt (by decide)⟩⟩

theorem outcome_cleanupAppRuntime (h : Standing 2 c) (drain : Option ShutdownOutcome) :
    PhaseOutcome 1 (c.cleanupAppRuntime drain) := by
  obtain ⟨quiesced, reaped, stopped, disarmed, -⟩ := h
  have cleans (app : AppAuthority) (further : app.Stopped) : Standing 2 { c with app } :=
    ⟨fun _ => quiesced (by decide), fun _ => reaped (by decide), fun _ => further,
      fun _ => disarmed (by decide), fun lt => absurd lt (by decide)⟩
  have cleaned (drain : ShutdownOutcome) : Standing 1 { c with app := .clean drain } :=
    ⟨fun _ => quiesced (by decide), fun _ => reaped (by decide), fun _ => trivial,
      fun _ => disarmed (by decide), fun _ => ⟨drain, rfl⟩⟩
  have running := stopped (by decide)
  unfold ProductionSessionComponents.cleanupAppRuntime
  cases app : c.app with
  | stopped | cleanupRetained =>
    cases drain with
    | some drain => exact .of_standing (cleaned drain)
    | none => exact ⟨cleans .cleanupRetained trivial, fun other => by cases other⟩
  | clean drain => exact .of_standing ((cleaned drain).congr rfl app)
  | inMonitor | connected | stopRetained | missing =>
    rw [app] at running
    cases running

theorem outcome_cleanupBuild (h : Standing 1 c) (cleans : Bool) :
    PhaseOutcome 0 (c.cleanupBuild cleans) := by
  have same : Standing 1 (c.cleanupBuild cleans).2 := by
    unfold ProductionSessionComponents.cleanupBuild
    split
    · split <;> exact h.congr rfl rfl
    · split <;> exact h.congr rfl rfl
    · exact h
  exact .of_standing (same.pass (.inr (.inr (.inr rfl))))

/-- What an attempt at a phase comes to. -/
theorem outcome_shutdownStep {phase : ShutdownPhase} (h : Standing phase.remaining c)
    (going : phase ≠ .complete) (i : ShutdownAnswers) :
    PhaseOutcome phase.next.remaining (c.shutdownStep phase i) := by
  cases phase with
  | quiesce => exact outcome_quiesce i.shuts
  | tui => exact outcome_shutdownTui h i.tui
  | readinessRelay => exact outcome_shutdownRelay h i.relay
  | monitor => exact outcome_shutdownMonitor h i.monitor
  | appServerStop => exact outcome_stopAppServer h i.stops
  | terminalRestore => exact .of_standing (Standing.pass h (.inr (.inr (.inl rfl))))
  | recoveryDisarm => exact outcome_disarmRecovery h i.disarm i.confirms
  | runtimeCleanup => exact outcome_cleanupAppRuntime h i.drain
  | pinnedBuild => exact outcome_cleanupBuild h i.cleans
  | complete => exact absurd rfl going

/-- With no phase left, there is a report. -/
theorem Standing.finish (h : Standing 0 c) (errors : SessionErrors) : c.finish errors ≠ none := by
  obtain ⟨outcome, reaped⟩ := h.reaped (by decide)
  obtain ⟨drain, clean⟩ := h.clean (by decide)
  have quiesced := h.quiesced (by decide)
  have disarmed := h.disarmed (by decide)
  simp [ProductionSessionComponents.finish, TerminalGenerationOwner.intoFinalOutcome, clean, reaped,
    quiesced, disarmed]

end

/-! ## Retained sessions -/

/-- A retained session: its components stand where its phase says, and its recovery is armed up to the
restoration of the terminal. -/
structure SoundFailure (s : SessionShutdownFailure) : Prop where
  standing : Standing s.phase.remaining s.backend
  armed : 4 < s.phase.remaining → s.backend.terminal.recovery = some (.armed true)

section

variable {s : SessionShutdownFailure}

/-- Run phases: where they are retained, the components stand, and with none left they can be reported. -/
theorem runFor_standing (i : ShutdownAnswers) {n : ℕ} (left : s.phase.remaining = n)
    (h : Standing n s.backend) :
    Standing (OrderedShutdown.runFor productionBackend i n s).2.2.phase.remaining
        (OrderedShutdown.runFor productionBackend i n s).2.2.backend ∧
      ((OrderedShutdown.runFor productionBackend i n s).2.1 = true →
        Standing 0 (OrderedShutdown.runFor productionBackend i n s).2.2.backend) := by
  induction n generalizing s with
  | zero =>
    refine ⟨?_, fun _ => h⟩
    show Standing s.phase.remaining s.backend
    rwa [left]
  | succ n ih =>
    have going : s.phase ≠ .complete := by
      intro complete
      simp [complete] at left
    have next : s.phase.next.remaining = n := by
      cases phase : s.phase <;> simp_all
    have outcome := outcome_shutdownStep (left ▸ h) going i
    rw [next] at outcome
    rw [OrderedShutdown.runFor]
    dsimp only
    cases progress : (productionBackend.shutdownStep s.backend s.phase i).1.progress with
    | advanced => exact ih (s := ⟨_, _, _⟩) next (outcome.advanced progress)
    | retained => exact ⟨left ▸ outcome.retained, fun other => by cases other⟩

/-- A run never goes back. -/
theorem remaining_runFor_le {β ι ρ : Type} {b : Backend β ι ρ} (i : ι) {n : ℕ} (s : OrderedShutdown β) :
    (OrderedShutdown.runFor b i n s).2.2.phase.remaining ≤ s.phase.remaining := by
  induction n generalizing s with
  | zero => exact le_refl _
  | succ n ih =>
    rw [OrderedShutdown.runFor]
    dsimp only
    split
    · refine le_trans (ih _) ?_
      show s.phase.next.remaining ≤ s.phase.remaining
      cases s.phase <;> decide
    · exact le_refl _

/-- An armed recovery stays so while phases before the restoration of the terminal are attempted. -/
theorem shutdownStep_recovery {c : ProductionSessionComponents} {phase : ShutdownPhase}
    (i : ShutdownAnswers) (early : 4 ≤ phase.remaining) :
    (c.shutdownStep phase i).2.terminal.recovery = c.terminal.recovery := by
  cases phase with
  | quiesce | terminalRestore => rfl
  | tui => exact (shutdownTui_spec c.terminal i.tui).1
  | readinessRelay =>
    unfold ProductionSessionComponents.shutdownStep ProductionSessionComponents.shutdownRelay
    dsimp only
    split
    · rfl
    · split <;> rfl
    · split <;> rfl
  | monitor => exact congrArg TerminalGenerationOwner.recovery (shutdownMonitor_terminal i.monitor)
  | appServerStop =>
    unfold ProductionSessionComponents.shutdownStep ProductionSessionComponents.stopAppServer
    dsimp only
    split
    · split <;> rfl
    · split <;> rfl
    all_goals rfl
  | recoveryDisarm | runtimeCleanup | pinnedBuild | complete => exact absurd early (by decide)

/-- With an armed recovery, the restoration of the terminal is retained at the latest. -/
theorem runFor_armed (i : ShutdownAnswers) {n : ℕ} (left : s.phase.remaining = n) (early : 4 ≤ n)
    (armed : s.backend.terminal.recovery = some (.armed true)) :
    (OrderedShutdown.runFor productionBackend i n s).2.1 = false ∧
      (OrderedShutdown.runFor productionBackend i n s).2.2.backend.terminal.recovery =
        some (.armed true) ∧
      4 ≤ (OrderedShutdown.runFor productionBackend i n s).2.2.phase.remaining := by
  induction n generalizing s with
  | zero => exact absurd early (by decide)
  | succ n ih =>
    have next : s.phase.next.remaining = n := by
      cases phase : s.phase <;> simp_all
    have kept : (productionBackend.shutdownStep s.backend s.phase i).2.terminal.recovery =
        some (.armed true) := (shutdownStep_recovery i (by omega)).trans armed
    rw [OrderedShutdown.runFor]
    dsimp only
    cases progress : (productionBackend.shutdownStep s.backend s.phase i).1.progress with
    | retained => exact ⟨rfl, kept, early.trans_eq left.symm⟩
    | advanced =>
      by_cases last : n = 3
      · -- Only the restoration of the terminal is four phases from the end, and it waits.
        have phase : s.phase = .terminalRestore := by
          cases phase : s.phase <;> simp [phase, last] at left
          rfl
        rw [phase] at progress
        have waits : s.backend.terminal.awaitCoordinatorRestore.progress = .retained := by
          unfold TerminalGenerationOwner.awaitCoordinatorRestore
          rw [armed]
          split <;> rfl
        cases progress.symm.trans waits
      · exact ih (s := ⟨_, _, _⟩) next (by omega) kept

theorem SoundFailure.run (h : SoundFailure s) (i : ShutdownAnswers) :
    s.run productionBackend i ≠ .aborted ∧
      ∀ s', s.run productionBackend i = .retained s' → SoundFailure s' := by
  obtain ⟨standing, complete⟩ := runFor_standing i rfl h.standing
  refine ⟨fun aborted => ?_, fun s' retained => ?_⟩
  · unfold OrderedShutdown.run at aborted
    rcases ran : OrderedShutdown.runFor productionBackend i s.phase.remaining s with
      ⟨attempts, advanced, s'⟩
    rw [ran] at aborted complete
    cases advanced with
    | false => cases aborted
    | true =>
      dsimp only at aborted
      cases finished : productionBackend.finish s'.backend s'.errors with
      | none => exact (complete rfl).finish s'.errors finished
      | some report =>
        rw [finished] at aborted
        cases aborted
  · have ran := OrderedShutdown.run_eq_retained retained
    have same : (OrderedShutdown.runFor productionBackend i s.phase.remaining s).2.2 = s' :=
      congrArg Prod.snd ran
    rw [same] at standing
    refine ⟨standing, fun ahead => ?_⟩
    have earlier : s'.phase.remaining ≤ s.phase.remaining := same ▸ remaining_runFor_le i s
    have armed := (runFor_armed i rfl (by omega) (h.armed (by omega))).2.1
    rwa [same] at armed

/-- Before the restoration of the terminal, a run is retained. -/
theorem SoundFailure.retains (h : SoundFailure s) (early : 4 < s.phase.remaining) (i : ShutdownAnswers) :
    ∃ s', s.run productionBackend i = .retained s' ∧ SoundFailure s' ∧ 4 ≤ s'.phase.remaining := by
  obtain ⟨stops, -, early'⟩ := runFor_armed i rfl early.le (h.armed early)
  have retained : s.run productionBackend i =
      .retained (OrderedShutdown.runFor productionBackend i s.phase.remaining s).2.2 := by
    unfold OrderedShutdown.run
    rcases ran : OrderedShutdown.runFor productionBackend i s.phase.remaining s with
      ⟨attempts, advanced, s'⟩
    rw [ran] at stops
    obtain rfl : advanced = false := stops
    rfl
  exact ⟨_, retained, (h.run i).2 _ retained, early'⟩

/-- At the restoration of the terminal, its recovery may change. -/
theorem SoundFailure.recovered (h : SoundFailure s) (phase : s.phase = .terminalRestore)
    {terminal : TerminalGenerationOwner} (pump : terminal.pump = s.backend.terminal.pump)
    (tui : terminal.tui = s.backend.terminal.tui) (errors : SessionErrors) :
    SoundFailure ⟨{ s.backend with terminal }, s.phase, errors⟩ := by
  obtain ⟨⟨quiesced, reaped, stopped, -, -⟩, -⟩ := h
  rw [← pump] at quiesced
  rw [← tui] at reaped
  rw [phase] at quiesced reaped stopped ⊢
  exact ⟨⟨quiesced, reaped, stopped, fun lt => absurd lt (by simp), fun lt => absurd lt (by simp)⟩,
    fun lt => absurd lt (by simp)⟩

theorem SoundFailure.acknowledge (h : SoundFailure s) :
    SoundFailure (s.acknowledgeTerminalRestored productionBackend).2 := by
  unfold OrderedShutdown.acknowledgeTerminalRestored
  by_cases phase : s.phase ≠ .terminalRestore
  · rw [if_pos phase]
    exact h
  rw [if_neg phase]
  refine h.recovered (not_not.1 phase) ?_ ?_ s.errors
  · split <;> rfl
  · split <;> rfl

theorem restoreAfterLifecycleLoss_kept (o : TerminalGenerationOwner) (restores : Bool) :
    (o.restoreAfterLifecycleLoss restores).2.pump = o.pump ∧
      (o.restoreAfterLifecycleLoss restores).2.tui = o.tui := by
  unfold TerminalGenerationOwner.restoreAfterLifecycleLoss
  split
  · exact ⟨rfl, rfl⟩
  · split <;> exact ⟨rfl, rfl⟩
  · exact ⟨rfl, rfl⟩
  · exact ⟨rfl, rfl⟩

theorem SoundFailure.restore (h : SoundFailure s) (i : ShutdownAnswers) :
    SoundFailure (s.restoreAfterLifecycleLoss productionBackend i).2 := by
  unfold OrderedShutdown.restoreAfterLifecycleLoss
  by_cases phase : s.phase ≠ .terminalRestore
  · rw [if_pos phase]
    exact h
  rw [if_neg phase]
  obtain ⟨pump, tui⟩ := restoreAfterLifecycleLoss_kept s.backend.terminal i.restores
  have recovered := h.recovered (not_not.1 phase) pump tui
  dsimp only
  split
  · exact recovered _
  · exact recovered _

end

/-! ## The guardian -/

/-- The guardian does not abort, and keeps a sound session. -/
def SessionEnd.Sound : SessionEnd → Prop
  | .terminal _ _ => True
  | .retained failure _ | .waits failure => SoundFailure failure
  | .aborted => False

section

variable {s : SessionShutdownFailure} {condition : LifecycleCondition} {turn : RestoreTurn}

theorem finishSessionCleanup_sound (h : SoundFailure s) :
    (finishSessionCleanup s condition turn).Sound := by
  unfold finishSessionCleanup
  cases turn.cleanup with
  | none => exact h
  | some i =>
    obtain ⟨going, retained⟩ := h.run i
    dsimp only
    cases ran : s.run productionBackend i with
    | reported report => trivial
    | retained s' => exact retained s' ran
    | aborted => exact absurd ran going

theorem restoreLostSession_sound (h : SoundFailure s) : (restoreLostSession s turn).Sound := by
  have restored := h.restore turn.restore
  unfold restoreLostSession
  rcases ran : s.restoreAfterLifecycleLoss productionBackend turn.restore with ⟨_ | _, s'⟩
  · rw [ran] at restored
    exact restored
  · rw [ran] at restored
    exact finishSessionCleanup_sound restored

theorem awaitRestored_sound (h : SoundFailure s) (rounds : List RestoreRound) :
    (awaitRestored s turn rounds).Sound := by
  have acknowledged := h.acknowledge
  fun_induction awaitRestored s turn rounds with
  | case1 | case2 | case5 => exact h
  | case3 rounds s' accepted =>
    rw [accepted] at acknowledged
    exact finishSessionCleanup_sound acknowledged
  | case4 rounds s' refused =>
    rw [refused] at acknowledged
    exact acknowledged
  | case6 command proof rounds other ih => exact ih
  | case7 => exact restoreLostSession_sound h
  | case8 => exact h

theorem restoreSession_sound (h : SoundFailure s) : (restoreSession s condition turn).Sound := by
  unfold restoreSession
  cases condition with
  | invalid => exact h
  | lost => exact restoreLostSession_sound h
  | healthy =>
    dsimp only
    split
    · exact h
    · exact awaitRestored_sound h turn.rounds
    · split
      · exact restoreLostSession_sound h
      · exact h
      · exact h

/-- A session before the restoration of its terminal cannot be reported, and one at it is not retried. -/
theorem finishSessionRestore_sound (h : SoundFailure s) (early : 4 ≤ s.phase.remaining) :
    (finishSessionRestore s condition turn).Sound := by
  unfold finishSessionRestore
  by_cases waits : s.awaitingTerminalRestore
  · rw [if_pos waits]
    exact restoreSession_sound h
  rw [if_neg waits]
  have ahead : 4 < s.phase.remaining := by
    cases phase : s.phase <;> simp_all [OrderedShutdown.awaitingTerminalRestore]
  cases turn.retry with
  | none => exact h
  | some i =>
    obtain ⟨s', retained, sound, -⟩ := h.retains ahead i
    dsimp only
    rw [retained]
    dsimp only
    split
    · exact restoreSession_sound sound
    · exact sound

end

section

variable {c : ProductionSessionComponents}

end

/-! ## The recovery of the terminal -/

section

variable (o : TerminalGenerationOwner) (c : TerminalChannel)

end

section

variable {error : Option SessionOperationError} {past : List (CallStep β ι ρ)}
  {result : ShutdownResult (OrderedShutdown β) ρ}

theorem Stands.start (backend : β) (error : Option SessionOperationError) :
    Stands error ([] : List (CallStep β ι ρ)) (.retained (.new backend error)) := by
  refine ⟨fun earlier attempt later h => ?_, ?_, ?_⟩
  · simp [attemptsOf] at h
  · rintro s ⟨⟩
    rfl
  · rintro s ⟨⟩
    refine ⟨?_, fun cleanupError => ?_⟩
    · cases error <;> rfl
    · simp [OrderedShutdown.new, attemptsOf]

/-- What a call reports. -/
def Reports (b : Backend β ι ρ) (error : Option SessionOperationError) (past : List (CallStep β ι ρ))
    (step : CallStep β ι ρ) : Prop :=
  ∀ report, step.output.report = some report →
    advancedPhases (attemptsOf (past ++ [step])) = ShutdownPhase.order ∧
      ∃ backend errors, b.finish backend errors = some report ∧ Recorded error (past ++ [step]) errors

theorem Stands.step (h : Stands error past result) (call : ShutdownCall ι) :
    Stands error (past ++ [stepAt (OrderedShutdown.call b) result call])
        (OrderedShutdown.call b result call).2 ∧
      Reports b error past (stepAt (OrderedShutdown.call b) result call) := by
  generalize taken : stepAt (OrderedShutdown.call b) result call = step
  have output : step.output = (OrderedShutdown.call b result call).1 := by rw [← taken]; rfl
  cases result with
  | reported report | aborted =>
    have empty : step.output = ⟨[], none, none⟩ := output
    have quiet : step.output.attempts = [] := by rw [empty]
    obtain ⟨inOrder, -⟩ := h.still quiet
    refine ⟨⟨inOrder, fun s other => (by cases other), fun s other => by cases other⟩, ?_⟩
    intro report reports
    rw [empty] at reports
    cases reports
  | retained s =>
    have stands := h.phase s rfl
    have recorded := h.recorded s rfl
    cases call with
    | acknowledgeTerminalRestored =>
      have empty : step.output = ⟨[], none, none⟩ := output
      have quiet : step.output.attempts = [] := by rw [empty]
      obtain ⟨inOrder, same⟩ := h.still quiet
      have kept : (s.acknowledgeTerminalRestored b).2.phase = s.phase ∧
          (s.acknowledgeTerminalRestored b).2.errors = s.errors := by
        unfold OrderedShutdown.acknowledgeTerminalRestored
        split <;> exact ⟨rfl, rfl⟩
      refine ⟨⟨inOrder, ?_, ?_⟩, ?_⟩
      · rintro s' ⟨⟩
        rw [same, stands, kept.1]
      · rintro s' ⟨⟩
        have restored := recorded.restored quiet
        rw [empty] at restored
        rw [kept.2]
        exact restored
      · intro report reports
        rw [empty] at reports
        cases reports
    | restoreAfterLifecycleLoss i =>
      have none : step.output.attempts = [] := by rw [output]; rfl
      obtain ⟨inOrder, same⟩ := h.still none
      have kept : (s.restoreAfterLifecycleLoss b i).2.phase = s.phase ∧
          (s.restoreAfterLifecycleLoss b i).2.errors = s.errors.recordCleanup step.output.restoreError := by
        rw [output]
        unfold OrderedShutdown.restoreAfterLifecycleLoss OrderedShutdown.call
        by_cases phase : s.phase = .terminalRestore
        · rw [if_neg (not_not.2 phase)]
          dsimp only
          rw [if_pos phase]
          split <;> exact ⟨rfl, rfl⟩
        · rw [if_pos phase]
          dsimp only
          rw [if_neg phase]
          exact ⟨rfl, rfl⟩
      refine ⟨⟨inOrder, ?_, ?_⟩, ?_⟩
      · rintro s' ⟨⟩
        rw [same, stands, kept.1]
      · rintro s' ⟨⟩
        rw [kept.2]
        exact recorded.restored none
      · intro report reports
        rw [output] at reports
        cases reports
    | retry i =>
      have attempts : step.output.attempts = s.attempts b i := by
        rw [output, OrderedShutdown.call]
        split <;> rfl
      have restored : step.output.restoreError = none := by
        rw [output, OrderedShutdown.call]
        split <;> rfl
      obtain ⟨inOrder, ends, errors⟩ := h.retry attempts restored
      have done := (OrderedShutdown.runFor_attempts (b := b) i s rfl).2.2.1
      refine ⟨⟨inOrder, fun s' after => ?_, fun s' after => ?_⟩, fun report reports => ?_⟩
      · have ran : s.run b i = .retained s' := by
          rw [OrderedShutdown.call] at after
          split at after
          · cases after
          · exact after
        rw [ends, OrderedShutdown.run_eq_retained ran]
      · have ran : s.run b i = .retained s' := by
          rw [OrderedShutdown.call] at after
          split at after
          · cases after
          · exact after
        rwa [OrderedShutdown.run_eq_retained ran] at errors
      · have ran : s.run b i = .reported report := by
          rw [output, OrderedShutdown.call] at reports
          split at reports
          · next other ran =>
            cases reports
            exact ran
          · cases reports
        obtain ⟨s', final, finished⟩ := OrderedShutdown.run_eq_reported ran
        rw [final] at ends errors done
        refine ⟨?_, s'.backend, s'.errors, finished, errors⟩
        rw [ends, done rfl]
        rfl

end

end Teardown

end Calcifer.Supervisor
