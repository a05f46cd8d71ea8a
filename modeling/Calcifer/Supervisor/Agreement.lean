import Calcifer.Supervisor.TranscriptFailures

/-!
# Agreement of the two validators

The coordinator and the guardian run the same validator over one command stream and one event stream,
each in its own order. As long as neither has reported an error, the coordinator is at most one answered
command away from where the guardian was before the events in flight (`Behind`), and where both streams
are empty the two agree.
-/

namespace Calcifer.Supervisor

open Checks

/-! ## What the two ends share -/

/-- What a validator knows of the session, apart from the cause of its end and the slot of the recovery
race, which the guardian alone opens. -/
structure Core where
  state : TerminalLifecycleState
  leaseCommitted : Bool
  appStarted : Bool
  tuiStarted : Bool
  appProcessGroup : Option Int
  gateEverOpened : Bool
  failure : Option (Phase × FailureCode)
  terminalExitDisposition : Option GuardianExitDisposition

def TerminalLifecycleValidator.core (v : TerminalLifecycleValidator) : Core where
  state := v.state
  leaseCommitted := v.leaseCommitted
  appStarted := v.appStarted
  tuiStarted := v.tuiStarted
  appProcessGroup := v.appProcessGroup
  gateEverOpened := v.gateEverOpened
  failure := v.failure
  terminalExitDisposition := v.terminalExitDisposition

/-- The state after an event. -/
def TerminalLifecycleState.afterEvent (state : TerminalLifecycleState) :
    GuardianEvent → TerminalLifecycleState
  | .leaseCommitted => .awaitStart
  | .terminalArmed _ => .awaitTerminalArmAcceptance
  | .childStarted .appServer _ _ => .awaitAppDescriptorVerification
  | .childStarted .tui _ _ => .awaitTuiDescriptorVerification
  | .ready => .readyForGate
  | .inputGateOpened => .active
  | .signalForwarded .hup | .signalForwarded .term => .awaitQuiesced
  | .signalForwarded signal =>
    if state = .awaitSignalForwarded signal true then .suspended else .active
  | .resizeApplied _ _ => .active
  | .suspended => .suspended
  | .resumed _ _ => .readyForGate
  | .usageExhausted => .awaitQuiesced
  | .terminalQuiesced => .quiesced
  | .terminalRecoveryDisarmed => .recoveryDisarmed
  | .failed _ _ => state.afterFailure
  | .childrenReaped _ _ _ _ _ _ => .terminal

/-- The shared part after an event. -/
def Core.afterEvent (c : Core) (event : GuardianEvent) : Core where
  state := c.state.afterEvent event
  leaseCommitted := c.leaseCommitted || event matches .leaseCommitted
  appStarted := c.appStarted || event matches .childStarted .appServer _ _
  tuiStarted := c.tuiStarted || event matches .childStarted .tui _ _
  appProcessGroup := match event with
    | .childStarted .appServer _ pgid => some pgid
    | _ => c.appProcessGroup
  gateEverOpened := c.gateEverOpened || event matches .inputGateOpened
  failure := match event with
    | .failed phase code => some (phase, code)
    | _ => c.failure
  terminalExitDisposition := match event with
    | .childrenReaped _ _ _ _ _ guardianExit => some guardianExit
    | _ => c.terminalExitDisposition

/-- The cause of the end after an event. -/
def causeAfterEvent (state : TerminalLifecycleState) (cause : Option SessionTerminationCause) :
    GuardianEvent → Option SessionTerminationCause
  | .usageExhausted => some .usageExhaustion
  | .signalForwarded .hup => some .forwardedHup
  | .signalForwarded .term => some .forwardedTerm
  | .terminalQuiesced =>
    if state = .awaitQuiesced ∨ state = .failedAwaitQuiesced then cause
    else cause.or (some .naturalTuiEof)
  | _ => cause

/-- The state that waits for what a command asks for. -/
def CoordinatorCommand.target (wasSuspended : Bool) : CoordinatorCommand → TerminalLifecycleState
  | .start => .awaitTerminalArmed
  | .terminalArmAccepted => .awaitApp
  | .childDescriptorsVerified .appServer => .awaitTui
  | .childDescriptorsVerified .tui => .awaitReady
  | .openInputGate => .awaitGateOpened
  | .signal sent => .awaitSignalForwarded sent wasSuspended
  | .resize rows cols => .awaitResizeApplied rows cols
  | .suspend => .awaitSuspended
  | .resume rows cols => .awaitResumed rows cols
  | .stop => .awaitQuiesced
  | .terminalRestored => .awaitRecoveryDisarmed

/-- The state after a command. A quiesced terminal only waits for its restoration. -/
def TerminalLifecycleState.afterCommand (state : TerminalLifecycleState)
    (command : CoordinatorCommand) : TerminalLifecycleState :=
  if state = .quiesced ∧ command ≠ .terminalRestored then .quiesced
  else command.target (state = .suspended)

variable {v v' u u' t t' : TerminalLifecycleValidator} {event : GuardianEvent}
  {command : CoordinatorCommand} {acceptance : TerminalCommandAcceptance}

theorem EventMoves.state {state next : TerminalLifecycleState} (move : EventMoves state event next) :
    next = state.afterEvent event := by
  cases move with
  | forwarded signal h => obtain rfl | rfl := h <;> rfl
  | forwardedSuspended signal h =>
    obtain rfl | rfl := h <;> simp [TerminalLifecycleState.afterEvent]
  | _ => rfl

theorem validateTerminal_exit {app tui : ChildDisposition} {worker : WorkerJoinStatus}
    {session : SessionStatus} {guardianExit disposition : GuardianExitDisposition}
    (valid : v.validateTerminal app tui worker session guardianExit = .ok disposition) :
    disposition = guardianExit := by
  cases failed : v.failure with
  | some failure =>
    obtain ⟨_, _, _, _, _, rfl, rfl⟩ := Transcript.validateTerminal_failed failed valid
    rfl
  | none =>
    unfold TerminalLifecycleValidator.validateTerminal at valid
    simp only [failed] at valid
    repeat' split at valid
    all_goals cases valid
    all_goals rfl

theorem EventStep.core (step : EventStep v event v') : v'.core = v.core.afterEvent event := by
  cases step with
  | moves move =>
    simp only [TerminalLifecycleValidator.core, Core.afterEvent, move.state]
    generalize v.state = state at move ⊢
    cases move <;> simp
  | lease | app | tui | gate | exhausted | ended =>
    simp [TerminalLifecycleValidator.core, Core.afterEvent, TerminalLifecycleState.afterEvent]
  | shutdown state shuts =>
    cases shuts <;>
      simp [TerminalLifecycleValidator.core, Core.afterEvent, TerminalLifecycleState.afterEvent]
  | failed fails =>
    simp [TerminalLifecycleValidator.core, Core.afterEvent, TerminalLifecycleState.afterEvent]
  | reaped state valid =>
    obtain rfl := validateTerminal_exit valid
    simp [TerminalLifecycleValidator.core, Core.afterEvent, TerminalLifecycleState.afterEvent]

theorem EventStep.cause (step : EventStep v event v') :
    v'.terminationCause = causeAfterEvent v.state v.terminationCause event := by
  cases step with
  | moves move =>
    generalize v.state = state at move ⊢
    cases move with
    | forwarded signal h | forwardedSuspended signal h => obtain rfl | rfl := h <;> rfl
    | _ => rfl
  | shutdown state shuts => cases shuts <;> rfl
  | ended gateOpened =>
    generalize v.state = state at gateOpened ⊢
    cases gateOpened <;> simp [causeAfterEvent]
  | _ => rfl

theorem recoveryAllows_restored {window : RecoveryCommandWindow} :
    TerminalLifecycleValidator.recoveryAllows window .terminalRestored ≠ .ok true := by
  cases window <;> simp [TerminalLifecycleValidator.recoveryAllows]

theorem CommandStep.core (step : CommandStep v command acceptance v') :
    v'.core = { v.core with state := v.state.afterCommand command } := by
  cases step with
  | moves move =>
    simp only [TerminalLifecycleValidator.core]
    generalize v.state = state at move ⊢
    cases move <;> simp [TerminalLifecycleState.afterCommand, CoordinatorCommand.target]
  | stop stoppable =>
    simp only [TerminalLifecycleValidator.core]
    generalize v.state = state at stoppable ⊢
    cases stoppable <;> simp [TerminalLifecycleState.afterCommand, CoordinatorCommand.target]
  | late quiesced inactive interactive =>
    cases interactive <;>
      simp [TerminalLifecycleValidator.core, TerminalLifecycleState.afterCommand, quiesced]
  | gate quiesced =>
    simp [TerminalLifecycleValidator.core, TerminalLifecycleState.afterCommand, quiesced]
  | restored =>
    simp [TerminalLifecycleValidator.core, TerminalLifecycleState.afterCommand,
      CoordinatorCommand.target]
  | @superseded command window quiesced armed allows =>
    have other : command ≠ .terminalRestored := by
      rintro rfl
      exact recoveryAllows_restored allows
    simp [TerminalLifecycleValidator.core, TerminalLifecycleState.afterCommand, quiesced, other]

/-- Only a stop names a cause. -/
theorem CommandStep.cause (step : CommandStep v command acceptance v') :
    v'.terminationCause = if v.state ≠ .quiesced ∧ command = .stop then some .coordinatorStop
      else v.terminationCause := by
  cases step with
  | moves move =>
    generalize v.state = state at move ⊢
    cases move <;> simp
  | stop stoppable =>
    generalize v.state = state at stoppable ⊢
    cases stoppable <;> simp
  | late quiesced | gate quiesced | restored quiesced | superseded quiesced => simp [quiesced]

/-- Where a command can be accepted. -/
def TerminalLifecycleState.Commanded : TerminalLifecycleState → Prop
  | .awaitStart | .awaitTerminalArmAcceptance | .awaitAppDescriptorVerification
  | .awaitTuiDescriptorVerification | .readyForGate | .active | .suspended | .quiesced => True
  | _ => False

theorem CommandStep.commanded (step : CommandStep v command acceptance v') : v.state.Commanded := by
  cases step with
  | moves move =>
    generalize v.state = state at move ⊢
    cases move <;> trivial
  | stop stoppable =>
    generalize v.state = state at stoppable ⊢
    cases stoppable <;> trivial
  | late quiesced | gate quiesced | restored quiesced | superseded quiesced =>
    rw [quiesced]
    trivial

/-- After a command of a serving terminal its answer comes first. -/
theorem CommandStep.unanswered (step : CommandStep v command acceptance v')
    (serving : v.state ≠ .quiesced) : ¬v'.state.Commanded := by
  cases step with
  | moves move =>
    generalize v.state = state at move
    cases move <;> exact id
  | stop => exact id
  | late quiesced | gate quiesced | restored quiesced | superseded quiesced =>
    exact absurd quiesced serving

/-- What a serving terminal accepts is a matter of its state. -/
theorem CommandStep.of_state (step : CommandStep u command acceptance u')
    (serving : u.state ≠ .quiesced) (same : u.state = v.state) :
    ∃ v', CommandStep v command .applied v' := by
  cases step with
  | moves move => exact ⟨_, .moves (same ▸ move)⟩
  | stop stoppable => exact ⟨_, .stop (same ▸ stoppable)⟩
  | late quiesced | gate quiesced | restored quiesced | superseded quiesced =>
    exact absurd quiesced serving

/-- What only a quiesced terminal accepts, or a serving one. -/
theorem CommandStep.ne_restored (step : CommandStep v command acceptance v')
    (serving : v.state ≠ .quiesced) : command ≠ .terminalRestored := by
  rintro rfl
  cases step with
  | moves move =>
    generalize v.state = state at move
    cases move
  | late _ _ interactive => cases interactive
  | restored quiesced => exact serving quiesced
  | superseded quiesced => exact serving quiesced

/-! ## Events in flight -/

/-- The guardian emits an event or changes its slot of the recovery race. -/
inductive Proceeds (v : TerminalLifecycleValidator) :
    List GuardianEvent → TerminalLifecycleValidator → Prop
  | event {event : GuardianEvent} {v' : TerminalLifecycleValidator} (step : EventStep v event v') :
    Proceeds v [event] v'
  | touch (allowance : RecoveryCommandAllowance) (gatePending : Bool) :
    Proceeds v [] { v with
      recoveryCommandAllowance := allowance, supersededGateMayBePending := gatePending }

/-- The events lead from one validator to another. -/
def Follows (v : TerminalLifecycleValidator) (events : List GuardianEvent)
    (v' : TerminalLifecycleValidator) : Prop :=
  Traces.Run Proceeds v events v'

variable {events : List GuardianEvent}

theorem Follows.nil (h : Follows v [] v') :
    v'.core = v.core ∧ v'.terminationCause = v.terminationCause := by
  refine Traces.Run.silent (P := fun t => t.core = v.core ∧ t.terminationCause = v.terminationCause)
    ⟨rfl, rfl⟩ ?_ h
  rintro t u same ⟨⟩
  exact same

theorem Follows.cons (h : Follows v (event :: events) v') :
    ∃ t t', t.core = v.core ∧ t.terminationCause = v.terminationCause ∧ EventStep t event t' ∧
      Follows t' events v' := by
  obtain ⟨t, t', silent, move, rest⟩ := Traces.Run.cons_cases (by rintro _ _ _ ⟨⟩ <;> simp) h
  obtain ⟨core, cause⟩ := Follows.nil silent
  cases move with
  | event step => exact ⟨t, t', core, cause, step, rest⟩

theorem Follows.unfailed (h : Follows v events v') (unfailed : v'.failure = none) :
    v.failure = none := by
  refine Traces.Run.invariant (I := fun _ t => t.failure = none → v.failure = none) id ?_ h unfailed
  intro _ t _ u past move none
  cases move with
  | event step => exact past (step.unfailed none)
  | touch => exact past none

/-- The guardian has ended the session or announced a failure. -/
def Over (state : TerminalLifecycleState) : Prop :=
  state = .awaitQuiesced ∨ state = .failedAwaitQuiesced ∨ state = .quiesced

/-- The coordinator knows it. -/
def Closing (state : TerminalLifecycleState) : Prop :=
  state = .failedAwaitQuiesced ∨ state = .quiesced

theorem Over.quiesced {state : TerminalLifecycleState} (over' : Over state)
    (commanded : state.Commanded) : state = .quiesced := by
  obtain rfl | rfl | rfl := over'
  · exact commanded.elim
  · exact commanded.elim
  · rfl

/-- What can cross a command of a serving terminal. -/
theorem EventStep.crossing (step : EventStep v event v') (commanded : v.state.Commanded) :
    (∃ phase code, event = .failed phase code) ∨
      v.state = .active ∧ (event = .terminalQuiesced ∨ event = .usageExhausted) := by
  cases step with
  | moves move =>
    generalize v.state = state at move commanded
    cases move <;> exact commanded.elim
  | lease state | app state | tui state | gate state | shutdown state =>
    rw [state] at commanded
    exact commanded.elim
  | ended gateOpened =>
    generalize v.state = state at gateOpened commanded
    cases gateOpened with
    | active => exact .inr ⟨rfl, .inl rfl⟩
    | signal | resize => exact commanded.elim
  | exhausted state => exact .inr ⟨state, .inr rfl⟩
  | failed => exact .inl ⟨_, _, rfl⟩
  | reaped state =>
    rw [state] at commanded
    exact commanded.elim

theorem afterFailure_of_commanded {state : TerminalLifecycleState} (commanded : state.Commanded)
    (serving : state ≠ .quiesced) : state.afterFailure = .failedAwaitQuiesced := by
  cases state with
  | quiesced => exact absurd rfl serving
  | awaitRecoveryDisarmed | recoveryDisarmed => exact commanded.elim
  | _ => rfl

theorem EventStep.state (step : EventStep v event v') : v'.state = v.state.afterEvent event :=
  congrArg Core.state step.core

theorem CommandStep.state (step : CommandStep v command acceptance v') :
    v'.state = v.state.afterCommand command :=
  congrArg Core.state step.core

/-- A crossing event ends the session. -/
theorem EventStep.ends (step : EventStep v event v') (commanded : v.state.Commanded)
    (serving : v.state ≠ .quiesced) : Over v'.state := by
  rw [step.state]
  obtain ⟨phase, code, rfl⟩ | ⟨active, rfl | rfl⟩ := step.crossing commanded
  · exact .inr (.inl (afterFailure_of_commanded commanded serving))
  · exact .inr (.inr rfl)
  · exact .inl rfl

/-- A closing terminal stays so. -/
theorem EventStep.closing (step : EventStep v event v') (closing : Closing v.state) :
    Closing v'.state ∧ (v.state = .quiesced → ∃ phase code, event = .failed phase code) := by
  cases step with
  | moves move =>
    generalize v.state = state at move closing
    obtain rfl | rfl := closing
    · cases move
      exact ⟨.inr rfl, fun same => (by cases same)⟩
    · cases move
  | ended gateOpened =>
    generalize v.state = state at gateOpened closing
    obtain rfl | rfl := closing <;> cases gateOpened
  | failed fails =>
    obtain failed | quiesced := closing
    · exact absurd failed fails.ongoing.2
    · exact ⟨.inr (by simp only [quiesced, TerminalLifecycleState.afterFailure]),
        fun _ => ⟨_, _, rfl⟩⟩
  | lease state | app state | tui state | gate state | shutdown state | exhausted state
  | reaped state =>
    rw [state] at closing
    obtain other | other := closing <;> cases other

theorem EventStep.over (step : EventStep v event v') (over' : Over v.state) : Over v'.state := by
  obtain waiting | closing := over'
  · cases step with
    | moves move =>
      generalize v.state = state at move waiting
      subst waiting
      cases move
      exact .inr (.inr rfl)
    | ended gateOpened =>
      generalize v.state = state at gateOpened waiting
      subst waiting
      cases gateOpened
    | failed fails =>
      exact .inr (.inl (by simp only [waiting, TerminalLifecycleState.afterFailure]))
    | lease state | app state | tui state | gate state | shutdown state | exhausted state
    | reaped state =>
      rw [state] at waiting
      cases waiting
  · exact .inr (step.closing closing).1

/-- Events that follow a state in which a command can be accepted end the session. -/
theorem Follows.over (h : Follows v events v') (commanded : v.state.Commanded)
    (serving : v.state ≠ .quiesced) : events = [] ∧ v'.state = v.state ∨ Over v'.state := by
  refine Traces.Run.invariant (I := fun es t => es = [] ∧ t.state = v.state ∨ Over t.state)
    (.inl ⟨rfl, rfl⟩) ?_ h
  intro es t w u past move
  cases move with
  | event step =>
    refine .inr ?_
    obtain ⟨_, same⟩ | over' := past
    · exact step.ends (same ▸ commanded) (same ▸ serving)
    · exact step.over over'
  | touch =>
    rw [List.append_nil]
    exact past

theorem Follows.closing (h : Follows v events v') (closing : Closing v.state) : Closing v'.state := by
  refine Traces.Run.invariant (I := fun _ t => Closing t.state) closing ?_ h
  intro es t w u past move
  cases move with
  | event step => exact (step.closing past).1
  | touch => exact past

/-- The terminal is restored. -/
def TerminalLifecycleValidator.restoring (v : TerminalLifecycleValidator) :
    TerminalLifecycleValidator :=
  { v with state := .awaitRecoveryDisarmed }

/-- A failure that is announced to a quiesced terminal can be announced to a restored one. -/
theorem Follows.restoring (h : Follows v events v') (quiesced : v.state = .quiesced) :
    Follows v.restoring events v'.restoring := by
  suffices both : v'.state = .quiesced ∧ Traces.Run Proceeds v.restoring events v'.restoring from both.2
  refine Traces.Run.invariant (I := fun es t => t.state = .quiesced ∧
    Traces.Run Proceeds v.restoring es t.restoring) ⟨quiesced, .refl⟩ ?_ h
  rintro es t w u ⟨same, past⟩ move
  cases move with
  | touch allowance gatePending => exact ⟨same, past.snoc (.touch allowance gatePending)⟩
  | event step =>
    obtain ⟨phase, code, rfl⟩ := (step.closing (.inr same)).2 same
    cases step with
    | moves move =>
      generalize t.state = state at move
      cases move
    | failed fails =>
      refine ⟨by simp only [same, TerminalLifecycleState.afterFailure], ?_⟩
      have announced : EventStep t.restoring (.failed phase code) _ :=
        .failed ⟨fails.first, by simp [TerminalLifecycleValidator.restoring],
          by simp [TerminalLifecycleValidator.restoring],
          by simp [TerminalLifecycleValidator.restoring], fails.slot⟩
      have slotted := (past.snoc (.event announced)).snoc
        (.touch t.recoveryCommandAllowance.afterFailure
          (decide (t.state = .readyForGate ∧ t.recoveryCommandAllowance = .inactive)))
      rw [List.append_nil] at slotted
      exact slotted

/-! ## Two ends and two queues -/

/-- A validator at each end and what is in flight between them. -/
structure Link where
  coordinator : TerminalLifecycleValidator
  guardian : TerminalLifecycleValidator
  commands : List CoordinatorCommand
  events : List GuardianEvent

namespace Link

def start : Link where
  coordinator := .beforeStart
  guardian := .beforeStart
  commands := []
  events := []

/-- Each end sends only what its own validator accepts, receives in order, and goes on only while its
validator accepts what it receives. The guardian may open the slot of the recovery race. -/
inductive Step (l : Link) : Link → Prop
  | send {command : CoordinatorCommand} {acceptance : TerminalCommandAcceptance}
      {v : TerminalLifecycleValidator}
      (h : l.coordinator.acceptCommand command = .ok (acceptance, v)) :
    Step l { l with coordinator := v, commands := l.commands ++ [command] }
  | emit {event : GuardianEvent} {v : TerminalLifecycleValidator}
      (h : l.guardian.acceptEvent event = .ok v) :
    Step l { l with guardian := v, events := l.events ++ [event] }
  | hear {event : GuardianEvent} {events : List GuardianEvent} {v : TerminalLifecycleValidator}
      (next : l.events = event :: events) (h : l.coordinator.acceptEvent event = .ok v) :
    Step l { l with coordinator := v, events := events }
  | read {command : CoordinatorCommand} {commands : List CoordinatorCommand}
      {acceptance : TerminalCommandAcceptance} {v : TerminalLifecycleValidator}
      (next : l.commands = command :: commands)
      (h : l.guardian.acceptCommand command = .ok (acceptance, v)) :
    Step l { l with guardian := v, commands := commands }
  | arm {v : TerminalLifecycleValidator} (h : l.guardian.armRecoveryCommandRace = .ok v) :
    Step l { l with guardian := v }

def Reachable (l : Link) : Prop := Relation.ReflTransGen Step start l

end Link

/-- Where the coordinator `u` is, when the guardian was at `v` before it emitted the events in flight:
level with it, ahead by a command that is on its way or that the guardian has read and discarded, or
past the end, where only the restored terminal counts. `quiet` is that no failure is announced. -/
inductive Behind (quiet : Prop) (v u : TerminalLifecycleValidator) :
    List CoordinatorCommand → List GuardianEvent → Prop
  | level {events : List GuardianEvent} (core : u.core = v.core)
      (cause : quiet → u.terminationCause = v.terminationCause) : Behind quiet v u [] events
  | sent {command : CoordinatorCommand} {acceptance : TerminalCommandAcceptance}
      {v' : TerminalLifecycleValidator} {events : List GuardianEvent}
      (step : CommandStep v command acceptance v') (serving : v.state ≠ .quiesced)
      (core : u.core = v'.core) (cause : quiet → u.terminationCause = v'.terminationCause) :
    Behind quiet v u [command] events
  | crossed {command : CoordinatorCommand} {acceptance : TerminalCommandAcceptance}
      {v' : TerminalLifecycleValidator} {event : GuardianEvent} {events : List GuardianEvent}
      (step : CommandStep v command acceptance v') (serving : v.state ≠ .quiesced)
      (core : u.core = v'.core)
      (cause : quiet → u.terminationCause = v'.terminationCause ∧ Interactive command) :
    Behind quiet v u [] (event :: events)
  | stale {commands : List CoordinatorCommand} {events : List GuardianEvent}
      (closing : Closing v.state) (core : u.core = v.core)
      (unrestored : .terminalRestored ∉ commands)
      (cause : quiet → (∀ command ∈ commands, Interactive command) →
        u.terminationCause = v.terminationCause) : Behind quiet v u commands events
  | restored {late : List CoordinatorCommand} {events : List GuardianEvent}
      (quiesced : v.state = .quiesced) (core : u.core = v.restoring.core)
      (unrestored : .terminalRestored ∉ late)
      (cause : quiet → (∀ command ∈ late, Interactive command) →
        u.terminationCause = v.terminationCause) :
    Behind quiet v u (late ++ [.terminalRestored]) events

variable {quiet : Prop} {commands : List CoordinatorCommand}

theorem afterCommand_restored (state : TerminalLifecycleState) :
    state.afterCommand .terminalRestored = .awaitRecoveryDisarmed := by
  simp [TerminalLifecycleState.afterCommand, CoordinatorCommand.target]

theorem state_eq_of_core (h : u.core = v.core) : u.state = v.state :=
  congrArg Core.state h

theorem CommandStep.cause_of_ne_stop (step : CommandStep v command acceptance v')
    (h : v.state = .quiesced ∨ command ≠ .stop) : v'.terminationCause = v.terminationCause := by
  rw [step.cause]
  apply if_neg
  rintro ⟨serving, stop⟩
  obtain quiesced | other := h
  · exact serving quiesced
  · exact other stop

theorem Interactive.ne_stop (h : Interactive command) : command ≠ .stop := by
  rintro rfl
  cases h

/-- What a closing coordinator sends changes nothing, but for the restored terminal. -/
theorem CommandStep.closing_core (step : CommandStep u command acceptance u')
    (quiesced : u.state = .quiesced) (unrestored : command ≠ .terminalRestored) :
    u'.core = u.core := by
  rw [step.core, TerminalLifecycleState.afterCommand, if_pos ⟨quiesced, unrestored⟩, ← quiesced]
  rfl

theorem Closing.quiesced {state : TerminalLifecycleState} (closing : Closing state)
    (commanded : state.Commanded) : state = .quiesced := by
  obtain rfl | rfl := closing
  · exact commanded.elim
  · rfl

/-- A coordinator that knows of the end sends late commands and, once, the restored terminal. -/
theorem Behind.send_closing (closing : Closing v.state) (core : u.core = v.core)
    (unrestored : .terminalRestored ∉ commands)
    (cause : quiet → (∀ command ∈ commands, Interactive command) →
      u.terminationCause = v.terminationCause)
    (step : CommandStep u command acceptance u') :
    Behind quiet v u' (commands ++ [command]) events := by
  have same := state_eq_of_core core
  have quiesced : v.state = .quiesced := closing.quiesced (same ▸ step.commanded)
  have kept := step.cause_of_ne_stop (.inl (same.trans quiesced))
  by_cases restored : command = .terminalRestored
  · subst restored
    refine .restored quiesced ?_ unrestored fun calm crossed => kept.trans (cause calm crossed)
    rw [step.core, afterCommand_restored, core]
    rfl
  · refine .stale closing ?_ ?_ fun calm crossed => kept.trans (cause calm fun late mem => ?_)
    · rw [step.closing_core (same.trans quiesced) restored, core]
    · simpa using ⟨unrestored, Ne.symm restored⟩
    · exact crossed late (List.mem_append_left _ mem)

theorem Behind.send (behind : Behind quiet v u commands events)
    (step : CommandStep u command acceptance u') :
    Behind quiet v u' (commands ++ [command]) events := by
  cases behind with
  | level core cause =>
    have same := state_eq_of_core core
    by_cases quiesced : u.state = .quiesced
    · exact send_closing (.inr (same ▸ quiesced)) core (by simp) (fun calm _ => cause calm) step
    · obtain ⟨v', taken⟩ := step.of_state quiesced same
      refine .sent taken (same ▸ quiesced) ?_ fun calm => ?_
      · rw [step.core, taken.core, core, same]
      · rw [step.cause, taken.cause, cause calm, same]
  | sent taken serving core cause =>
    exact absurd (state_eq_of_core core ▸ step.commanded) (taken.unanswered serving)
  | crossed taken serving core cause =>
    exact absurd (state_eq_of_core core ▸ step.commanded) (taken.unanswered serving)
  | stale closing core unrestored cause => exact send_closing closing core unrestored cause step
  | restored quiesced core unrestored cause =>
    exact (state_eq_of_core core ▸ step.commanded : v.restoring.state.Commanded).elim

/-- A failure is the same before and after a command. -/
theorem CommandStep.afterFailure (taken : CommandStep v command acceptance v')
    (serving : v.state ≠ .quiesced) : v'.state.afterFailure = v.state.afterFailure := by
  rw [afterFailure_of_commanded taken.commanded serving]
  cases taken with
  | moves move =>
    generalize v.state = state at move
    cases move <;> rfl
  | stop => rfl
  | late quiesced | gate quiesced | restored quiesced | superseded quiesced =>
    exact absurd quiesced serving

/-- The end of the session and a failure hide a command that crossed them. -/
theorem CommandStep.crossed_core (taken : CommandStep v command acceptance v')
    (serving : v.state ≠ .quiesced)
    (crosses : (∃ phase code, event = .failed phase code) ∨ event = .terminalQuiesced) :
    v'.core.afterEvent event = v.core.afterEvent event := by
  have after : v'.state.afterEvent event = v.state.afterEvent event := by
    obtain ⟨phase, code, rfl⟩ | rfl := crosses
    · exact taken.afterFailure serving
    · rfl
  have moved := taken.core
  rw [← taken.state] at moved
  rw [moved]
  simp only [Core.afterEvent, Core.mk.injEq, and_self, and_true]
  exact after

/-- A crossing event that the coordinator accepts after its command. -/
theorem CommandStep.crossed_event (taken : CommandStep v command acceptance v')
    (serving : v.state ≠ .quiesced) (core : u.core = v'.core) (past : EventStep v event t)
    (step : EventStep u event t') :
    ((∃ phase code, event = .failed phase code) ∨ event = .terminalQuiesced) ∧ t'.core = t.core ∧
      Closing t.state := by
  have crosses : (∃ phase code, event = .failed phase code) ∨ event = .terminalQuiesced := by
    obtain failed | ⟨active, quiesced | exhausted⟩ := past.crossing taken.commanded
    · exact .inl failed
    · exact .inr quiesced
    · subst exhausted
      cases step with
      | moves move =>
        generalize u.state = state at move
        cases move
      | exhausted state =>
        refine absurd ?_ (taken.unanswered serving)
        rw [← state_eq_of_core core, state]
        trivial
  refine ⟨crosses, ?_, ?_⟩
  · rw [step.core, past.core, core, taken.crossed_core serving crosses]
  · rw [past.state]
    obtain ⟨phase, code, rfl⟩ | rfl := crosses
    · exact .inl (afterFailure_of_commanded taken.commanded serving)
    · exact .inr rfl

/-- The end of the session has one cause, whichever foreground control crossed it. -/
theorem CommandStep.crossed_cause (taken : CommandStep v command acceptance v')
    (serving : v.state ≠ .quiesced) (core : u.core = v'.core)
    (cause : u.terminationCause = v'.terminationCause) (interactive : Interactive command)
    (past : EventStep v .terminalQuiesced t) (step : EventStep u .terminalQuiesced t') :
    t'.terminationCause = t.terminationCause := by
  have waiting : ¬(u.state = .awaitQuiesced ∨ u.state = .failedAwaitQuiesced) := by
    rw [state_eq_of_core core, taken.state]
    cases interactive <;>
      simp [TerminalLifecycleState.afterCommand, CoordinatorCommand.target, serving]
  have begun : ¬(v.state = .awaitQuiesced ∨ v.state = .failedAwaitQuiesced) := by
    have commanded := taken.commanded
    rintro (same | same) <;> rw [same] at commanded <;> exact commanded
  rw [step.cause, past.cause, causeAfterEvent, causeAfterEvent, if_neg waiting, if_neg begun, cause,
    taken.cause_of_ne_stop (.inr interactive.ne_stop)]

theorem EventStep.failure_of_failed {phase : Phase} {code : FailureCode}
    (step : EventStep v (.failed phase code) v') : v'.failure = some (phase, code) :=
  congrArg Core.failure step.core

theorem Behind.hear (behind : Behind quiet v u commands (event :: events))
    (quietly : quiet → v'.failure = none) (past : EventStep v event v') (step : EventStep u event u') :
    Behind quiet v' u' commands events := by
  have announced : quiet → ∀ phase code, event ≠ .failed phase code := by
    rintro calm phase code rfl
    have failed := past.failure_of_failed
    rw [quietly calm] at failed
    cases failed
  cases behind with
  | level core cause =>
    refine .level (by rw [step.core, past.core, core]) fun calm => ?_
    rw [step.cause, past.cause, state_eq_of_core core, cause calm]
  | sent taken serving core cause =>
    obtain ⟨crosses, same, closing⟩ := taken.crossed_event serving core past step
    refine .stale closing same ?_ fun calm crossed => ?_
    · simpa using (taken.ne_restored serving).symm
    · obtain ⟨phase, code, failed⟩ | rfl := crosses
      · exact absurd failed (announced calm phase code)
      · exact taken.crossed_cause serving core (cause calm) (crossed _ (by simp)) past step
  | crossed taken serving core cause =>
    obtain ⟨crosses, same, closing⟩ := taken.crossed_event serving core past step
    refine .level same fun calm => ?_
    obtain ⟨phase, code, failed⟩ | rfl := crosses
    · exact absurd failed (announced calm phase code)
    · exact taken.crossed_cause serving core (cause calm).1 (cause calm).2 past step
  | stale closing core unrestored cause =>
    refine .stale (past.closing closing).1 (by rw [step.core, past.core, core]) unrestored ?_
    intro calm crossed
    rw [step.cause, past.cause, state_eq_of_core core, cause calm crossed]
  | restored quiesced core unrestored cause =>
    obtain ⟨phase, code, rfl⟩ := (past.closing (.inr quiesced)).2 quiesced
    refine .restored ?_ ?_ unrestored fun calm _ => absurd rfl (announced calm phase code)
    · rw [past.state, quiesced]
      rfl
    · have moved : v'.restoring.core = { v'.core with state := .awaitRecoveryDisarmed } := rfl
      rw [step.core, core, moved, past.core]
      rfl

/-- What a quiesced guardian reads before the restored terminal only settles its slot. -/
theorem CommandStep.touches (step : CommandStep t command acceptance t') (quiesced : t.state = .quiesced)
    (unrestored : command ≠ .terminalRestored) : ∃ allowance gatePending, t' = { t with
      recoveryCommandAllowance := allowance, supersededGateMayBePending := gatePending } := by
  cases step with
  | moves move =>
    rw [quiesced] at move
    cases move
  | stop stoppable =>
    rw [quiesced] at stoppable
    cases stoppable
  | late => exact ⟨_, _, rfl⟩
  | gate => exact ⟨_, _, rfl⟩
  | restored => exact absurd rfl unrestored
  | superseded => exact ⟨_, _, rfl⟩

theorem Follows.touch {allowance : RecoveryCommandAllowance} {gatePending : Bool}
    (h : Follows v events t) : Follows v events { t with
      recoveryCommandAllowance := allowance, supersededGateMayBePending := gatePending } := by
  have touched := Traces.Run.snoc h (.touch allowance gatePending)
  rwa [List.append_nil] at touched

theorem CommandStep.restores (step : CommandStep t .terminalRestored acceptance t') :
    t' = { t.restoring with
      recoveryCommandAllowance := .inactive, supersededGateMayBePending := false } := by
  cases step with
  | moves move =>
    generalize t.state = state at move
    cases move
  | late _ _ interactive => cases interactive
  | restored => rfl
  | superseded _ _ allows => exact absurd allows recoveryAllows_restored

theorem Behind.read (behind : Behind quiet v u (command :: commands) events)
    (follows : Follows v events t) (step : CommandStep t command acceptance t')
    (late : quiet → t.state = .quiesced → command ≠ .terminalRestored → Interactive command) :
    ∃ v', Follows v' events t' ∧ Behind quiet v' u commands events := by
  generalize all : command :: commands = sent at behind
  cases behind with
  | level core cause => cases all
  | crossed taken serving core cause => cases all
  | @sent command' acceptance' v' events taken serving core cause =>
    cases all
    cases events with
    | nil =>
      -- The guardian answers in the state in which the coordinator sent the command.
      obtain ⟨same, kept⟩ := follows.nil
      have state := state_eq_of_core same
      refine ⟨t', .refl, .level ?_ fun calm => ?_⟩
      · rw [core, taken.core, step.core, same, state]
      · rw [cause calm, taken.cause, step.cause, kept, state]
    | cons event events =>
      obtain ⟨none, _⟩ | over' := follows.over taken.commanded serving
      · cases none
      · have quiesced := over'.quiesced step.commanded
        have unrestored := taken.ne_restored serving
        obtain ⟨allowance, gatePending, rfl⟩ := step.touches quiesced unrestored
        exact ⟨v, follows.touch, .crossed taken serving core fun calm =>
          ⟨cause calm, late calm quiesced unrestored⟩⟩
  | stale closing core unrestored cause =>
    subst all
    have quiesced := (follows.closing closing).quiesced step.commanded
    have other : command ≠ .terminalRestored := by
      rintro rfl
      exact unrestored (by simp)
    obtain ⟨allowance, gatePending, rfl⟩ := step.touches quiesced other
    refine ⟨v, follows.touch, .stale closing core ?_ fun calm crossed => cause calm ?_⟩
    · exact fun mem => unrestored (List.mem_cons_of_mem _ mem)
    · intro sent mem
      obtain rfl | mem := List.mem_cons.1 mem
      · exact late calm quiesced other
      · exact crossed sent mem
  | @restored before events quiesced core unrestored cause =>
    cases before with
    | nil =>
      cases all
      obtain rfl := step.restores
      exact ⟨v.restoring, (follows.restoring quiesced).touch, .level core fun calm =>
        cause calm (by simp)⟩
    | cons first before =>
      cases all
      have closed := (follows.closing (.inr quiesced)).quiesced step.commanded
      have other : command ≠ .terminalRestored := by
        rintro rfl
        exact unrestored (by simp)
      obtain ⟨allowance, gatePending, rfl⟩ := step.touches closed other
      refine ⟨v, follows.touch, .restored quiesced core ?_ fun calm crossed => cause calm ?_⟩
      · exact fun mem => unrestored (List.mem_cons_of_mem _ mem)
      · intro sent mem
        obtain rfl | mem := List.mem_cons.1 mem
        · exact late calm closed other
        · exact crossed sent mem

theorem Behind.emit {quiet' : Prop} (behind : Behind quiet v u commands events)
    (quieter : quiet' → quiet) (event : GuardianEvent) :
    Behind quiet' v u commands (events ++ [event]) := by
  cases behind with
  | level core cause => exact .level core fun calm => cause (quieter calm)
  | sent taken serving core cause => exact .sent taken serving core fun calm => cause (quieter calm)
  | crossed taken serving core cause =>
    exact .crossed taken serving core fun calm => cause (quieter calm)
  | stale closing core unrestored cause =>
    exact .stale closing core unrestored fun calm => cause (quieter calm)
  | restored quiesced core unrestored cause =>
    exact .restored quiesced core unrestored fun calm => cause (quieter calm)

/-- What a command of a serving terminal leads to is a matter of the shared part. -/
theorem CommandStep.rebase (taken : CommandStep v command acceptance v') (serving : v.state ≠ .quiesced)
    (core : t.core = v.core) (cause : t.terminationCause = v.terminationCause) :
    ∃ t', CommandStep t command .applied t' ∧ t'.core = v'.core ∧
      t'.terminationCause = v'.terminationCause := by
  have state := state_eq_of_core core
  obtain ⟨t', again⟩ := taken.of_state serving state.symm
  refine ⟨t', again, ?_, ?_⟩
  · rw [again.core, taken.core, core, state]
  · rw [again.cause, taken.cause, cause, state]

theorem Behind.rebase (behind : Behind quiet v u commands events) (core : t.core = v.core)
    (cause : t.terminationCause = v.terminationCause) : Behind quiet t u commands events := by
  have state := state_eq_of_core core
  cases behind with
  | level same kept => exact .level (same.trans core.symm) fun calm => (kept calm).trans cause.symm
  | sent taken serving same kept =>
    obtain ⟨t', again, core', cause'⟩ := taken.rebase serving core cause
    exact .sent again (state ▸ serving) (same.trans core'.symm) fun calm => (kept calm).trans cause'.symm
  | crossed taken serving same kept =>
    obtain ⟨t', again, core', cause'⟩ := taken.rebase serving core cause
    exact .crossed again (state ▸ serving) (same.trans core'.symm) fun calm =>
      ⟨(kept calm).1.trans cause'.symm, (kept calm).2⟩
  | stale closing same unrestored kept =>
    exact .stale (state ▸ closing) (same.trans core.symm) unrestored fun calm crossed =>
      (kept calm crossed).trans cause.symm
  | restored quiesced same unrestored kept =>
    refine .restored (state ▸ quiesced) (same.trans ?_) unrestored fun calm crossed =>
      (kept calm crossed).trans cause.symm
    have moved : t.restoring.core = { t.core with state := .awaitRecoveryDisarmed } := rfl
    rw [moved, core]
    rfl

/-! ## Runs of the link -/

/-- What is in flight accounts for the difference between the two ends. -/
structure Link.Joined (l : Link) : Prop where
  behind : ∃ v, Follows v l.events l.guardian ∧
    Behind (l.guardian.failure = none) v l.coordinator l.commands l.events
  coordinator : ∃ w, w ∈ l.coordinator.transcripts
  guardian : ∃ w, w ∈ l.guardian.transcripts

/-- Without a failure, a quiesced guardian discards only foreground controls. -/
theorem Transcript.Orderly.discards {w : List Message} (orderly : Transcript.Orderly w t)
    (step : CommandStep t command acceptance t') (quiesced : t.state = .quiesced)
    (unrestored : command ≠ .terminalRestored) : Interactive command := by
  cases step with
  | moves move =>
    rw [quiesced] at move
    cases move
  | stop stoppable =>
    rw [quiesced] at stoppable
    cases stoppable
  | late _ _ interactive => exact interactive
  | gate _ _ pending =>
    rw [orderly.unpended] at pending
    cases pending
  | restored => exact absurd rfl unrestored
  | superseded _ armed =>
    obtain inactive | ⟨window, awaiting⟩ := orderly.unarmed
    · rw [inactive] at armed
      cases armed
    · rw [awaiting] at armed
      cases armed

open TerminalLifecycleValidator in
theorem Link.Joined.step {l l' : Link} (joined : l.Joined) (step : l.Step l') : l'.Joined := by
  obtain ⟨⟨v, follows, behind⟩, ⟨coordinated, coordinator⟩, guarded, guardian⟩ := joined
  cases step with
  | send h =>
    exact ⟨⟨v, follows, behind.send (acceptCommand_cases h)⟩,
      ⟨_, Traces.step_mem_between coordinator (.command h)⟩, guarded, guardian⟩
  | emit h =>
    have emitted := acceptEvent_cases h
    exact ⟨⟨v, follows.snoc (.event emitted), behind.emit emitted.unfailed _⟩,
      ⟨coordinated, coordinator⟩, _, Traces.step_mem_between guardian (.event h)⟩
  | hear next h =>
    rw [next] at follows behind
    obtain ⟨t, t', core, cause, past, rest⟩ := follows.cons
    have heard := (behind.rebase core cause).hear rest.unfailed past (acceptEvent_cases h)
    exact ⟨⟨t', rest, heard⟩, ⟨_, Traces.step_mem_between coordinator (.event h)⟩, guarded, guardian⟩
  | read next h =>
    rw [next] at behind
    have read := acceptCommand_cases h
    obtain ⟨v', follows, behind⟩ := behind.read follows read fun calm quiesced unrestored =>
      (Transcript.orderly_of_transcript guardian calm).discards read quiesced unrestored
    refine ⟨⟨v', follows, ?_⟩, ⟨coordinated, coordinator⟩, _,
      Traces.step_mem_between guardian (.command h)⟩
    rwa [← read.failure] at behind
  | arm h =>
    obtain ⟨unfailed, _, window, rfl⟩ := armRecoveryCommandRace_cases h
    exact ⟨⟨v, follows.touch, behind⟩, ⟨coordinated, coordinator⟩, _,
      Traces.step_mem_between guardian (.arm h)⟩

theorem Link.Joined.start : Link.start.Joined where
  behind := ⟨.beforeStart, .refl, .level rfl fun _ => rfl⟩
  coordinator := ⟨[], .refl⟩
  guardian := ⟨[], .refl⟩

theorem Link.Reachable.joined {l : Link} (h : l.Reachable) : l.Joined := by
  induction h with
  | refl => exact .start
  | tail _ step joined => exact joined.step step

/-! ## Agreement -/

/-- A session whose gate has been open, until its end. -/
def Served : TerminalLifecycleState → Prop
  | .active | .awaitSignalForwarded _ _ | .awaitResizeApplied _ _ | .awaitSuspended | .suspended
  | .awaitResumed _ _ => True
  | _ => False

theorem served_of_gateOpened {state : TerminalLifecycleState} (h : GateOpened state) : Served state := by
  cases h <;> trivial

theorem CommandStep.served (step : CommandStep v command acceptance v') (served : Served v'.state) :
    Served v.state := by
  cases step with
  | moves move =>
    generalize v.state = state at move ⊢
    cases move <;> first | exact served.elim | trivial
  | stop | restored => exact served.elim
  | late | gate | superseded => exact served

theorem EventStep.served (step : EventStep v event v') (served : Served v'.state) :
    v'.gateEverOpened = true ∨ Served v.state ∧ v'.gateEverOpened = v.gateEverOpened := by
  cases step with
  | moves move =>
    refine .inr ⟨?_, rfl⟩
    generalize v.state = state at move ⊢
    cases move <;> first | exact served.elim | trivial
  | lease | app | tui | shutdown | ended | exhausted | reaped => exact served.elim
  | gate => exact .inl rfl
  | failed fails =>
    generalize v.state = state at served
    cases state <;> exact served.elim

theorem gateEverOpened_of_served {w : List Message} (h : w ∈ v.transcripts) (served : Served v.state) :
    v.gateEverOpened := by
  refine Traces.Run.invariant (I := fun _ v => Served v.state → v.gateEverOpened) (fun served => ?_)
    ?_ h served
  · exact served.elim
  · intro w v m v' past step served
    cases step with
    | command accepted =>
      have step := TerminalLifecycleValidator.acceptCommand_cases accepted
      have kept : v'.gateEverOpened = v.gateEverOpened := congrArg Core.gateEverOpened step.core
      rw [kept]
      exact past (step.served served)
    | event accepted =>
      obtain opened | ⟨before, kept⟩ :=
        (TerminalLifecycleValidator.acceptEvent_cases accepted).served served
      · exact opened
      · rw [kept]
        exact past before
    | arm armed =>
      obtain ⟨_, _, window, rfl⟩ := TerminalLifecycleValidator.armRecoveryCommandRace_cases armed
      exact past served

theorem EventStep.gateOpened (step : EventStep v event v') (opened : GateOpened v.state) :
    GateOpened v'.state ∨ Over v'.state := by
  cases step with
  | moves move =>
    generalize v.state = state at move opened
    cases opened <;> cases move <;> exact .inl .active
  | ended => exact .inr (.inr (.inr rfl))
  | exhausted => exact .inr (.inl rfl)
  | shutdown => exact .inr (.inl rfl)
  | failed fails =>
    generalize v.state = state at opened
    cases opened <;> exact .inr (.inr (.inl rfl))
  | lease state | app state | tui state | gate state | reaped state =>
    rw [state] at opened
    cases opened

/-- Events keep an open gate open until they end the session. -/
theorem Follows.gateOpened (h : Follows v events t) (opened : GateOpened v.state) :
    (GateOpened t.state ∨ Over t.state) ∧ (v.gateEverOpened → t.gateEverOpened) := by
  refine Traces.Run.invariant (I := fun _ t => (GateOpened t.state ∨ Over t.state) ∧
    (v.gateEverOpened → t.gateEverOpened)) ⟨.inl opened, id⟩ ?_ h
  rintro es t w u ⟨past, kept⟩ move
  cases move with
  | touch => exact ⟨past, kept⟩
  | event step =>
    refine ⟨past.elim step.gateOpened fun over' => .inr (step.over over'), fun ever => ?_⟩
    have moved : u.gateEverOpened = (t.gateEverOpened || _) := congrArg Core.gateEverOpened step.core
    rw [moved, kept ever, Bool.true_or]

/-- A control that leaves the gate open was sent through an open gate. -/
theorem CommandStep.gateOpened (taken : CommandStep v command acceptance v')
    (serving : v.state ≠ .quiesced) (opened : GateOpened v'.state) : GateOpened v.state := by
  cases taken with
  | moves move =>
    generalize v.state = state at move ⊢
    cases move with
    | signal | resize => exact .active
    | signalSuspended | start | armAccepted | app | tui | gate | suspend | resume => cases opened
  | stop => cases opened
  | late quiesced | gate quiesced | restored quiesced | superseded quiesced =>
    exact absurd quiesced serving

theorem validateTerminal_congr {app tui : ChildDisposition} {worker : WorkerJoinStatus}
    {session : SessionStatus} {guardianExit : GuardianExitDisposition} (core : u.core = v.core)
    (cause : v.failure = none → u.terminationCause = v.terminationCause) :
    u.validateTerminal app tui worker session guardianExit =
      v.validateTerminal app tui worker session guardianExit := by
  have appStarted : u.appStarted = v.appStarted := congrArg Core.appStarted core
  have tuiStarted : u.tuiStarted = v.tuiStarted := congrArg Core.tuiStarted core
  have failure : u.failure = v.failure := congrArg Core.failure core
  have lease : u.leaseCommitted = v.leaseCommitted := congrArg Core.leaseCommitted core
  have gate : u.gateEverOpened = v.gateEverOpened := congrArg Core.gateEverOpened core
  unfold TerminalLifecycleValidator.validateTerminal
  rw [appStarted, tuiStarted, failure, lease, gate]
  cases failed : v.failure with
  | some => rfl
  | none => rw [cause failed]

/-- What the two ends agree on, at every moment of every run. -/
structure Link.Agree (l : Link) : Prop where
  /-- Where nothing is in flight they know the same. -/
  level : l.commands = [] → l.events = [] → l.coordinator.core = l.guardian.core ∧
    (l.guardian.failure = none → l.coordinator.terminationCause = l.guardian.terminationCause)
  /-- The coordinator never takes the gate for open before the guardian has opened it. -/
  gate : l.coordinator.inputGateOpened → l.guardian.gateEverOpened ∧
    (GateOpened l.guardian.state ∨ Over l.guardian.state)
  /-- The coordinator accepts the report that the guardian has sent, with its disposition. -/
  report : ∀ app tui worker cleanup session guardianExit events,
    l.events = .childrenReaped app tui worker cleanup session guardianExit :: events →
    l.guardian.terminalExitDisposition = some guardianExit ∧ ∃ v,
      l.coordinator.acceptEvent (.childrenReaped app tui worker cleanup session guardianExit) = .ok v ∧
        v.terminalExitDisposition = some guardianExit

theorem Behind.gate (behind : Behind quiet v u commands events) (opened : GateOpened u.state) :
    GateOpened v.state ∧ u.gateEverOpened = v.gateEverOpened := by
  cases behind with
  | level core cause =>
    exact ⟨state_eq_of_core core ▸ opened, congrArg Core.gateEverOpened core⟩
  | sent taken serving core cause | crossed taken serving core cause =>
    refine ⟨taken.gateOpened serving (state_eq_of_core core ▸ opened), ?_⟩
    exact (congrArg Core.gateEverOpened core).trans (congrArg Core.gateEverOpened taken.core)
  | stale closing core =>
    rw [state_eq_of_core core] at opened
    obtain same | same := closing <;> rw [same] at opened <;> cases opened
  | restored quiesced core =>
    rw [state_eq_of_core core] at opened
    cases opened

theorem EventStep.ongoing (step : EventStep v event v') : v.state ≠ .terminal := by
  intro ended
  cases step with
  | moves move =>
    rw [ended] at move
    cases move
  | ended gateOpened =>
    rw [ended] at gateOpened
    cases gateOpened
  | failed fails => exact fails.ongoing.1 ended
  | lease state | app state | tui state | gate state | shutdown state | exhausted state
  | reaped state =>
    rw [ended] at state
    cases state

/-- Nothing follows a report. -/
theorem Follows.terminal (h : Follows v events t) (ended : v.state = .terminal) : t.core = v.core := by
  refine Traces.Run.invariant (I := fun _ t => t.core = v.core) rfl ?_ h
  intro es t w u same move
  cases move with
  | touch => exact same
  | event step => exact absurd ((state_eq_of_core same).trans ended) step.ongoing

theorem EventStep.reports {app tui : ChildDisposition} {worker : WorkerJoinStatus}
    {cleanup : CleanupStatus} {session : SessionStatus} {guardianExit : GuardianExitDisposition}
    (step : EventStep v (.childrenReaped app tui worker cleanup session guardianExit) v') :
    v.state = .recoveryDisarmed ∧ cleanup = .complete ∧
      v.validateTerminal app tui worker session guardianExit = .ok guardianExit := by
  cases step with
  | moves move =>
    generalize v.state = state at move
    cases move
  | reaped state valid =>
    obtain rfl := validateTerminal_exit valid
    exact ⟨state, rfl, valid⟩

/-- A report meets a coordinator that is level with the guardian. -/
theorem Behind.level_of_disarmed (behind : Behind quiet v u commands events)
    (disarmed : v.state = .recoveryDisarmed) :
    u.core = v.core ∧ (quiet → u.terminationCause = v.terminationCause) := by
  cases behind with
  | level core cause => exact ⟨core, cause⟩
  | sent taken | crossed taken =>
    have commanded := taken.commanded
    rw [disarmed] at commanded
    exact commanded.elim
  | stale closing =>
    rw [disarmed] at closing
    obtain same | same := closing <;> cases same
  | restored quiesced =>
    rw [disarmed] at quiesced
    cases quiesced

/-- In every run the two ends agree. -/
theorem ends_agree {l : Link} (h : l.Reachable) : l.Agree := by
  obtain ⟨⟨v, follows, behind⟩, ⟨_, coordinator⟩, _⟩ := h.joined
  constructor
  · intro commands events
    rw [events] at follows behind
    rw [commands] at behind
    obtain ⟨core, cause⟩ := follows.nil
    generalize sent : ([] : List CoordinatorCommand) = pending at behind
    cases behind with
    | level same kept => exact ⟨same.trans core.symm, fun calm => (kept calm).trans cause.symm⟩
    | sent => cases sent
    | stale closing same unrestored kept =>
      subst sent
      exact ⟨same.trans core.symm, fun calm => (kept calm (by simp)).trans cause.symm⟩
    | restored => simp at sent
  · intro opened
    have gate := Transcript.inputGateOpened_iff.1 opened
    obtain ⟨before, ever⟩ := behind.gate gate
    obtain ⟨after, kept⟩ := follows.gateOpened before
    exact ⟨kept (ever ▸ gateEverOpened_of_served coordinator (served_of_gateOpened gate)), after⟩
  · intro app tui worker cleanup session guardianExit events next
    rw [next] at follows behind
    obtain ⟨t, t', core, cause, past, rest⟩ := follows.cons
    obtain ⟨disarmed, rfl, valid⟩ := past.reports
    obtain ⟨same, kept⟩ := (behind.rebase core cause).level_of_disarmed disarmed
    have ended : l.guardian.core = t'.core := rest.terminal past.state
    have quiet : t.failure = none → l.guardian.failure = none := by
      intro none
      have failure : l.guardian.failure = t'.failure := congrArg Core.failure ended
      have unannounced : t'.failure = t.failure := congrArg Core.failure past.core
      rw [failure, unannounced, none]
    have accepted : l.coordinator.validateTerminal app tui worker session guardianExit =
        .ok guardianExit := by
      rw [validateTerminal_congr same fun none => kept (quiet none), valid]
    refine ⟨?_, ?_⟩
    · have exit : l.guardian.terminalExitDisposition = t'.terminalExitDisposition :=
        congrArg Core.terminalExitDisposition ended
      rw [exit]
      exact congrArg Core.terminalExitDisposition past.core
    · refine ⟨{ l.coordinator with
        terminalExitDisposition := some guardianExit, state := .terminal }, ?_, rfl⟩
      have state := (state_eq_of_core same).trans disarmed
      simp only [TerminalLifecycleValidator.acceptEvent, TerminalLifecycleValidator.applyEvent, state,
        accepted]
      rfl

/-- A coordinator that has sent its start command to a guardian that has not read it. -/
def Link.starting : Link where
  coordinator := { TerminalLifecycleValidator.beforeStart with
    leaseCommitted := true, state := .awaitTerminalArmed }
  guardian := { TerminalLifecycleValidator.beforeStart with
    leaseCommitted := true, state := .awaitStart }
  commands := [.start]
  events := []

theorem ends_agree_starting : Link.starting.Reachable ∧ Link.starting.Agree := by
  have emitted : Link.Step .start { Link.start with
      guardian := { TerminalLifecycleValidator.beforeStart with
        leaseCommitted := true, state := .awaitStart }
      events := [.leaseCommitted] } := .emit rfl
  have reachable : Link.starting.Reachable :=
    ((Relation.ReflTransGen.refl.tail emitted).tail (.hear rfl rfl)).tail (.send rfl)
  exact ⟨reachable, ends_agree reachable⟩

end Calcifer.Supervisor
