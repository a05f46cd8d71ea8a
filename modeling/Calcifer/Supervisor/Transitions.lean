import Calcifer.Library.Checks
import Calcifer.Supervisor.Duplex

/-!
# The transitions of the lifecycle validator

`EventStep` and `CommandStep` say everything that an accepted event or command does to a validator, with
its guards. An invariant of transcripts is then a case analysis of the steps.
-/

namespace Calcifer.Supervisor

open Checks

/-- The events that only move the state. -/
inductive EventMoves : TerminalLifecycleState → GuardianEvent → TerminalLifecycleState → Prop
  | armed (snapshot : TerminalSnapshotFingerprint) :
    EventMoves .awaitTerminalArmed (.terminalArmed snapshot) .awaitTerminalArmAcceptance
  | ready : EventMoves .awaitReady .ready .readyForGate
  | forwarded (signal : UnixSignal) (h : signal = .int ∨ signal = .quit) :
    EventMoves (.awaitSignalForwarded signal false) (.signalForwarded signal) .active
  | forwardedSuspended (signal : UnixSignal) (h : signal = .int ∨ signal = .quit) :
    EventMoves (.awaitSignalForwarded signal true) (.signalForwarded signal) .suspended
  | resized (rows cols : CellCount) :
    EventMoves (.awaitResizeApplied rows cols) (.resizeApplied rows cols) .active
  | suspended : EventMoves .awaitSuspended .suspended .suspended
  | resumed (rows cols : CellCount) :
    EventMoves (.awaitResumed rows cols) (.resumed rows cols) .readyForGate
  | quiesced : EventMoves .awaitQuiesced .terminalQuiesced .quiesced
  | failedQuiesced : EventMoves .failedAwaitQuiesced .terminalQuiesced .quiesced
  | disarmed : EventMoves .awaitRecoveryDisarmed .terminalRecoveryDisarmed .recoveryDisarmed

/-- Where the input gate is open (`input_gate_opened`). A quiesced terminal is a natural end there. -/
inductive GateOpened : TerminalLifecycleState → Prop
  | active : GateOpened .active
  | signal (signal : UnixSignal) (h : signal = .int ∨ signal = .quit) :
    GateOpened (.awaitSignalForwarded signal false)
  | resize (rows cols : CellCount) : GateOpened (.awaitResizeApplied rows cols)

/-- The cause that a forwarded signal which shuts the session down leaves behind. -/
inductive ShutsDown : UnixSignal → SessionTerminationCause → Prop
  | hup : ShutsDown .hup .forwardedHup
  | term : ShutsDown .term .forwardedTerm

/-- The state after a failure. -/
def TerminalLifecycleState.afterFailure : TerminalLifecycleState → TerminalLifecycleState
  | .quiesced => .quiesced
  | .awaitRecoveryDisarmed => .awaitRecoveryDisarmed
  | .recoveryDisarmed => .recoveryDisarmed
  | _ => .failedAwaitQuiesced

/-- The slot of the recovery race after a failure. -/
def RecoveryCommandAllowance.afterFailure : RecoveryCommandAllowance → RecoveryCommandAllowance
  | .awaitingFailure window => .armed window
  | allowance => allowance

/-- When a failure is accepted. -/
structure TerminalLifecycleValidator.Fails (v : TerminalLifecycleValidator) (phase : Phase)
    (code : FailureCode) : Prop where
  first : v.failure = none
  begun : v.state ≠ .awaitLeaseBeforeStart ∧ v.state ≠ .awaitStart
  ongoing : v.state ≠ .terminal ∧ v.state ≠ .failedAwaitQuiesced
  worker : v.state = .recoveryDisarmed → phase = .worker ∧ code = .worker
  slot : v.recoveryCommandAllowance = .inactive ∨
    (∃ window, v.recoveryCommandAllowance = .awaitingFailure window) ∧ phase = .protocol ∧
      code = .internal

/-- What an accepted event does. -/
inductive EventStep (v : TerminalLifecycleValidator) :
    GuardianEvent → TerminalLifecycleValidator → Prop
  | moves {event : GuardianEvent} {next : TerminalLifecycleState}
      (h : EventMoves v.state event next) : EventStep v event { v with state := next }
  | lease (h : v.state = .awaitLeaseBeforeStart) :
    EventStep v .leaseCommitted { v with leaseCommitted := true, state := .awaitStart }
  | app {pid : Int} (h : v.state = .awaitApp) (group : 0 < pid) :
    EventStep v (.childStarted .appServer pid pid) { v with
      appStarted := true, appProcessGroup := some pid, state := .awaitAppDescriptorVerification }
  | tui {pid : Int} (h : v.state = .awaitTui) (group : 0 < pid) (other : v.appProcessGroup ≠ some pid) :
    EventStep v (.childStarted .tui pid pid) { v with
      tuiStarted := true, state := .awaitTuiDescriptorVerification }
  | gate (h : v.state = .awaitGateOpened) :
    EventStep v .inputGateOpened { v with gateEverOpened := true, state := .active }
  | shutdown {signal : UnixSignal} {wasSuspended : Bool} {cause : SessionTerminationCause}
      (h : v.state = .awaitSignalForwarded signal wasSuspended) (shuts : ShutsDown signal cause) :
    EventStep v (.signalForwarded signal) { v with
      terminationCause := some cause, state := .awaitQuiesced }
  | ended (h : GateOpened v.state) :
    EventStep v .terminalQuiesced { v with
      state := .quiesced, terminationCause := v.terminationCause.or (some .naturalTuiEof) }
  | exhausted (h : v.state = .active) :
    EventStep v .usageExhausted { v with
      terminationCause := some .usageExhaustion, state := .awaitQuiesced }
  | failed {phase : Phase} {code : FailureCode} (h : v.Fails phase code) :
    EventStep v (.failed phase code) { v with
      supersededGateMayBePending := v.state = .readyForGate ∧ v.recoveryCommandAllowance = .inactive
      recoveryCommandAllowance := v.recoveryCommandAllowance.afterFailure
      failure := some (phase, code)
      state := v.state.afterFailure }
  | reaped {app tui : ChildDisposition} {worker : WorkerJoinStatus} {session : SessionStatus}
      {guardianExit disposition : GuardianExitDisposition} (h : v.state = .recoveryDisarmed)
      (valid : v.validateTerminal app tui worker session guardianExit = .ok disposition) :
    EventStep v (.childrenReaped app tui worker .complete session guardianExit) { v with
      terminalExitDisposition := some disposition, state := .terminal }

/-- The commands that only move the state. -/
inductive CommandMoves : TerminalLifecycleState → CoordinatorCommand → TerminalLifecycleState → Prop
  | start : CommandMoves .awaitStart .start .awaitTerminalArmed
  | armAccepted : CommandMoves .awaitTerminalArmAcceptance .terminalArmAccepted .awaitApp
  | app : CommandMoves .awaitAppDescriptorVerification (.childDescriptorsVerified .appServer) .awaitTui
  | tui : CommandMoves .awaitTuiDescriptorVerification (.childDescriptorsVerified .tui) .awaitReady
  | gate : CommandMoves .readyForGate .openInputGate .awaitGateOpened
  | signal (signal : UnixSignal) :
    CommandMoves .active (.signal signal) (.awaitSignalForwarded signal false)
  | signalSuspended (signal : UnixSignal) :
    CommandMoves .suspended (.signal signal) (.awaitSignalForwarded signal true)
  | resize {rows cols : CellCount} (valid : validateTerminalSize rows cols = .ok ()) :
    CommandMoves .active (.resize rows cols) (.awaitResizeApplied rows cols)
  | suspend : CommandMoves .active .suspend .awaitSuspended
  | resume {rows cols : CellCount} (valid : validateTerminalSize rows cols = .ok ()) :
    CommandMoves .suspended (.resume rows cols) (.awaitResumed rows cols)

/-- The states in which the coordinator can stop the session. -/
inductive Stoppable : TerminalLifecycleState → Prop
  | readyForGate : Stoppable .readyForGate
  | active : Stoppable .active
  | suspended : Stoppable .suspended

/-- The foreground controls, whose Unix disposition does not define a shutdown. -/
inductive Interactive : CoordinatorCommand → Prop
  | int : Interactive (.signal .int)
  | quit : Interactive (.signal .quit)
  | resize {rows cols : CellCount} (valid : validateTerminalSize rows cols = .ok ()) :
    Interactive (.resize rows cols)

/-- What an accepted command does. -/
inductive CommandStep (v : TerminalLifecycleValidator) :
    CoordinatorCommand → TerminalCommandAcceptance → TerminalLifecycleValidator → Prop
  | moves {command : CoordinatorCommand} {next : TerminalLifecycleState}
      (h : CommandMoves v.state command next) : CommandStep v command .applied { v with state := next }
  | stop (h : Stoppable v.state) :
    CommandStep v .stop .applied { v with
      state := .awaitQuiesced, terminationCause := some .coordinatorStop }
  | late {command : CoordinatorCommand} (h : v.state = .quiesced)
      (inactive : v.recoveryCommandAllowance = .inactive) (interactive : Interactive command) :
    CommandStep v command .applied v
  | gate (h : v.state = .quiesced) (inactive : v.recoveryCommandAllowance = .inactive)
      (pending : v.supersededGateMayBePending = true) :
    CommandStep v .openInputGate .applied { v with supersededGateMayBePending := false }
  | restored (h : v.state = .quiesced)
      (settled : ∀ window, v.recoveryCommandAllowance ≠ .awaitingFailure window) :
    CommandStep v .terminalRestored .applied { v with
      recoveryCommandAllowance := .inactive, supersededGateMayBePending := false
      state := .awaitRecoveryDisarmed }
  | superseded {command : CoordinatorCommand} {window : RecoveryCommandWindow}
      (h : v.state = .quiesced) (armed : v.recoveryCommandAllowance = .armed window)
      (allows : TerminalLifecycleValidator.recoveryAllows window command = .ok true) :
    CommandStep v command .recoverySuperseded { v with
      recoveryCommandAllowance := .consumed, supersededGateMayBePending := false }

namespace TerminalLifecycleValidator

variable {v v' : TerminalLifecycleValidator} {event : GuardianEvent} {command : CoordinatorCommand}

theorem validateProcessGroup_iff {pid pgid : Int} :
    validateProcessGroup pid pgid = .ok () ↔ 0 < pid ∧ pgid = pid := by
  unfold validateProcessGroup
  split_ifs with h <;> simp [h]

theorem fails_of_acceptFailure {phase : Phase} {code : FailureCode}
    (h : v.acceptFailure phase code = .ok v') : v.Fails phase code := by
  unfold acceptFailure at h
  dsimp only at h
  split at h
  · cases h
  · rename_i going
    simp only [not_or, not_and, Option.not_isSome_iff_eq_none] at going
    obtain ⟨first, lease, start, ended, failed, worker⟩ := going
    refine ⟨first, ⟨lease, start⟩, ⟨ended, failed⟩, ?_, ?_⟩
    · intro disarmed
      by_contra other
      exact worker disarmed fun _ hphase hcode => other ⟨hphase, hcode⟩
    · cases allowance : v.recoveryCommandAllowance with
      | inactive => exact .inl rfl
      | awaitingFailure window =>
        rw [allowance] at h
        by_cases recovery : phase = .protocol ∧ code = .internal
        · exact .inr ⟨⟨window, rfl⟩, recovery⟩
        · simp only [if_neg recovery] at h
          cases h
      | armed | consumed =>
        rw [allowance] at h
        cases h

theorem acceptFailure_of_fails {phase : Phase} {code : FailureCode} (h : v.Fails phase code) :
    v.acceptFailure phase code = .ok { v with
      supersededGateMayBePending := v.state = .readyForGate ∧ v.recoveryCommandAllowance = .inactive
      recoveryCommandAllowance := v.recoveryCommandAllowance.afterFailure
      failure := some (phase, code)
      state := v.state.afterFailure } := by
  obtain ⟨first, ⟨lease, start⟩, ⟨ended, failed⟩, worker, slot⟩ := h
  have going : ¬(v.failure.isSome ∨ v.state = .awaitLeaseBeforeStart ∨ v.state = .awaitStart ∨
      v.state = .terminal ∨ v.state = .failedAwaitQuiesced ∨ (v.state = .recoveryDisarmed ∧
        ¬(v.state = .recoveryDisarmed ∧ phase = .worker ∧ code = .worker))) := by
    simp only [first, lease, start, ended, failed, Option.isSome_none, Bool.false_eq_true, false_or]
    rintro ⟨disarmed, other⟩
    exact other ⟨disarmed, worker disarmed⟩
  unfold acceptFailure
  dsimp only
  rw [if_neg going]
  obtain inactive | ⟨⟨window, awaiting⟩, recovery⟩ := slot
  · simp only [inactive, RecoveryCommandAllowance.afterFailure]
    cases state : v.state <;> rfl
  · simp only [awaiting, if_pos recovery, RecoveryCommandAllowance.afterFailure]
    cases state : v.state <;> rfl

theorem applyEvent_cases (h : v.applyEvent event = .ok v') : EventStep v event v' := by
  unfold applyEvent at h
  split at h
  · cases h
    exact .lease ‹_›
  · rename_i hs
    cases h
    exact .moves (hs ▸ .armed _)
  · rename_i pid pgid hs
    obtain ⟨⟨⟩, valid, moved⟩ := bind_eq_ok.1 h
    obtain ⟨group, rfl⟩ := validateProcessGroup_iff.1 valid
    cases moved
    exact .app hs group
  · rename_i pid pgid hs
    obtain ⟨⟨⟩, valid, moved⟩ := bind_eq_ok.1 h
    obtain ⟨group, rfl⟩ := validateProcessGroup_iff.1 valid
    by_cases other : v.appProcessGroup = some pgid
    · simp only [if_pos other] at moved
      cases moved
    · simp only [if_neg other] at moved
      cases moved
      exact .tui hs group other
  · rename_i hs
    cases h
    exact .moves (hs ▸ .ready)
  · cases h
    exact .gate ‹_›
  · rename_i expected wasSuspended signal hs
    split at h
    · cases h
    · rename_i same
      obtain rfl := not_not.1 same
      cases signal with
      | hup =>
        cases h
        exact .shutdown hs .hup
      | term =>
        cases h
        exact .shutdown hs .term
      | int | quit =>
        cases h
        cases wasSuspended with
        | false => exact .moves (hs ▸ .forwarded _ (by simp))
        | true => exact .moves (hs ▸ .forwardedSuspended _ (by simp))
  · rename_i hs
    split at h
    · rename_i same
      obtain ⟨rfl, rfl⟩ := same
      cases h
      exact .moves (hs ▸ .resized _ _)
    · cases h
  -- Quiescence in each state whose input gate is open.
  · rename_i hs
    cases h
    exact .ended (hs ▸ .signal _ (.inl rfl))
  · rename_i hs
    cases h
    exact .ended (hs ▸ .signal _ (.inr rfl))
  · rename_i hs
    cases h
    exact .ended (hs ▸ .resize _ _)
  · rename_i hs
    cases h
    exact .ended (hs ▸ .active)
  · rename_i hs
    cases h
    exact .moves (hs ▸ .suspended)
  · rename_i hs
    split at h
    · rename_i same
      obtain ⟨rfl, rfl⟩ := same
      cases h
      exact .moves (hs ▸ .resumed _ _)
    · cases h
  · cases h
    exact .exhausted ‹_›
  · rename_i hs
    cases h
    exact .moves (hs ▸ .quiesced)
  · rename_i hs
    cases h
    exact .moves (hs ▸ .failedQuiesced)
  · rename_i hs
    cases h
    exact .moves (hs ▸ .disarmed)
  · obtain ⟨disposition, valid, moved⟩ := bind_eq_ok.1 h
    cases moved
    exact .reaped ‹_› valid
  · cases h

theorem acceptEvent_cases (h : v.acceptEvent event = .ok v') : EventStep v event v' := by
  cases event with
  | failed phase code =>
    have fails := fails_of_acceptFailure h
    cases (acceptFailure_of_fails fails).symm.trans h
    exact .failed fails
  | _ => exact applyEvent_cases h

/-- A command that is not superseded in a recovery is applied; a restored terminal settles the slot. -/
theorem applyCommand_cases (slot : v.state = .quiesced → v.recoveryCommandAllowance = .inactive)
    (h : v.applyCommand command = .ok v') : CommandStep v command .applied v' := by
  unfold applyCommand at h
  split at h
  · rename_i hs
    cases h
    exact .moves (hs ▸ .start)
  · rename_i hs
    cases h
    exact .moves (hs ▸ .armAccepted)
  · rename_i hs
    cases h
    exact .moves (hs ▸ .app)
  · rename_i hs
    cases h
    exact .moves (hs ▸ .tui)
  · rename_i hs
    cases h
    exact .moves (hs ▸ .gate)
  · rename_i hs
    cases h
    exact .moves (hs ▸ .signal _)
  · rename_i hs
    cases h
    exact .moves (hs ▸ .signalSuspended _)
  · rename_i hs
    obtain ⟨⟨⟩, valid, moved⟩ := bind_eq_ok.1 h
    cases moved
    exact .moves (hs ▸ .resize valid)
  · rename_i hs
    cases h
    exact .moves (hs ▸ .suspend)
  · rename_i hs
    obtain ⟨⟨⟩, valid, moved⟩ := bind_eq_ok.1 h
    cases moved
    exact .moves (hs ▸ .resume valid)
  · rename_i hs
    cases h
    exact .stop (hs ▸ .readyForGate)
  · rename_i hs
    cases h
    exact .stop (hs ▸ .active)
  · rename_i hs
    cases h
    exact .stop (hs ▸ .suspended)
  · rename_i hs
    cases h
    exact .late hs (slot hs) .int
  · rename_i hs
    cases h
    exact .late hs (slot hs) .quit
  · rename_i hs
    obtain ⟨⟨⟩, valid, moved⟩ := bind_eq_ok.1 h
    cases moved
    exact .late hs (slot hs) (.resize valid)
  · rename_i hs
    split at h
    · cases h
      exact .gate hs (slot hs) ‹_›
    · cases h
  · rename_i hs
    cases h
    have inactive := slot hs
    have kept := CommandStep.restored hs (by simp [inactive])
    rw [← inactive] at kept
    exact kept
  · cases h

/-- What the slot of the recovery race makes of a command. -/
theorem acceptRecoverySupersededCommand_cases {settled : Option TerminalCommandAcceptance}
    (h : v.acceptRecoverySupersededCommand command = .ok (settled, v')) :
    settled = none ∧ v' = v ∧ (v.state = .quiesced → v.recoveryCommandAllowance = .inactive) ∨
    settled = none ∧ v' = { v with recoveryCommandAllowance := .inactive } ∧
      command = .terminalRestored ∧ v.state = .quiesced ∧
      (∀ window, v.recoveryCommandAllowance ≠ .awaitingFailure window) ∨
    ∃ acceptance, settled = some acceptance ∧ CommandStep v command acceptance v' := by
  unfold acceptRecoverySupersededCommand at h
  by_cases other : v.state ≠ .quiesced
  · rw [if_pos other] at h
    cases h
    exact .inl ⟨rfl, rfl, fun quiesced => absurd quiesced other⟩
  · rw [if_neg other] at h
    have quiesced := not_not.1 other
    cases allowance : v.recoveryCommandAllowance with
    | inactive =>
      rw [allowance] at h
      cases h
      exact .inl ⟨rfl, rfl, fun _ => rfl⟩
    | awaitingFailure window =>
      rw [allowance] at h
      cases h
    | armed window =>
      simp only [allowance] at h
      split at h
      · cases h
        exact .inr (.inl ⟨rfl, rfl, ‹_›, quiesced, by simp⟩)
      · obtain ⟨allowed, allows, settles⟩ := bind_eq_ok.1 h
        cases allowed with
        | false => cases settles
        | true =>
          cases settles
          exact .inr (.inr ⟨_, rfl, .superseded quiesced allowance allows⟩)
    | consumed =>
      simp only [allowance] at h
      split at h
      · cases h
        exact .inr (.inl ⟨rfl, rfl, ‹_›, quiesced, by simp⟩)
      · cases h

theorem acceptCommand_cases {acceptance : TerminalCommandAcceptance}
    (h : v.acceptCommand command = .ok (acceptance, v')) : CommandStep v command acceptance v' := by
  obtain ⟨⟨settled, next⟩, slot, ran⟩ := bind_eq_ok.1 h
  obtain ⟨rfl, rfl, inactive⟩ | ⟨rfl, rfl, rfl, quiesced, unawaited⟩ | ⟨superseded, rfl, step⟩ :=
    acceptRecoverySupersededCommand_cases slot
  · obtain ⟨after, applied, result⟩ := bind_eq_ok.1 ran
    cases result
    exact applyCommand_cases inactive applied
  · have applied : ({ v with recoveryCommandAllowance := .inactive } :
        TerminalLifecycleValidator).applyCommand .terminalRestored = .ok { v with
          recoveryCommandAllowance := .inactive, supersededGateMayBePending := false
          state := .awaitRecoveryDisarmed } := by
      simp only [applyCommand, quiesced]
    simp only [applied] at ran
    cases ran
    exact .restored quiesced unawaited
  · cases ran
    exact step

theorem armRecoveryCommandRace_cases (h : v.armRecoveryCommandRace = .ok v') :
    v.failure = none ∧ v.recoveryCommandAllowance = .inactive ∧
      ∃ window, v' = { v with recoveryCommandAllowance := .awaitingFailure window } := by
  unfold armRecoveryCommandRace at h
  split at h
  · cases h
  · rename_i free
    simp only [not_or, not_not, Option.not_isSome_iff_eq_none] at free
    refine ⟨free.1, free.2, ?_⟩
    split at h <;> cases h
    · exact ⟨.readyForGate, rfl⟩
    · exact ⟨.active, rfl⟩
    · exact ⟨.suspended, rfl⟩

end TerminalLifecycleValidator

/-- A command never touches the failure. -/
theorem CommandStep.failure {v v' : TerminalLifecycleValidator} {command : CoordinatorCommand}
    {acceptance : TerminalCommandAcceptance} (step : CommandStep v command acceptance v') :
    v'.failure = v.failure := by
  cases step <;> rfl

/-- An announced failure stays. -/
theorem EventStep.unfailed {v v' : TerminalLifecycleValidator} {event : GuardianEvent}
    (step : EventStep v event v') (h : v'.failure = none) : v.failure = none := by
  cases step with
  | failed fails => cases h
  | _ => exact h

end Calcifer.Supervisor
