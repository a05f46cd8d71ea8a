import Mathlib

/-!
# The lifecycle protocol of a supervised session

Coordinator and guardian of one supervised Codex session talk over a duplex wire. Both feed what
they receive and what they send through the same validator, `TerminalLifecycleValidator`, and the
receiver of each side poisons itself at the first message that its validator refuses.

Here a message is the value that its frame encodes, and reading or writing one may fail with the error
of the framing code; `Wire` has the frames themselves.
-/

namespace Calcifer.Supervisor

/-! ## Messages -/

/-- The only asynchronous Unix signals accepted by the terminal protocol. -/
inductive UnixSignal where
  | hup
  | int
  | quit
  | term
deriving DecidableEq, Repr

inductive ChildRole where
  | appServer
  | tui
deriving DecidableEq, Repr

/-- A bounded guardian lifecycle phase. -/
inductive Phase where
  | lease
  | runtime
  | worker
  | appServer
  | tui
  | readiness
  | shutdown
  | reap
  | cleanup
  | protocol
  | terminal
  | pump
  | signal
  | restore
deriving DecidableEq, Repr

/-- A bounded, redacted failure code. -/
inductive FailureCode where
  | timeout
  | descriptor
  | lease
  | spawn
  | earlyExit
  | worker
  | containment
  | wait
  | cleanupMismatch
  | invalidControl
  | internal
  | terminal
  | pump
  | signal
  | restore
deriving DecidableEq, Repr

inductive StopAction where
  | none
  | term
  | kill
deriving DecidableEq, Repr

/-- The exact wait disposition of one guardian-owned direct child. -/
inductive ChildDisposition where
  | notStarted
  | exited (code : UInt8) (stopAction : StopAction)
  | signaled (signal : UInt8) (coreDumped : Bool) (stopAction : StopAction)
deriving DecidableEq, Repr

/-- Every variant is terminal: no live worker handle may be represented. -/
inductive WorkerJoinStatus where
  | notStarted
  | joinedClean
  | joinedFailed
  | joinedPanicked
deriving DecidableEq, Repr

inductive CleanupStatus where
  | complete
deriving DecidableEq, Repr

inductive SessionStatus where
  | completed
  | failed
deriving DecidableEq, Repr

/-- Why the guardian entered ordered TUI shutdown. -/
inductive SessionTerminationCause where
  | naturalTuiEof
  | coordinatorStop
  | forwardedHup
  | forwardedTerm
  | usageExhaustion
deriving DecidableEq, Repr

/-- The process disposition that the guardian applies at its end. -/
inductive GuardianExitDisposition where
  | code (code : UInt8)
  | signal (signal : UInt8)
  | usageExhausted
  | internalFailure
deriving DecidableEq, Repr

/-- A number of rows or columns, a `u16`. It has a name of its own so that no case analysis enumerates
its values. -/
def CellCount : Type := UInt16
deriving DecidableEq, Repr

instance (n : Nat) : OfNat CellCount n := ⟨UInt16.ofNat n⟩

/-- A coordinator-to-guardian command. -/
inductive CoordinatorCommand where
  | start
  | terminalArmAccepted
  | childDescriptorsVerified (role : ChildRole)
  | stop
  | openInputGate
  | signal (signal : UnixSignal)
  | resize (rows cols : CellCount)
  | suspend
  | resume (rows cols : CellCount)
  | terminalRestored
deriving DecidableEq, Repr

/-- The semantic identity of a terminal snapshot, a digest. -/
abbrev TerminalSnapshotFingerprint := List UInt8

/-- A guardian-to-coordinator lifecycle event. -/
inductive GuardianEvent where
  | leaseCommitted
  | terminalArmed (snapshot : TerminalSnapshotFingerprint)
  | childStarted (role : ChildRole) (pid pgid : Int)
  | ready
  | inputGateOpened
  | signalForwarded (signal : UnixSignal)
  | resizeApplied (rows cols : CellCount)
  | suspended
  | resumed (rows cols : CellCount)
  | usageExhausted
  | terminalQuiesced
  | terminalRecoveryDisarmed
  | failed (phase : Phase) (code : FailureCode)
  | childrenReaped (app tui : ChildDisposition) (worker : WorkerJoinStatus)
      (cleanup : CleanupStatus) (session : SessionStatus) (guardianExit : GuardianExitDisposition)
deriving DecidableEq, Repr

/-- A redacted protocol failure. -/
inductive ProtocolError where
  | timeout
  | unexpectedEof
  | truncatedHeader
  | truncatedBody
  | zeroLength
  | oversizedBody
  | badMagic
  | unsupportedVersion
  | wrongDirection
  | unknownType
  | invalidLength
  | invalidValue
  | trailingData
  | unexpectedState
  | io
deriving DecidableEq, Repr

def validateTerminalSize (rows cols : CellCount) : Except ProtocolError Unit :=
  if rows = 0 ∨ cols = 0 then .error .invalidValue else .ok ()

def validateProcessGroup (pid pgid : Int) : Except ProtocolError Unit :=
  if 0 < pid ∧ pgid = pid then .ok () else .error .invalidValue

/-! ## The validator -/

inductive TerminalLifecycleState where
  | awaitLeaseBeforeStart
  | awaitStart
  | awaitTerminalArmed
  | awaitTerminalArmAcceptance
  | awaitApp
  | awaitAppDescriptorVerification
  | awaitTui
  | awaitTuiDescriptorVerification
  | awaitReady
  | readyForGate
  | awaitGateOpened
  | active
  | awaitSignalForwarded (signal : UnixSignal) (wasSuspended : Bool)
  | awaitResizeApplied (rows cols : CellCount)
  | awaitSuspended
  | suspended
  | awaitResumed (rows cols : CellCount)
  | awaitQuiesced
  | failedAwaitQuiesced
  | quiesced
  | awaitRecoveryDisarmed
  | recoveryDisarmed
  | terminal
deriving DecidableEq, Repr

inductive RecoveryCommandWindow where
  | readyForGate
  | active
  | suspended
deriving DecidableEq, Repr

inductive RecoveryCommandAllowance where
  | inactive
  | awaitingFailure (window : RecoveryCommandWindow)
  | armed (window : RecoveryCommandWindow)
  | consumed
deriving DecidableEq, Repr

inductive TerminalCommandAcceptance where
  | applied
  | recoverySuperseded
deriving DecidableEq, Repr

/-- Validation of the full duplex terminal transcript. A failure observed in `readyForGate` can race
exactly one gate command already written by the peer, which `supersededGateMayBePending` keeps. -/
structure TerminalLifecycleValidator where
  state : TerminalLifecycleState
  leaseCommitted : Bool
  appStarted : Bool
  tuiStarted : Bool
  appProcessGroup : Option Int
  gateEverOpened : Bool
  supersededGateMayBePending : Bool
  recoveryCommandAllowance : RecoveryCommandAllowance
  failure : Option (Phase × FailureCode)
  terminationCause : Option SessionTerminationCause
  terminalExitDisposition : Option GuardianExitDisposition
deriving DecidableEq, Repr

/-- The shell projection of a session that ended without an announced failure. -/
def projectTerminalSemantics (app tui : ChildDisposition) (worker : WorkerJoinStatus)
    (cause : SessionTerminationCause) : SessionStatus × GuardianExitDisposition :=
  let appExpected : Bool := match app with
    | .exited 0 .none | .exited 0 .term | .signaled 15 false .term => true
    | _ => false
  if worker ≠ .joinedClean ∨ ¬appExpected then (.failed, .internalFailure) else
  let byCode (code : UInt8) : SessionStatus × GuardianExitDisposition :=
    (if code = 0 then .completed else .failed, .code code)
  match cause, tui with
  | .naturalTuiEof, .exited code .none => byCode code
  | .naturalTuiEof, .signaled signal _ .none => (.failed, .signal signal)
  | .coordinatorStop, .exited code .none | .coordinatorStop, .exited code .term => byCode code
  | .coordinatorStop, .signaled 15 _ .term => (.completed, .code 0)
  | .coordinatorStop, .signaled signal _ .none => (.failed, .signal signal)
  | .usageExhaustion, .exited 0 .none | .usageExhaustion, .exited 0 .term
  | .usageExhaustion, .signaled 15 false .term => (.completed, .usageExhausted)
  | .forwardedHup, .signaled 1 _ .none => (.completed, .signal 1)
  | .forwardedTerm, .signaled 15 _ .none => (.completed, .signal 15)
  | .forwardedHup, .exited code .none | .forwardedTerm, .exited code .none => byCode code
  | .forwardedHup, .signaled signal _ .none | .forwardedTerm, .signaled signal _ .none =>
    (.failed, .signal signal)
  | _, _ => (.failed, .internalFailure)

namespace TerminalLifecycleValidator

def beforeStart : TerminalLifecycleValidator where
  state := .awaitLeaseBeforeStart
  leaseCommitted := false
  appStarted := false
  tuiStarted := false
  appProcessGroup := none
  gateEverOpened := false
  supersededGateMayBePending := false
  recoveryCommandAllowance := .inactive
  failure := none
  terminationCause := none
  terminalExitDisposition := none

/-- Open the slot for the one command that an out-of-band recovery request can race. -/
def armRecoveryCommandRace (v : TerminalLifecycleValidator) :
    Except ProtocolError TerminalLifecycleValidator :=
  if v.failure.isSome ∨ v.recoveryCommandAllowance ≠ .inactive then .error .unexpectedState else
  match v.state with
  | .readyForGate => .ok { v with recoveryCommandAllowance := .awaitingFailure .readyForGate }
  | .active => .ok { v with recoveryCommandAllowance := .awaitingFailure .active }
  | .suspended => .ok { v with recoveryCommandAllowance := .awaitingFailure .suspended }
  | _ => .error .unexpectedState

/-- Whether the command can have been in flight when a recovery request was selected. -/
def recoveryAllows : RecoveryCommandWindow → CoordinatorCommand → Except ProtocolError Bool
  | .readyForGate, .openInputGate | .readyForGate, .stop => .ok true
  | .active, .signal _ | .active, .suspend | .active, .stop => .ok true
  | .suspended, .signal _ | .suspended, .stop => .ok true
  | .active, .resize rows cols | .suspended, .resume rows cols => do
    validateTerminalSize rows cols
    return true
  | _, _ => .ok false

def acceptRecoverySupersededCommand (v : TerminalLifecycleValidator) (command : CoordinatorCommand) :
    Except ProtocolError (Option TerminalCommandAcceptance × TerminalLifecycleValidator) :=
  if v.state ≠ .quiesced then .ok (none, v) else
  match v.recoveryCommandAllowance with
  | .inactive => .ok (none, v)
  | .awaitingFailure _ => .error .unexpectedState
  | .consumed =>
    if command = .terminalRestored then .ok (none, { v with recoveryCommandAllowance := .inactive })
    else .error .unexpectedState
  | .armed window =>
    if command = .terminalRestored then .ok (none, { v with recoveryCommandAllowance := .inactive })
    else do
      if ← recoveryAllows window command then
        return (some .recoverySuperseded,
          { v with recoveryCommandAllowance := .consumed, supersededGateMayBePending := false })
      throw .unexpectedState

/-- The transition that a command makes. -/
def applyCommand (v : TerminalLifecycleValidator) (command : CoordinatorCommand) :
    Except ProtocolError TerminalLifecycleValidator :=
  match v.state, command with
  | .awaitStart, .start => .ok { v with state := .awaitTerminalArmed }
  | .awaitTerminalArmAcceptance, .terminalArmAccepted => .ok { v with state := .awaitApp }
  | .awaitAppDescriptorVerification, .childDescriptorsVerified .appServer =>
    .ok { v with state := .awaitTui }
  | .awaitTuiDescriptorVerification, .childDescriptorsVerified .tui =>
    .ok { v with state := .awaitReady }
  | .readyForGate, .openInputGate => .ok { v with state := .awaitGateOpened }
  | .active, .signal signal => .ok { v with state := .awaitSignalForwarded signal false }
  | .suspended, .signal signal => .ok { v with state := .awaitSignalForwarded signal true }
  | .active, .resize rows cols => do
    validateTerminalSize rows cols
    return { v with state := .awaitResizeApplied rows cols }
  | .active, .suspend => .ok { v with state := .awaitSuspended }
  | .suspended, .resume rows cols => do
    validateTerminalSize rows cols
    return { v with state := .awaitResumed rows cols }
  | .readyForGate, .stop | .active, .stop | .suspended, .stop =>
    .ok { v with state := .awaitQuiesced, terminationCause := some .coordinatorStop }
  -- A natural TUI exit supersedes one already-written foreground control; shutdown signals are
  -- excluded because their disposition requires an explicit acknowledgement.
  | .quiesced, .signal .int | .quiesced, .signal .quit => .ok v
  | .quiesced, .resize rows cols => do
    validateTerminalSize rows cols
    return v
  -- The gate frame that a pre-gate failure raced.
  | .quiesced, .openInputGate =>
    if v.supersededGateMayBePending then .ok { v with supersededGateMayBePending := false }
    else .error .unexpectedState
  | .quiesced, .terminalRestored =>
    .ok { v with supersededGateMayBePending := false, state := .awaitRecoveryDisarmed }
  | _, _ => .error .unexpectedState

def acceptCommand (v : TerminalLifecycleValidator) (command : CoordinatorCommand) :
    Except ProtocolError (TerminalCommandAcceptance × TerminalLifecycleValidator) := do
  match ← v.acceptRecoverySupersededCommand command with
  | (some acceptance, v) => return (acceptance, v)
  | (none, v) => return (.applied, ← v.applyCommand command)

/-- A failure is announced at most once. A failed worker join is the only one that may still be
discovered in `recoveryDisarmed`. -/
def acceptFailure (v : TerminalLifecycleValidator) (phase : Phase) (code : FailureCode) :
    Except ProtocolError TerminalLifecycleValidator :=
  let postRecoveryWorkerFailure :=
    v.state = .recoveryDisarmed ∧ phase = .worker ∧ code = .worker
  if v.failure.isSome ∨ v.state = .awaitLeaseBeforeStart ∨ v.state = .awaitStart ∨
      v.state = .terminal ∨ v.state = .failedAwaitQuiesced ∨
      (v.state = .recoveryDisarmed ∧ ¬postRecoveryWorkerFailure) then
    .error .unexpectedState
  else do
    let recoveryWindow ← match v.recoveryCommandAllowance with
      | .awaitingFailure window =>
        if phase = .protocol ∧ code = .internal then .ok (some window) else .error .unexpectedState
      | .armed _ | .consumed => .error .unexpectedState
      | .inactive => .ok none
    return { v with
      supersededGateMayBePending := v.state = .readyForGate ∧ recoveryWindow = none
      recoveryCommandAllowance := match recoveryWindow with
        | some window => .armed window
        | none => v.recoveryCommandAllowance
      failure := some (phase, code)
      state := match v.state with
        | .quiesced | .awaitRecoveryDisarmed | .recoveryDisarmed => v.state
        | _ => .failedAwaitQuiesced }

/-- Whether the report of the reaped children fits the transcript. -/
def validateTerminal (v : TerminalLifecycleValidator) (app tui : ChildDisposition)
    (worker : WorkerJoinStatus) (session : SessionStatus) (guardianExit : GuardianExitDisposition) :
    Except ProtocolError GuardianExitDisposition :=
  let appStarted : Bool := app ≠ .notStarted
  let tuiStarted : Bool := tui ≠ .notStarted
  if appStarted ≠ v.appStarted ∨ tuiStarted ≠ v.tuiStarted then .error .invalidValue else
  -- The app may fail before the monitor worker is spawned; the TUI starts only after it.
  if worker = .notStarted ∧ (tuiStarted ∨ appStarted ∧ v.failure = none) then
    .error .invalidValue
  else
  match v.failure with
  | none =>
    if worker ≠ .joinedClean ∨ ¬v.leaseCommitted ∨ ¬v.appStarted ∨ ¬v.tuiStarted ∨
        (¬v.gateEverOpened ∧ v.terminationCause ≠ some .coordinatorStop) then
      .error .invalidValue
    else
    match v.terminationCause with
    | none => .error .unexpectedState
    | some cause =>
      let (expectedStatus, disposition) := projectTerminalSemantics app tui worker cause
      if guardianExit = .internalFailure then
        if session ≠ .failed then .error .invalidValue else .ok guardianExit
      else if session ≠ expectedStatus ∨ guardianExit ≠ disposition then .error .invalidValue
      else .ok guardianExit
  | some (phase, code) =>
    -- Cleanup or restoration failure cannot manufacture terminal authority.
    if (phase = .cleanup ∨ phase = .restore) ∨ (code = .cleanupMismatch ∨ code = .restore) then
      .error .unexpectedState
    else if session ≠ .failed ∨ guardianExit ≠ .internalFailure then .error .invalidValue
    else .ok guardianExit

/-- The transition that an event other than a failure makes. -/
def applyEvent (v : TerminalLifecycleValidator) (event : GuardianEvent) :
    Except ProtocolError TerminalLifecycleValidator :=
  match v.state, event with
  | .awaitLeaseBeforeStart, .leaseCommitted =>
    .ok { v with leaseCommitted := true, state := .awaitStart }
  | .awaitTerminalArmed, .terminalArmed _ => .ok { v with state := .awaitTerminalArmAcceptance }
  | .awaitApp, .childStarted .appServer pid pgid => do
    validateProcessGroup pid pgid
    return { v with
      appStarted := true, appProcessGroup := some pgid, state := .awaitAppDescriptorVerification }
  | .awaitTui, .childStarted .tui pid pgid => do
    validateProcessGroup pid pgid
    if v.appProcessGroup = some pgid then throw .invalidValue
    return { v with tuiStarted := true, state := .awaitTuiDescriptorVerification }
  | .awaitReady, .ready => .ok { v with state := .readyForGate }
  | .awaitGateOpened, .inputGateOpened => .ok { v with gateEverOpened := true, state := .active }
  | .awaitSignalForwarded expected wasSuspended, .signalForwarded signal =>
    if signal ≠ expected then .error .unexpectedState else
    match signal with
    | .hup => .ok { v with terminationCause := some .forwardedHup, state := .awaitQuiesced }
    | .term => .ok { v with terminationCause := some .forwardedTerm, state := .awaitQuiesced }
    | .int | .quit => .ok { v with state := if wasSuspended then .suspended else .active }
  | .awaitResizeApplied expectedRows expectedCols, .resizeApplied rows cols =>
    if rows = expectedRows ∧ cols = expectedCols then .ok { v with state := .active }
    else .error .unexpectedState
  -- Exact terminal quiescence supersedes only controls whose Unix disposition does not define
  -- shutdown.
  | .awaitSignalForwarded .int false, .terminalQuiesced
  | .awaitSignalForwarded .quit false, .terminalQuiesced
  | .awaitResizeApplied _ _, .terminalQuiesced
  -- The exit of the TUI after the gate opened is itself a trusted shutdown trigger.
  | .active, .terminalQuiesced =>
    .ok { v with
      state := .quiesced, terminationCause := v.terminationCause.or (some .naturalTuiEof) }
  | .awaitSuspended, .suspended => .ok { v with state := .suspended }
  | .awaitResumed expectedRows expectedCols, .resumed rows cols =>
    if rows = expectedRows ∧ cols = expectedCols then .ok { v with state := .readyForGate }
    else .error .unexpectedState
  | .active, .usageExhausted =>
    .ok { v with terminationCause := some .usageExhaustion, state := .awaitQuiesced }
  | .awaitQuiesced, .terminalQuiesced | .failedAwaitQuiesced, .terminalQuiesced =>
    .ok { v with state := .quiesced }
  | .awaitRecoveryDisarmed, .terminalRecoveryDisarmed => .ok { v with state := .recoveryDisarmed }
  | .recoveryDisarmed, .childrenReaped app tui worker .complete session guardianExit => do
    let disposition ← v.validateTerminal app tui worker session guardianExit
    return { v with terminalExitDisposition := some disposition, state := .terminal }
  | _, _ => .error .unexpectedState

def acceptEvent (v : TerminalLifecycleValidator) : GuardianEvent →
    Except ProtocolError TerminalLifecycleValidator
  | .failed phase code => v.acceptFailure phase code
  | event => v.applyEvent event

end TerminalLifecycleValidator

/-! ## Receivers -/

/-- What the coordinator keeps of the transcript. Proofs are valid only for the immediately
preceding accepted transition. -/
structure CoordinatorReceiver where
  terminal : TerminalLifecycleValidator
  poisoned : Bool
  verifiedReadyPending : Bool
  verifiedOpenGateAckPending : Bool
deriving DecidableEq, Repr

namespace CoordinatorReceiver

def newTerminal : CoordinatorReceiver where
  terminal := .beforeStart
  poisoned := false
  verifiedReadyPending := false
  verifiedOpenGateAckPending := false

def terminalReceived (r : CoordinatorReceiver) : Bool :=
  !r.poisoned && r.terminal.state = .terminal

/-- Whether the receiver refuses to go on, without a look at the wire. -/
def closed (r : CoordinatorReceiver) : Bool := r.poisoned || r.terminalReceived

/-- The proofs that an accepted transition expires. -/
def expire (r : CoordinatorReceiver) : CoordinatorReceiver :=
  { r with verifiedReadyPending := false, verifiedOpenGateAckPending := false }

/-- Receive what the wire holds, or the error of reading it. -/
def receive (r : CoordinatorReceiver) (input : Except ProtocolError GuardianEvent) :
    Except ProtocolError GuardianEvent × CoordinatorReceiver :=
  if r.closed then (.error .unexpectedState, r) else
  match input with
  | .error error => (.error error, { r.expire with poisoned := true })
  | .ok event =>
    match r.terminal.acceptEvent event with
    | .error error => (.error error, { r.expire with poisoned := true })
    | .ok terminal => (.ok event, { r.expire with
        terminal
        verifiedReadyPending := match event with
          | .ready | .resumed _ _ => true
          | _ => false
        verifiedOpenGateAckPending := event = .inputGateOpened })

/-- Record a command before it is written. -/
def recordCommand (r : CoordinatorReceiver) (command : CoordinatorCommand) :
    Except ProtocolError Unit × CoordinatorReceiver :=
  if r.closed then (.error .unexpectedState, r) else
  match r.terminal.acceptCommand command with
  | .error error => (.error error, { r.expire with poisoned := true })
  | .ok (_, terminal) => (.ok (), { r.expire with terminal })

def takeVerifiedReady (r : CoordinatorReceiver) : Except ProtocolError Unit × CoordinatorReceiver :=
  if r.poisoned then (.error .unexpectedState, r)
  else if r.verifiedReadyPending then (.ok (), { r with verifiedReadyPending := false })
  else (.error .unexpectedState, r)

def takeVerifiedOpenGateAck (r : CoordinatorReceiver) :
    Except ProtocolError Unit × CoordinatorReceiver :=
  if r.poisoned then (.error .unexpectedState, r)
  else if r.verifiedOpenGateAckPending then (.ok (), { r with verifiedOpenGateAckPending := false })
  else (.error .unexpectedState, r)

def takeVerifiedExitDisposition (r : CoordinatorReceiver) :
    Except ProtocolError GuardianExitDisposition × CoordinatorReceiver :=
  if r.poisoned then (.error .unexpectedState, r) else
  match r.terminal.terminalExitDisposition with
  | some disposition => (.ok disposition, { r with
      terminal := { r.terminal with terminalExitDisposition := none } })
  | none => (.error .unexpectedState, r)

end CoordinatorReceiver

/-- Which generation of the input gate a command opens. -/
inductive OpenGateCommandCycle where
  | initial
  | resume
deriving DecidableEq, Repr

/-- The proof that the last accepted command left behind. At most one of the source's pending fields
is set at any time, since a receiver sets them all from one command. -/
inductive PendingProof where
  | openGate (cycle : OpenGateCommandCycle)
  | suspend
  | resume (rows cols : CellCount)
  | resize (rows cols : CellCount)
  | terminalRestored
deriving DecidableEq, Repr

/-- What the guardian keeps of the transcript. -/
structure GuardianCommandReceiver where
  terminal : TerminalLifecycleValidator
  poisoned : Bool
  pending : Option PendingProof
deriving DecidableEq, Repr

namespace GuardianCommandReceiver

def newTerminal : GuardianCommandReceiver where
  terminal := .beforeStart
  poisoned := false
  pending := none

def terminalReceived (r : GuardianCommandReceiver) : Bool :=
  !r.poisoned && r.terminal.state = .terminal

/-- Whether the receiver refuses to read, without a look at the wire. -/
def closed (r : GuardianCommandReceiver) : Bool := r.poisoned || r.terminalReceived

/-- The proof that an applied command leaves behind. -/
def proofOf (terminal : TerminalLifecycleValidator) : CoordinatorCommand → Option PendingProof
  | .openInputGate => some (.openGate (if terminal.gateEverOpened then .resume else .initial))
  | .suspend => some .suspend
  | .resume rows cols => some (.resume rows cols)
  | .resize rows cols => some (.resize rows cols)
  | .terminalRestored => some .terminalRestored
  | _ => none

/-- Receive what the wire holds, or the error of reading it. -/
def receive (r : GuardianCommandReceiver) (input : Except ProtocolError CoordinatorCommand) :
    Except ProtocolError CoordinatorCommand × GuardianCommandReceiver :=
  if r.closed then (.error .unexpectedState, r) else
  match input with
  | .error error => (.error error, { r with pending := none, poisoned := true })
  | .ok command =>
    match r.terminal.acceptCommand command with
    | .error error => (.error error, { r with pending := none, poisoned := true })
    | .ok (.applied, terminal) => (.ok command, { r with
        terminal, pending := proofOf r.terminal command })
    | .ok (.recoverySuperseded, terminal) => (.ok command, { r with terminal, pending := none })

/-- Record an event before it is published on the wire. -/
def recordEvent (r : GuardianCommandReceiver) (event : GuardianEvent) :
    Except ProtocolError Unit × GuardianCommandReceiver :=
  if r.poisoned then (.error .unexpectedState, r) else
  match r.terminal.acceptEvent event with
  | .error error => (.error error, { r with pending := none, poisoned := true })
  | .ok terminal => (.ok (), { r with terminal, pending := none })

def armRecoveryCommandRace (r : GuardianCommandReceiver) :
    Except ProtocolError Unit × GuardianCommandReceiver :=
  if r.closed then (.error .unexpectedState, r) else
  match r.terminal.armRecoveryCommandRace with
  | .error error => (.error error, { r with pending := none })
  | .ok terminal => (.ok (), { r with terminal, pending := none })

/-- Take the proof that the last command left behind, if it is the wanted one. -/
def take (r : GuardianCommandReceiver) (proof : PendingProof) :
    Except ProtocolError Unit × GuardianCommandReceiver :=
  if r.poisoned ∨ r.pending ≠ some proof then (.error .unexpectedState, r)
  else (.ok (), { r with pending := none })

def takeVerifiedExitDisposition (r : GuardianCommandReceiver) :
    Except ProtocolError GuardianExitDisposition × GuardianCommandReceiver :=
  if r.poisoned then (.error .unexpectedState, r) else
  match r.terminal.terminalExitDisposition with
  | some disposition => (.ok disposition, { r with
      terminal := { r.terminal with terminalExitDisposition := none } })
  | none => (.error .unexpectedState, r)

end GuardianCommandReceiver

end Calcifer.Supervisor
