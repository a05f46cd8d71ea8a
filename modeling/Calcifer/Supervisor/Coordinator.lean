import Calcifer.Library.Program
import Calcifer.Supervisor.Duplex

/-!
# The coordinator

The coordinator owns the outer terminal of a session and its half of the lifecycle wire. `drive` takes
a session from the first event to the report on the reaped children, as a program over calls to the
terminal, the signal latches, the wire and the guardian process.

Deadlines are left out: a call that waits answers when it has something to answer, and one that would
run into its deadline answers with an error. A wait for the wire that only pumps output and polls, as
in `receive_with_output` and `await_quiescence`, is one call. The two loops without a bound, of an
active and of a suspended session, and the loop of the startup go round by round.
-/

namespace Calcifer.Supervisor

/-! ## Errors and outcomes -/

inductive CoordinatorTerminalError where
  | setup
  | deadline
  | outerTerminalEof
  | terminalChannelRead
  | terminalChannelWrite
  | outerTerminalRead
  | outerTerminalWrite
  | rawTransition
  | foreground
  | windowSize
  | restore
  | shutdown
deriving DecidableEq, Repr

/-- Why a drive gives up. What a descriptor scan found is left out. -/
inductive CoordinatorDriveError where
  | deadline
  | lifecycle
  | protocol
  | snapshot
  | terminal (error : CoordinatorTerminalError)
  | signal
  | guardian
  | descriptorIsolation
deriving DecidableEq, Repr

def classifyProtocolError : ProtocolError → CoordinatorDriveError
  | .timeout => .deadline
  | .unexpectedEof | .truncatedHeader | .truncatedBody | .io => .lifecycle
  | _ => .protocol

def guardianStatusMatches (status : ExitStatus) : GuardianExitDisposition → Bool
  | .code code => status = .code code
  | .signal signal => status = .signal signal
  | .usageExhausted => status = .code usageExhaustedExitCode
  | .internalFailure => status = .code 1

structure CoordinatorTerminalReport where
  app : ChildDisposition
  tui : ChildDisposition
  worker : WorkerJoinStatus
  cleanup : CleanupStatus
  session : SessionStatus
  guardianExit : GuardianExitDisposition
deriving DecidableEq, Repr

/-- How a generation of the coordinator ends: a retained one parks with the profile lease, and an
aborted one has lost the owner of its terminal. -/
inductive CoordinatorRunOutcome where
  | terminal (status : ExitStatus) (report : CoordinatorTerminalReport)
  | retained (error : CoordinatorDriveError)
  | aborted
deriving DecidableEq, Repr

/-! ## Local signals -/

inductive CoordinatorSignalAction where
  | forward (signal : UnixSignal)
  | resize
  | suspend
  | continue
deriving DecidableEq, Repr

/-- The signals that the coordinator latches. -/
inductive LatchedSignal where
  | hup
  | interrupt
  | quit
  | term
  | winch
  | tstp
  | cont
deriving DecidableEq, Repr

/-- Seven coalescing signal bits. -/
structure CoordinatorSignalLatches where
  hup : Bool := false
  interrupt : Bool := false
  quit : Bool := false
  term : Bool := false
  winch : Bool := false
  tstp : Bool := false
  cont : Bool := false
  frozen : Bool := false
deriving DecidableEq, Repr

namespace CoordinatorSignalLatches

def raise (l : CoordinatorSignalLatches) : LatchedSignal → CoordinatorSignalLatches
  | .hup => { l with hup := true }
  | .interrupt => { l with interrupt := true }
  | .quit => { l with quit := true }
  | .term => { l with term := true }
  | .winch => { l with winch := true }
  | .tstp => { l with tstp := true }
  | .cont => { l with cont := true }

/-- One action, with the priority of an active session. A pending `cont` is left for the next stop. -/
def nextActive (l : CoordinatorSignalLatches) :
    Option CoordinatorSignalAction × CoordinatorSignalLatches :=
  if l.frozen then (none, l)
  else if l.hup then (some (.forward .hup), { l with hup := false })
  else if l.term then (some (.forward .term), { l with term := false })
  else if l.tstp then (some .suspend, { l with tstp := false })
  else if l.interrupt then (some (.forward .int), { l with interrupt := false })
  else if l.quit then (some (.forward .quit), { l with quit := false })
  else if l.winch then (some .resize, { l with winch := false })
  else (none, l)

/-- One action of a suspended session, in which `winch` and `tstp` stay pending. -/
def nextSuspended (l : CoordinatorSignalLatches) :
    Option CoordinatorSignalAction × CoordinatorSignalLatches :=
  if l.frozen then (none, l)
  else if l.hup then (some (.forward .hup), { l with hup := false })
  else if l.term then (some (.forward .term), { l with term := false })
  else if l.interrupt then (some (.forward .int), { l with interrupt := false })
  else if l.quit then (some (.forward .quit), { l with quit := false })
  else if l.cont then (some .continue, { l with cont := false })
  else (none, l)

end CoordinatorSignalLatches

/-! ## Calls -/

/-- A terminal size, of which no side is zero. -/
structure TerminalSize where
  rows : CellCount
  columns : CellCount
  valid : rows ≠ 0 ∧ columns ≠ 0

/-- The terminal transitions that do input or output. -/
inductive TerminalStep where
  | enterRaw
  | restoreForSuspend
  | enterRawAfterContinue
  | restore
  | finish
deriving DecidableEq, Repr

inductive DescriptorIsolationRetryOutcome where
  | verified
  | lifecycleReadable
deriving DecidableEq, Repr

inductive CoordinatorOp where
  | pumpOutput
  | pumpInput
  | drainOutput
  | terminalStep (step : TerminalStep)
  | snapshotFingerprint
  | currentSize
  | scan (processGroup : Int)
  | readable
  | awaitReadable
  | guardianLive
  | receive
  | command (command : CoordinatorCommand)
  | takeVerifiedReady
  | takeVerifiedOpenGateAck
  | takeVerifiedExitDisposition
  | nextActive
  | nextSuspended
  | stopAfterSuspendedAck
  | prepareResumeSizeSnapshot
  | freezeForShutdown
  | waitGuardian
  | verifyTerminalEof

/-- What a call answers. -/
abbrev CoordinatorOp.Reply : CoordinatorOp → Type
  | .pumpOutput | .drainOutput | .awaitReadable | .guardianLive | .stopAfterSuspendedAck =>
    Except CoordinatorDriveError Unit
  | .pumpInput | .terminalStep _ => Except CoordinatorTerminalError Unit
  | .snapshotFingerprint => TerminalSnapshotFingerprint
  | .currentSize => Except CoordinatorTerminalError TerminalSize
  | .scan _ => Except CoordinatorDriveError DescriptorIsolationRetryOutcome
  | .readable => Except CoordinatorDriveError Bool
  | .receive => Except ProtocolError GuardianEvent
  | .command _ | .takeVerifiedReady | .takeVerifiedOpenGateAck | .verifyTerminalEof =>
    Except ProtocolError Unit
  | .takeVerifiedExitDisposition => Except ProtocolError GuardianExitDisposition
  | .nextActive | .nextSuspended => Option CoordinatorSignalAction
  | .prepareResumeSizeSnapshot | .freezeForShutdown => Unit
  | .waitGuardian => Except CoordinatorDriveError ExitStatus

/-- A part of the drive, which may give up. -/
abbrev Drive : Type → Type :=
  ExceptT CoordinatorDriveError (Program CoordinatorOp CoordinatorOp.Reply)

namespace Drive

/-- A call that always answers. -/
def ask (op : CoordinatorOp) : Drive op.Reply := ExceptT.lift (Program.perform op)

/-- Give up with the error of an answer. -/
def settle {ε α : Type} (classify : ε → CoordinatorDriveError) : Except ε α → Drive α
  | .ok a => return a
  | .error e => throw (classify e)

def pumpOutput : Drive Unit := do settle id (← ask .pumpOutput)

def pumpInput : Drive Unit := do settle .terminal (← ask .pumpInput)

def drainOutput : Drive Unit := do settle id (← ask .drainOutput)

def terminalStep (step : TerminalStep) : Drive Unit := do settle .terminal (← ask (.terminalStep step))

def readSize : Drive TerminalSize := do settle .terminal (← ask .currentSize)

def verifyReportedChildDescriptorIsolation (processGroup : Int) :
    Drive DescriptorIsolationRetryOutcome := do
  settle id (← ask (.scan processGroup))

def lifecycleReadable : Drive Bool := do settle id (← ask .readable)

def ensureGuardianLive : Drive Unit := do settle id (← ask .guardianLive)

def receive : Drive GuardianEvent := do settle classifyProtocolError (← ask .receive)

/-- Pump output until the wire is readable, and read it. -/
def receiveWithOutput : Drive GuardianEvent := do
  settle id (← ask .awaitReadable)
  receive

def command (command : CoordinatorCommand) : Drive Unit := do
  settle classifyProtocolError (← ask (.command command))

def takeVerifiedReady : Drive Unit := do settle classifyProtocolError (← ask .takeVerifiedReady)

def takeVerifiedOpenGateAck : Drive Unit := do
  settle classifyProtocolError (← ask .takeVerifiedOpenGateAck)

def takeVerifiedExitDisposition : Drive GuardianExitDisposition := do
  settle classifyProtocolError (← ask .takeVerifiedExitDisposition)

def nextActive : Drive (Option CoordinatorSignalAction) := ask .nextActive

def nextSuspended : Drive (Option CoordinatorSignalAction) := ask .nextSuspended

def stopAfterSuspendedAck : Drive Unit := do settle id (← ask .stopAfterSuspendedAck)

def prepareResumeSizeSnapshot : Drive Unit := ask .prepareResumeSizeSnapshot

def freezeForShutdown : Drive Unit := ask .freezeForShutdown

def waitGuardian : Drive ExitStatus := do settle id (← ask .waitGuardian)

def verifyTerminalEof : Drive Unit := do settle classifyProtocolError (← ask .verifyTerminalEof)

end Drive

/-! ## The terminal -/

inductive CoordinatorTerminalOwner where
  | outputOnly
  | gateReady
  | rawAwaitAck
  | active
  | paused
  | suspendedRestored
  | resumeRaw
  | quiesced
  | restored
  | finished
deriving DecidableEq, Repr

namespace CoordinatorTerminalOwner

open Drive

/-- A transition that does input or output. -/
def step (step : TerminalStep) (target : CoordinatorTerminalOwner) : Drive CoordinatorTerminalOwner := do
  terminalStep step
  return target

def snapshotFingerprint : CoordinatorTerminalOwner → Drive TerminalSnapshotFingerprint
  | .outputOnly => ask .snapshotFingerprint
  | _ => throw .protocol

def currentSize : CoordinatorTerminalOwner → Drive TerminalSize
  | .active | .suspendedRestored | .resumeRaw => readSize
  | _ => throw .protocol

/-- Only an active terminal has input to pump. -/
def pumpInputOnce : CoordinatorTerminalOwner → Drive Unit
  | .active => pumpInput
  | _ => return ()

def markReady : CoordinatorTerminalOwner → Drive CoordinatorTerminalOwner
  | .outputOnly => return .gateReady
  | _ => throw .protocol

def enterInitialRaw : CoordinatorTerminalOwner → Drive CoordinatorTerminalOwner
  | .gateReady => step .enterRaw .rawAwaitAck
  | _ => throw .protocol

def openAfterAck : CoordinatorTerminalOwner → Drive CoordinatorTerminalOwner
  | .rawAwaitAck => return .active
  | _ => throw .protocol

def pause : CoordinatorTerminalOwner → Drive CoordinatorTerminalOwner
  | .active => return .paused
  | _ => throw .protocol

def restoreForSuspend : CoordinatorTerminalOwner → Drive CoordinatorTerminalOwner
  | .paused => step .restoreForSuspend .suspendedRestored
  | _ => throw .protocol

def enterResumeRaw : CoordinatorTerminalOwner → Drive CoordinatorTerminalOwner
  | .suspendedRestored => step .enterRawAfterContinue .resumeRaw
  | _ => throw .protocol

def markResumed : CoordinatorTerminalOwner → Drive CoordinatorTerminalOwner
  | .resumeRaw => return .rawAwaitAck
  | _ => throw .protocol

def quiesce : CoordinatorTerminalOwner → CoordinatorTerminalOwner
  | .restored => .restored
  | .finished => .finished
  | _ => .quiesced

def restore : CoordinatorTerminalOwner → Drive CoordinatorTerminalOwner
  | .quiesced => step .restore .restored
  | .restored => return .restored
  | .finished => return .finished
  | _ => throw .protocol

def finish : CoordinatorTerminalOwner → Drive CoordinatorTerminalOwner
  | .restored => step .finish .finished
  | .finished => return .finished
  | _ => throw .protocol

end CoordinatorTerminalOwner

/-! ## The drive -/

/-- What the coordinator keeps for itself. -/
structure ProductionCoordinator where
  terminal : CoordinatorTerminalOwner
  sessionFailed : Bool
deriving DecidableEq, Repr

/-- The children whose descriptors are still to be verified, by their process groups, and whether the
session is ready. -/
structure BootstrapDescriptorGate where
  app : Option Int := none
  tui : Option Int := none
  ready : Bool := false
deriving DecidableEq, Repr

namespace BootstrapDescriptorGate

def insert (gate : BootstrapDescriptorGate) (processGroup : Int) :
    ChildRole → Drive BootstrapDescriptorGate
  | .appServer =>
    if gate.app.isSome then throw .protocol else return { gate with app := some processGroup }
  | .tui => if gate.tui.isSome then throw .protocol else return { gate with tui := some processGroup }

def firstPending (gate : BootstrapDescriptorGate) : Option (ChildRole × Int) :=
  (gate.app.map (.appServer, ·)).or (gate.tui.map (.tui, ·))

def clear (gate : BootstrapDescriptorGate) : ChildRole → BootstrapDescriptorGate
  | .appServer => { gate with app := none }
  | .tui => { gate with tui := none }

end BootstrapDescriptorGate

inductive GateOutcome where
  | open
  | failed
deriving DecidableEq, Repr

inductive ControlOutcome where
  | continue
  | shutdown
  | quiesced
  | failed
deriving DecidableEq, Repr

/-- Where a round of the drive starts. -/
inductive DrivePoint where
  | bootstrap (coordinator : ProductionCoordinator) (snapshot : TerminalSnapshotFingerprint)
      (gate : BootstrapDescriptorGate)
  | active (coordinator : ProductionCoordinator)
  | suspended (coordinator : ProductionCoordinator)
deriving DecidableEq, Repr

/-- What a round of the drive comes to. -/
abbrev DriveTurn : Type :=
  DrivePoint ⊕ (ProductionCoordinator × ExitStatus × CoordinatorTerminalReport)

namespace ProductionCoordinator

open Drive

/-- One more failure may be announced before the terminal is quiesced, unless the session has failed
already. -/
def awaitQuiescence (c : ProductionCoordinator) : Drive ProductionCoordinator := do
  match ← receiveWithOutput with
  | .terminalQuiesced => return c
  | .failed _ _ =>
    if c.sessionFailed then throw .protocol
    freezeForShutdown
    match ← receiveWithOutput with
    | .terminalQuiesced => return { c with sessionFailed := true }
    | _ => throw .protocol
  | _ => throw .protocol

/-- The report on the reaped children, with the disposition that the receiver verified. -/
def takeReport (event : GuardianEvent) :
    Drive (CoordinatorTerminalReport × GuardianExitDisposition) :=
  match event with
  | .childrenReaped app tui worker cleanup session guardianExit => do
    let verifiedExit ← takeVerifiedExitDisposition
    return ({ app, tui, worker, cleanup, session, guardianExit }, verifiedExit)
  | _ => throw .protocol

/-- The report, before which a failed worker may be announced unless the session has failed. -/
def awaitReaped (sessionFailed : Bool) :
    Drive (CoordinatorTerminalReport × GuardianExitDisposition) := do
  let event ← receive
  if event = .failed .worker .worker ∧ ¬sessionFailed then
    takeReport (← receive)
  else takeReport event

def finishShutdown (c : ProductionCoordinator) : Drive DriveTurn := do
  freezeForShutdown
  drainOutput
  let terminal ← c.terminal.quiesce.restore
  let terminal ← terminal.finish
  command .terminalRestored
  if (← receive) ≠ .terminalRecoveryDisarmed then throw .protocol
  let (report, verifiedExit) ← awaitReaped c.sessionFailed
  let guardianStatus ← waitGuardian
  verifyTerminalEof
  if ¬guardianStatusMatches guardianStatus verifiedExit ∨ report.guardianExit ≠ verifiedExit then
    throw .protocol
  return .inr ({ c with terminal }, guardianStatus, report)

/-- The shutdown after an announced failure. -/
def failedShutdown (c : ProductionCoordinator) : Drive DriveTurn := do
  freezeForShutdown
  let c ← awaitQuiescence { c with sessionFailed := true }
  c.finishShutdown

def openGateWithOutput : Drive GateOutcome := do
  command .openInputGate
  match ← receiveWithOutput with
  | .inputGateOpened =>
    takeVerifiedOpenGateAck
    return .open
  | .failed _ _ => return .failed
  | _ => throw .protocol

def forwardSignal (signal : UnixSignal) : Drive ControlOutcome := do
  command (.signal signal)
  match ← receiveWithOutput with
  | .signalForwarded forwarded =>
    if forwarded ≠ signal then throw .protocol
    return if signal = .hup ∨ signal = .term then .shutdown else .continue
  | .terminalQuiesced =>
    if signal = .int ∨ signal = .quit then return .quiesced else throw .protocol
  | .failed _ _ => return .failed
  | _ => throw .protocol

def resize (c : ProductionCoordinator) : Drive ControlOutcome := do
  let size ← c.terminal.currentSize
  command (.resize size.rows size.columns)
  match ← receiveWithOutput with
  | .resizeApplied rows cols =>
    if rows = size.rows ∧ cols = size.columns then return .continue else throw .protocol
  | .terminalQuiesced => return .quiesced
  | .failed _ _ => return .failed
  | _ => throw .protocol

/-- Suspend the session, up to the loop that waits for its continuation. There is an outcome if the
loop is not reached. -/
def suspend (c : ProductionCoordinator) : Drive (ProductionCoordinator × Option ControlOutcome) := do
  -- Input storage disappears before the guardian sees the command.
  let terminal ← c.terminal.pause
  command .suspend
  match ← receiveWithOutput with
  | .suspended =>
    let terminal ← terminal.restoreForSuspend
    stopAfterSuspendedAck
    return ({ c with terminal }, none)
  | .failed _ _ => return ({ c with terminal }, some .failed)
  | _ => throw .protocol

def resumeAfterContinue (c : ProductionCoordinator) : Drive (ProductionCoordinator × ControlOutcome) := do
  let terminal ← c.terminal.enterResumeRaw
  prepareResumeSizeSnapshot
  let size ← terminal.currentSize
  command (.resume size.rows size.columns)
  match ← receiveWithOutput with
  | .resumed rows cols =>
    if rows = size.rows ∧ cols = size.columns then
      takeVerifiedReady
      let terminal ← terminal.markResumed
      match ← openGateWithOutput with
      | .open =>
        let terminal ← terminal.openAfterAck
        return ({ c with terminal }, .continue)
      | .failed => return ({ c with terminal }, .failed)
    else throw .protocol
  | .failed _ _ => return ({ c with terminal }, .failed)
  | _ => throw .protocol

def handleControl (c : ProductionCoordinator) :
    CoordinatorSignalAction → Drive (ProductionCoordinator × Option ControlOutcome)
  | .forward signal => do return (c, some (← forwardSignal signal))
  | .resize => do return (c, some (← c.resize))
  | .suspend => c.suspend
  | .continue => throw .protocol

/-- The rest of a round of the active loop, once no control is left to handle. -/
def activePoll (c : ProductionCoordinator) : Drive DriveTurn := do
  if ← lifecycleReadable then
    match ← receive with
    | .terminalQuiesced => c.finishShutdown
    | .failed _ _ => c.failedShutdown
    | _ => throw .protocol
  else
    ensureGuardianLive
    return .inl (.active c)

/-- The active loop and the rest of the drive, after a control. -/
def afterControl (c : ProductionCoordinator) : ControlOutcome → Drive DriveTurn
  | .continue => c.activePoll
  | .shutdown => do
    freezeForShutdown
    let c ← c.awaitQuiescence
    c.finishShutdown
  | .quiesced => c.finishShutdown
  | .failed => c.failedShutdown

/-- One round of `run_active`. -/
def activeTurn (c : ProductionCoordinator) : Drive DriveTurn := do
  pumpOutput
  c.terminal.pumpInputOnce
  match ← nextActive with
  | some action =>
    match ← c.handleControl action with
    | (c, some outcome) => c.afterControl outcome
    | (c, none) => return .inl (.suspended c)
  | none => c.activePoll

/-- The rest of a round of the suspended loop, once no signal is left to handle. -/
def suspendedPoll (c : ProductionCoordinator) : Drive DriveTurn := do
  if ← lifecycleReadable then
    match ← receive with
    | .failed _ _ => c.afterControl .failed
    | _ => throw .protocol
  else
    ensureGuardianLive
    return .inl (.suspended c)

/-- One round of the loop in `suspend_and_resume`. -/
def suspendedTurn (c : ProductionCoordinator) : Drive DriveTurn := do
  pumpOutput
  match ← nextSuspended with
  | some .continue =>
    let (c, outcome) ← c.resumeAfterContinue
    c.afterControl outcome
  | some (.forward signal) =>
    match ← forwardSignal signal with
    | .continue => c.suspendedPoll
    | outcome => c.afterControl outcome
  | some .resize | some .suspend => throw .protocol
  | none => c.suspendedPoll

/-- From readiness to the active loop. -/
def ready (c : ProductionCoordinator) : Drive DriveTurn := do
  let terminal ← c.terminal.markReady
  drainOutput
  let terminal ← terminal.enterInitialRaw
  match ← openGateWithOutput with
  | .open =>
    let terminal ← terminal.openAfterAck
    return .inl (.active { c with terminal })
  | .failed => failedShutdown { c with terminal }

/-- The receive of a round of `bootstrap`. -/
def bootstrapReceive (c : ProductionCoordinator) (snapshot : TerminalSnapshotFingerprint)
    (gate : BootstrapDescriptorGate) : Drive DriveTurn := do
  match ← receiveWithOutput with
  | .terminalArmed guardianSnapshot =>
    if snapshot = guardianSnapshot then
      command .terminalArmAccepted
      return .inl (.bootstrap c snapshot gate)
    else throw .snapshot
  | .childStarted role _ pgid => return .inl (.bootstrap c snapshot (← gate.insert pgid role))
  | .ready =>
    takeVerifiedReady
    return .inl (.bootstrap c snapshot { gate with ready := true })
  | .failed _ _ => c.failedShutdown
  | _ => throw .protocol

/-- One round of `bootstrap`. -/
def bootstrapTurn (c : ProductionCoordinator) (snapshot : TerminalSnapshotFingerprint)
    (gate : BootstrapDescriptorGate) : Drive DriveTurn := do
  match gate.firstPending with
  | some (role, processGroup) =>
    match ← verifyReportedChildDescriptorIsolation processGroup with
    | .verified =>
      command (.childDescriptorsVerified role)
      return .inl (.bootstrap c snapshot (gate.clear role))
    | .lifecycleReadable => c.bootstrapReceive snapshot gate
  | none => if gate.ready then c.ready else c.bootstrapReceive snapshot gate

/-- The drive, up to its first loop. -/
def drive (c : ProductionCoordinator) : Drive DriveTurn := do
  if (← receiveWithOutput) ≠ .leaseCommitted then throw .protocol
  command .start
  let snapshot ← c.terminal.snapshotFingerprint
  return .inl (.bootstrap c snapshot {})

/-- One round of the drive. -/
def turn : DrivePoint → Drive DriveTurn
  | .bootstrap c snapshot gate => c.bootstrapTurn snapshot gate
  | .active c => c.activeTurn
  | .suspended c => c.suspendedTurn

/-- A coordinator whose drive gives up retains its generation. -/
def conclude : Except CoordinatorDriveError DriveTurn → DrivePoint ⊕ CoordinatorRunOutcome
  | .ok (.inl point) => .inl point
  | .ok (.inr (c, status, report)) =>
    .inr (if c.terminal = .finished then .terminal status report else .aborted)
  | .error error => .inr (.retained error)

def new : ProductionCoordinator where
  terminal := .outputOnly
  sessionFailed := false

/-- A run, up to the first round. -/
def run : Program CoordinatorOp CoordinatorOp.Reply (DrivePoint ⊕ CoordinatorRunOutcome) :=
  conclude <$> new.drive.run

/-- A round of a run. -/
def runTurn (point : DrivePoint) :
    Program CoordinatorOp CoordinatorOp.Reply (DrivePoint ⊕ CoordinatorRunOutcome) :=
  conclude <$> (turn point).run

end ProductionCoordinator

end Calcifer.Supervisor
