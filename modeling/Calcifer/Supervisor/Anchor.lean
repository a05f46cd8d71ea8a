import Calcifer.Supervisor.Coordinator
import Calcifer.Supervisor.Shutdown

/-!
# The anchor

The anchor is the process that the shell waits for. It owns the coordinator as its direct child, a
snapshot of the outer terminal and the reading end of the completion endpoint, and returns to the shell
only after the exact wait for its child and the frame of a released provider, followed by the end of
the stream.

`drive` goes round by round: every turn of one of its loops is a round. What the source keeps apart as
`self.park()` and as the end of the process are the two results of the drive.
-/

namespace Calcifer.Supervisor

/-! ## The completion endpoint -/

inductive CompletionError where
  | descriptor
  | missingFrame
  | invalidFrame
  | trailingData
  | io
  | recoveryDeadline
  | recoveryReplay
  | recoveryTooLate
deriving DecidableEq, Repr

inductive CompletionPoll where
  | pending
  | verified
  | retainedUnrecoverable
deriving DecidableEq, Repr

def completionFrameLength : Nat := 8

/-- `CFCMP\x01\r\n` and `CFRET\x01\r\n`. -/
def CompletionTerminalFrame.bytes : CompletionTerminalFrame → List UInt8
  | .providerReleased => [67, 70, 67, 77, 80, 1, 13, 10]
  | .retainedUnrecoverable => [67, 70, 82, 69, 84, 1, 13, 10]

theorem CompletionTerminalFrame.bytes_length (frame : CompletionTerminalFrame) :
    frame.bytes.length = completionFrameLength := by
  cases frame <;> rfl

def CompletionTerminalFrame.ofBytes (read : List UInt8) : Option CompletionTerminalFrame :=
  if read = bytes .providerReleased then some .providerReleased
  else if read = bytes .retainedUnrecoverable then some .retainedUnrecoverable
  else none

/-- The frame read so far, what a full frame says, and the first error, which is final. -/
structure AnchorCompletion where
  frame : List UInt8
  terminalFrame : Option CompletionTerminalFrame
  terminalError : Option CompletionError
deriving DecidableEq, Repr

def AnchorCompletion.adopt : AnchorCompletion where
  frame := []
  terminalFrame := none
  terminalError := none

/-! ## Calls -/

/-- Why a wait for the child does not answer. -/
inductive WaitError where
  | interrupted
  | failed
deriving DecidableEq, Repr

inductive ChildKernelState where
  | running
  | stopped
  | exited
deriving DecidableEq, Repr

/-- The process group in the foreground of the outer terminal. -/
inductive ForegroundGroup where
  | anchor
  | coordinator
  | other
deriving DecidableEq, Repr

/-- The signals that the anchor sends to the coordinator. -/
inductive AnchorSignal where
  | unix (signal : UnixSignal)
  | winch
  | tstp
  | cont
  | kill
deriving DecidableEq, Repr

/-- What a read of the completion endpoint finds; the end of the stream is an empty piece. -/
inductive ReadReply where
  | bytes (piece : List UInt8)
  | interrupted
  | wouldBlock
  | failed
deriving DecidableEq, Repr

inductive AnchorOp where
  | tryWait
  | verifyIdentity
  | read (limit : Nat)
  | nextActive
  | nextSuspended
  | freezeForShutdown
  | signalCoordinator (signal : AnchorSignal)
  | peekChildState
  | beforeDeadline
  | stopAfterSuspendedAck
  | ownsTerminal
  | foreground
  | selectForeground (source target : ForegroundGroup)
  | restoreSnapshot
  | emulateDefaultHandler (signal : UInt8)
deriving DecidableEq, Repr

/-- What a call answers. A restored snapshot comes with whether it is the one of the same terminal. -/
abbrev AnchorOp.Reply : AnchorOp → Type
  | .tryWait => Except WaitError (Option ExitStatus)
  | .verifyIdentity | .signalCoordinator _ | .beforeDeadline | .stopAfterSuspendedAck | .ownsTerminal
  | .selectForeground _ _ | .emulateDefaultHandler _ => Bool
  | .read _ => ReadReply
  | .nextActive | .nextSuspended => Option CoordinatorSignalAction
  | .freezeForShutdown => Unit
  | .peekChildState => Except WaitError ChildKernelState
  | .foreground => Option ForegroundGroup
  | .restoreSnapshot => Option Bool

abbrev Anchor : Type → Type := Program AnchorOp AnchorOp.Reply

def Anchor.ask (op : AnchorOp) : Anchor op.Reply := Program.perform op

open Anchor

/-! ## The drive -/

/-- What the anchor keeps of its generation. -/
structure AnchorGeneration where
  completion : AnchorCompletion
  childStatus : Option ExitStatus
  completionVerified : Bool
deriving DecidableEq, Repr

def AnchorGeneration.start : AnchorGeneration where
  completion := .adopt
  childStatus := none
  completionVerified := false

/-- The loops of the drive: its own, and those that read the completion endpoint, that wait for the
coordinator to stop and for the continuation of a suspended session, and that wait for the end of a
coordinator that was told to end. -/
inductive AnchorPoint where
  | top
  | polling
  | awaitingStop
  | suspended (dispatched : Bool)
  | reaping (killed : Bool)
deriving DecidableEq, Repr

/-- The anchor returns to the shell, or lives on with what it owns. -/
inductive AnchorEnd where
  | returns (status : ExitStatus)
  | parks
deriving DecidableEq, Repr

/-- Where a turn leads to. -/
abbrev AnchorStep : Type := (AnchorPoint × AnchorGeneration) ⊕ AnchorEnd

namespace AnchorGeneration

/-- Both the identity of the terminal and the group in its foreground are checked before anything is
restored. -/
def restoreAnchorTerminal : Anchor Bool := do
  if ¬(← ask .ownsTerminal) then return false
  match ← ask .foreground with
  | none | some .other => return false
  | some .anchor => return (← ask .restoreSnapshot).isSome
  | some .coordinator =>
    if ← ask (.selectForeground .coordinator .anchor) then return (← ask .restoreSnapshot).isSome
    else return false

/-- The status of the coordinator, as the shell sees it. -/
def propagateAnchorStatus : ExitStatus → Anchor ExitStatus
  | .code code => return .code code
  | .signal signal => return if ← ask (.emulateDefaultHandler signal) then .signal signal else .code 1

def finishVerified (status : ExitStatus) : Anchor AnchorStep := do
  if ← restoreAnchorTerminal then return .inr (.returns (← propagateAnchorStatus status))
  else return .inr .parks

/-- Restoring the terminal is not a cleanup proof: without the frame, the anchor stays. -/
def finishEmergency (g : AnchorGeneration) : Anchor AnchorStep := do
  if ← restoreAnchorTerminal then
    return .inr (if g.completionVerified then .returns (.code 1) else .parks)
  else return .inr .parks

def emergencyFailure (g : AnchorGeneration) : Anchor AnchorStep := do
  ask .freezeForShutdown
  if g.childStatus.isSome then finishEmergency g
  else
    let _ ← ask (.signalCoordinator (.unix .term))
    return .inl (.reaping false, g)

/-- One wait for the end of a coordinator that was told to end, and is killed if it does not. -/
def reap (killed : Bool) (g : AnchorGeneration) : Anchor AnchorStep := do
  match ← ask .tryWait with
  | .ok (some status) => finishEmergency { g with childStatus := some status }
  | .ok none =>
    if ← ask .beforeDeadline then return .inl (.reaping killed, g)
    else if killed then return .inr .parks
    else
      let _ ← ask (.signalCoordinator .kill)
      return .inl (.reaping true, g)
  | .error .interrupted =>
    if ← ask .beforeDeadline then return .inl (.reaping killed, g) else return .inr .parks
  | .error .failed => return .inr .parks

/-- The child can end between the wait and the signal, and is looked at once more. -/
def recheckChild (g : AnchorGeneration) : Anchor AnchorStep := do
  match ← ask .tryWait with
  | .ok (some status) => return .inl (.top, { g with childStatus := some status })
  | .ok none => emergencyFailure g
  | .error .interrupted => return .inl (.top, g)
  | .error .failed => emergencyFailure g

/-- Give the terminal and the shell's job control back while the coordinator is stopped. -/
def relayStoppedCoordinator (dispatched : Bool) (g : AnchorGeneration) : Anchor AnchorStep := do
  if ¬(← ask (.selectForeground .coordinator .anchor)) then recheckChild g
  else if (← ask .restoreSnapshot) ≠ some true then recheckChild g
  else if ← ask .stopAfterSuspendedAck then return .inl (.suspended dispatched, g)
  else recheckChild g

def peekChildState : Anchor (Option ChildKernelState) := do
  match ← ask .peekChildState with
  | .ok state => return some state
  | .error .interrupted => return some .running
  | .error .failed => return none

/-- A stop that the terminal sent to the coordinator is relayed to the anchor's own group. -/
def relayObservedCoordinatorStop (g : AnchorGeneration) : Anchor AnchorStep := do
  match ← peekChildState with
  | some .stopped => relayStoppedCoordinator false g
  | some .running | some .exited => return .inl (.top, g)
  | none => recheckChild g

/-- Take the terminal away from the shell again, and let the coordinator go on. -/
def resumeCoordinator (dispatched : Bool) (g : AnchorGeneration) : Anchor AnchorStep := do
  if (← peekChildState) ≠ some .stopped then recheckChild g
  else if ¬(← ask (.selectForeground .anchor .coordinator)) then recheckChild g
  else if ¬(← ask (.signalCoordinator .cont)) then recheckChild g
  else if dispatched then relayObservedCoordinatorStop g
  else return .inl (.top, g)

/-- One action of a suspended session. -/
def relaySuspended (dispatched : Bool) (g : AnchorGeneration) : Anchor AnchorStep := do
  match ← ask .nextSuspended with
  | some .continue => resumeCoordinator dispatched g
  | some (.forward signal) =>
    if ← ask (.signalCoordinator (.unix signal)) then return .inl (.suspended dispatched, g)
    else recheckChild g
  | some .resize | some .suspend | none => return .inl (.suspended dispatched, g)

/-- One look at a coordinator that was asked to stop. -/
def awaitCoordinatorStopped (g : AnchorGeneration) : Anchor AnchorStep := do
  match ← peekChildState with
  | some .stopped => relayStoppedCoordinator true g
  | some .exited =>
    match ← ask .tryWait with
    | .ok status => recheckChild { g with childStatus := status }
    | .error _ => recheckChild g
  | some .running =>
    if ← ask .beforeDeadline then return .inl (.awaitingStop, g) else recheckChild g
  | none => recheckChild g

def dispatchSignal (g : AnchorGeneration) : Anchor AnchorStep := do
  let forward (signal : AnchorSignal) : Anchor AnchorStep := do
    if ← ask (.signalCoordinator signal) then relayObservedCoordinatorStop g else recheckChild g
  match ← ask .nextActive with
  | none => relayObservedCoordinatorStop g
  | some (.forward signal) => forward (.unix signal)
  | some .resize => forward .winch
  | some .suspend =>
    if ← ask (.signalCoordinator .tstp) then return .inl (.awaitingStop, g) else recheckChild g
  | some .continue => recheckChild g

/-- What follows the poll of the completion endpoint. -/
def afterPoll (g : AnchorGeneration) : Anchor AnchorStep :=
  match g.childStatus with
  | some status =>
    if g.completionVerified then finishVerified status else return .inl (.top, g)
  | none => dispatchSignal g

/-- The first error of the endpoint is final. -/
def failPoll (g : AnchorGeneration) (error : CompletionError) : Anchor AnchorStep :=
  emergencyFailure { g with completion := { g.completion with terminalError := some error } }

/-- A full frame says something only at the end of the stream. -/
def decodeTrailing (g : AnchorGeneration) : Anchor AnchorStep :=
  match g.completion.terminalFrame.or (CompletionTerminalFrame.ofBytes g.completion.frame) with
  | none => g.failPoll .invalidFrame
  | some frame => do
    let g := { g with completion := { g.completion with terminalFrame := some frame } }
    match ← ask (.read 1) with
    | .bytes [] =>
      match frame with
      | .providerReleased => afterPoll { g with completionVerified := true }
      | .retainedUnrecoverable => return .inr .parks
    | .bytes (_ :: _) => g.failPoll .trailingData
    | .interrupted => return .inl (.polling, g)
    | .wouldBlock => afterPoll g
    | .failed => g.failPoll .io

/-- One read of the completion endpoint. -/
def decodeCompletionOnce (g : AnchorGeneration) : Anchor AnchorStep := do
  if g.completion.frame.length < completionFrameLength then
    match ← ask (.read (completionFrameLength - g.completion.frame.length)) with
    | .bytes [] => g.failPoll .missingFrame
    | .bytes (b :: piece) =>
      let g := { g with completion := { g.completion with frame := g.completion.frame ++ b :: piece } }
      if g.completion.frame.length < completionFrameLength then return .inl (.polling, g)
      else decodeTrailing g
    | .interrupted => return .inl (.polling, g)
    | .wouldBlock => afterPoll g
    | .failed => g.failPoll .io
  else decodeTrailing g

def pollOnce (g : AnchorGeneration) : Anchor AnchorStep := do
  match g.completion.terminalError with
  | some error => g.failPoll error
  | none => if ← ask .verifyIdentity then decodeCompletionOnce g else g.failPoll .descriptor

/-- The head of the loop. -/
def drive (g : AnchorGeneration) : Anchor AnchorStep := do
  let observed (g : AnchorGeneration) : Anchor AnchorStep :=
    if g.completionVerified then afterPoll g else pollOnce g
  if g.childStatus.isSome then observed g
  else
    match ← ask .tryWait with
    | .ok status => observed { g with childStatus := status }
    | .error .interrupted => observed g
    | .error .failed => emergencyFailure g

/-- A round of the drive. -/
def turn : AnchorPoint × AnchorGeneration → Anchor AnchorStep
  | (.top, g) => g.drive
  | (.polling, g) => g.decodeCompletionOnce
  | (.awaitingStop, g) => g.awaitCoordinatorStopped
  | (.suspended dispatched, g) => g.relaySuspended dispatched
  | (.reaping killed, g) => g.reap killed

end AnchorGeneration

end Calcifer.Supervisor
