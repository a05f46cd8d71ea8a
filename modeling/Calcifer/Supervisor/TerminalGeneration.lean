import Calcifer.Supervisor.OutputPump
import Calcifer.Supervisor.Shutdown

/-!
# The terminal of a session

`TerminalGenerationOwner` holds the TUI of a session, the guardian's end of the terminal channel, the
pump between the two and the recovery of the outer terminal. The pump reads the channel only as a
`duplex` one; every other state of it has no buffer for input.

The bytes of the channel are numbered as they arrive, so that it can be said which of them are forwarded
to the TUI. What the TUI writes is not looked at.
-/

namespace Calcifer.Supervisor

/-! ## The pump -/

inductive TerminalPumpFailure where
  | deadline
  | invalidState
  | tuiOutputEof
  | terminalChannelEof
  | tuiRead
  | tuiWrite
  | terminalChannelRead
  | terminalChannelWrite
  | signal
  | resize
  | suspend
  | resume
deriving DecidableEq, Repr

inductive TerminalPumpProgress where
  | idle
  | output
  | input
  | duplex
  | tuiOutputClosed
deriving DecidableEq, Repr

/-- The buffers of a pump are empty between two turns and are left out. -/
inductive TerminalPumpAuthority where
  | outputOnly
  | duplex
  | suspended (resumed : Bool)
  | outputClosed
  | quiesced
  | failed (error : TerminalPumpFailure)
deriving DecidableEq, Repr

inductive TuiAuthority where
  | live
  | retained
  | reaped (outcome : ShutdownOutcome)
deriving DecidableEq, Repr

inductive TerminalShutdownSignal where
  | hup
  | term
deriving DecidableEq, Repr

/-- The size that was applied last is a number of rows and of columns. -/
structure TerminalGenerationOwner where
  tui : Option TuiAuthority
  appliedTerminalSize : Option (CellCount × CellCount)
  forwardedShutdown : Option TerminalShutdownSignal
  terminationCause : Option SessionTerminationCause
  pump : TerminalPumpAuthority
  recovery : Option TerminalRecoveryAuthority
deriving DecidableEq, Repr

/-! ## The terminal channel -/

/-- A byte of the channel, with its place among all that arrive. -/
structure ChannelByte where
  position : ℕ
  byte : UInt8
deriving DecidableEq, Repr

/-- The guardian's end of the channel: how many bytes have arrived, those that are not read yet, and
whether the other end is closed. -/
structure TerminalChannel where
  arrived : ℕ
  pending : List ChannelByte
  closed : Bool
deriving DecidableEq, Repr

/-- What happens up to a read of the channel. The kernel delivers what is pending, up to a limit of its
own choice, or fails. An interrupted read is repeated at once. -/
inductive KernelReply where
  | deliver (limit : ℕ)
  | failed
deriving DecidableEq, Repr

structure ReadTurn where
  arrives : List UInt8
  closes : Bool
  reply : KernelReply
deriving DecidableEq, Repr

inductive TerminalRead where
  | data (chunk : List ChannelByte)
  | endOfStream
  | wouldBlock
  | failed
deriving DecidableEq, Repr

namespace TerminalChannel

/-- Number bytes from a position on. -/
def number : ℕ → List UInt8 → List ChannelByte
  | _, [] => []
  | position, byte :: bytes => ⟨position, byte⟩ :: number (position + 1) bytes

def arrive (c : TerminalChannel) (bytes : List UInt8) : TerminalChannel :=
  { c with
    arrived := c.arrived + bytes.length
    pending := c.pending ++ number c.arrived bytes }

/-- A nonblocking read blocks only when nothing is pending. -/
def read (c : TerminalChannel) (turn : ReadTurn) : TerminalRead × TerminalChannel :=
  let c := { c.arrive turn.arrives with closed := c.closed || turn.closes }
  match turn.reply with
  | .failed => (.failed, c)
  | .deliver limit =>
    if c.pending = [] then (if c.closed then .endOfStream else .wouldBlock, c)
    else
      let count := max 1 (min limit terminalBufferCapacity)
      (.data (c.pending.take count), { c with pending := c.pending.drop count })

end TerminalChannel

/-! ## Fragments -/

/-- A round of the loop that writes a fragment. -/
inductive WriteRound where
  | expired
  | write (reply : WriteReply)
deriving DecidableEq, Repr

/-- Write a fragment before a deadline: whether it is written, and what of it is. The rounds end when the
deadline passes. -/
def writeFragmentBefore {α : Type} (failure : TerminalPumpFailure) :
    (chunk : List α) → List WriteRound → Except TerminalPumpFailure Unit × List α
  | [], _ => (.ok (), [])
  | _ :: _, [] | _ :: _, .expired :: _ => (.error .deadline, [])
  | _ :: _, .write .failed :: _ => (.error failure, [])
  | b :: chunk, .write .interrupted :: rounds | b :: chunk, .write .wouldBlock :: rounds =>
    writeFragmentBefore failure (b :: chunk) rounds
  | b :: chunk, .write (.accepted count) :: rounds =>
    let count := min count (chunk.length + 1)
    if count = 0 then (.error failure, [])
    else
      let (result, written) := writeFragmentBefore failure ((b :: chunk).drop count) rounds
      (result, (b :: chunk).take count ++ written)

inductive DiscardRound where
  | expired
  | read (turn : ReadTurn)
deriving DecidableEq, Repr

def terminalDiscardMaxFragments : ℕ := 64

/-- Drop what is pending, fragment by fragment, until nothing is. -/
def discardFragments : ℕ → List DiscardRound → TerminalChannel →
    Except TerminalPumpFailure Unit × TerminalChannel
  | 0, _, c | _ + 1, [], c | _ + 1, .expired :: _, c => (.error .deadline, c)
  | fragments + 1, .read turn :: rounds, c =>
    match c.read turn with
    | (.data _, c) => discardFragments fragments rounds c
    | (.wouldBlock, c) => (.ok (), c)
    | (.endOfStream, c) => (.error .terminalChannelEof, c)
    | (.failed, c) => (.error .terminalChannelRead, c)

def discardTerminalInputBefore (rounds : List DiscardRound) (c : TerminalChannel) :
    Except TerminalPumpFailure Unit × TerminalChannel :=
  discardFragments terminalDiscardMaxFragments rounds c

/-! ## Turns of the pump -/

/-- What the TUI has written, and how it is passed on to the channel. -/
inductive OutputTurn where
  | data (fragment : List UInt8) (rounds : List WriteRound)
  | wouldBlock
  | endOfStream
  | failed
deriving DecidableEq, Repr

/-- One turn: the output, then a read of the channel and the rounds that pass it on to the TUI. -/
structure GuardianPumpTurn where
  output : OutputTurn
  input : ReadTurn
  inputRounds : List WriteRound
deriving DecidableEq, Repr

/-- The output of a turn, and whether there was any. -/
def pumpOutput : OutputTurn → Except TerminalPumpFailure Bool
  | .data fragment rounds =>
    (writeFragmentBefore .terminalChannelWrite fragment rounds).1.map fun _ => true
  | .wouldBlock => .ok false
  | .endOfStream => .error .tuiOutputEof
  | .failed => .error .tuiRead

/-- The input of a turn: whether there was any, the channel, and what was forwarded to the TUI. -/
def pumpInput (c : TerminalChannel) (turn : GuardianPumpTurn) :
    Except TerminalPumpFailure Bool × TerminalChannel × List ChannelByte :=
  match c.read turn.input with
  | (.data chunk, c) =>
    let (result, written) := writeFragmentBefore .tuiWrite chunk turn.inputRounds
    (result.map fun _ => true, c, written)
  | (.wouldBlock, c) => (.ok false, c, [])
  | (.endOfStream, c) => (.error .terminalChannelEof, c, [])
  | (.failed, c) => (.error .terminalChannelRead, c, [])

def pumpProgress : (output input : Bool) → TerminalPumpProgress
  | false, false => .idle
  | true, false => .output
  | false, true => .input
  | true, true => .duplex

def pumpGuardianTerminalOnce (pump : TerminalPumpAuthority) (c : TerminalChannel) (turn : GuardianPumpTurn) :
    Except TerminalPumpFailure TerminalPumpProgress × TerminalChannel × List ChannelByte :=
  match pump with
  | .outputClosed => (.ok .tuiOutputClosed, c, [])
  | .quiesced => (.ok .idle, c, [])
  | .failed error => (.error error, c, [])
  | .outputOnly | .suspended _ =>
    ((pumpOutput turn.output).map fun output => pumpProgress output false, c, [])
  | .duplex =>
    match pumpOutput turn.output with
    | .error error => (.error error, c, [])
    | .ok output =>
      let (result, c, written) := pumpInput c turn
      (result.map (pumpProgress output), c, written)

/-! ## Steps of a shutdown -/

namespace Teardown

inductive SessionMonitorError where
  | invalidArgument
  | handshake
  | protocol
  | authentication
  | provider
  | unsupported
  | timeout
  | transport
  | worker
  | appServer
deriving DecidableEq, Repr

inductive SessionComponent where
  | monitorAndApp
  | readinessRelay
  | tui
deriving DecidableEq, Repr

inductive SessionOperationError where
  | recoveryRequested
  | deadline
  | monitor (error : SessionMonitorError)
  | component (component : SessionComponent)
  | terminalPump (failure : TerminalPumpFailure)
deriving DecidableEq, Repr

structure ShutdownStep where
  progress : ShutdownProgress
  operationError : Option SessionOperationError
  cleanupError : Option SessionCleanupError
deriving DecidableEq, Repr

namespace ShutdownStep

def advanced : ShutdownStep := ⟨.advanced, none, none⟩

def advancedWith (operationError : Option SessionOperationError)
    (cleanupError : Option SessionCleanupError) : ShutdownStep :=
  ⟨.advanced, operationError, cleanupError⟩

def retained (operationError : Option SessionOperationError)
    (cleanupError : Option SessionCleanupError) : ShutdownStep :=
  ⟨.retained, operationError, cleanupError⟩

end ShutdownStep

end Teardown

/-- The ways in which the TUI is shut down. -/
inductive TuiShutdownCall where
  | afterForwardedSignal (signal : TerminalShutdownSignal)
  | afterOutputEof
  | plain
  | retry
deriving DecidableEq, Repr

/-! ## The operations of the owner -/

namespace TerminalGenerationOwner

def new : TerminalGenerationOwner where
  tui := some .live
  appliedTerminalSize := none
  forwardedShutdown := none
  terminationCause := none
  pump := .outputOnly
  recovery := some (.armed true)

/-- The end of the output is the normal end of the TUI; any other failure is kept. -/
def applyGuardianPumpResult (o : TerminalGenerationOwner) :
    Except TerminalPumpFailure TerminalPumpProgress →
      Except TerminalPumpFailure TerminalPumpProgress × TerminalGenerationOwner
  | .ok progress => (.ok progress, o)
  | .error .tuiOutputEof =>
    (.ok .tuiOutputClosed, { o with
      pump := .outputClosed
      terminationCause := some .naturalTuiEof })
  | .error error => (.error error, { o with pump := .failed error })

def pumpOnce (o : TerminalGenerationOwner) (c : TerminalChannel) (turn : GuardianPumpTurn) :
    Except TerminalPumpFailure TerminalPumpProgress × TerminalGenerationOwner × TerminalChannel ×
      List ChannelByte :=
  if o.tui ≠ some .live then (.error .invalidState, o, c, [])
  else
    let (result, c, written) := pumpGuardianTerminalOnce o.pump c turn
    let (result, o) := o.applyGuardianPumpResult result
    (result, o, c, written)

/-- Open the gate of a session that was not suspended. The caller gives its proof away. -/
def openInitialIngress (o : TerminalGenerationOwner) (c : TerminalChannel) (rounds : List DiscardRound) :
    Except TerminalPumpFailure Unit × TerminalGenerationOwner × TerminalChannel :=
  match discardTerminalInputBefore rounds c with
  | (.error error, c) => (.error error, o, c)
  | (.ok (), c) =>
    match o.pump with
    | .outputOnly => (.ok (), { o with pump := .duplex }, c)
    | _ => (.error .invalidState, o, c)

/-- Open the gate of a session that was resumed. The caller gives its proof away. -/
def openResumedIngress (o : TerminalGenerationOwner) (c : TerminalChannel) (rounds : List DiscardRound) :
    Except TerminalPumpFailure Unit × TerminalGenerationOwner × TerminalChannel :=
  match discardTerminalInputBefore rounds c with
  | (.error error, c) => (.error error, o, c)
  | (.ok (), c) =>
    match o.pump with
    | .suspended true => (.ok (), { o with pump := .duplex }, c)
    | _ => (.error .invalidState, o, c)

def beginOutputDrain (o : TerminalGenerationOwner) :
    Except TerminalPumpFailure Unit × TerminalGenerationOwner :=
  match o.pump with
  | .duplex => (.ok (), { o with pump := .outputOnly })
  | _ => (.error .invalidState, o)

/-- The ingress ends before anything is told to the TUI, which suspends or does not. -/
def suspend (o : TerminalGenerationOwner) (c : TerminalChannel) (rounds : List DiscardRound)
    (suspends : Bool) : Except TerminalPumpFailure Unit × TerminalGenerationOwner × TerminalChannel :=
  match o.pump with
  | .duplex =>
    let o := { o with pump := .suspended false }
    match discardTerminalInputBefore rounds c with
    | (.error error, c) => (.error error, { o with pump := .failed error }, c)
    | (.ok (), c) =>
      if o.tui ≠ some .live then (.error .invalidState, { o with pump := .failed .invalidState }, c)
      else if suspends then (.ok (), o, c)
      else (.error .suspend, { o with pump := .failed .suspend }, c)
  | _ => (.error .invalidState, o, c)

def resumeTui (o : TerminalGenerationOwner) (size : CellCount × CellCount) (resizes resumes : Bool) :
    Except TerminalPumpFailure Unit × TerminalGenerationOwner :=
  match o.pump with
  | .suspended false =>
    if o.tui ≠ some .live then (.error .invalidState, o)
    else if ¬resizes then (.error .resize, { o with pump := .failed .resize })
    else if ¬resumes then (.error .resume, { o with pump := .failed .resume })
    else (.ok (), { o with
      appliedTerminalSize := some size
      pump := .suspended true })
  | .failed error => (.error error, o)
  | _ => (.error .invalidState, o)

def resize (o : TerminalGenerationOwner) (size : CellCount × CellCount) (resizes : Bool) :
    Except TerminalPumpFailure Unit × TerminalGenerationOwner :=
  if o.pump ≠ .duplex then (.error .invalidState, o)
  else if o.appliedTerminalSize = some size then (.ok (), o)
  else if o.tui ≠ some .live then (.error .invalidState, o)
  else if resizes then (.ok (), { o with appliedTerminalSize := some size })
  else (.error .resize, o)

/-- Forward a signal to the TUI. A suspended one is continued, so that a signal that ends it can take
effect. -/
def forwardSignal (o : TerminalGenerationOwner) (signal : UnixSignal) (forwards continues : Bool) :
    Except TerminalPumpFailure Unit × TerminalGenerationOwner :=
  let suspended : Bool := match o.pump with
    | .suspended _ => true
    | _ => false
  if (o.pump ≠ .duplex ∧ ¬suspended) ∨ o.forwardedShutdown.isSome then (.error .invalidState, o)
  else if o.tui ≠ some .live then (.error .invalidState, o)
  else if ¬forwards then (.error .signal, o)
  else match signal with
    | .int | .quit => (.ok (), o)
    | .hup =>
      if suspended ∧ ¬continues then (.error .signal, o)
      else (.ok (), { o with
        terminationCause := some .forwardedHup
        forwardedShutdown := some .hup })
    | .term =>
      if suspended ∧ ¬continues then (.error .signal, o)
      else (.ok (), { o with
        terminationCause := some .forwardedTerm
        forwardedShutdown := some .term })

def acceptTerminationCause (o : TerminalGenerationOwner) (cause : SessionTerminationCause) :
    Except TerminalPumpFailure Unit × TerminalGenerationOwner :=
  match o.terminationCause, cause with
  | none, .coordinatorStop | none, .usageExhaustion =>
    (.ok (), { o with terminationCause := some cause })
  | some observed, supplied =>
    if observed = supplied then (.ok (), o) else (.error .invalidState, o)
  | none, _ => (.error .invalidState, o)

/-! ### Its shutdown -/

open Teardown

/-- Whatever the pump was, it is quiesced. The channel is shut down or not. -/
def quiesce (o : TerminalGenerationOwner) (shuts : Bool) :
    Teardown.ShutdownStep × TerminalGenerationOwner :=
  (if shuts then .advanced else .retained none (some .quiesce), { o with pump := .quiesced })

/-- The end of an attempt to shut the TUI down, which is reaped with an outcome or not. -/
def tuiShutdown (o : TerminalGenerationOwner) (outcome : Option ShutdownOutcome) :
    Teardown.ShutdownStep × TerminalGenerationOwner :=
  match outcome with
  | some outcome => (.advanced, { o with tui := some (.reaped outcome) })
  | none => (.retained none (some .tui), { o with tui := some .retained })

def shutdownTui (o : TerminalGenerationOwner) (reply : TuiShutdownCall → Option ShutdownOutcome) :
    Teardown.ShutdownStep × TerminalGenerationOwner :=
  match o.tui with
  | none => (.retained none (some .missingAuthority), o)
  | some .live =>
    match o.forwardedShutdown with
    | some forwarded =>
      { o with forwardedShutdown := none }.tuiShutdown (reply (.afterForwardedSignal forwarded))
    | none =>
      if o.terminationCause = some .naturalTuiEof then o.tuiShutdown (reply .afterOutputEof)
      else o.tuiShutdown (reply .plain)
  | some .retained => o.tuiShutdown (reply .retry)
  | some (.reaped _) => (.advanced, o)

/-- Waiting for the coordinator's proof is a barrier, not a cleanup error. -/
def awaitCoordinatorRestore (o : TerminalGenerationOwner) : Teardown.ShutdownStep :=
  match o.pump, o.tui with
  | .quiesced, some (.reaped _) =>
    match o.recovery with
    | some (.armed _) => .retained none none
    | some _ => .advanced
    | none => .retained none (some .missingAuthority)
  | _, _ => .retained none (some .terminalRestore)

/-- Install the proof that the coordinator has restored the terminal, or give it back. -/
def acknowledgeCoordinatorRestore (o : TerminalGenerationOwner) : Bool × TerminalGenerationOwner :=
  match o.recovery, o.pump, o.tui with
  | some (.armed _), .quiesced, some (.reaped _) =>
    (true, { o with recovery := some .coordinatorRestored })
  | _, _, _ => (false, o)

/-- The guardian restores the terminal itself. -/
def restoreAfterLifecycleLoss (o : TerminalGenerationOwner) (restores : Bool) :
    Teardown.ShutdownStep × TerminalGenerationOwner :=
  match o.recovery with
  | none => (.retained none (some .missingAuthority), o)
  | some (.armed true) =>
    if restores then (.advanced, { o with recovery := some .fallbackRestored })
    else (.retained none (some .terminalRestore), o)
  | some (.armed false) => (.retained none (some .terminalRestore), o)
  | some _ => (.advanced, o)

/-- Disarm the recovery, or retry to confirm that it is disarmed. -/
def disarmRecovery (o : TerminalGenerationOwner) (disarm : RecoveryDisarmOutcome) (confirms : Bool) :
    Teardown.ShutdownStep × TerminalGenerationOwner :=
  match o.recovery with
  | none => (.retained none (some .missingAuthority), o)
  | some .coordinatorRestored | some .fallbackRestored =>
    match disarm with
    | .disarmed => (.advanced, { o with recovery := some .disarmed })
    | .unconfirmed =>
      (.retained none (some .recoveryDisarm), { o with recovery := some .disarmUnconfirmed })
    | .failed => (.retained none (some .recoveryDisarm), o)
  | some .disarmUnconfirmed =>
    if confirms then (.advanced, { o with recovery := some .disarmed })
    else (.retained none (some .recoveryDisarm), o)
  | some .disarmed => (.advanced, o)
  | some (.armed _) => (.retained none (some .recoveryDisarm), o)

/-- The outcome of the TUI and why it ended. The process aborts with anything left to do. -/
def intoFinalOutcome (o : TerminalGenerationOwner) :
    Option (ShutdownOutcome × Option SessionTerminationCause) :=
  match o.tui, o.pump, o.recovery with
  | some (.reaped outcome), .quiesced, some .disarmed => some (outcome, o.terminationCause)
  | _, _, _ => none

end TerminalGenerationOwner

end Calcifer.Supervisor
