import Calcifer.Library.Checks
import Calcifer.Library.Codec
import Calcifer.Supervisor.Protocol

/-!
# The wire format of the lifecycle protocol

A frame is a header of eight bytes (magic, version, direction and type, length of the body) and a
body that starts with the payload version. This file has the tables of the fields and the two pairs of
match trees that write and read the bodies.

A body is read by position. `index` and `slice` fail where the source would panic, with an error of
its own, so that it can be said that this never happens.
-/

namespace Calcifer.Supervisor

open Checks Codec

def wireMagic : List UInt8 := [0x43, 0x4c, 0x46, 0x52]
def protocolVersion : UInt8 := 1
def payloadVersion : UInt8 := 1
def headerBytes : ℕ := 8
def maxFrameBytes : ℕ := 64
def maxBodyBytes : ℕ := maxFrameBytes - headerBytes

def directionMask : UInt8 := 0x80
def typeMask : UInt8 := 0x7f
def coordinatorDirection : UInt8 := 0x00
def guardianDirection : UInt8 := 0x80

@[match_pattern] abbrev coordinatorStart : UInt8 := 1
@[match_pattern] abbrev coordinatorStop : UInt8 := 2
@[match_pattern] abbrev coordinatorOpenInputGate : UInt8 := 3
@[match_pattern] abbrev coordinatorSignal : UInt8 := 4
@[match_pattern] abbrev coordinatorResize : UInt8 := 5
@[match_pattern] abbrev coordinatorSuspend : UInt8 := 6
@[match_pattern] abbrev coordinatorResume : UInt8 := 7
@[match_pattern] abbrev coordinatorTerminalRestored : UInt8 := 8
@[match_pattern] abbrev coordinatorTerminalArmAccepted : UInt8 := 9
@[match_pattern] abbrev coordinatorChildDescriptorsVerified : UInt8 := 10

@[match_pattern] abbrev guardianLeaseCommitted : UInt8 := 1
@[match_pattern] abbrev guardianChildStarted : UInt8 := 2
@[match_pattern] abbrev guardianReady : UInt8 := 3
@[match_pattern] abbrev guardianFailed : UInt8 := 4
@[match_pattern] abbrev guardianChildrenReaped : UInt8 := 5
@[match_pattern] abbrev guardianTerminalArmed : UInt8 := 6
@[match_pattern] abbrev guardianInputGateOpened : UInt8 := 7
@[match_pattern] abbrev guardianSignalForwarded : UInt8 := 8
@[match_pattern] abbrev guardianResizeApplied : UInt8 := 9
@[match_pattern] abbrev guardianSuspended : UInt8 := 10
@[match_pattern] abbrev guardianResumed : UInt8 := 11
@[match_pattern] abbrev guardianTerminalQuiesced : UInt8 := 12
@[match_pattern] abbrev guardianTerminalRecoveryDisarmed : UInt8 := 13
@[match_pattern] abbrev guardianUsageExhausted : UInt8 := 14

def emptyBodyBytes : ℕ := 1
def snapshotFingerprintBytes : ℕ := 32
def terminalArmedBodyBytes : ℕ := 1 + snapshotFingerprintBytes
def signalBodyBytes : ℕ := 2
def childRoleBodyBytes : ℕ := 2
def terminalSizeBodyBytes : ℕ := 5
def childStartedBodyBytes : ℕ := 10
def failedBodyBytes : ℕ := 3
def childDispositionBytes : ℕ := 4
def childrenReapedBodyBytes : ℕ := 14

/-- Why the reading of a message stops. -/
inductive WireError where
  | protocol (error : ProtocolError)
  /-- A position past the end of a buffer. -/
  | outOfRange
deriving DecidableEq, Repr

def index (bytes : List UInt8) (i : ℕ) : Except WireError UInt8 := okOr bytes[i]? .outOfRange

def slice (bytes : List UInt8) (first last : ℕ) : Except WireError (List UInt8) := do
  rejectIf (¬ (first ≤ last ∧ last ≤ bytes.length)) .outOfRange
  pure ((bytes.take last).drop first)

/-- A decoder of the protocol as a part of one that can also be out of range. -/
def protocol {α : Type} (x : Except ProtocolError α) : Except WireError α :=
  x.mapError .protocol

/-! ## Fields -/

def encodeChildRole : ChildRole → UInt8
  | .appServer => 1
  | .tui => 2

def decodeChildRole (value : UInt8) : Except ProtocolError ChildRole :=
  match value with
  | 1 => .ok .appServer
  | 2 => .ok .tui
  | _ => .error .invalidValue

def encodeUnixSignal : UnixSignal → UInt8
  | .hup => 1
  | .int => 2
  | .quit => 3
  | .term => 4

def decodeUnixSignal (value : UInt8) : Except ProtocolError UnixSignal :=
  match value with
  | 1 => .ok .hup
  | 2 => .ok .int
  | 3 => .ok .quit
  | 4 => .ok .term
  | _ => .error .invalidValue

/-- The two bytes of a `u16`. -/
def cellBytes (count : CellCount) : List UInt8 := bigEndian 2 (UInt16.toNat count)

def cellOfBytes (bytes : List UInt8) : CellCount := UInt16.ofNat (ofBigEndian bytes)

def encodeTerminalSize (rows cols : CellCount) : Except ProtocolError (List UInt8) := do
  validateTerminalSize rows cols
  pure (cellBytes rows ++ cellBytes cols)

def decodeTerminalSize (input : List UInt8) : Except WireError (CellCount × CellCount) := do
  rejectIf (input.length ≠ 4) (.protocol .invalidLength)
  let rows ← slice input 0 2
  let cols ← slice input 2 4
  let size := (cellOfBytes rows, cellOfBytes cols)
  protocol (validateTerminalSize size.1 size.2)
  pure size

/-- The four bytes of an `i32` in two's complement. -/
def i32Bytes (value : ℤ) : List UInt8 := bigEndian 4 (value % 2 ^ 32).toNat

def readI32 (bytes : List UInt8) : ℤ :=
  if ofBigEndian bytes < 2 ^ 31 then ofBigEndian bytes else ofBigEndian bytes - 2 ^ 32

def encodeStopAction : StopAction → UInt8
  | .none => 0
  | .term => 1
  | .kill => 2

def decodeStopAction (value : UInt8) : Except ProtocolError StopAction :=
  match value with
  | 0 => .ok .none
  | 1 => .ok .term
  | 2 => .ok .kill
  | _ => .error .invalidValue

def encodeChildDisposition (disposition : ChildDisposition) : Except ProtocolError (List UInt8) :=
  match disposition with
  | .notStarted => .ok [0, 0, 0, 0]
  | .exited code stopAction => .ok [1, code, encodeStopAction stopAction, 0]
  | .signaled signal coreDumped stopAction =>
    if signal = 0 ∨ signal > 127 then .error .invalidValue
    else .ok [2, signal, encodeStopAction stopAction, if coreDumped then 1 else 0]

def decodeChildDisposition (input : List UInt8) : Except WireError ChildDisposition := do
  rejectIf (input.length ≠ childDispositionBytes) (.protocol .invalidLength)
  let kind ← index input 0
  let value ← index input 1
  let stop ← index input 2
  let last ← index input 3
  let stopAction ← protocol (decodeStopAction stop)
  if kind = 0 ∧ value = 0 ∧ stopAction = .none ∧ last = 0 then pure .notStarted
  else if kind = 1 ∧ last = 0 then pure (.exited value stopAction)
  else if kind = 2 ∧ (1 ≤ value ∧ value ≤ 127) ∧ last ≤ 1 then
    pure (.signaled value (last = 1) stopAction)
  else .error (.protocol .invalidValue)

def encodeGuardianExitDisposition (disposition : GuardianExitDisposition) :
    Except ProtocolError (List UInt8) :=
  match disposition with
  | .code code => .ok [1, code]
  | .signal signal => if 1 ≤ signal ∧ signal ≤ 127 then .ok [2, signal] else .error .invalidValue
  | .internalFailure => .ok [3, 0]
  | .usageExhausted => .ok [4, 0]

def decodeGuardianExitDisposition (input : List UInt8) :
    Except WireError GuardianExitDisposition := do
  rejectIf (input.length ≠ 2) (.protocol .invalidLength)
  let kind ← index input 0
  let value ← index input 1
  if kind = 1 then pure (.code value)
  else if kind = 2 ∧ 1 ≤ value ∧ value ≤ 127 then pure (.signal value)
  else if kind = 3 ∧ value = 0 then pure .internalFailure
  else if kind = 4 ∧ value = 0 then pure .usageExhausted
  else .error (.protocol .invalidValue)

def encodePhase : Phase → UInt8
  | .lease => 1
  | .runtime => 2
  | .worker => 3
  | .appServer => 4
  | .tui => 5
  | .readiness => 6
  | .shutdown => 7
  | .reap => 8
  | .cleanup => 9
  | .protocol => 10
  | .terminal => 11
  | .pump => 12
  | .signal => 13
  | .restore => 14

def decodePhase (value : UInt8) : Except ProtocolError Phase :=
  match value with
  | 1 => .ok .lease
  | 2 => .ok .runtime
  | 3 => .ok .worker
  | 4 => .ok .appServer
  | 5 => .ok .tui
  | 6 => .ok .readiness
  | 7 => .ok .shutdown
  | 8 => .ok .reap
  | 9 => .ok .cleanup
  | 10 => .ok .protocol
  | 11 => .ok .terminal
  | 12 => .ok .pump
  | 13 => .ok .signal
  | 14 => .ok .restore
  | _ => .error .invalidValue

def encodeFailureCode : FailureCode → UInt8
  | .timeout => 1
  | .descriptor => 2
  | .lease => 3
  | .spawn => 4
  | .earlyExit => 5
  | .worker => 6
  | .containment => 7
  | .wait => 8
  | .cleanupMismatch => 9
  | .invalidControl => 10
  | .internal => 11
  | .terminal => 12
  | .pump => 13
  | .signal => 14
  | .restore => 15

def decodeFailureCode (value : UInt8) : Except ProtocolError FailureCode :=
  match value with
  | 1 => .ok .timeout
  | 2 => .ok .descriptor
  | 3 => .ok .lease
  | 4 => .ok .spawn
  | 5 => .ok .earlyExit
  | 6 => .ok .worker
  | 7 => .ok .containment
  | 8 => .ok .wait
  | 9 => .ok .cleanupMismatch
  | 10 => .ok .invalidControl
  | 11 => .ok .internal
  | 12 => .ok .terminal
  | 13 => .ok .pump
  | 14 => .ok .signal
  | 15 => .ok .restore
  | _ => .error .invalidValue

def encodeWorkerJoinStatus : WorkerJoinStatus → UInt8
  | .notStarted => 0
  | .joinedClean => 1
  | .joinedFailed => 2
  | .joinedPanicked => 3

def decodeWorkerJoinStatus (value : UInt8) : Except ProtocolError WorkerJoinStatus :=
  match value with
  | 0 => .ok .notStarted
  | 1 => .ok .joinedClean
  | 2 => .ok .joinedFailed
  | 3 => .ok .joinedPanicked
  | _ => .error .invalidValue

def encodeCleanupStatus : CleanupStatus → UInt8
  | .complete => 1

def decodeCleanupStatus (value : UInt8) : Except ProtocolError CleanupStatus :=
  match value with
  | 1 => .ok .complete
  | _ => .error .invalidValue

def encodeSessionStatus : SessionStatus → UInt8
  | .completed => 1
  | .failed => 2

def decodeSessionStatus (value : UInt8) : Except ProtocolError SessionStatus :=
  match value with
  | 1 => .ok .completed
  | 2 => .ok .failed
  | _ => .error .invalidValue

/-! ## Messages -/

/-- The type and the body of a command. -/
def encodeCommand (command : CoordinatorCommand) : Except ProtocolError (UInt8 × List UInt8) :=
  match command with
  | .start => pure (coordinatorStart, [payloadVersion])
  | .terminalArmAccepted => pure (coordinatorTerminalArmAccepted, [payloadVersion])
  | .childDescriptorsVerified role =>
    pure (coordinatorChildDescriptorsVerified, [payloadVersion, encodeChildRole role])
  | .stop => pure (coordinatorStop, [payloadVersion])
  | .openInputGate => pure (coordinatorOpenInputGate, [payloadVersion])
  | .signal signal => pure (coordinatorSignal, [payloadVersion, encodeUnixSignal signal])
  | .resize rows cols => do
    let size ← encodeTerminalSize rows cols
    pure (coordinatorResize, payloadVersion :: size)
  | .suspend => pure (coordinatorSuspend, [payloadVersion])
  | .resume rows cols => do
    let size ← encodeTerminalSize rows cols
    pure (coordinatorResume, payloadVersion :: size)
  | .terminalRestored => pure (coordinatorTerminalRestored, [payloadVersion])

/-- The type and the body of an event. -/
def encodeEvent (event : GuardianEvent) : Except ProtocolError (UInt8 × List UInt8) :=
  match event with
  | .leaseCommitted => pure (guardianLeaseCommitted, [payloadVersion])
  | .terminalArmed snapshot => pure (guardianTerminalArmed, payloadVersion :: snapshot)
  | .childStarted role pid pgid => do
    validateProcessGroup pid pgid
    pure (guardianChildStarted,
      payloadVersion :: encodeChildRole role :: (i32Bytes pid ++ i32Bytes pgid))
  | .ready => pure (guardianReady, [payloadVersion])
  | .inputGateOpened => pure (guardianInputGateOpened, [payloadVersion])
  | .signalForwarded signal => pure (guardianSignalForwarded, [payloadVersion, encodeUnixSignal signal])
  | .resizeApplied rows cols => do
    let size ← encodeTerminalSize rows cols
    pure (guardianResizeApplied, payloadVersion :: size)
  | .suspended => pure (guardianSuspended, [payloadVersion])
  | .resumed rows cols => do
    let size ← encodeTerminalSize rows cols
    pure (guardianResumed, payloadVersion :: size)
  | .usageExhausted => pure (guardianUsageExhausted, [payloadVersion])
  | .terminalQuiesced => pure (guardianTerminalQuiesced, [payloadVersion])
  | .terminalRecoveryDisarmed => pure (guardianTerminalRecoveryDisarmed, [payloadVersion])
  | .failed phase code =>
    pure (guardianFailed, [payloadVersion, encodePhase phase, encodeFailureCode code])
  | .childrenReaped app tui worker cleanup session guardianExit => do
    let app ← encodeChildDisposition app
    let tui ← encodeChildDisposition tui
    let guardianExit ← encodeGuardianExitDisposition guardianExit
    pure (guardianChildrenReaped, payloadVersion :: (app ++ tui ++ [encodeWorkerJoinStatus worker,
      encodeCleanupStatus cleanup, encodeSessionStatus session] ++ guardianExit))

/-- A frame that was read: its type, the buffer of its body, and how much of it was filled. -/
structure ReceivedFrame where
  messageType : UInt8
  body : List UInt8
  bodyLen : ℕ
deriving DecidableEq, Repr

namespace ReceivedFrame

def requireExactLen (frame : ReceivedFrame) (expected : ℕ) : Except ProtocolError Unit := do
  rejectIf (frame.bodyLen < expected) .invalidLength
  rejectIf (frame.bodyLen > expected) .trailingData

def requirePayloadVersion (frame : ReceivedFrame) : Except ProtocolError Unit :=
  rejectIf (frame.body.head? ≠ some payloadVersion) .invalidValue

/-- The checks before the fields of a body are read. -/
def require (frame : ReceivedFrame) (expected : ℕ) : Except WireError Unit := do
  protocol (frame.requireExactLen expected)
  protocol frame.requirePayloadVersion

end ReceivedFrame

def decodeCommand (frame : ReceivedFrame) : Except WireError CoordinatorCommand :=
  match frame.messageType with
  | coordinatorStart => do
    frame.require emptyBodyBytes
    pure .start
  | coordinatorStop => do
    frame.require emptyBodyBytes
    pure .stop
  | coordinatorOpenInputGate => do
    frame.require emptyBodyBytes
    pure .openInputGate
  | coordinatorSignal => do
    frame.require signalBodyBytes
    pure (.signal (← protocol (decodeUnixSignal (← index frame.body 1))))
  | coordinatorResize => do
    frame.require terminalSizeBodyBytes
    let (rows, cols) ← decodeTerminalSize (← slice frame.body 1 5)
    pure (.resize rows cols)
  | coordinatorSuspend => do
    frame.require emptyBodyBytes
    pure .suspend
  | coordinatorResume => do
    frame.require terminalSizeBodyBytes
    let (rows, cols) ← decodeTerminalSize (← slice frame.body 1 5)
    pure (.resume rows cols)
  | coordinatorTerminalRestored => do
    frame.require emptyBodyBytes
    pure .terminalRestored
  | coordinatorTerminalArmAccepted => do
    frame.require emptyBodyBytes
    pure .terminalArmAccepted
  | coordinatorChildDescriptorsVerified => do
    frame.require childRoleBodyBytes
    pure (.childDescriptorsVerified (← protocol (decodeChildRole (← index frame.body 1))))
  | _ => .error (.protocol .unknownType)

def decodeEvent (frame : ReceivedFrame) : Except WireError GuardianEvent :=
  match frame.messageType with
  | guardianLeaseCommitted => do
    frame.require emptyBodyBytes
    pure .leaseCommitted
  | guardianTerminalArmed => do
    frame.require terminalArmedBodyBytes
    pure (.terminalArmed (← slice frame.body 1 terminalArmedBodyBytes))
  | guardianChildStarted => do
    frame.require childStartedBodyBytes
    let role ← protocol (decodeChildRole (← index frame.body 1))
    let pid := readI32 (← slice frame.body 2 6)
    let pgid := readI32 (← slice frame.body 6 10)
    protocol (validateProcessGroup pid pgid)
    pure (.childStarted role pid pgid)
  | guardianReady => do
    frame.require emptyBodyBytes
    pure .ready
  | guardianInputGateOpened => do
    frame.require emptyBodyBytes
    pure .inputGateOpened
  | guardianSignalForwarded => do
    frame.require signalBodyBytes
    pure (.signalForwarded (← protocol (decodeUnixSignal (← index frame.body 1))))
  | guardianResizeApplied => do
    frame.require terminalSizeBodyBytes
    let (rows, cols) ← decodeTerminalSize (← slice frame.body 1 5)
    pure (.resizeApplied rows cols)
  | guardianSuspended => do
    frame.require emptyBodyBytes
    pure .suspended
  | guardianResumed => do
    frame.require terminalSizeBodyBytes
    let (rows, cols) ← decodeTerminalSize (← slice frame.body 1 5)
    pure (.resumed rows cols)
  | guardianUsageExhausted => do
    frame.require emptyBodyBytes
    pure .usageExhausted
  | guardianTerminalQuiesced => do
    frame.require emptyBodyBytes
    pure .terminalQuiesced
  | guardianTerminalRecoveryDisarmed => do
    frame.require emptyBodyBytes
    pure .terminalRecoveryDisarmed
  | guardianFailed => do
    frame.require failedBodyBytes
    let phase ← protocol (decodePhase (← index frame.body 1))
    let code ← protocol (decodeFailureCode (← index frame.body 2))
    pure (.failed phase code)
  | guardianChildrenReaped => do
    frame.require childrenReapedBodyBytes
    let app ← decodeChildDisposition (← slice frame.body 1 5)
    let tui ← decodeChildDisposition (← slice frame.body 5 9)
    let worker ← protocol (decodeWorkerJoinStatus (← index frame.body 9))
    let cleanup ← protocol (decodeCleanupStatus (← index frame.body 10))
    let session ← protocol (decodeSessionStatus (← index frame.body 11))
    let guardianExit ← decodeGuardianExitDisposition (← slice frame.body 12 14)
    pure (.childrenReaped app tui worker cleanup session guardianExit)
  | _ => .error (.protocol .unknownType)

/-! ## Frames -/

/-- The bytes of a frame. -/
def frameBytes (directionAndType : UInt8) (body : List UInt8) : Except ProtocolError (List UInt8) := do
  rejectIf (body = []) .zeroLength
  rejectIf (body.length > maxBodyBytes) .oversizedBody
  pure (wireMagic ++ [protocolVersion, directionAndType] ++ bigEndian 2 body.length ++ body)

def commandFrame (command : CoordinatorCommand) : Except ProtocolError (List UInt8) := do
  let (messageType, body) ← encodeCommand command
  frameBytes (coordinatorDirection ||| messageType) body

def eventFrame (event : GuardianEvent) : Except ProtocolError (List UInt8) := do
  let (messageType, body) ← encodeEvent event
  frameBytes (guardianDirection ||| messageType) body

/-- The checks on a header: the type of the message and the length of its body. -/
def checkHeader (expectedDirection : UInt8) (header : List UInt8) :
    Except WireError (UInt8 × ℕ) := do
  let magic ← slice header 0 4
  rejectIf (magic ≠ wireMagic) (.protocol .badMagic)
  let version ← index header 4
  rejectIf (version ≠ protocolVersion) (.protocol .unsupportedVersion)
  let directionAndType ← index header 5
  rejectIf (directionAndType &&& directionMask ≠ expectedDirection) (.protocol .wrongDirection)
  let messageType := directionAndType &&& typeMask
  rejectIf (messageType = 0) (.protocol .unknownType)
  let bodyLen := ofBigEndian (← slice header 6 8)
  rejectIf (bodyLen = 0) (.protocol .zeroLength)
  rejectIf (bodyLen > maxBodyBytes) (.protocol .oversizedBody)
  pure (messageType, bodyLen)

end Calcifer.Supervisor
