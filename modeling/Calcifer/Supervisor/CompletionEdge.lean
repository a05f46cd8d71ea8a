import Calcifer.Library.Codec
import Calcifer.Supervisor.Anchor

/-!
# The completion edge

The socket pair between the anchor and the guardian. The guardian sends one of two frames and closes,
the anchor may send one recovery request and close, and each side decodes what it reads a piece at a
time, over as many polls as it takes.

A `Channel` holds all that the peer sends; how a poll sees it is up to the outcomes that the poll is
given for its calls, one for each, and a poll that has used them up has not returned yet.
-/

namespace Calcifer.Supervisor

open Codec

/-! ## Channels -/

/-- The end of a socket pair: what the peer still sends and whether it closes after that, and what was
written to the peer, until this end closed. -/
structure Channel where
  inbound : List UInt8
  ended : Bool
  outbound : List UInt8
  closed : Bool
deriving DecidableEq, Repr

/-- How a read goes: it is ready for up to `more + 1` bytes, or moves nothing. -/
inductive ReadOutcome where
  | ready (more : ℕ)
  | interrupted
  | wouldBlock
  | failed
deriving DecidableEq, Repr

namespace Channel

/-- Whether a read would find something: bytes, or the end. -/
def Readable (channel : Channel) : Prop := channel.inbound ≠ [] ∨ channel.ended

instance (channel : Channel) : Decidable channel.Readable :=
  inferInstanceAs (Decidable (channel.inbound ≠ [] ∨ channel.ended))

/-- Up to `limit` bytes of the channel, none of them at its end. -/
def read (channel : Channel) (limit : ℕ) : ReadOutcome → ReadReply × Channel
  | .ready more =>
    if channel.Readable then
      (.bytes (channel.inbound.take (min limit (more + 1))),
        { channel with inbound := channel.inbound.drop (min limit (more + 1)) })
    else (.wouldBlock, channel)
  | .interrupted => (.interrupted, channel)
  | .wouldBlock => (.wouldBlock, channel)
  | .failed => (.failed, channel)

end Channel

/-- What a call of `poll(2)` before a deadline finds: the deadline has passed or cannot be represented,
or the kernel answers. -/
inductive PollCall where
  | late
  | unrepresentable
  | timedOut
  | ready (readable writable hangUp failed : Bool)
  | interrupted
  | failed
deriving DecidableEq, Repr

/-- The events of interest. -/
structure PollEvents where
  readable : Bool
  writable : Bool
  hangUp : Bool
deriving DecidableEq, Repr

/-- Poll until something happens or the deadline has passed. -/
def pollStreamBefore : List PollCall → Option (Except CompletionError (Option PollEvents))
  | [] => none
  | .late :: _ | .timedOut :: _ => some (.ok none)
  | .unrepresentable :: _ => some (.error .recoveryDeadline)
  | .ready readable writable hangUp failed :: _ =>
    some (if failed then .error .io else .ok (some ⟨readable, writable, hangUp⟩))
  | .interrupted :: calls => pollStreamBefore calls
  | .failed :: _ => some (.error .io)

/-! ## The anchor's end -/

def CompletionTerminalFrame.poll : CompletionTerminalFrame → CompletionPoll
  | .providerReleased => .verified
  | .retainedUnrecoverable => .retainedUnrecoverable

namespace AnchorCompletion

/-- Read the frame, and then the end of the stream. -/
def decodeCompletionOnce : AnchorCompletion → Channel → List ReadOutcome →
    Option (Except CompletionError CompletionPoll) × AnchorCompletion × Channel
  | c, channel, [] => (none, c, channel)
  | c, channel, outcome :: outcomes =>
    if c.frame.length < completionFrameLength then
      match channel.read (completionFrameLength - c.frame.length) outcome with
      | (.bytes [], channel) => (some (.error .missingFrame), c, channel)
      | (.bytes (byte :: piece), channel) =>
        let c := { c with frame := c.frame ++ byte :: piece }
        if c.frame.length < completionFrameLength then decodeCompletionOnce c channel outcomes
        else match c.terminalFrame.or (CompletionTerminalFrame.ofBytes c.frame) with
        | none => (some (.error .invalidFrame), c, channel)
        | some frame =>
          decodeCompletionOnce { c with terminalFrame := some frame } channel outcomes
      | (.interrupted, channel) => decodeCompletionOnce c channel outcomes
      | (.wouldBlock, channel) => (some (.ok .pending), c, channel)
      | (.failed, channel) => (some (.error .io), c, channel)
    else match c.terminalFrame.or (CompletionTerminalFrame.ofBytes c.frame) with
    | none => (some (.error .invalidFrame), c, channel)
    | some frame =>
      let c := { c with terminalFrame := some frame }
      match channel.read 1 outcome with
      | (.bytes [], channel) => (some (.ok frame.poll), c, channel)
      | (.bytes (_ :: _), channel) => (some (.error .trailingData), c, channel)
      | (.interrupted, channel) => decodeCompletionOnce c channel outcomes
      | (.wouldBlock, channel) => (some (.ok .pending), c, channel)
      | (.failed, channel) => (some (.error .io), c, channel)

/-- The first error is kept. -/
def finishPoll (result : Option (Except CompletionError CompletionPoll)) (c : AnchorCompletion) :
    AnchorCompletion :=
  match result with
  | some (.error error) => { c with terminalError := some error }
  | _ => c

/-- One poll, given whether the endpoint is still the one it was and how its reads go. -/
def pollOnce (c : AnchorCompletion) (channel : Channel) (identity : Bool)
    (outcomes : List ReadOutcome) :
    Option (Except CompletionError CompletionPoll) × AnchorCompletion × Channel :=
  match c.terminalError with
  | some error => (some (.error error), c, channel)
  | none =>
    let (result, c, channel) :=
      if identity then c.decodeCompletionOnce channel outcomes
      else (some (.error .descriptor), c, channel)
    (result, finishPoll result c, channel)

end AnchorCompletion

/-! ## The recovery request -/

/-- The device and the inode of a descriptor. -/
structure DescriptorIdentity where
  device : UInt64
  inode : UInt64
deriving DecidableEq, Repr

/-- `CFRCR\x01`, before the reason. -/
def recoveryRequestHeader : List UInt8 := [67, 70, 82, 67, 82, 1]

inductive RecoveryRequestReason where
  | retainedGeneration
deriving DecidableEq, Repr

def RecoveryRequestReason.wire : RecoveryRequestReason → UInt8
  | .retainedGeneration => 1

def RecoveryRequestReason.fromWire (value : UInt8) : Option RecoveryRequestReason :=
  if value = wire .retainedGeneration then some .retainedGeneration else none

/-- `\r\n`, after the generation. -/
def recoveryRequestTerminator : List UInt8 := [13, 10]

def recoveryRequestReasonOffset : ℕ := 6

def recoveryRequestGenerationDeviceOffset : ℕ := 7

def recoveryRequestGenerationInodeOffset : ℕ := 15

def recoveryRequestTerminatorOffset : ℕ := 23

def recoveryRequestFrameLength : ℕ := 25

def encodeRecoveryRequestFrame (generation : DescriptorIdentity) : List UInt8 :=
  recoveryRequestHeader ++ [RecoveryRequestReason.wire .retainedGeneration] ++
    bigEndian 8 generation.device.toNat ++ bigEndian 8 generation.inode.toNat ++
    recoveryRequestTerminator

/-- Whether a full frame is the request for this generation. -/
def recoveryRequestFrameIsValid (frame : List UInt8) (expectedGeneration : DescriptorIdentity) : Bool :=
  frame.take recoveryRequestReasonOffset = recoveryRequestHeader ∧
    (frame[recoveryRequestReasonOffset]?.bind RecoveryRequestReason.fromWire) =
      some .retainedGeneration ∧
    frame.drop recoveryRequestTerminatorOffset = recoveryRequestTerminator ∧
    ofBigEndian ((frame.drop recoveryRequestGenerationDeviceOffset).take 8) =
      expectedGeneration.device.toNat ∧
    ofBigEndian ((frame.drop recoveryRequestGenerationInodeOffset).take 8) =
      expectedGeneration.inode.toNat

/-- The anchor's end of the edge, with the identity of its peer. -/
structure RecoveryAnchor extends AnchorCompletion where
  peerIdentity : DescriptorIdentity
  recoveryRequestConsumed : Bool
deriving DecidableEq, Repr

/-- How a write goes: it moves up to `bytes` bytes, or none, and then the channel is polled again. -/
inductive WriteOutcome where
  | wrote (bytes : ℕ)
  | interrupted
  | wouldBlock (polls : List PollCall)
  | failed
deriving DecidableEq, Repr

/-- A write, and whether the deadline has passed before it. -/
structure WriteCall where
  late : Bool
  outcome : WriteOutcome
deriving DecidableEq, Repr

/-- The calls of an attempt to request a recovery. -/
structure RecoveryAttempt where
  identity : Bool
  reads : List ReadOutcome
  writes : List WriteCall
  shutdown : Bool
deriving DecidableEq, Repr

/-- Write what is left of the request. -/
def writeRequest : List WriteCall → List UInt8 → Channel →
    Option (Except CompletionError Unit) × Channel
  | [], request, channel => (if request = [] then some (.ok ()) else none, channel)
  | call :: calls, request, channel =>
    if request = [] then (some (.ok ()), channel)
    else if call.late then (some (.error .recoveryDeadline), channel)
    else match call.outcome with
    | .wrote 0 => (some (.error .io), channel)
    | .wrote (more + 1) => writeRequest calls (request.drop (more + 1))
        { channel with outbound := channel.outbound ++ request.take (more + 1) }
    | .interrupted => writeRequest calls request channel
    | .wouldBlock polls =>
      match pollStreamBefore polls with
      | none => (none, channel)
      | some (.error error) => (some (.error error), channel)
      | some (.ok none) => (some (.error .recoveryDeadline), channel)
      | some (.ok (some events)) =>
        if events.writable then writeRequest calls request channel else (some (.error .io), channel)
    | .failed => (some (.error .io), channel)

namespace RecoveryAnchor

def adopt (peerIdentity : DescriptorIdentity) : RecoveryAnchor where
  toAnchorCompletion := .adopt
  peerIdentity
  recoveryRequestConsumed := false

def pollOnce (a : RecoveryAnchor) (channel : Channel) (identity : Bool)
    (outcomes : List ReadOutcome) :
    Option (Except CompletionError CompletionPoll) × RecoveryAnchor × Channel :=
  let (result, completion, channel) := a.toAnchorCompletion.pollOnce channel identity outcomes
  (result, { a with toAnchorCompletion := completion }, channel)

/-- An attempt is the only one, even if it fails. -/
def beginRecoveryAttempt (a : RecoveryAnchor) : Except CompletionError Unit × RecoveryAnchor :=
  if a.recoveryRequestConsumed then (.error .recoveryReplay, a)
  else
    (match a.terminalError with
      | some error => .error error
      | none => .ok (), { a with recoveryRequestConsumed := true })

/-- Whether the completion has begun. -/
def begun (a : RecoveryAnchor) : Bool := a.frame ≠ [] ∨ a.terminalFrame.isSome

/-- A request is too late once the completion has begun. -/
def prepareRecoveryAttempt (a : RecoveryAnchor) (channel : Channel) (attempt : RecoveryAttempt) :
    Option (Except CompletionError Unit) × RecoveryAnchor × Channel :=
  match a.terminalError with
  | some error => (some (.error error), a, channel)
  | none =>
    if a.begun then (some (.error .recoveryTooLate), a, channel)
    else
      let (result, a, channel) := a.pollOnce channel attempt.identity attempt.reads
      match result with
      | none => (none, a, channel)
      | some (.ok .verified) | some (.ok .retainedUnrecoverable) =>
        (some (.error .recoveryTooLate), a, channel)
      | some (.ok .pending) =>
        (some (if a.begun then .error .recoveryTooLate else .ok ()), a, channel)
      | some (.error error) => (some (.error error), a, channel)

def requestRecoveryBefore (a : RecoveryAnchor) (channel : Channel) (attempt : RecoveryAttempt) :
    Option (Except CompletionError Unit) × RecoveryAnchor × Channel :=
  match a.prepareRecoveryAttempt channel attempt with
  | (some (.ok ()), a, channel) =>
    match writeRequest attempt.writes (encodeRecoveryRequestFrame a.peerIdentity) channel with
    | (some (.ok ()), channel) =>
      (some (if attempt.shutdown then .ok () else .error .io), a,
        { channel with closed := channel.closed || attempt.shutdown })
    | (stopped, channel) => (stopped, a, channel)
  | stopped => stopped

/-- A failed attempt still tries to close the writing half. -/
def requestRecovery (a : RecoveryAnchor) (channel : Channel) (attempt : RecoveryAttempt) :
    Option (Except CompletionError Unit) × RecoveryAnchor × Channel :=
  let attempted : Option (Except CompletionError Unit) × RecoveryAnchor × Channel :=
    match a.beginRecoveryAttempt with
    | (.error error, a) => (some (.error error), a, channel)
    | (.ok (), a) => a.requestRecoveryBefore channel attempt
  match attempted with
  | (some (.error error), a, channel) =>
    (some (.error error), a, { channel with closed := channel.closed || attempt.shutdown })
  | finished => finished

end RecoveryAnchor

/-! ## The guardian's end -/

inductive RecoveryRequestTerminal where
  | verified
  | ownerLost
  | protocolRejectedOwnerLost
  | failed (error : CompletionError)
deriving DecidableEq, Repr

def RecoveryRequestTerminal.intoResult :
    RecoveryRequestTerminal → Except CompletionError RecoveryRequestPoll
  | .verified => .ok .verified
  | .ownerLost => .ok .ownerLost
  | .protocolRejectedOwnerLost => .ok .protocolRejectedOwnerLost
  | .failed error => .error error

/-- The guardian's end of the edge: its own identity, and what it read of the request. -/
structure GuardianCompletion where
  identity : DescriptorIdentity
  recoveryFrame : List UInt8
  recoveryFrameValidated : Bool
  recoveryProtocolRejected : Bool
  recoveryTerminal : Option RecoveryRequestTerminal
deriving DecidableEq, Repr

/-- A poll of the channel and the read that follows it when the channel is ready. -/
structure RecoveryTurn where
  polls : List PollCall
  read : ReadOutcome
deriving DecidableEq, Repr

/-- What a turn finds. The guardian's end blocks: a read that finds nothing does not return. -/
inductive TurnReply where
  | waiting
  | timedOut
  | bytes (piece : List UInt8)
  | interrupted
  | failed (error : CompletionError)

def RecoveryTurn.reply (turn : RecoveryTurn) (channel : Channel) (limit : ℕ) : TurnReply × Channel :=
  match pollStreamBefore turn.polls with
  | none => (.waiting, channel)
  | some (.error error) => (.failed error, channel)
  | some (.ok none) => (.timedOut, channel)
  | some (.ok (some events)) =>
    if ¬(events.readable ∨ events.hangUp) then (.failed .io, channel)
    else match turn.read with
    | .ready more =>
      match channel.read limit (.ready more) with
      | (.bytes piece, channel) => (.bytes piece, channel)
      | (_, channel) => (.waiting, channel)
    | .interrupted => (.interrupted, channel)
    | .wouldBlock | .failed => (.failed .io, channel)

namespace GuardianCompletion

def new (identity : DescriptorIdentity) : GuardianCompletion where
  identity
  recoveryFrame := []
  recoveryFrameValidated := false
  recoveryProtocolRejected := false
  recoveryTerminal := none

/-- A full frame is looked at once. -/
def validate (g : GuardianCompletion) : GuardianCompletion :=
  if g.recoveryFrameValidated then g
  else if recoveryRequestFrameIsValid g.recoveryFrame g.identity then
    { g with recoveryFrameValidated := true }
  else { g with recoveryProtocolRejected := true }

/-- Discard up to 64 bytes of a rejected request. -/
def pollRejectedRequestOnce (g : GuardianCompletion) (channel : Channel) (turn : RecoveryTurn) :
    Option (Except CompletionError RecoveryRequestPoll) × GuardianCompletion × Channel :=
  match turn.reply channel 64 with
  | (.waiting, channel) => (none, g, channel)
  | (.timedOut, channel) => (some (.ok .protocolRejected), g, channel)
  | (.bytes [], channel) => (some (.ok .protocolRejectedOwnerLost), g, channel)
  | (.bytes (_ :: _), channel) => (some (.ok .protocolRejected), g, channel)
  | (.interrupted, channel) => (some (.ok .protocolRejected), g, channel)
  | (.failed error, channel) => (some (.error error), g, channel)

def pollRecoveryRequestBefore : GuardianCompletion → Channel → List RecoveryTurn →
    Option (Except CompletionError RecoveryRequestPoll) × GuardianCompletion × Channel
  | g, channel, [] => (none, g, channel)
  | g, channel, turn :: turns =>
    if g.recoveryProtocolRejected then g.pollRejectedRequestOnce channel turn
    else if g.recoveryFrame.length < recoveryRequestFrameLength then
      match turn.reply channel (recoveryRequestFrameLength - g.recoveryFrame.length) with
      | (.waiting, channel) => (none, g, channel)
      | (.timedOut, channel) => (some (.ok .pending), g, channel)
      | (.bytes [], channel) =>
        (some (.ok (if g.recoveryFrame = [] then .ownerLost else .protocolRejectedOwnerLost)), g, channel)
      | (.bytes (byte :: piece), channel) =>
        let g := { g with recoveryFrame := g.recoveryFrame ++ byte :: piece }
        if g.recoveryFrame.length < recoveryRequestFrameLength then
          pollRecoveryRequestBefore g channel turns
        else pollRecoveryRequestBefore g.validate channel turns
      | (.interrupted, channel) => pollRecoveryRequestBefore g channel turns
      | (.failed error, channel) => (some (.error error), g, channel)
    else
      let g := g.validate
      if g.recoveryProtocolRejected then g.pollRejectedRequestOnce channel turn
      else match turn.reply channel 1 with
      | (.waiting, channel) => (none, g, channel)
      | (.timedOut, channel) => (some (.ok .pending), g, channel)
      | (.bytes [], channel) => (some (.ok .verified), g, channel)
      | (.bytes (_ :: _), channel) =>
        pollRecoveryRequestBefore { g with recoveryProtocolRejected := true } channel turns
      | (.interrupted, channel) => pollRecoveryRequestBefore g channel turns
      | (.failed error, channel) => (some (.error error), g, channel)

/-- The result of a poll that is final. -/
def finishPoll (result : Option (Except CompletionError RecoveryRequestPoll)) (g : GuardianCompletion) :
    GuardianCompletion :=
  match result with
  | some (.ok .verified) => { g with recoveryTerminal := some .verified }
  | some (.ok .ownerLost) => { g with recoveryTerminal := some .ownerLost }
  | some (.ok .protocolRejectedOwnerLost) =>
    { g with recoveryTerminal := some .protocolRejectedOwnerLost }
  | some (.ok .pending) | some (.ok .protocolRejected) | none => g
  | some (.error error) => { g with recoveryTerminal := some (.failed error) }

/-- One poll, given whether the endpoint is still the one it was and how its turns go. -/
def pollRecoveryRequest (g : GuardianCompletion) (channel : Channel) (identity : Bool)
    (turns : List RecoveryTurn) :
    Option (Except CompletionError RecoveryRequestPoll) × GuardianCompletion × Channel :=
  if ¬identity then (some (.error .descriptor), g, channel)
  else match g.recoveryTerminal with
  | some terminal => (some terminal.intoResult, g, channel)
  | none =>
    let (result, g, channel) := g.pollRecoveryRequestBefore channel turns
    (result, finishPoll result g, channel)

end GuardianCompletion

end Calcifer.Supervisor
