import Calcifer.Library.Incremental
import Calcifer.Library.Checks
import Calcifer.Library.Codec
import Calcifer.Codex.Readiness

/-!
# The inspection of a relayed stream

A relay shows every chunk that it reads to a `ProtocolInspector` before it passes the chunk on. The
inspector keeps the head of the stream until the handshake ends and gives the rest to a `FrameDecoder`,
which unmasks the frames and hands the text messages on.
-/

namespace Calcifer

open Checks Incremental

namespace Readiness

def maxHandshakeBytes : ℕ := 16 * 1024
def maxMessageBytes : ℕ := 1024 * 1024
def maxFrameBufferBytes : ℕ := maxMessageBytes + 14

def Direction.readerEofOrigin : Direction → ReadinessTransportOrigin
  | .clientToServer => .clientEof
  | .serverToClient => .upstreamEof

/-! ## The handshake -/

def headerEnd : List UInt8 := [13, 10, 13, 10]

/-- Where the first window `\r\n\r\n` ends. -/
def findHeaderEnd (bytes : List UInt8) : Option ℕ :=
  ((List.range (bytes.length - 3)).find? fun position => (bytes.drop position).take 4 = headerEnd).map
    (· + 4)

/-- `text.split("\r\n")`. -/
def splitLines : List Char → List (List Char)
  | [] => [[]]
  | [c] => [[c]]
  | c :: d :: rest =>
    if c = '\r' ∧ d = '\n' then [] :: splitLines rest
    else (splitLines (d :: rest)).modifyHead (c :: ·)

/-- The `White_Space` characters of Unicode. -/
def isWhitespace (c : Char) : Bool :=
  9 ≤ c.toNat ∧ c.toNat ≤ 13 ∨ c.toNat ∈ [0x20, 0x85, 0xa0, 0x1680] ∨
    0x2000 ≤ c.toNat ∧ c.toNat ≤ 0x200a ∨ c.toNat ∈ [0x2028, 0x2029, 0x202f, 0x205f, 0x3000]

def trim (text : List Char) : List Char :=
  ((text.dropWhile isWhitespace).reverse.dropWhile isWhitespace).reverse

def eqIgnoreAsciiCase (text : List Char) (expected : String) : Bool :=
  text.map Char.toLower = expected.toList.map Char.toLower

/-- What stands before and after the first colon. -/
def splitHeader (line : List Char) : Option (List Char × List Char) :=
  if ':' ∈ line then some (line.takeWhile (· ≠ ':'), (line.dropWhile (· ≠ ':')).tail) else none

def validFirstLine (direction : Direction) (line : List Char) : Bool :=
  match direction with
  | .clientToServer => "GET ".toList <+: line ∧ " HTTP/1.1".toList <:+ line
  | .serverToClient => "HTTP/1.1 101 ".toList <+: line

/-- The headers of a handshake: whether they upgrade, and whether they say so of the connection. -/
def readHeaders : List (List Char) → Bool → Bool → Except ReadinessProxyError (Bool × Bool)
  | [], hasUpgrade, hasConnectionUpgrade => .ok (hasUpgrade, hasConnectionUpgrade)
  | line :: lines, hasUpgrade, hasConnectionUpgrade =>
    if line = [] then readHeaders lines hasUpgrade hasConnectionUpgrade
    else do
      let (name, value) ← okOr (splitHeader line) .invalidHandshake
      readHeaders lines
        (hasUpgrade ∨ eqIgnoreAsciiCase name "upgrade" ∧ eqIgnoreAsciiCase (trim value) "websocket")
        (hasConnectionUpgrade ∨ eqIgnoreAsciiCase name "connection" ∧
          (value.splitOn ',').any fun token => eqIgnoreAsciiCase (trim token) "upgrade")

def validateHandshake (bytes : List UInt8) (direction : Direction) : Except ReadinessProxyError Unit := do
  let text ← okOr (String.fromUTF8? ⟨bytes.toArray⟩) .invalidHandshake
  let lines := splitLines text.toList
  let firstLine ← okOr lines.head? .invalidHandshake
  rejectIf (¬validFirstLine direction firstLine) .invalidHandshake
  let (hasUpgrade, hasConnectionUpgrade) ← readHeaders lines.tail false false
  rejectIf (¬(hasUpgrade ∧ hasConnectionUpgrade)) .invalidHandshake

/-! ## Frame headers -/

structure DecodedFrameHeader where
  fin : Bool
  opcode : UInt8
  headerBytes : ℕ
  payloadBytes : ℕ
  mask : Option (Vector UInt8 4)
deriving DecidableEq

/-- A read fails with an error. -/
def invalid {α : Type} (error : ReadinessProxyError) : Decoded ReadinessProxyError α :=
  .broken (.error error)

/-- The length of the payload, and where the header goes on behind it. -/
def decodeLength (second : UInt8) (bytes : List UInt8) : Decoded ReadinessProxyError (ℕ × ℕ) :=
  let shortLength := second &&& 0x7f
  if shortLength ≤ 125 then pure (shortLength.toNat, 2)
  else if shortLength = 126 then
    if bytes.length < 4 then .more
    else do
      let length := Codec.ofBigEndian [← Decoded.byteAt bytes 2, ← Decoded.byteAt bytes 3]
      if length < 126 then invalid .invalidFrame else pure (length, 4)
  else if shortLength = 127 then
    if bytes.length < 10 then .more
    else do
      let third ← Decoded.byteAt bytes 2
      if third &&& 0x80 ≠ 0 then invalid .invalidFrame
      else do
        let length := Codec.ofBigEndian [← Decoded.byteAt bytes 2, ← Decoded.byteAt bytes 3,
          ← Decoded.byteAt bytes 4, ← Decoded.byteAt bytes 5, ← Decoded.byteAt bytes 6,
          ← Decoded.byteAt bytes 7, ← Decoded.byteAt bytes 8, ← Decoded.byteAt bytes 9]
        if length ≤ 65535 then invalid .invalidFrame else pure (length, 10)
  else invalid .invalidFrame

/-- The mask behind the first `headerBytes` bytes, and where the header ends. -/
def decodeMask (masked : Bool) (headerBytes : ℕ) (bytes : List UInt8) :
    Decoded ReadinessProxyError (Option (Vector UInt8 4) × ℕ) :=
  if masked then
    if bytes.length < headerBytes + 4 then .more
    else do
      let mask := #v[← Decoded.byteAt bytes headerBytes, ← Decoded.byteAt bytes (headerBytes + 1),
        ← Decoded.byteAt bytes (headerBytes + 2), ← Decoded.byteAt bytes (headerBytes + 3)]
      pure (some mask, headerBytes + 4)
  else pure (none, headerBytes)

def decodeFrameHeader (direction : Direction) (bytes : List UInt8) :
    Decoded ReadinessProxyError DecodedFrameHeader :=
  if bytes.length < 2 then .more
  else do
    let first ← Decoded.byteAt bytes 0
    let fin : Bool := first &&& 0x80 ≠ 0
    if first &&& 0x70 ≠ 0 then invalid .invalidFrame
    else do
      let opcode := first &&& 0x0f
      let second ← Decoded.byteAt bytes 1
      let masked : Bool := second &&& 0x80 ≠ 0
      if masked ≠ decide (direction = .clientToServer) then invalid .invalidFrame
      else do
        let (payloadLength, headerBytes) ← decodeLength second bytes
        let isControl : Bool := opcode &&& 0x08 ≠ 0
        if isControl ∧ (¬fin ∨ 125 < payloadLength) ∨ maxMessageBytes < payloadLength then
          invalid (if maxMessageBytes < payloadLength then .frameTooLarge else .invalidFrame)
        else do
          let (mask, headerBytes) ← decodeMask masked headerBytes bytes
          pure { fin, opcode, headerBytes, payloadBytes := payloadLength, mask }

theorem decodeLength_yields (second : UInt8) (bytes : List UInt8) :
    (decodeLength second bytes).Yields fun (_, headerBytes) => 2 ≤ headerBytes ∧ headerBytes ≤ 10 := by
  unfold decodeLength
  refine .ite (fun _ => .ready (by omega)) fun _ => .ite (fun _ => ?_) fun _ => .ite (fun _ => ?_) fun _ =>
    .broken _
  · refine .ite (fun _ => .more) fun _ => .of_bind fun _ => .of_bind fun _ => ?_
    exact .ite (fun _ => .broken _) fun _ => .ready (by omega)
  · refine .ite (fun _ => .more) fun _ => .of_bind fun _ => .ite (fun _ => .broken _) fun _ => ?_
    refine .of_bind fun _ => .of_bind fun _ => .of_bind fun _ => .of_bind fun _ => ?_
    refine .of_bind fun _ => .of_bind fun _ => .of_bind fun _ => .of_bind fun _ => ?_
    exact .ite (fun _ => .broken _) fun _ => .ready (by omega)

theorem steady_decodeLength (second : UInt8) : Steady 2 14 (decodeLength second) := by
  unfold decodeLength
  refine .ite (.ready _) (.ite (.wait (by omega) ?_) (.ite (.wait (by omega) ?_) (.error _)))
  · refine .bind (.byteAt (by omega)) fun _ => .bind (.byteAt (by omega)) fun _ => ?_
    exact .ite (.error _) (.ready _)
  · refine .bind (.byteAt (by omega)) fun _ => .ite (.error _) ?_
    refine .bind (.byteAt (by omega)) fun _ => .bind (.byteAt (by omega)) fun _ => ?_
    refine .bind (.byteAt (by omega)) fun _ => .bind (.byteAt (by omega)) fun _ => ?_
    refine .bind (.byteAt (by omega)) fun _ => .bind (.byteAt (by omega)) fun _ => ?_
    refine .bind (.byteAt (by omega)) fun _ => .bind (.byteAt (by omega)) fun _ => ?_
    exact .ite (.error _) (.ready _)

theorem decodeMask_yields (masked : Bool) (headerBytes : ℕ) (bytes : List UInt8) :
    (decodeMask masked headerBytes bytes).Yields fun (_, stop) =>
      headerBytes ≤ stop ∧ stop ≤ headerBytes + 4 := by
  unfold decodeMask
  refine .ite (fun _ => .ite (fun _ => .more) fun _ => ?_) fun _ => .ready (by omega)
  refine .of_bind fun _ => .of_bind fun _ => .of_bind fun _ => .of_bind fun _ => ?_
  exact .ready (by omega)

theorem steady_decodeMask (masked : Bool) {headerBytes : ℕ} (small : headerBytes ≤ 10) :
    Steady 2 14 (decodeMask masked headerBytes) := by
  unfold decodeMask
  refine .ite (.wait (by omega) ?_) (.ready _)
  refine .bind (.byteAt (by omega)) fun _ => .bind (.byteAt (by omega)) fun _ => ?_
  exact .bind (.byteAt (by omega)) fun _ => .bind (.byteAt (by omega)) fun _ => .ready _

/-- The bounds of a header: where it ends, and what it announces. -/
theorem decodeFrameHeader_yields (direction : Direction) (bytes : List UInt8) :
    (decodeFrameHeader direction bytes).Yields fun frame =>
      2 ≤ frame.headerBytes ∧ frame.headerBytes ≤ 14 ∧ frame.payloadBytes ≤ maxMessageBytes := by
  unfold decodeFrameHeader
  refine .ite (fun _ => .more) fun _ => .of_bind fun _ => .ite (fun _ => .broken _) fun _ => ?_
  refine .of_bind fun second => .ite (fun _ => .broken _) fun _ => ?_
  refine .bind (decodeLength_yields second bytes) fun (payloadLength, headerBytes) small => ?_
  refine .ite (fun _ => .broken _) fun fits => ?_
  refine .bind (decodeMask_yields _ headerBytes bytes) fun (mask, stop) bounds => .ready ?_
  dsimp only at small bounds ⊢
  omega

theorem steady_decodeFrameHeader (direction : Direction) : Steady 0 14 (decodeFrameHeader direction) := by
  unfold decodeFrameHeader
  refine .wait (by omega) (.bind (.byteAt (by omega)) fun _ => .ite (.error _) ?_)
  refine .bind (.byteAt (by omega)) fun second => .ite (.error _) ?_
  refine (steady_decodeLength second).bind_of (decodeLength_yields second) ?_
  intro (payloadLength, headerBytes) small
  refine .ite (.error _) ?_
  exact .bind (steady_decodeMask _ small.2) fun _ => .ready _

/-! ## Frames -/

structure FrameDecoder where
  direction : Direction
  buffer : List UInt8
  fragmentedText : Option (List UInt8)
deriving DecidableEq

def unmask (mask : Option (Vector UInt8 4)) (payload : List UInt8) : List UInt8 :=
  match mask with
  | some mask => payload.mapIdx fun index byte => byte ^^^ mask[index % 4]
  | none => payload

/-- The events that an inspection of a message adds, in the direction of the decoder. -/
abbrev Inspect : Type := Direction → List UInt8 → Except ReadinessProxyError (List ObservedEvent)

theorem map_bind {α β γ : Type} (x : Except ReadinessProxyError α) (f : α → Except ReadinessProxyError β)
    (g : β → γ) : (x >>= f).map g = x >>= fun a => (f a).map g := by
  cases x <;> rfl

theorem inspectClient_adds (object : List (String × Json)) (events : List ObservedEvent) :
    inspectClient object events = (inspectClient object []).map (events ++ ·) := by
  have unchanged : (pure events : Except ReadinessProxyError (List ObservedEvent)) =
      (pure [] : Except ReadinessProxyError (List ObservedEvent)).map (events ++ ·) := by
    show Except.ok events = Except.ok (events ++ [])
    rw [List.append_nil]
  unfold inspectClient
  cases Json.member object "method" with
  | none =>
    rw [map_bind, unchanged]
  | some methodName =>
    rw [map_bind]
    refine bind_congr fun methodName => ?_
    rw [map_bind]
    refine bind_congr fun _ => ?_
    cases readinessMethod methodName with
    | none => exact unchanged
    | some method =>
      dsimp only
      rw [map_bind]
      exact bind_congr fun event => rfl

theorem inspectServer_adds (object : List (String × Json)) (events : List ObservedEvent) :
    inspectServer object events = (inspectServer object []).map (events ++ ·) := by
  unfold inspectServer
  cases Json.member object "method" with
  | none =>
    rw [map_bind]
    refine bind_congr fun id => ?_
    rw [map_bind]
    exact bind_congr fun event => rfl
  | some method =>
    rw [map_bind]
    refine bind_congr fun method => ?_
    rw [map_bind]
    refine bind_congr fun _ => ?_
    cases Json.member object "id" with
    | none => rfl
    | some id =>
      dsimp only
      split
      · rfl
      · rfl

/-- The inspection of messages, with the parser `fromSlice`. -/
def inspecting (fromSlice : List UInt8 → Option Json) : Inspect :=
  fun direction bytes => inspectMessage fromSlice direction bytes []

/-- `inspect_message` adds its events behind those that are there. -/
theorem inspectMessage_adds (fromSlice : List UInt8 → Option Json) (direction : Direction)
    (bytes : List UInt8) (events : List ObservedEvent) :
    inspectMessage fromSlice direction bytes events =
      (inspecting fromSlice direction bytes).map (events ++ ·) := by
  unfold inspecting
  unfold inspectMessage
  rw [map_bind]
  refine bind_congr fun message => ?_
  rw [map_bind]
  refine bind_congr fun object => ?_
  cases direction with
  | clientToServer => exact inspectClient_adds object events
  | serverToClient => exact inspectServer_adds object events

namespace FrameDecoder

def new (direction : Direction) : FrameDecoder where
  direction
  buffer := []
  fragmentedText := none

variable (inspect : Inspect) (d : FrameDecoder)

/-- The buffer with more bytes behind it. -/
def extend (bytes : List UInt8) : FrameDecoder := { d with buffer := d.buffer ++ bytes }

/-- A frame that does not fit the text that is open is refused by its header. -/
def admitFrame (frame : DecodedFrameHeader) : Except ReadinessProxyError Unit :=
  if frame.opcode = 0x0 then
    match d.fragmentedText with
    | some fragment => rejectIf (maxMessageBytes < fragment.length + frame.payloadBytes) .frameTooLarge
    | none => .error .invalidFrame
  else rejectIf (frame.opcode = 0x1 ∧ d.fragmentedText.isSome) .invalidFrame

def consumeFrame (fin : Bool) (opcode : UInt8) (payload : List UInt8) :
    Except ReadinessProxyError (List ObservedEvent) × FrameDecoder :=
  if opcode = 0x0 then
    match d.fragmentedText with
    | none => (.error .invalidFrame, d)
    | some fragment =>
      if maxMessageBytes < fragment.length + payload.length then (.error .frameTooLarge, d)
      else if fin then
        (inspect d.direction (fragment ++ payload), { d with fragmentedText := none })
      else (.ok [], { d with fragmentedText := some (fragment ++ payload) })
  else if opcode = 0x1 then
    if d.fragmentedText.isSome then (.error .invalidFrame, d)
    else if fin then (inspect d.direction payload, d)
    else (.ok [], { d with fragmentedText := some payload })
  else if opcode = 0x8 then (.error (.transport d.direction.readerEofOrigin), d)
  else if opcode = 0x9 ∨ opcode = 0xA then (.ok [], d)
  else (.error .invalidFrame, d)

/-- One round of `consume_buffered_frames`. The sum of two lengths below 2^32 does not overflow. -/
def consumeBufferedFrame : Round ReadinessProxyError FrameDecoder ObservedEvent :=
  match decodeFrameHeader d.direction d.buffer with
  | .more => .waiting
  | .broken fault => .failed fault d
  | .ready frame =>
    match d.admitFrame frame with
    | .error error => .failed (.error error) d
    | .ok _ =>
      let frameEnd := frame.headerBytes + frame.payloadBytes
      if d.buffer.length < frameEnd then .waiting
      else match slice d.buffer frame.headerBytes frameEnd with
        | .error fault => .failed fault d
        | .ok payload =>
          match { d with buffer := d.buffer.drop frameEnd }.consumeFrame inspect frame.fin frame.opcode
            (unmask frame.mask payload) with
          | (.error error, next) => .failed (.error error) next
          | (.ok events, next) => .taken next events

/-- A frame that lies whole in the buffer is taken out of it. -/
def takeFrame (frame : DecodedFrameHeader) : Except ReadinessProxyError (List ObservedEvent) × FrameDecoder :=
  let frameEnd := frame.headerBytes + frame.payloadBytes
  { d with buffer := d.buffer.drop frameEnd }.consumeFrame inspect frame.fin frame.opcode
    (unmask frame.mask ((d.buffer.take frameEnd).drop frame.headerBytes))

/-- Taking a frame leaves the buffer alone. -/
theorem consumeFrame_buffer (fin : Bool) (opcode : UInt8) (payload : List UInt8) :
    (d.consumeFrame inspect fin opcode payload).2.buffer = d.buffer := by
  unfold consumeFrame
  repeat' split
  all_goals rfl

theorem consumeFrame_extend (fin : Bool) (opcode : UInt8) (payload bytes : List UInt8) :
    (d.extend bytes).consumeFrame inspect fin opcode payload =
      ((d.consumeFrame inspect fin opcode payload).1,
        (d.consumeFrame inspect fin opcode payload).2.extend bytes) := by
  unfold consumeFrame extend
  dsimp only
  repeat' split
  all_goals rfl

variable {inspect d}

/-- What the header in the buffer and the length of the buffer make of a round. -/
inductive Turn (inspect : Inspect) (d : FrameDecoder) :
    Round ReadinessProxyError FrameDecoder ObservedEvent → Prop
  | short (header : decodeFrameHeader d.direction d.buffer = .more) : Turn inspect d .waiting
  | broken {error : ReadinessProxyError}
      (header : decodeFrameHeader d.direction d.buffer = .broken (.error error)) :
      Turn inspect d (.failed (.error error) d)
  | refused {frame : DecodedFrameHeader} {error : ReadinessProxyError}
      (header : decodeFrameHeader d.direction d.buffer = .ready frame)
      (refused : d.admitFrame frame = .error error) : Turn inspect d (.failed (.error error) d)
  | partly {frame : DecodedFrameHeader}
      (header : decodeFrameHeader d.direction d.buffer = .ready frame) (admitted : d.admitFrame frame = .ok ())
      (partly : d.buffer.length < frame.headerBytes + frame.payloadBytes) : Turn inspect d .waiting
  | failed {frame : DecodedFrameHeader} {error : ReadinessProxyError} {next : FrameDecoder}
      (header : decodeFrameHeader d.direction d.buffer = .ready frame) (admitted : d.admitFrame frame = .ok ())
      (whole : frame.headerBytes + frame.payloadBytes ≤ d.buffer.length)
      (consumed : d.takeFrame inspect frame = (.error error, next)) :
      Turn inspect d (.failed (.error error) next)
  | taken {frame : DecodedFrameHeader} {events : List ObservedEvent} {next : FrameDecoder}
      (header : decodeFrameHeader d.direction d.buffer = .ready frame) (admitted : d.admitFrame frame = .ok ())
      (whole : frame.headerBytes + frame.payloadBytes ≤ d.buffer.length)
      (consumed : d.takeFrame inspect frame = (.ok events, next)) : Turn inspect d (.taken next events)

theorem turn : Turn inspect d (d.consumeBufferedFrame inspect) := by
  unfold consumeBufferedFrame
  cases header : decodeFrameHeader d.direction d.buffer with
  | more => exact .short header
  | broken fault =>
    cases fault with
    | outOfRange =>
      exact absurd header ((steady_decodeFrameHeader d.direction).inRange d.buffer (Nat.zero_le _))
    | error error => exact .broken header
  | ready frame =>
    dsimp only
    rcases admitted : d.admitFrame frame with error | ⟨⟨⟩⟩
    · exact .refused header admitted
    · dsimp only
      by_cases partly : d.buffer.length < frame.headerBytes + frame.payloadBytes
      · rw [if_pos partly]
        exact .partly header admitted partly
      · rw [if_neg partly, slice_eq_ok (by omega) (by omega)]
        dsimp only
        rcases consumed : d.takeFrame inspect frame with ⟨error | events, next⟩
        · have same := consumed
          unfold takeFrame at same
          rw [same]
          exact .failed header admitted (by omega) consumed
        · have same := consumed
          unfold takeFrame at same
          rw [same]
          exact .taken header admitted (by omega) consumed

theorem Turn.eq {r : Round ReadinessProxyError FrameDecoder ObservedEvent} (h : Turn inspect d r) :
    d.consumeBufferedFrame inspect = r := by
  unfold consumeBufferedFrame
  cases h with
  | short header => rw [header]
  | broken header => rw [header]
  | refused header refused =>
    rw [header]
    dsimp only
    rw [refused]
  | partly header admitted partly =>
    rw [header]
    dsimp only
    rw [admitted]
    exact if_pos partly
  | failed header admitted whole consumed =>
    rw [header]
    dsimp only
    rw [admitted]
    dsimp only
    rw [if_neg (by omega), slice_eq_ok (by omega) (by omega)]
    unfold takeFrame at consumed
    dsimp only
    rw [consumed]
  | taken header admitted whole consumed =>
    rw [header]
    dsimp only
    rw [admitted]
    dsimp only
    rw [if_neg (by omega), slice_eq_ok (by omega) (by omega)]
    unfold takeFrame at consumed
    dsimp only
    rw [consumed]

theorem takeFrame_extend {frame : DecodedFrameHeader} (bytes : List UInt8)
    (whole : frame.headerBytes + frame.payloadBytes ≤ d.buffer.length) :
    (d.extend bytes).takeFrame inspect frame =
      ((d.takeFrame inspect frame).1, (d.takeFrame inspect frame).2.extend bytes) := by
  unfold takeFrame
  rw [← consumeFrame_extend]
  unfold extend
  dsimp only
  rw [List.take_append_of_le_length whole, List.drop_append_of_le_length whole]

theorem takeFrame_buffer (inspect : Inspect) (d : FrameDecoder) (frame : DecodedFrameHeader) :
    (d.takeFrame inspect frame).2.buffer = d.buffer.drop (frame.headerBytes + frame.payloadBytes) :=
  consumeFrame_buffer inspect _ _ _ _

theorem Turn.shrinks {next : FrameDecoder} {events : List ObservedEvent}
    (h : Turn inspect d (.taken next events)) : next.buffer.length < d.buffer.length := by
  cases h with
  | taken header admitted whole consumed =>
    have left := takeFrame_buffer inspect d ‹_›
    rw [consumed] at left
    have bounds := decodeFrameHeader_yields _ _ _ header
    rw [left, List.length_drop]
    omega

/-! ## Feeding -/

/-- The loop over the frames in the buffer. -/
def frameLoop (inspect : Inspect) : Decoder ReadinessProxyError FrameDecoder UInt8 ObservedEvent where
  push := extend
  size d := d.buffer.length
  round := consumeBufferedFrame inspect
  shrinks {d _ _} h := by
    have cases : Turn inspect d (d.consumeBufferedFrame inspect) := d.turn
    rw [h] at cases
    exact cases.shrinks

def consumeBufferedFrames (inspect : Inspect) (d : FrameDecoder) :
    Except (Incremental.Fault ReadinessProxyError) (List ObservedEvent) × FrameDecoder :=
  (frameLoop inspect).drain d

/-- How many bytes the buffer still takes. -/
def available (d : FrameDecoder) : ℕ := maxFrameBufferBytes - d.buffer.length

def feed (inspect : Inspect) (d : FrameDecoder) (bytes : List UInt8) :
    Except (Incremental.Fault ReadinessProxyError) (List ObservedEvent) × FrameDecoder :=
  match d.consumeBufferedFrames inspect with
  | (.error fault, d) => (.error fault, d)
  | (.ok events, d) =>
    if bytes = [] then (.ok events, d)
    else if maxFrameBufferBytes < d.buffer.length then (.error (.error .frameTooLarge), d)
    else if _full : d.available = 0 then (.error (.error .frameTooLarge), d)
    else match _cut : split bytes (min bytes.length d.available) with
      | .error fault => (.error fault, d)
      | .ok (front, rest) => after events (feed inspect (d.extend front) rest)
termination_by bytes.length
decreasing_by
  obtain ⟨fits, -, rfl⟩ := of_split_eq_ok _cut
  have some_left := List.length_pos_iff.2 ‹¬bytes = []›
  rw [List.length_drop]
  omega

end FrameDecoder

/-! ## The inspector -/

structure ProtocolInspector where
  direction : Direction
  handshake : List UInt8
  handshakeComplete : Bool
  frames : FrameDecoder
deriving DecidableEq

namespace ProtocolInspector

def new (direction : Direction) : ProtocolInspector where
  direction
  handshake := []
  handshakeComplete := false
  frames := .new direction

/-- The frames behind the handshake, the rest of the kept bytes first. -/
def feedFrames (inspect : Inspect) (s : ProtocolInspector) (chunks : List (List UInt8)) :
    Except (Incremental.Fault ReadinessProxyError) (List ObservedEvent) × ProtocolInspector :=
  let (result, frames) := feedAll (FrameDecoder.feed inspect) s.frames chunks
  (result, { s with frames })

def feed (inspect : Inspect) (s : ProtocolInspector) (bytes : List UInt8) :
    Except (Incremental.Fault ReadinessProxyError) (List ObservedEvent) × ProtocolInspector :=
  if s.handshakeComplete then s.feedFrames inspect [bytes]
  else
    let stored := min bytes.length (maxHandshakeBytes - s.handshake.length)
    match split bytes stored with
    | .error fault => (.error fault, s)
    | .ok (front, rest) =>
      let s := { s with handshake := s.handshake ++ front }
      match findHeaderEnd s.handshake with
      | none =>
        if stored ≠ bytes.length ∨ s.handshake.length = maxHandshakeBytes then
          (.error (.error .handshakeTooLarge), s)
        else (.ok [], s)
      | some headerEnd =>
        if maxHandshakeBytes < headerEnd then (.error (.error .handshakeTooLarge), s)
        else match split s.handshake headerEnd with
          | .error fault => (.error fault, s)
          | .ok (header, remainder) =>
            match validateHandshake header s.direction with
            | .error error => (.error (.error error), s)
            | .ok _ =>
              after [.handshake s.direction]
                ({ s with handshake := [], handshakeComplete := true }.feedFrames inspect
                  [remainder, rest])

end ProtocolInspector

end Readiness

end Calcifer
