import Calcifer.Codex.FrameStream

/-!
# The messages of a relayed stream

A party sends its handshake and then its messages: each in one text frame or cut into fragments, with pings
and pongs anywhere between the frames. `inspection_uncut` says that the inspector hands on exactly these
messages, in this order, and that the cut of the stream makes no difference.
-/

namespace Calcifer

open Checks Incremental

namespace Readiness

/-! ## Sending -/

/-- The second byte of a frame, and the bytes of its length that follow. -/
def encodeLength (masked : Bool) (length : ℕ) : List UInt8 :=
  let flag : UInt8 := if masked then 0x80 else 0
  if length ≤ 125 then [flag ||| UInt8.ofNat length]
  else if length ≤ 65535 then (flag ||| 126) :: Codec.bigEndian 2 length
  else (flag ||| 127) :: Codec.bigEndian 8 length

/-- A frame on the wire, with the key that masks it if its direction is masked. -/
structure Frame where
  fin : Bool
  opcode : UInt8
  payload : List UInt8
  key : Vector UInt8 4

namespace Frame

/-- Frames from the client are masked, frames from the server are not. -/
def mask (f : Frame) : Direction → Option (Vector UInt8 4)
  | .clientToServer => some f.key
  | .serverToClient => none

def maskBytes (f : Frame) (direction : Direction) : List UInt8 :=
  ((f.mask direction).map Vector.toList).getD []

/-- A frame with the shortest form of its length. -/
def encode (f : Frame) (direction : Direction) : List UInt8 :=
  ((if f.fin then 0x80 else 0) ||| f.opcode) ::
    (encodeLength (f.mask direction).isSome f.payload.length ++
      (f.maskBytes direction ++ unmask (f.mask direction) f.payload))

/-- What the decoder reads of a frame, with a header of `headerBytes` bytes. -/
def header (f : Frame) (direction : Direction) (headerBytes : ℕ) : DecodedFrameHeader where
  fin := f.fin
  opcode := f.opcode
  headerBytes
  payloadBytes := f.payload.length
  mask := f.mask direction

structure Valid (f : Frame) : Prop where
  opcode : f.opcode ∈ ([0x0, 0x1, 0x9, 0xA] : List UInt8)
  small : f.payload.length ≤ maxMessageBytes
  control : f.opcode ∈ ([0x9, 0xA] : List UInt8) → f.fin = true ∧ f.payload.length ≤ 125

end Frame

/-- The frames that carry messages, when the text `fragment` of a first message has been sent already. -/
inductive Carries : Option (List UInt8) → List Frame → List (List UInt8) → Prop
  | nil : Carries none [] []
  | control {fragment : Option (List UInt8)} {f : Frame} {frames : List Frame} {messages : List (List UInt8)}
      (opcode : f.opcode ∈ ([0x9, 0xA] : List UInt8)) (fin : f.fin = true)
      (short : f.payload.length ≤ 125) (rest : Carries fragment frames messages) :
      Carries fragment (f :: frames) messages
  | whole {f : Frame} {frames : List Frame} {messages : List (List UInt8)} (opcode : f.opcode = 0x1)
      (fin : f.fin = true) (rest : Carries none frames messages) :
      Carries none (f :: frames) (f.payload :: messages)
  | first {f : Frame} {frames : List Frame} {messages : List (List UInt8)} (opcode : f.opcode = 0x1)
      (fin : f.fin = false) (rest : Carries (some f.payload) frames messages) :
      Carries none (f :: frames) messages
  | next {text : List UInt8} {f : Frame} {frames : List Frame} {messages : List (List UInt8)}
      (opcode : f.opcode = 0x0) (fin : f.fin = false)
      (rest : Carries (some (text ++ f.payload)) frames messages) :
      Carries (some text) (f :: frames) messages
  | last {text : List UInt8} {f : Frame} {frames : List Frame} {messages : List (List UInt8)}
      (opcode : f.opcode = 0x0) (fin : f.fin = true) (rest : Carries none frames messages) :
      Carries (some text) (f :: frames) ((text ++ f.payload) :: messages)

/-- The handshake of a party, and nothing behind it. -/
structure Handshake (direction : Direction) (bytes : List UInt8) : Prop where
  ends : findHeaderEnd bytes = some bytes.length
  fits : bytes.length ≤ maxHandshakeBytes
  valid : validateHandshake bytes direction = .ok ()

/-- What comes of handing messages on one by one, up to the first that is refused. -/
def handed (inspect : Inspect) (direction : Direction) (messages : List (List UInt8)) :
    Except (Incremental.Fault ReadinessProxyError) (List ObservedEvent) :=
  ((messages.mapM (inspect direction)).map List.flatten).mapError .error

/-! ## Headers -/

theorem second_length : ∀ n < 128, ∀ masked : Bool,
    ((if masked then 0x80 else 0) ||| UInt8.ofNat n) &&& 0x7f = UInt8.ofNat n := by decide

theorem second_masked : ∀ n < 128, ∀ masked : Bool,
    decide (((if masked then 0x80 else 0) ||| UInt8.ofNat n) &&& 0x80 ≠ 0) = masked := by
  decide +kernel

theorem first_fin : ∀ opcode ∈ ([0x0, 0x1, 0x9, 0xA] : List UInt8), ∀ fin : Bool,
    decide (((if fin then 0x80 else 0) ||| opcode) &&& 0x80 ≠ 0) = fin ∧
      ((if fin then 0x80 else 0) ||| opcode) &&& 0x70 = 0 ∧
      ((if fin then 0x80 else 0) ||| opcode) &&& 0x0f = opcode := by
  decide +kernel

theorem decodeLength_short {masked : Bool} {length : ℕ} (short : length ≤ 125) (bytes : List UInt8) :
    decodeLength ((if masked then 0x80 else 0) ||| UInt8.ofNat length) bytes = .ready (length, 2) := by
  unfold decodeLength
  rw [second_length length (by omega) masked]
  have fits : UInt8.ofNat length ≤ 125 := by
    rw [UInt8.le_iff_toNat_le, UInt8.toNat_ofNat_of_lt' (by show length < 256; omega)]
    exact short
  dsimp only
  rw [if_pos fits, UInt8.toNat_ofNat_of_lt' (by show length < 256; omega)]
  rfl

theorem decodeLength_middle {masked : Bool} {length : ℕ} (long : 125 < length) (fits : length ≤ 65535)
    (first second : UInt8) (rest : List UInt8) :
    decodeLength ((if masked then 0x80 else 0) ||| 126)
      (first :: second :: (Codec.bigEndian 2 length ++ rest)) = .ready (length, 4) := by
  have value : Codec.ofBigEndian (Codec.bigEndian 2 length) = length :=
    Codec.ofBigEndian_bigEndian (by omega)
  obtain ⟨a, b, explicit⟩ : ∃ a b, Codec.bigEndian 2 length = [a, b] := ⟨_, _, rfl⟩
  have low : ((if masked then 0x80 else 0) ||| 126) &&& 0x7f = (126 : UInt8) :=
    second_length 126 (by decide) masked
  unfold decodeLength
  rw [explicit] at value ⊢
  rw [low]
  have wide : ¬length < 126 := by omega
  simp [Decoded.byteAt, value, wide]
  rfl

theorem decodeLength_long {masked : Bool} {length : ℕ} (long : 65535 < length)
    (fits : length ≤ maxMessageBytes) (first second : UInt8) (rest : List UInt8) :
    decodeLength ((if masked then 0x80 else 0) ||| 127)
      (first :: second :: (Codec.bigEndian 8 length ++ rest)) = .ready (length, 10) := by
  unfold maxMessageBytes at fits
  have value : Codec.ofBigEndian (Codec.bigEndian 8 length) = length :=
    Codec.ofBigEndian_bigEndian (by omega)
  -- the number is far below 2^56, so its first byte is zero
  have zero : UInt8.ofNat (length / 256 / 256 / 256 / 256 / 256 / 256 / 256) = 0 := by
    have none : length / 256 / 256 / 256 / 256 / 256 / 256 / 256 = 0 := by omega
    rw [none]
    rfl
  obtain ⟨b, c, d, e, f, g, h, explicit⟩ :
      ∃ b c d e f g h, Codec.bigEndian 8 length = [0, b, c, d, e, f, g, h] := by
    rw [← zero]
    exact ⟨_, _, _, _, _, _, _, rfl⟩
  have low : ((if masked then 0x80 else 0) ||| 127) &&& 0x7f = (127 : UInt8) :=
    second_length 127 (by decide) masked
  unfold decodeLength
  rw [explicit] at value ⊢
  rw [low]
  have wide : ¬length ≤ 65535 := by omega
  simp [Decoded.byteAt, value, wide]
  rfl

theorem encodeLength_spec (masked : Bool) {length : ℕ} (fits : length ≤ maxMessageBytes) :
    ∃ second tail, encodeLength masked length = second :: tail ∧
      decide (second &&& 0x80 ≠ 0) = masked ∧
      ∀ first rest, decodeLength second (first :: second :: (tail ++ rest)) = .ready (length, tail.length + 2) := by
  unfold encodeLength
  by_cases short : length ≤ 125
  · refine ⟨_, [], if_pos short, second_masked length (by omega) masked, fun first rest => ?_⟩
    exact decodeLength_short short _
  · dsimp only
    rw [if_neg short]
    by_cases middle : length ≤ 65535
    · refine ⟨_, _, if_pos middle, second_masked 126 (by decide) masked, fun first rest => ?_⟩
      rw [decodeLength_middle (by omega) middle, Codec.length_bigEndian]
    · refine ⟨_, _, if_neg middle, second_masked 127 (by decide) masked, fun first rest => ?_⟩
      rw [decodeLength_long (by omega) fits, Codec.length_bigEndian]

theorem byteAt_append (front back : List UInt8) (i : ℕ) :
    (Decoded.byteAt (front ++ back) (front.length + i) : Decoded ReadinessProxyError UInt8) =
      Decoded.byteAt back i := by
  unfold Decoded.byteAt
  rw [List.getElem?_append_right (by omega), Nat.add_sub_cancel_left]

theorem decodeMask_key (key : Vector UInt8 4) (front rest : List UInt8) :
    decodeMask true front.length (front ++ (key.toList ++ rest)) = .ready (some key, front.length + 4) := by
  obtain ⟨⟨bytes⟩, size⟩ := key
  obtain ⟨a, b, c, d, rfl⟩ : ∃ a b c d, bytes = [a, b, c, d] := by
    match bytes, size with
    | [a, b, c, d], _ => exact ⟨a, b, c, d, rfl⟩
  have at_start := byteAt_append front (a :: b :: c :: d :: rest) 0
  unfold decodeMask
  show (if true = true then _ else _) = _
  rw [if_pos rfl, if_neg (by simp)]
  show (Decoded.byteAt (front ++ (a :: b :: c :: d :: rest)) (front.length + 0) >>= _) = _
  simp only [byteAt_append, List.cons_append, List.nil_append, Vector.toList]
  rfl

theorem control_opcode : ∀ opcode ∈ ([0x0, 0x1, 0x9, 0xA] : List UInt8),
    opcode &&& 0x08 ≠ 0 → opcode ∈ ([0x9, 0xA] : List UInt8) := by
  decide +kernel

namespace Frame

theorem decodeMask_maskBytes (f : Frame) (direction : Direction) (front rest : List UInt8) :
    decodeMask (f.mask direction).isSome front.length (front ++ (f.maskBytes direction ++ rest)) =
      .ready (f.mask direction, front.length + (f.maskBytes direction).length) := by
  cases direction with
  | clientToServer =>
    have size : (f.maskBytes .clientToServer).length = 4 := f.key.length_toList
    rw [size]
    exact decodeMask_key f.key front rest
  | serverToClient => rfl

theorem decodeFrameHeader_encode {f : Frame} (valid : f.Valid) (direction : Direction)
    (rest : List UInt8) :
    ∃ headerBytes,
      decodeFrameHeader direction (f.encode direction ++ rest) =
        .ready (f.header direction headerBytes) ∧
      (f.encode direction).drop headerBytes = unmask (f.mask direction) f.payload ∧
      headerBytes + (unmask (f.mask direction) f.payload).length = (f.encode direction).length := by
  obtain ⟨fin, reserved, opcode⟩ := first_fin f.opcode valid.opcode f.fin
  obtain ⟨second, tail, encoded, masked, decoded⟩ := encodeLength_spec (f.mask direction).isSome valid.small
  have agrees : (f.mask direction).isSome = decide (direction = .clientToServer) := by
    cases direction <;> rfl
  have split : f.encode direction =
      ((if f.fin then 0x80 else 0) ||| f.opcode) :: second :: (tail ++ (f.maskBytes direction ++
        unmask (f.mask direction) f.payload)) := by
    rw [encode, encoded]
    rfl
  have allowed : ¬(decide (f.opcode &&& 0x08 ≠ 0) = true ∧ (¬f.fin = true ∨ 125 < f.payload.length) ∨
      maxMessageBytes < f.payload.length) := by
    have small := valid.small
    rintro (⟨control, bad⟩ | large)
    · obtain ⟨ends, short⟩ := valid.control (control_opcode f.opcode valid.opcode (of_decide_eq_true control))
      rcases bad with more | long
      · exact more ends
      · omega
    · omega
  have key := f.decodeMask_maskBytes direction
    (((if f.fin then 0x80 else 0) ||| f.opcode) :: second :: tail)
    (unmask (f.mask direction) f.payload ++ rest)
  refine ⟨tail.length + 2 + (f.maskBytes direction).length, ?_, ?_, ?_⟩
  · rw [split]
    unfold decodeFrameHeader
    rw [if_neg (by simp)]
    simp only [List.cons_append, List.append_assoc]
    show (if ((if f.fin then 0x80 else 0) ||| f.opcode) &&& 0x70 ≠ 0 then _ else _) = _
    rw [if_neg (not_not.2 reserved)]
    show (if decide (second &&& 0x80 ≠ 0) ≠ decide (direction = .clientToServer) then _ else _) = _
    rw [if_neg (not_not.2 (masked.trans agrees)), decoded]
    show (if decide ((((if f.fin then 0x80 else 0) ||| f.opcode) &&& 0x0f) &&& 0x08 ≠ 0) = true ∧
      (¬decide (((if f.fin then 0x80 else 0) ||| f.opcode) &&& 0x80 ≠ 0) = true ∨ _) ∨ _ then _ else _) = _
    rw [opcode, fin, if_neg allowed, masked]
    show (decodeMask (f.mask direction).isSome (tail.length + 2) _ >>= _) = _
    rw [show tail.length + 2 = (((if f.fin then 0x80 else 0) ||| f.opcode) :: second :: tail).length from rfl]
    simp only [List.cons_append] at key
    rw [key]
    rfl
  · have whole : f.encode direction = (((if f.fin then 0x80 else 0) ||| f.opcode) :: second :: tail ++
        f.maskBytes direction) ++ unmask (f.mask direction) f.payload := by
      rw [split, List.append_assoc]
      rfl
    rw [whole, List.drop_left' (by simp; omega)]
  · rw [split]
    simp
    omega

/-! ## Frames -/

theorem unmask_unmask (mask : Option (Vector UInt8 4)) (payload : List UInt8) :
    unmask mask (unmask mask payload) = payload := by
  cases mask with
  | none => rfl
  | some key =>
    unfold unmask
    dsimp only
    rw [List.mapIdx_mapIdx]
    refine List.ext_getElem? fun index => ?_
    rw [List.getElem?_mapIdx]
    cases payload[index]? with
    | none => rfl
    | some byte =>
      show some (byte ^^^ key[index % 4] ^^^ key[index % 4]) = some byte
      rw [UInt8.xor_assoc, UInt8.xor_self, UInt8.xor_zero]

theorem length_unmask (mask : Option (Vector UInt8 4)) (payload : List UInt8) :
    (unmask mask payload).length = payload.length := by
  cases mask with
  | none => rfl
  | some key => exact List.length_mapIdx

end Frame

namespace FrameDecoder

variable {inspect : Inspect} {d : FrameDecoder}

/-- A frame at the front of the buffer is taken out of it, and what it says is read. -/
theorem consumeBufferedFrame_encode {f : Frame} (valid : f.Valid) {rest : List UInt8}
    (buffer : d.buffer = f.encode d.direction ++ rest)
    (admitted : ∀ headerBytes, d.admitFrame (f.header d.direction headerBytes) = .ok ())
    {result : Except ReadinessProxyError (List ObservedEvent)} {next : FrameDecoder}
    (consumed : { d with buffer := rest }.consumeFrame inspect f.fin f.opcode f.payload = (result, next)) :
    d.consumeBufferedFrame inspect =
      match result with
      | .error error => .failed (.error error) next
      | .ok events => .taken next events := by
  obtain ⟨headerBytes, header, body, size⟩ := f.decodeFrameHeader_encode valid d.direction rest
  rw [← buffer] at header
  rw [Frame.length_unmask] at size
  have whole : headerBytes + f.payload.length ≤ d.buffer.length := by
    rw [buffer, List.length_append]
    omega
  have takes : d.takeFrame inspect (f.header d.direction headerBytes) = (result, next) := by
    unfold takeFrame Frame.header
    dsimp only
    rw [size, buffer, List.take_left, List.drop_left, body, Frame.unmask_unmask]
    exact consumed
  cases result with
  | error error => exact (Turn.failed header (admitted headerBytes) whole takes).eq
  | ok events => exact (Turn.taken header (admitted headerBytes) whole takes).eq

end FrameDecoder

/-! ## Messages -/

section Messages

variable {inspect : Inspect} {direction : Direction}

theorem handed_error {message : List UInt8} {messages : List (List UInt8)} {error : ReadinessProxyError}
    (h : inspect direction message = .error error) :
    handed inspect direction (message :: messages) = .error (.error error) := by
  unfold handed
  rw [List.mapM_cons, h]
  rfl

theorem handed_ok {message : List UInt8} {messages : List (List UInt8)} {events : List ObservedEvent}
    (h : inspect direction message = .ok events) :
    handed inspect direction (message :: messages) =
      (handed inspect direction messages).map (events ++ ·) := by
  unfold handed
  rw [List.mapM_cons, h]
  cases messages.mapM (inspect direction) with
  | error error => rfl
  | ok rest => rfl

/-- A text that has been begun is the beginning of the first message. -/
theorem Carries.begun {text : List UInt8} {frames : List Frame} {messages : List (List UInt8)} :
    Carries (some text) frames messages → ∃ message ∈ messages, text.length ≤ message.length := by
  generalize same : some text = fragment
  intro carries
  induction carries generalizing text with
  | nil => cases same
  | control opcode fin short rest ih => exact ih same
  | whole opcode fin rest ih => cases same
  | first opcode fin rest ih => cases same
  | next opcode fin rest ih =>
    cases same
    obtain ⟨message, sent, fits⟩ := ih rfl
    refine ⟨message, sent, ?_⟩
    rw [List.length_append] at fits
    omega
  | last opcode fin rest ih =>
    cases same
    refine ⟨_, List.mem_cons_self, ?_⟩
    rw [List.length_append]
    omega

/-- A decoder with frames in its buffer. -/
def loaded (direction : Direction) (fragment : Option (List UInt8)) (frames : List Frame) : FrameDecoder where
  direction
  buffer := frames.flatMap fun f => f.encode direction
  fragmentedText := fragment

variable {fragment : Option (List UInt8)} {f : Frame} {frames : List Frame}

theorem drain_loaded_ok (valid : f.Valid)
    (admitted : ∀ headerBytes,
      (loaded direction fragment (f :: frames)).admitFrame (f.header direction headerBytes) = .ok ())
    {events : List ObservedEvent} {next : FrameDecoder}
    (consumed : (loaded direction fragment frames).consumeFrame inspect f.fin f.opcode f.payload =
      (.ok events, next)) :
    (FrameDecoder.frameLoop inspect).drain (loaded direction fragment (f :: frames)) =
      after events ((FrameDecoder.frameLoop inspect).drain next) :=
  Decoder.drain_taken (FrameDecoder.consumeBufferedFrame_encode valid rfl admitted consumed)

theorem drain_loaded_error (valid : f.Valid)
    (admitted : ∀ headerBytes,
      (loaded direction fragment (f :: frames)).admitFrame (f.header direction headerBytes) = .ok ())
    {error : ReadinessProxyError} {next : FrameDecoder}
    (consumed : (loaded direction fragment frames).consumeFrame inspect f.fin f.opcode f.payload =
      (.error error, next)) :
    (FrameDecoder.frameLoop inspect).drain (loaded direction fragment (f :: frames)) =
      (.error (.error error), next) :=
  Decoder.drain_failed (FrameDecoder.consumeBufferedFrame_encode valid rfl admitted consumed)

/-- A frame that ends a message hands the message on. -/
theorem drain_loaded_message (valid : f.Valid)
    (admitted : ∀ headerBytes,
      (loaded direction fragment (f :: frames)).admitFrame (f.header direction headerBytes) = .ok ())
    {message : List UInt8} {messages : List (List UInt8)}
    (consumed : (loaded direction fragment frames).consumeFrame inspect f.fin f.opcode f.payload =
      (inspect direction message, loaded direction none frames))
    (rest : ((FrameDecoder.frameLoop inspect).drain (loaded direction none frames)).1 =
      handed inspect direction messages) :
    ((FrameDecoder.frameLoop inspect).drain (loaded direction fragment (f :: frames))).1 =
      handed inspect direction (message :: messages) := by
  rcases inspected : inspect direction message with error | events
  · rw [inspected] at consumed
    rw [drain_loaded_error valid admitted consumed, handed_error inspected]
  · rw [inspected] at consumed
    rw [drain_loaded_ok valid admitted consumed, handed_ok inspected, ← rest]
    rfl

theorem valid_control (opcode : f.opcode ∈ ([0x9, 0xA] : List UInt8)) (fin : f.fin = true)
    (short : f.payload.length ≤ 125) : f.Valid where
  opcode := by rcases List.mem_pair.1 opcode with same | same <;> simp [same]
  small := by
    unfold maxMessageBytes
    omega
  control _ := ⟨fin, short⟩

theorem valid_data (opcode : f.opcode = 0x0 ∨ f.opcode = 0x1)
    (small : f.payload.length ≤ maxMessageBytes) : f.Valid where
  opcode := by rcases opcode with same | same <;> simp [same]
  small
  control h := by rcases opcode with same | same <;> simp [same] at h

theorem Carries.drain {messages : List (List UInt8)} (carries : Carries fragment frames messages)
    (small : ∀ message ∈ messages, message.length ≤ maxMessageBytes) :
    ((FrameDecoder.frameLoop inspect).drain (loaded direction fragment frames)).1 =
      handed inspect direction messages := by
  induction carries with
  | nil =>
    have waits : (FrameDecoder.frameLoop inspect).round (loaded direction none []) = .waiting := rfl
    rw [Decoder.drain_waiting waits]
    rfl
  | @control fragment f frames messages opcode fin short rest ih =>
    have consumed : (loaded direction fragment frames).consumeFrame inspect f.fin f.opcode f.payload =
        (.ok [], loaded direction fragment frames) := by
      rcases List.mem_pair.1 opcode with same | same <;> simp [FrameDecoder.consumeFrame, same]
    rw [drain_loaded_ok (valid_control opcode fin short) ?_ consumed, after_nil]
    · exact ih small
    · intro headerBytes
      rcases List.mem_pair.1 opcode with same | same <;>
        simp [FrameDecoder.admitFrame, Frame.header, same, rejectIf]
  | @whole f frames messages opcode fin rest ih =>
    obtain ⟨fits, small⟩ := List.forall_mem_cons.1 small
    refine drain_loaded_message (valid_data (.inr opcode) fits) ?_ ?_ (ih small)
    · intro headerBytes
      simp [FrameDecoder.admitFrame, Frame.header, opcode, rejectIf, loaded]
    · simp [FrameDecoder.consumeFrame, opcode, fin, loaded]
  | @first f frames messages opcode fin rest ih =>
    obtain ⟨message, sent, fits⟩ := rest.begun
    have bounded := small message sent
    have consumed : (loaded direction none frames).consumeFrame inspect f.fin f.opcode f.payload =
        (.ok [], loaded direction (some f.payload) frames) := by
      simp [FrameDecoder.consumeFrame, opcode, fin, loaded]
    rw [drain_loaded_ok (valid_data (.inr opcode) (by omega)) ?_ consumed, after_nil]
    · exact ih small
    · intro headerBytes
      simp [FrameDecoder.admitFrame, Frame.header, opcode, rejectIf, loaded]
  | @next text f frames messages opcode fin rest ih =>
    obtain ⟨message, sent, fits⟩ := rest.begun
    have bounded := small message sent
    rw [List.length_append] at fits
    have room : ¬maxMessageBytes < text.length + f.payload.length := by omega
    have consumed : (loaded direction (some text) frames).consumeFrame inspect f.fin f.opcode f.payload =
        (.ok [], loaded direction (some (text ++ f.payload)) frames) := by
      simp [FrameDecoder.consumeFrame, opcode, fin, loaded, room]
    rw [drain_loaded_ok (valid_data (.inl opcode) (by omega)) ?_ consumed, after_nil]
    · exact ih small
    · intro headerBytes
      simp [FrameDecoder.admitFrame, Frame.header, opcode, rejectIf, loaded, room]
  | @last text f frames messages opcode fin rest ih =>
    obtain ⟨fits, small⟩ := List.forall_mem_cons.1 small
    rw [List.length_append] at fits
    have room : ¬maxMessageBytes < text.length + f.payload.length := by omega
    refine drain_loaded_message (valid_data (.inl opcode) (by omega)) ?_ ?_ (ih small)
    · intro headerBytes
      simp [FrameDecoder.admitFrame, Frame.header, opcode, rejectIf, loaded, room]
    · simp [FrameDecoder.consumeFrame, opcode, fin, loaded, room]

/-- The inspector reads a handshake, and gives what is behind it to the decoder. -/
theorem Handshake.feed {handshake : List UInt8} (sent : Handshake direction handshake)
    (stream : List UInt8) :
    ((ProtocolInspector.new direction).feed inspect (handshake ++ stream)).1 =
      (((FrameDecoder.new direction).feed inspect stream).1).map (.handshake direction :: ·) := by
  have kept : (ProtocolInspector.new direction).kept (handshake ++ stream) =
      handshake ++ stream.take (maxHandshakeBytes - handshake.length) := by
    rw [ProtocolInspector.kept_eq]
    show [] ++ (handshake ++ stream).take maxHandshakeBytes = _
    rw [List.nil_append, List.take_append, List.take_of_length_le sent.fits]
  have found : findHeaderEnd ((ProtocolInspector.new direction).kept (handshake ++ stream)) =
      some handshake.length := by
    rw [kept]
    exact findHeaderEnd_append _ sent.ends
  have valid : validateHandshake (((ProtocolInspector.new direction).kept
      (handshake ++ stream)).take handshake.length) direction = .ok () := by
    rw [kept, List.take_left]
    exact sent.valid
  rw [(ProtocolInspector.feed_finished rfl found (not_lt.2 sent.fits) valid).1]
  show (after _ ((ProtocolInspector.new direction).opened.feed inspect
    ((handshake ++ stream).drop handshake.length))).1 = _
  rw [List.drop_left,
    ProtocolInspector.feed_complete inspect (s := (ProtocolInspector.new direction).opened) rfl]
  unfold ProtocolInspector.feedFrames
  rw [feedAll_singleton]
  rfl

/-- However a stream is cut, the messages that were sent are handed on. -/
theorem handed_of_chunks {handshake : List UInt8} (sent : Handshake direction handshake)
    {messages : List (List UInt8)} (carries : Carries none frames messages)
    (small : ∀ message ∈ messages, message.length ≤ maxMessageBytes) {chunks : List (List UInt8)}
    (cut : chunks.flatten = handshake ++ frames.flatMap fun f => f.encode direction) :
    (feedAll (ProtocolInspector.feed inspect) (.new direction) chunks).1 =
      (handed inspect direction messages).map (.handshake direction :: ·) := by
  cases chunks with
  | nil =>
    have empty : handshake = [] := (List.append_eq_nil_iff.1 cut.symm).1
    have ends := sent.ends
    rw [empty] at ends
    cases ends
  | cons chunk chunks =>
    rw [← ((ProtocolInspector.feed_uncut inspect).feedAll (.new direction) chunk chunks).1,
      ← List.flatten_cons, cut, sent.feed, (FrameDecoder.feed_agrees inspect _ _).1]
    show (((FrameDecoder.frameLoop inspect).drain (loaded direction none frames)).1).map _ = _
    rw [carries.drain small]

end Messages

/-- Feeding a stream in two pieces comes to the same as feeding it whole: the same events and the same state,
or the same error. The messages that a party sends are handed on in their order, however its frames are cut.
The buffer stays within its bound and has room whenever it is filled, and nothing is looked for out of
range. -/
theorem inspection_uncut (inspect : Inspect) :
    (∀ (s : ProtocolInspector) (first second : List UInt8) (events : List ObservedEvent)
      (final : ProtocolInspector),
      s.feed inspect (first ++ second) = (.ok events, final) ↔
        ∃ before middle behind, s.feed inspect first = (.ok before, middle) ∧
          middle.feed inspect second = (.ok behind, final) ∧ events = before ++ behind) ∧
      (∀ (s : ProtocolInspector) (first second : List UInt8) (error : Incremental.Fault ReadinessProxyError),
        (s.feed inspect (first ++ second)).1 = .error error ↔
          (s.feed inspect first).1 = .error error ∨
            ∃ before middle, s.feed inspect first = (.ok before, middle) ∧
              (middle.feed inspect second).1 = .error error) ∧
      (∀ (direction : Direction) (handshake : List UInt8) (frames : List Frame)
        (messages chunks : List (List UInt8)), Handshake direction handshake →
        Carries none frames messages → (∀ message ∈ messages, message.length ≤ maxMessageBytes) →
        chunks.flatten = handshake ++ (frames.flatMap fun f => f.encode direction) →
        (feedAll (ProtocolInspector.feed inspect) (.new direction) chunks).1 =
          (handed inspect direction messages).map (.handshake direction :: ·)) ∧
      (∀ s, ProtocolInspector.Reachable inspect s → s.handshake.length ≤ maxHandshakeBytes ∧
        s.frames.buffer.length ≤ maxFrameBufferBytes) ∧
      (∀ d bytes last, FrameDecoder.Passes inspect d bytes last →
        d.buffer.length ≤ maxFrameBufferBytes → last.buffer.length ≤ maxFrameBufferBytes) ∧
      (∀ d events next, FrameDecoder.consumeBufferedFrames inspect d = (.ok events, next) →
        next.buffer.length ≤ maxFrameBufferBytes ∧ next.available ≠ 0) ∧
      ∀ (s : ProtocolInspector) (bytes : List UInt8), (s.feed inspect bytes).1 ≠ .error .outOfRange := by
  refine ⟨fun s first second events final => (ProtocolInspector.feed_uncut inspect).eq_ok,
    fun s first second error => (ProtocolInspector.feed_uncut inspect).eq_error, ?_, ?_,
    fun d bytes last passes fits => passes.fits fits, ?_, ProtocolInspector.feed_inRange inspect⟩
  · intro direction handshake frames messages chunks sent carries small cut
    exact handed_of_chunks sent carries small cut
  · intro s reached
    exact ⟨reached.bounded.handshake, reached.bounded.frames⟩
  · intro d events next consumed
    have room := FrameDecoder.room_of_consume consumed
    unfold FrameDecoder.available
    omega

/-- A server answers the handshake, and then sends a ping and one message in two fragments. The stream
arrives in two chunks, the cut being inside of the ping. -/
theorem inspection_uncut_fragments :
    let inspect := inspecting fun bytes =>
      if bytes = [0x7b, 0x7d] then some (.obj [("method", .str "warning")]) else none
    let answer :=
      Text.bytes "HTTP/1.1 101 Switching Protocols\r\nUpgrade: websocket\r\nConnection: Upgrade\r\n\r\n"
    (feedAll (ProtocolInspector.feed inspect) (.new .serverToClient)
      [answer ++ [0x89], [0x01, 0x21, 0x01, 0x01, 0x7b, 0x80, 0x01, 0x7d]]).1 =
        .ok [.handshake .serverToClient, .providerNotification "warning"] := by
  intro inspect answer
  let ping : Frame := ⟨true, 0x9, [0x21], #v[0, 0, 0, 0]⟩
  let begun : Frame := ⟨false, 0x1, [0x7b], #v[0, 0, 0, 0]⟩
  let ended : Frame := ⟨true, 0x0, [0x7d], #v[0, 0, 0, 0]⟩
  have sent : Handshake .serverToClient answer :=
    ⟨by decide +kernel, by decide +kernel, by decide +kernel⟩
  have carries : Carries none [ping, begun, ended] [[0x7b, 0x7d]] :=
    .control (by decide) rfl (by decide) (.first rfl rfl (.last (f := ended) rfl rfl .nil))
  have small : ∀ message ∈ ([[0x7b, 0x7d]] : List (List UInt8)), message.length ≤ maxMessageBytes := by
    decide
  exact (inspection_uncut inspect).2.2.1 .serverToClient answer [ping, begun, ended] [[0x7b, 0x7d]]
    [answer ++ [0x89], [0x01, 0x21, 0x01, 0x01, 0x7b, 0x80, 0x01, 0x7d]] sent carries small
    (by decide +kernel)

end Readiness

end Calcifer
