import Calcifer.Supervisor.WireIo

/-!
# A canonical bijection

What is sent is received as the same message with nothing left over, and what is received was the
encoding of the message, for every cut of the bytes (`wire_canonical`). A frame fixes its direction,
its type and its body (`receiveFrame_ok`), and `decodeCommand_iff` and `decodeEvent_iff` do the rest.
-/

namespace Calcifer.Supervisor

open Checks Codec

/-! ## Frames -/

section

variable {direction messageType : UInt8} {body frame : List UInt8}

theorem frameBytes_eq_ok {directionAndType : UInt8} :
    frameBytes directionAndType body = .ok frame ↔
      body ≠ [] ∧ body.length ≤ maxBodyBytes ∧
        wireMagic ++ [protocolVersion, directionAndType] ++ bigEndian 2 body.length ++ body = frame := by
  simp only [frameBytes, check_bind_eq_ok, rejectIf_eq_ok, pure_eq_ok, not_lt]

/-- A byte is its direction and its type. -/
theorem direction_or_type (byte : UInt8) :
    (byte &&& directionMask) ||| (byte &&& typeMask) = byte := by
  revert byte
  decide +kernel

/-- What a header says. -/
theorem checkHeader_eq_ok {header : List UInt8} {bodyLen : ℕ} (length : header.length = headerBytes) :
    checkHeader direction header = .ok (messageType, bodyLen) ↔
      ∃ byte, byte &&& directionMask = direction ∧ byte &&& typeMask = messageType ∧
        messageType ≠ 0 ∧ 0 < bodyLen ∧ bodyLen ≤ maxBodyBytes ∧
        header = wireMagic ++ [protocolVersion, byte] ++ bigEndian 2 bodyLen := by
  simp only [checkHeader, check_bind_eq_ok, rejectIf_eq_ok, Decidable.not_not,
    bind_eq_ok (α := List UInt8), bind_eq_ok (α := UInt8), slice_eq_ok, index, okOr_eq_ok, pure_eq_ok,
    Prod.mk.injEq]
  have size : header.length = 8 := length
  constructor
  · rintro ⟨magic, ⟨-, hmagic⟩, rfl, version, hversion, rfl, byte, hbyte, hdirection, htype, lenBytes,
      ⟨-, hlen⟩, positive, bounded, rfl, rfl⟩
    refine ⟨byte, hdirection, rfl, htype, by omega, by omega, ?_⟩
    have lenBytes_length : lenBytes.length = 2 := by
      rw [← hlen]
      simp
      omega
    rw [bigEndian_of_length lenBytes_length, ← hmagic, ← hlen]
    rcases header with _ | ⟨h₀, _ | ⟨h₁, _ | ⟨h₂, _ | ⟨h₃, _ | ⟨h₄, _ | ⟨h₅, rest⟩⟩⟩⟩⟩⟩ <;>
      simp at size
    simp only [List.getElem?_cons_succ, List.getElem?_cons_zero, Option.some.injEq] at hversion hbyte
    subst hversion hbyte
    simp [size]
  · rintro ⟨byte, hdirection, rfl, htype, positive, bounded, rfl⟩
    have fits : bodyLen < 256 ^ 2 := by
      unfold maxBodyBytes maxFrameBytes headerBytes at bounded
      omega
    have two := length_bigEndian 2 bodyLen
    refine ⟨wireMagic, ⟨⟨by omega, by simp [wireMagic]⟩, by simp [wireMagic]⟩, rfl, protocolVersion,
      by simp [wireMagic], rfl, byte, by simp [wireMagic], hdirection, htype, bigEndian 2 bodyLen,
      ⟨⟨by omega, by omega⟩, ?_⟩, ?_, ?_, rfl, ?_⟩
    · rw [List.take_of_length_le (by omega)]
      simp [wireMagic]
    · rw [ofBigEndian_bigEndian fits]
      omega
    · rw [ofBigEndian_bigEndian fits]
      omega
    · exact ofBigEndian_bigEndian fits

theorem headerBytes_frame {directionAndType : UInt8} :
    (wireMagic ++ [protocolVersion, directionAndType] ++ bigEndian 2 body.length).length =
      headerBytes := by
  simp [wireMagic, headerBytes]

/-- A frame that was received was on the stream, in the expected direction. -/
theorem receiveFrame_ok {reader reader' : Reader} {received : ReceivedFrame}
    (h : receiveFrame direction reader = (some (.ok received), reader')) :
    received.body.length = maxBodyBytes ∧
    ∃ messageType body frame, received = ReceivedFrame.of messageType body ∧
      frameBytes (direction ||| messageType) body = .ok frame ∧
      reader.stream = frame ++ reader'.stream := by
  unfold receiveFrame at h
  simp only [ReadM.bind_apply, ReadM.readExact, ReadM.lift] at h
  rcases hread : readExactBefore .header headerBytes reader.calls [] reader.stream with
    ⟨_ | e | header, reader₁⟩ <;> rw [hread] at h <;> try cases h
  obtain ⟨read, hstream, hheader, length⟩ := readExactBefore_ok (Nat.zero_le _) hread
  rw [List.nil_append] at hheader
  simp only [Option.map_some, protocol, Except.mapError] at h
  cases hcheck : checkHeader direction header with
  | error e =>
    rw [hcheck] at h
    cases h
  | ok parts =>
    obtain ⟨messageType, bodyLen⟩ := parts
    rw [hcheck] at h
    obtain ⟨byte, hdirection, htype, -, positive, bounded, header_eq⟩ :=
      (checkHeader_eq_ok length).1 hcheck
    dsimp only at h
    rcases hread' : readExactBefore .body bodyLen reader₁.calls [] reader₁.stream with
      ⟨_ | e | body, reader₂⟩ <;> rw [hread'] at h <;> try cases h
    obtain ⟨read', hstream', hbody, length'⟩ := readExactBefore_ok (Nat.zero_le _) hread'
    rw [List.nil_append] at hbody
    subst hheader hbody length'
    refine ⟨?_, messageType, body, header ++ body, rfl, frameBytes_eq_ok.2 ⟨?_, bounded, ?_⟩, ?_⟩
    · simp
      omega
    · rintro rfl
      exact absurd positive (Nat.lt_irrefl 0)
    · rw [header_eq, ← hdirection, ← htype, direction_or_type]
    · rw [hstream, hstream', List.append_assoc]

/-- A prompt channel gives a frame back, or is not ready often enough yet. -/
theorem receiveFrame_prompt {calls : List IoCall} {rest : List UInt8}
    (prompt : ∀ call ∈ calls, call.Prompt)
    (hdirection : (direction ||| messageType) &&& directionMask = direction)
    (htype : (direction ||| messageType) &&& typeMask = messageType) (hne : messageType ≠ 0)
    (h : frameBytes (direction ||| messageType) body = .ok frame) :
    ((receiveFrame direction ⟨frame ++ rest, calls⟩).1 = none ∧ readyCalls calls < frame.length) ∨
      ∃ calls', receiveFrame direction ⟨frame ++ rest, calls⟩ =
        (some (.ok (ReceivedFrame.of messageType body)), ⟨rest, calls'⟩) := by
  obtain ⟨nonempty, bounded, rfl⟩ := frameBytes_eq_ok.1 h
  have positive : 0 < body.length := List.length_pos_iff.2 nonempty
  obtain ⟨header, hheader⟩ : ∃ header, wireMagic ++ [protocolVersion, direction ||| messageType] ++
    bigEndian 2 body.length = header := ⟨_, rfl⟩
  have length : header.length = headerBytes := by
    rw [← hheader]
    exact headerBytes_frame
  have checked : checkHeader direction header = .ok (messageType, body.length) :=
    (checkHeader_eq_ok length).2
      ⟨_, hdirection, htype, hne, positive, bounded, hheader.symm⟩
  rw [hheader, List.append_assoc]
  unfold receiveFrame
  simp only [ReadM.bind_apply, ReadM.readExact, ReadM.lift]
  obtain ⟨waits, few⟩ | ⟨calls₁, read, prompt₁, few⟩ :=
    @readExactBefore_prompt calls [] (header ++ (body ++ rest)) .header headerBytes prompt
      (Nat.zero_le headerBytes) (by simp [length])
  · left
    rcases hread : readExactBefore .header headerBytes calls [] (header ++ (body ++ rest)) with
      ⟨r, reader₁⟩
    rw [hread] at waits
    subst waits
    refine ⟨rfl, ?_⟩
    rw [List.length_append, length]
    simp only [List.length_nil] at few
    omega
  · simp only [List.length_nil, Nat.sub_zero, List.nil_append, ← length, List.take_left,
      List.drop_left] at read few
    rw [← length, read]
    simp only [Option.map_some, protocol, Except.mapError, checked]
    obtain ⟨waits, few'⟩ | ⟨calls₂, read', -, -⟩ :=
      @readExactBefore_prompt calls₁ [] (body ++ rest) .body body.length prompt₁
        (Nat.zero_le body.length) (by simp)
    · left
      rcases hread : readExactBefore .body body.length calls₁ [] (body ++ rest) with ⟨r, reader₁⟩
      rw [hread] at waits
      subst waits
      refine ⟨rfl, ?_⟩
      rw [List.length_append]
      simp only [List.length_nil] at few'
      omega
    · right
      simp only [List.length_nil, Nat.sub_zero, List.nil_append, List.take_left,
        List.drop_left] at read'
      rw [read']
      exact ⟨calls₂, rfl⟩

theorem inRange_checkHeader {header : List UInt8} (length : header.length = headerBytes) :
    InRange (checkHeader direction header) := by
  have size : header.length = 8 := length
  refine (inRange_slice (by omega) (by omega)).bind fun _ _ => (inRange_rejectIf _ _).bind fun _ _ =>
    (inRange_index (by omega)).bind fun _ _ => (inRange_rejectIf _ _).bind fun _ _ =>
    (inRange_index (by omega)).bind fun _ _ => (inRange_rejectIf _ _).bind fun _ _ =>
    (inRange_rejectIf _ _).bind fun _ _ => (inRange_slice (by omega) (by omega)).bind fun _ _ =>
    (inRange_rejectIf _ _).bind fun _ _ => (inRange_rejectIf _ _).bind fun _ _ => inRange_pure _

/-- No position of a frame is out of range, whatever is on the stream. -/
theorem inRange_receiveFrame (reader : Reader) :
    (receiveFrame direction reader).1 ≠ some (.error .outOfRange) := by
  intro h
  unfold receiveFrame at h
  simp only [ReadM.bind_apply, ReadM.readExact, ReadM.lift] at h
  rcases hread : readExactBefore .header headerBytes reader.calls [] reader.stream with
    ⟨_ | e | header, reader₁⟩ <;> rw [hread] at h <;> try cases h
  obtain ⟨-, -, -, length⟩ := readExactBefore_ok (Nat.zero_le _) hread
  simp only [Option.map_some, protocol, Except.mapError] at h
  cases hcheck : checkHeader direction header with
  | error e =>
    rw [hcheck] at h
    cases h
    exact inRange_checkHeader length hcheck
  | ok parts =>
    rw [hcheck] at h
    dsimp only at h
    rcases hread' : readExactBefore .body parts.2 reader₁.calls [] reader₁.stream with
      ⟨_ | e | body, reader₂⟩ <;> rw [hread'] at h <;> cases h

end

/-! ## Types of messages -/

/-- A type that is one of a direction. -/
def Proper (direction messageType : UInt8) : Prop :=
  (direction ||| messageType) &&& directionMask = direction ∧
    (direction ||| messageType) &&& typeMask = messageType ∧ messageType ≠ 0

instance (direction messageType : UInt8) : Decidable (Proper direction messageType) :=
  inferInstanceAs (Decidable (_ ∧ _ ∧ _))

section

variable {messageType : UInt8} {body : List UInt8}

theorem length_encodeTerminalSize {rows cols : CellCount}
    (h : encodeTerminalSize rows cols = .ok body) : body.length = 4 := by
  obtain ⟨-, rfl⟩ := encodeTerminalSize_eq_ok.1 h
  simp [length_cellBytes]

theorem encodeCommand_proper {command : CoordinatorCommand}
    (h : encodeCommand command = .ok (messageType, body)) :
    Proper coordinatorDirection messageType ∧ body ≠ [] ∧ body.length ≤ maxBodyBytes := by
  cases command with
  | resize rows cols | resume rows cols =>
    simp only [encodeCommand, bind_eq_ok, pure_eq_ok, Prod.mk.injEq] at h
    obtain ⟨size, hsize, rfl, rfl⟩ := h
    refine ⟨by decide, by simp, ?_⟩
    rw [List.length_cons, length_encodeTerminalSize hsize]
    decide
  | start | terminalArmAccepted | childDescriptorsVerified | stop | openInputGate | signal | suspend
  | terminalRestored =>
    cases h
    exact ⟨by decide, by simp, by simp [maxBodyBytes, maxFrameBytes, headerBytes]⟩

theorem encodeEvent_proper {event : GuardianEvent} (typed : event.Typed)
    (h : encodeEvent event = .ok (messageType, body)) :
    Proper guardianDirection messageType ∧ body ≠ [] ∧ body.length ≤ maxBodyBytes := by
  cases event with
  | resizeApplied rows cols | resumed rows cols =>
    simp only [encodeEvent, bind_eq_ok, pure_eq_ok, Prod.mk.injEq] at h
    obtain ⟨size, hsize, rfl, rfl⟩ := h
    refine ⟨by decide, by simp, ?_⟩
    rw [List.length_cons, length_encodeTerminalSize hsize]
    decide
  | terminalArmed snapshot =>
    cases h
    refine ⟨by decide, by simp, ?_⟩
    rw [List.length_cons, show snapshot.length = 32 from typed]
    decide
  | childStarted role pid pgid =>
    simp only [encodeEvent, check_bind_eq_ok, pure_eq_ok, Prod.mk.injEq] at h
    obtain ⟨-, rfl, rfl⟩ := h
    refine ⟨by decide, by simp, ?_⟩
    simp [length_i32Bytes, maxBodyBytes, maxFrameBytes, headerBytes]
  | childrenReaped app tui worker cleanup session guardianExit =>
    simp only [encodeEvent, bind_eq_ok, pure_eq_ok, Prod.mk.injEq] at h
    obtain ⟨appBytes, happ, tuiBytes, htui, exitBytes, hexit, rfl, rfl⟩ := h
    refine ⟨by decide, by simp, ?_⟩
    simp [length_encodeChildDisposition happ, length_encodeChildDisposition htui,
      length_encodeGuardianExitDisposition hexit, maxBodyBytes, maxFrameBytes, headerBytes]
  | leaseCommitted | ready | inputGateOpened | signalForwarded | suspended | usageExhausted
  | terminalQuiesced | terminalRecoveryDisarmed | failed =>
    cases h
    exact ⟨by decide, by simp, by simp [maxBodyBytes, maxFrameBytes, headerBytes]⟩

end

/-! ## Sending -/

theorem flushBefore_prompt {calls : List IoCall} (prompt : ∀ call ∈ calls, call.Prompt)
    (ready : 0 < readyCalls calls) : (flushBefore calls).1 = some (.ok ()) := by
  induction calls with
  | nil => exact absurd ready (Nat.lt_irrefl 0)
  | cons call calls ih =>
    have first := prompt call (List.mem_cons_self ..)
    have stops := first.stops
    unfold flushBefore
    rw [first.1]
    cases outcome : call.outcome with
    | ready more => simp [first.2.1]
    | interrupted | wouldBlock | timedOut | failed =>
      have count : readyCalls (call :: calls) = readyCalls calls := by
        simp [readyCalls, IoCall.isReady, outcome]
      simp only [Bool.false_eq_true, if_false, stops]
      exact ih (fun other h => prompt other (List.mem_cons_of_mem _ h)) (by omega)

/-- What is written of a frame. -/
theorem sendFrame_sink {frame : List UInt8} (writer : Writer) :
    (∃ n, (sendFrame (.ok frame) writer).2.sink = writer.sink ++ frame.take n) ∧
      ((sendFrame (.ok frame) writer).1 = some (.ok ()) →
        (sendFrame (.ok frame) writer).2.sink = writer.sink ++ frame) := by
  unfold sendFrame
  dsimp only
  obtain ⟨n, hn⟩ := writeAllBefore_prefix writer.writes frame writer.sink
  rcases hw : writeAllBefore writer.writes frame writer.sink with ⟨_ | e | ⟨⟩, sink, writes⟩ <;>
    rw [hw] at hn <;> dsimp only at hn ⊢
  · exact ⟨⟨n, hn⟩, fun h => by cases h⟩
  · exact ⟨⟨n, hn⟩, fun h => by cases h⟩
  · exact ⟨⟨n, hn⟩, fun _ => writeAllBefore_ok hw⟩

theorem sendFrame_prompt {frame : List UInt8} {writer : Writer}
    (prompt : ∀ call ∈ writer.writes ++ writer.flushes, call.Prompt)
    (ready : frame.length ≤ readyCalls writer.writes) (flushes : 0 < readyCalls writer.flushes) :
    (sendFrame (.ok frame) writer).1 = some (.ok ()) := by
  obtain ⟨writes', hw⟩ := @writeAllBefore_prompt writer.writes frame writer.sink
    (fun call h => prompt call (List.mem_append_left _ h)) ready
  unfold sendFrame
  dsimp only
  rw [hw]
  exact flushBefore_prompt (fun call h => prompt call (List.mem_append_right _ h)) flushes

/-! ## The messages that are sent -/

/-- The values of a child's disposition that are sent. -/
def ChildDisposition.Sendable : ChildDisposition → Prop
  | .signaled signal _ _ => 1 ≤ signal ∧ signal ≤ 127
  | _ => True

def GuardianExitDisposition.Sendable : GuardianExitDisposition → Prop
  | .signal number => 1 ≤ number ∧ number ≤ 127
  | _ => True

def CoordinatorCommand.Sendable : CoordinatorCommand → Prop
  | .resize rows cols | .resume rows cols => rows ≠ 0 ∧ cols ≠ 0
  | _ => True

def GuardianEvent.Sendable : GuardianEvent → Prop
  | .childStarted _ pid pgid => 0 < pid ∧ pgid = pid
  | .resizeApplied rows cols | .resumed rows cols => rows ≠ 0 ∧ cols ≠ 0
  | .childrenReaped app tui _ _ _ guardianExit =>
    app.Sendable ∧ tui.Sendable ∧ guardianExit.Sendable
  | _ => True

theorem encodeTerminalSize_sendable {rows cols : CellCount} :
    (∃ size, encodeTerminalSize rows cols = .ok size) ↔ rows ≠ 0 ∧ cols ≠ 0 := by
  simp only [encodeTerminalSize_eq_ok, validateTerminalSize, exists_and_left, exists_eq', and_true]
  split_ifs with zero
  · exact iff_of_false (by simp) (by tauto)
  · exact iff_of_true rfl (not_or.1 zero)

theorem encodeChildDisposition_sendable {disposition : ChildDisposition} :
    (∃ bytes, encodeChildDisposition disposition = .ok bytes) ↔ disposition.Sendable := by
  cases disposition with
  | notStarted => exact iff_of_true ⟨_, rfl⟩ trivial
  | exited code stopAction => exact iff_of_true ⟨_, rfl⟩ trivial
  | signaled signal coreDumped stopAction =>
    rw [ChildDisposition.Sendable, ← signal_iff, encodeChildDisposition]
    by_cases bad : signal = 0 ∨ signal > 127
    · rw [if_pos bad]
      exact iff_of_false (by simp) (Decidable.not_not.2 bad)
    · rw [if_neg bad]
      exact iff_of_true ⟨_, rfl⟩ bad

theorem encodeGuardianExitDisposition_sendable {disposition : GuardianExitDisposition} :
    (∃ bytes, encodeGuardianExitDisposition disposition = .ok bytes) ↔ disposition.Sendable := by
  cases disposition with
  | signal signal =>
    rw [GuardianExitDisposition.Sendable, encodeGuardianExitDisposition]
    split_ifs with good
    · exact iff_of_true ⟨_, rfl⟩ good
    · exact iff_of_false (by simp) good
  | code code => exact iff_of_true ⟨_, rfl⟩ trivial
  | usageExhausted => exact iff_of_true ⟨_, rfl⟩ trivial
  | internalFailure => exact iff_of_true ⟨_, rfl⟩ trivial

/-- A command has a frame exactly when it is sendable. -/
theorem commandFrame_sendable (command : CoordinatorCommand) :
    (∃ frame, commandFrame command = .ok frame) ↔ command.Sendable := by
  have framed : (∃ frame, commandFrame command = .ok frame) ↔
      ∃ part, encodeCommand command = .ok part := by
    constructor
    · rintro ⟨frame, h⟩
      simp only [commandFrame, bind_eq_ok] at h
      obtain ⟨part, h, -⟩ := h
      exact ⟨part, h⟩
    · rintro ⟨⟨messageType, body⟩, h⟩
      obtain ⟨-, nonempty, bounded⟩ := encodeCommand_proper h
      simp only [commandFrame, h, ok_bind]
      exact ⟨_, frameBytes_eq_ok.2 ⟨nonempty, bounded, rfl⟩⟩
  rw [framed]
  cases command with
  | resize rows cols | resume rows cols =>
    rw [CoordinatorCommand.Sendable, ← encodeTerminalSize_sendable]
    simp only [encodeCommand, bind_eq_ok, pure_eq_ok]
    constructor
    · rintro ⟨_, size, hsize, -⟩
      exact ⟨size, hsize⟩
    · rintro ⟨size, hsize⟩
      exact ⟨_, size, hsize, rfl⟩
  | start | terminalArmAccepted | childDescriptorsVerified | stop | openInputGate | signal | suspend
  | terminalRestored => exact iff_of_true ⟨_, rfl⟩ trivial

/-- An event has a frame exactly when it is sendable. -/
theorem eventFrame_sendable {event : GuardianEvent} (typed : event.Typed) :
    (∃ frame, eventFrame event = .ok frame) ↔ event.Sendable := by
  have framed : (∃ frame, eventFrame event = .ok frame) ↔
      ∃ part, encodeEvent event = .ok part := by
    constructor
    · rintro ⟨frame, h⟩
      simp only [eventFrame, bind_eq_ok] at h
      obtain ⟨part, h, -⟩ := h
      exact ⟨part, h⟩
    · rintro ⟨⟨messageType, body⟩, h⟩
      obtain ⟨-, nonempty, bounded⟩ := encodeEvent_proper typed h
      simp only [eventFrame, h, ok_bind]
      exact ⟨_, frameBytes_eq_ok.2 ⟨nonempty, bounded, rfl⟩⟩
  rw [framed]
  cases event with
  | resizeApplied rows cols | resumed rows cols =>
    rw [GuardianEvent.Sendable, ← encodeTerminalSize_sendable]
    simp only [encodeEvent, bind_eq_ok, pure_eq_ok]
    constructor
    · rintro ⟨_, size, hsize, -⟩
      exact ⟨size, hsize⟩
    · rintro ⟨size, hsize⟩
      exact ⟨_, size, hsize, rfl⟩
  | childStarted role pid pgid =>
    simp only [GuardianEvent.Sendable, encodeEvent, check_bind_eq_ok, validateProcessGroup]
    split_ifs with good
    · exact iff_of_true ⟨_, rfl, rfl⟩ good
    · exact iff_of_false (by simp) good
  | childrenReaped app tui worker cleanup session guardianExit =>
    rw [GuardianEvent.Sendable, ← encodeChildDisposition_sendable, ← encodeChildDisposition_sendable,
      ← encodeGuardianExitDisposition_sendable]
    simp only [encodeEvent, bind_eq_ok, pure_eq_ok]
    constructor
    · rintro ⟨_, a, ha, t, ht, g, hg, -⟩
      exact ⟨⟨a, ha⟩, ⟨t, ht⟩, g, hg⟩
    · rintro ⟨⟨a, ha⟩, ⟨t, ht⟩, g, hg⟩
      exact ⟨_, a, ha, t, ht, g, hg, rfl⟩
  | leaseCommitted | terminalArmed | ready | inputGateOpened | signalForwarded | suspended
  | usageExhausted | terminalQuiesced | terminalRecoveryDisarmed | failed =>
    exact iff_of_true ⟨_, rfl⟩ trivial

/-! ## Both directions -/

section

variable {α : Type}

/-- Messages of one direction and their frames are in bijection, on every channel. -/
structure Canonical (frameOf : α → Except ProtocolError (List UInt8))
    (send : α → Writer → Option (Except ProtocolError Unit) × Writer) (receive : ReadM α)
    (typed : α → Prop) : Prop where
  /-- A message without a frame is refused, and nothing is written. -/
  refused : ∀ a e writer, frameOf a = .error e → send a writer = (some (.error e), writer)
  /-- What is written is a part of the frame, and the whole of it when the message was sent. -/
  written : ∀ a frame writer, frameOf a = .ok frame →
    (∃ n, (send a writer).2.sink = writer.sink ++ frame.take n) ∧
      ((send a writer).1 = some (.ok ()) → (send a writer).2.sink = writer.sink ++ frame)
  /-- A prompt channel that is ready often enough sends the message. -/
  sent : ∀ a frame writer, frameOf a = .ok frame →
    (∀ call ∈ writer.writes ++ writer.flushes, call.Prompt) →
    maxFrameBytes ≤ readyCalls writer.writes → 0 < readyCalls writer.flushes →
    (send a writer).1 = some (.ok ())
  /-- A prompt channel gives the message back and leaves what follows, or is not ready yet. -/
  received : ∀ a frame rest calls, typed a → frameOf a = .ok frame →
    (∀ call ∈ calls, call.Prompt) →
    ((receive ⟨frame ++ rest, calls⟩).1 = none ∧ readyCalls calls < maxFrameBytes) ∨
      ∃ calls', receive ⟨frame ++ rest, calls⟩ = (some (.ok a), ⟨rest, calls'⟩)
  /-- A message that was received was consumed as its frame. -/
  canonical : ∀ a reader reader', receive reader = (some (.ok a), reader') →
    typed a ∧ ∃ frame, frameOf a = .ok frame ∧ reader.stream = frame ++ reader'.stream
  /-- No position is out of range. -/
  inRange : ∀ reader, (receive reader).1 ≠ some (.error .outOfRange)

/-- A direction is canonical when its two match trees are inverses. -/
theorem Canonical.of {direction : UInt8} {encode : α → Except ProtocolError (UInt8 × List UInt8)}
    {decode : ReceivedFrame → Except WireError α} {typed : α → Prop}
    (inverse : ∀ messageType body a, decode (ReceivedFrame.of messageType body) = .ok a ↔
      typed a ∧ encode a = .ok (messageType, body))
    (proper : ∀ a messageType body, typed a → encode a = .ok (messageType, body) →
      Proper direction messageType)
    (positions : ∀ frame : ReceivedFrame, frame.body.length = maxBodyBytes → InRange (decode frame)) :
    Canonical (fun a => do
        let (messageType, body) ← encode a
        frameBytes (direction ||| messageType) body)
      (fun a => sendFrame (do
        let (messageType, body) ← encode a
        frameBytes (direction ||| messageType) body))
      (do
        let frame ← receiveFrame direction
        ReadM.lift (decode frame)) typed := by
  have short : ∀ {a frame}, (do
      let (messageType, body) ← encode a
      frameBytes (direction ||| messageType) body) = .ok frame → frame.length ≤ maxFrameBytes := by
    intro a frame h
    simp only [bind_eq_ok (α := UInt8 × List UInt8)] at h
    obtain ⟨⟨messageType, body⟩, -, h⟩ := h
    obtain ⟨-, bounded, rfl⟩ := frameBytes_eq_ok.1 h
    unfold maxBodyBytes at bounded
    rw [List.length_append, headerBytes_frame]
    unfold maxFrameBytes headerBytes at bounded ⊢
    omega
  refine ⟨?_, ?_, ?_, ?_, ?_, ?_⟩
  · intro a e writer h
    simp only [h]
    rfl
  · intro a frame writer h
    simp only [h]
    exact sendFrame_sink writer
  · intro a frame writer h prompt ready flushes
    simp only [h]
    exact sendFrame_prompt prompt (le_trans (short h) ready) flushes
  · intro a frame rest calls ha h prompt
    have bounded := short h
    simp only [bind_eq_ok (α := UInt8 × List UInt8)] at h
    obtain ⟨⟨messageType, body⟩, hencode, h⟩ := h
    obtain ⟨hdirection, htype, hne⟩ := proper a messageType body ha hencode
    have decoded := (inverse messageType body a).2 ⟨ha, hencode⟩
    rw [ReadM.bind_apply]
    obtain ⟨waits, few⟩ | ⟨calls', read⟩ := @receiveFrame_prompt direction messageType body frame
      calls rest prompt hdirection htype hne h
    · left
      rcases hread : receiveFrame direction ⟨frame ++ rest, calls⟩ with ⟨r, reader⟩
      rw [hread] at waits
      subst waits
      exact ⟨rfl, by omega⟩
    · right
      refine ⟨calls', ?_⟩
      rw [read]
      simp only [ReadM.lift, decoded]
  · intro a reader reader' h
    rw [ReadM.bind_apply] at h
    rcases hread : receiveFrame direction reader with ⟨_ | e | received, reader₁⟩ <;>
      rw [hread] at h <;> try cases h
    obtain ⟨-, messageType, body, frame, rfl, hframe, hstream⟩ := receiveFrame_ok hread
    simp only [ReadM.lift, Prod.mk.injEq, Option.some.injEq] at h
    obtain ⟨decoded, rfl⟩ := h
    obtain ⟨ha, hencode⟩ := (inverse messageType body a).1 decoded
    refine ⟨ha, frame, ?_, hstream⟩
    simp only [hencode, ok_bind]
    exact hframe
  · intro reader h
    rw [ReadM.bind_apply] at h
    rcases hread : receiveFrame direction reader with ⟨_ | e | received, reader₁⟩ <;>
      rw [hread] at h
    · cases h
    · cases h
      exact inRange_receiveFrame reader (congrArg Prod.fst hread)
    · obtain ⟨full, -⟩ := receiveFrame_ok hread
      exact positions received full (Option.some.inj h)

end

/-- The frames of the two directions differ. -/
theorem frames_disjoint {command : CoordinatorCommand} {event : GuardianEvent}
    {first second rest rest' : List UInt8} (hevent : event.Typed)
    (h : commandFrame command = .ok first) (h' : eventFrame event = .ok second) :
    first ++ rest ≠ second ++ rest' := by
  simp only [commandFrame, eventFrame, bind_eq_ok (α := UInt8 × List UInt8)] at h h'
  obtain ⟨⟨messageType, body⟩, hencode, h⟩ := h
  obtain ⟨⟨messageType', body'⟩, hencode', h'⟩ := h'
  obtain ⟨⟨toGuardian, -, -⟩, -⟩ := encodeCommand_proper hencode
  obtain ⟨⟨toCoordinator, -, -⟩, -⟩ := encodeEvent_proper hevent hencode'
  obtain ⟨-, -, rfl⟩ := frameBytes_eq_ok.1 h
  obtain ⟨-, -, rfl⟩ := frameBytes_eq_ok.1 h'
  intro same
  have byte := congrArg (fun bytes : List UInt8 => bytes[5]?) same
  simp only [wireMagic, List.cons_append, List.nil_append, List.getElem?_cons_succ,
    List.getElem?_cons_zero, Option.some.injEq] at byte
  rw [byte, toCoordinator] at toGuardian
  cases toGuardian

/-- The wire format is a canonical bijection in both directions, on every channel, and no frame of one
direction is a message in the other. -/
theorem wire_canonical :
    Canonical commandFrame sendCoordinatorCommand receiveCoordinatorCommand (fun _ => True) ∧
    Canonical eventFrame sendGuardianEvent receiveGuardianEvent GuardianEvent.Typed ∧
    (∀ command, (∃ frame, commandFrame command = .ok frame) ↔ command.Sendable) ∧
    (∀ event : GuardianEvent, event.Typed →
      ((∃ frame, eventFrame event = .ok frame) ↔ event.Sendable)) ∧
    ∀ (command : CoordinatorCommand) (event : GuardianEvent) (toGuardian toCoordinator rest :
      List UInt8) (calls : List IoCall), event.Typed → commandFrame command = .ok toGuardian →
      eventFrame event = .ok toCoordinator →
      (∀ event', (receiveGuardianEvent ⟨toGuardian ++ rest, calls⟩).1 ≠ some (.ok event')) ∧
      ∀ command',
        (receiveCoordinatorCommand ⟨toCoordinator ++ rest, calls⟩).1 ≠ some (.ok command') := by
  have commands : Canonical commandFrame sendCoordinatorCommand receiveCoordinatorCommand
      (fun _ => True) :=
    .of (fun _ _ _ => by rw [decodeCommand_iff, true_and])
      (fun _ _ _ _ h => (encodeCommand_proper h).1) fun _ => inRange_decodeCommand
  have events : Canonical eventFrame sendGuardianEvent receiveGuardianEvent GuardianEvent.Typed :=
    .of (fun _ _ _ => decodeEvent_iff) (fun _ _ _ typed h => (encodeEvent_proper typed h).1)
      fun _ => inRange_decodeEvent
  refine ⟨commands, events, commandFrame_sendable, fun _ => eventFrame_sendable, ?_⟩
  intro command event toGuardian toCoordinator rest calls typed h h'
  constructor
  · intro event' received
    obtain ⟨typed', frame, hframe, same⟩ :=
      events.canonical event' ⟨toGuardian ++ rest, calls⟩ _ (Prod.ext received rfl)
    exact frames_disjoint typed' h hframe same
  · intro command' received
    obtain ⟨-, frame, hframe, same⟩ :=
      commands.canonical command' ⟨toCoordinator ++ rest, calls⟩ _ (Prod.ext received rfl)
    exact frames_disjoint typed hframe h' same.symm

/-- A started child, read one byte at a time. -/
theorem wire_canonical_childStarted :
    let frame : List UInt8 := [0x43, 0x4c, 0x46, 0x52, 1, 0x82, 0, 10, 1, 2, 0, 0, 1, 2, 0, 0, 1, 2]
    let calls : List IoCall := List.replicate maxFrameBytes ⟨false, .ready 0, false, false⟩
    ∃ calls', receiveGuardianEvent ⟨frame, calls⟩ =
      (some (.ok (.childStarted .tui 258 258)), ⟨[], calls'⟩) := by
  intro frame calls
  have typed : (GuardianEvent.childStarted .tui 258 258).Typed := by
    simp [GuardianEvent.Typed, IsI32]
  have framed : eventFrame (.childStarted .tui 258 258) = .ok frame := by decide +kernel
  have prompt : ∀ call ∈ calls, call.Prompt := by
    intro call hcall
    rw [List.eq_of_mem_replicate hcall]
    exact ⟨rfl, rfl, rfl, by simp⟩
  obtain ⟨-, events, -⟩ := wire_canonical
  obtain ⟨-, few⟩ | received := events.received _ frame [] calls typed framed prompt
  · exact absurd few (by decide +kernel)
  · rwa [List.append_nil] at received

end Calcifer.Supervisor
