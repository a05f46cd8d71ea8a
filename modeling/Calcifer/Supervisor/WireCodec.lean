import Calcifer.Supervisor.Wire

/-!
# The wire format is canonical

The two match trees of the wire format are exact inverses: a body of a given type decodes to a message
exactly when the message is encoded as that body (`decodeCommand_iff`, `decodeEvent_iff`). The tables
of the fields come first, then the shapes that the bodies share, then one case for each message. No
position is out of range, whatever was received (`inRange_decodeCommand`, `inRange_decodeEvent`).
-/

namespace Calcifer.Supervisor

open Checks Codec

/-! ## Fields -/

theorem childRole_table : Table encodeChildRole decodeChildRole := by
  refine Table.of (fun role => by cases role <;> rfl) fun role value h => ?_
  unfold decodeChildRole at h
  split at h <;> cases h <;> rfl

theorem unixSignal_table : Table encodeUnixSignal decodeUnixSignal := by
  refine Table.of (fun signal => by cases signal <;> rfl) fun signal value h => ?_
  unfold decodeUnixSignal at h
  split at h <;> cases h <;> rfl

theorem stopAction_table : Table encodeStopAction decodeStopAction := by
  refine Table.of (fun action => by cases action <;> rfl) fun action value h => ?_
  unfold decodeStopAction at h
  split at h <;> cases h <;> rfl

theorem phase_table : Table encodePhase decodePhase := by
  refine Table.of (fun phase => by cases phase <;> rfl) fun phase value h => ?_
  unfold decodePhase at h
  split at h <;> cases h <;> rfl

theorem failureCode_table : Table encodeFailureCode decodeFailureCode := by
  refine Table.of (fun code => by cases code <;> rfl) fun code value h => ?_
  unfold decodeFailureCode at h
  split at h <;> cases h <;> rfl

theorem workerJoinStatus_table : Table encodeWorkerJoinStatus decodeWorkerJoinStatus := by
  refine Table.of (fun status => by cases status <;> rfl) fun status value h => ?_
  unfold decodeWorkerJoinStatus at h
  split at h <;> cases h <;> rfl

theorem cleanupStatus_table : Table encodeCleanupStatus decodeCleanupStatus := by
  refine Table.of (fun status => by cases status; rfl) fun status value h => ?_
  unfold decodeCleanupStatus at h
  split at h
  · cases h
    rfl
  · cases h

theorem sessionStatus_table : Table encodeSessionStatus decodeSessionStatus := by
  refine Table.of (fun status => by cases status <;> rfl) fun status value h => ?_
  unfold decodeSessionStatus at h
  split at h <;> cases h <;> rfl

/-! ## Positions -/

section

variable {α β : Type} {bytes before between after : List UInt8}

@[simp] theorem protocol_eq_ok {x : Except ProtocolError α} {a : α} :
    protocol x = .ok a ↔ x = .ok a := mapError_eq_ok

theorem slice_append : slice (before ++ between ++ after) before.length
    (before.length + between.length) = .ok between := by
  have short : before.length + between.length ≤ (before ++ between ++ after).length := by
    simp only [List.length_append]
    omega
  have left : (before ++ between ++ after).take (before.length + between.length) =
      before ++ between := by
    rw [← List.length_append, List.take_left]
  rw [slice, rejectIf, if_neg (by simp), ok_bind, left, List.drop_left]
  rfl

theorem slice_eq_ok {first last : ℕ} {part : List UInt8} :
    slice bytes first last = .ok part ↔
      (first ≤ last ∧ last ≤ bytes.length) ∧ (bytes.take last).drop first = part := by
  simp only [slice, bind_eq_ok, rejectIf_eq_ok, Decidable.not_not, pure_eq_ok, exists_and_left]
  constructor
  · rintro ⟨h, -, h'⟩
    exact ⟨h, h'⟩
  · rintro ⟨h, h'⟩
    exact ⟨h, (), h'⟩

/-- A computation that is never out of range. -/
def InRange (x : Except WireError α) : Prop := x ≠ .error .outOfRange

theorem InRange.bind {x : Except WireError α} {f : α → Except WireError β} (hx : InRange x)
    (hf : ∀ a, x = .ok a → InRange (f a)) : InRange (x >>= f) := by
  cases x with
  | error e => exact fun h => hx (congrArg _ (Except.error.inj h))
  | ok a => exact hf a rfl

theorem inRange_ok (a : α) : InRange (.ok a) := by simp [InRange]

theorem inRange_pure (a : α) : InRange (pure a) := inRange_ok a

theorem inRange_protocol (x : Except ProtocolError α) : InRange (protocol x) := by
  cases x <;> simp [InRange, protocol, Except.mapError]

theorem inRange_error (e : ProtocolError) : InRange (.error (.protocol e) : Except WireError α) := by
  simp [InRange]

theorem inRange_rejectIf (bad : Prop) [Decidable bad] (e : ProtocolError) :
    InRange (rejectIf bad (.protocol e)) := by
  unfold rejectIf
  split_ifs <;> simp [InRange]

theorem inRange_index {i : ℕ} (h : i < bytes.length) : InRange (index bytes i) := by
  rw [index, List.getElem?_eq_getElem h]
  exact inRange_ok _

theorem inRange_slice {first last : ℕ} (h : first ≤ last) (h' : last ≤ bytes.length) :
    InRange (slice bytes first last) := by
  rw [slice, rejectIf, if_neg (Decidable.not_not.2 ⟨h, h'⟩)]
  exact inRange_ok _

end

/-! ## Fields of several bytes -/

theorem length_cellBytes (count : CellCount) : (cellBytes count).length = 2 := length_bigEndian 2 _

theorem cellOfBytes_cellBytes (count : CellCount) : cellOfBytes (cellBytes count) = count := by
  have fits : UInt16.toNat count < 256 ^ 2 := UInt16.toNat_lt count
  rw [cellOfBytes, cellBytes, ofBigEndian_bigEndian fits]
  exact UInt16.ofNat_toNat

theorem cellBytes_cellOfBytes {bytes : List UInt8} (h : bytes.length = 2) :
    cellBytes (cellOfBytes bytes) = bytes := by
  have fits : ofBigEndian bytes < 2 ^ 16 := by
    have := ofBigEndian_lt bytes
    rw [h] at this
    exact this
  rw [cellBytes, cellOfBytes]
  have same : UInt16.toNat (UInt16.ofNat (ofBigEndian bytes)) = ofBigEndian bytes := by
    rw [UInt16.toNat_ofNat']
    omega
  rw [same, bigEndian_of_length h]

theorem encodeTerminalSize_eq_ok {rows cols : CellCount} {bytes : List UInt8} :
    encodeTerminalSize rows cols = .ok bytes ↔
      validateTerminalSize rows cols = .ok () ∧ cellBytes rows ++ cellBytes cols = bytes := by
  simp only [encodeTerminalSize, check_bind_eq_ok, pure_eq_ok]

/-- A size is read from the bytes that write it. -/
theorem decodeTerminalSize_iff {bytes : List UInt8} {rows cols : CellCount} :
    decodeTerminalSize bytes = .ok (rows, cols) ↔ encodeTerminalSize rows cols = .ok bytes := by
  rw [encodeTerminalSize_eq_ok]
  simp only [decodeTerminalSize, check_bind_eq_ok, rejectIf_eq_ok, Decidable.not_not,
    bind_eq_ok (α := List UInt8), slice_eq_ok, protocol_eq_ok, pure_eq_ok, Prod.mk.injEq]
  constructor
  · rintro ⟨length, _, ⟨-, rfl⟩, _, ⟨-, rfl⟩, valid, rfl, rfl⟩
    refine ⟨valid, ?_⟩
    have whole : bytes.take 4 = bytes := List.take_of_length_le (by omega)
    rw [cellBytes_cellOfBytes (by simp; omega), cellBytes_cellOfBytes (by simp; omega), whole,
      List.drop_zero, List.take_append_drop]
  · rintro ⟨valid, rfl⟩
    have hrows := length_cellBytes rows
    have hcols := length_cellBytes cols
    refine ⟨by simp [hrows, hcols], cellBytes rows, ⟨by simp [hrows], ?_⟩, cellBytes cols,
      ⟨by simp [hrows, hcols], ?_⟩, ?_⟩
    · rw [List.drop_zero, ← hrows, List.take_left]
    · rw [List.take_of_length_le (by simp [hrows, hcols]), ← hrows, List.drop_left]
    · rw [cellOfBytes_cellBytes, cellOfBytes_cellBytes]
      exact ⟨valid, rfl, rfl⟩

theorem length_i32Bytes (value : ℤ) : (i32Bytes value).length = 4 := length_bigEndian 4 _

/-- The range of an `i32`. -/
def IsI32 (value : ℤ) : Prop := -2 ^ 31 ≤ value ∧ value < 2 ^ 31

theorem readI32_i32Bytes {value : ℤ} (h : IsI32 value) : readI32 (i32Bytes value) = value := by
  have fits : (value % 2 ^ 32).toNat < 256 ^ 4 := by omega
  obtain ⟨low, high⟩ := h
  rw [readI32, i32Bytes, ofBigEndian_bigEndian fits]
  split_ifs <;> omega

theorem i32Bytes_readI32 {bytes : List UInt8} (h : bytes.length = 4) :
    IsI32 (readI32 bytes) ∧ i32Bytes (readI32 bytes) = bytes := by
  have fits := ofBigEndian_lt bytes
  rw [h] at fits
  have same : (readI32 bytes % 2 ^ 32).toNat = ofBigEndian bytes := by
    unfold readI32
    split_ifs <;> omega
  refine ⟨?_, ?_⟩
  · unfold IsI32 readI32
    split_ifs <;> omega
  · rw [i32Bytes, same, bigEndian_of_length h]

/-- A signal number on the wire. -/
theorem signal_iff {signal : UInt8} :
    ¬ (signal = 0 ∨ signal > 127) ↔ 1 ≤ signal ∧ signal ≤ 127 := by
  rw [not_or, gt_iff_lt, ← UInt8.toNat_inj, UInt8.lt_iff_toNat_lt, UInt8.le_iff_toNat_le,
    UInt8.le_iff_toNat_le]
  simp only [UInt8.toNat_ofNat]
  omega

/-- A disposition is read from the four bytes that write it. -/
theorem decodeChildDisposition_iff {bytes : List UInt8} {disposition : ChildDisposition} :
    decodeChildDisposition bytes = .ok disposition ↔
      encodeChildDisposition disposition = .ok bytes := by
  constructor
  · intro h
    simp only [decodeChildDisposition, check_bind_eq_ok, rejectIf_eq_ok, Decidable.not_not,
      bind_eq_ok (α := UInt8), bind_eq_ok (α := StopAction), index, okOr_eq_ok, protocol_eq_ok] at h
    obtain ⟨length, kind, hkind, value, hvalue, stop, hstop, last, hlast, stopAction, haction, h⟩ := h
    have bytes_eq : bytes = [kind, value, stop, last] := by
      rcases bytes with _ | ⟨b₀, _ | ⟨b₁, _ | ⟨b₂, _ | ⟨b₃, _ | ⟨b₄, rest⟩⟩⟩⟩⟩ <;>
        simp [childDispositionBytes] at length
      simp_all
    have action := (stopAction_table _ _).1 haction
    split_ifs at h with none exited signaled
    · cases h
      obtain ⟨rfl, rfl, rfl, rfl⟩ := none
      rw [bytes_eq, ← action]
      rfl
    · cases h
      obtain ⟨rfl, rfl⟩ := exited
      rw [bytes_eq, ← action]
      rfl
    · cases h
      obtain ⟨rfl, range, hlast'⟩ := signaled
      rw [encodeChildDisposition, if_neg (signal_iff.2 range), bytes_eq, ← action]
      have bit : (if decide (last = 1) = true then 1 else 0) = last := by
        rw [UInt8.le_iff_toNat_le] at hlast'
        split_ifs with one
        · exact (of_decide_eq_true one).symm
        · have ne : last.toNat ≠ 1 := fun he => one (decide_eq_true (UInt8.toNat_inj.1 he))
          apply UInt8.toNat_inj.1
          simp only [UInt8.toNat_ofNat] at hlast' ⊢
          omega
      rw [bit]
  · intro h
    cases disposition with
    | notStarted =>
      cases h
      rfl
    | exited code stopAction =>
      cases h
      have action := (stopAction_table stopAction _).2 rfl
      simp [decodeChildDisposition, rejectIf, childDispositionBytes, index, okOr, ok_bind, protocol,
        action, Except.mapError]
    | signaled signal coreDumped stopAction =>
      have action := (stopAction_table stopAction _).2 rfl
      unfold encodeChildDisposition at h
      dsimp only at h
      split_ifs at h with range dumped <;> cases h <;> have range := signal_iff.1 range
      · simp [decodeChildDisposition, rejectIf, childDispositionBytes, index, okOr, ok_bind, protocol,
          action, Except.mapError, range, dumped]
      · simp [decodeChildDisposition, rejectIf, childDispositionBytes, index, okOr, ok_bind, protocol,
          action, Except.mapError, range, dumped]

theorem decodeGuardianExitDisposition_iff {bytes : List UInt8}
    {disposition : GuardianExitDisposition} :
    decodeGuardianExitDisposition bytes = .ok disposition ↔
      encodeGuardianExitDisposition disposition = .ok bytes := by
  constructor
  · intro h
    simp only [decodeGuardianExitDisposition, check_bind_eq_ok, rejectIf_eq_ok, Decidable.not_not,
      bind_eq_ok (α := UInt8), index, okOr_eq_ok] at h
    obtain ⟨length, kind, hkind, value, hvalue, h⟩ := h
    have bytes_eq : bytes = [kind, value] := by
      rcases bytes with _ | ⟨b₀, _ | ⟨b₁, _ | ⟨b₂, rest⟩⟩⟩ <;> simp at length
      simp_all
    split_ifs at h with code signal internal usage <;> cases h <;> rw [bytes_eq]
    · rw [code]
      rfl
    · rw [encodeGuardianExitDisposition, if_pos signal.2, signal.1]
    · rw [internal.1, internal.2]
      rfl
    · rw [usage.1, usage.2]
      rfl
  · intro h
    cases disposition with
    | code code =>
      cases h
      rfl
    | signal signal =>
      unfold encodeGuardianExitDisposition at h
      dsimp only at h
      split_ifs at h with range
      cases h
      simp [decodeGuardianExitDisposition, rejectIf, index, okOr, ok_bind, range]
    | usageExhausted =>
      cases h
      rfl
    | internalFailure =>
      cases h
      rfl

/-! ## The shapes of a body -/

/-- The frame that a body of a given type is read into. -/
def ReceivedFrame.of (messageType : UInt8) (bytes : List UInt8) : ReceivedFrame where
  messageType
  body := bytes ++ List.replicate (maxBodyBytes - bytes.length) 0
  bodyLen := bytes.length

section

variable {α : Type} {messageType : UInt8} {bytes : List UInt8} {expected : ℕ}

/-- A part of a body is read at its position. -/
theorem slice_of {before between after : List UInt8} {first last : ℕ}
    (hfirst : before.length = first) (hlast : first + between.length = last) :
    slice (ReceivedFrame.of messageType (before ++ between ++ after)).body first last =
      .ok between := by
  subst hfirst hlast
  have padded := @slice_append before between
    (after ++ List.replicate (maxBodyBytes - (before ++ between ++ after).length) 0)
  rw [← padded]
  simp [ReceivedFrame.of]

theorem index_of {before after : List UInt8} {byte : UInt8} {i : ℕ} (h : before.length = i) :
    index (ReceivedFrame.of messageType (before ++ byte :: after)).body i = .ok byte := by
  subst h
  simp [index, ReceivedFrame.of, okOr]

/-- A body passes the checks when it has the expected length and the payload version. -/
theorem require_iff (nonempty : 0 < expected) :
    (ReceivedFrame.of messageType bytes).require expected = .ok () ↔
      ∃ fields, bytes = payloadVersion :: fields ∧ fields.length + 1 = expected := by
  simp only [ReceivedFrame.require, ReceivedFrame.requireExactLen,
    ReceivedFrame.requirePayloadVersion, check_bind_eq_ok, protocol_eq_ok, rejectIf_eq_ok,
    Decidable.not_not]
  simp only [ReceivedFrame.of]
  cases bytes with
  | nil =>
    simp only [List.length_nil, reduceCtorEq, false_and, exists_const, iff_false, not_and]
    omega
  | cons version fields =>
    simp only [List.cons_append, List.head?_cons, Option.some.injEq, List.length_cons,
      List.cons.injEq]
    constructor
    · rintro ⟨⟨low, high⟩, rfl⟩
      exact ⟨fields, ⟨rfl, rfl⟩, by omega⟩
    · rintro ⟨_, ⟨rfl, rfl⟩, rfl⟩
      exact ⟨⟨lt_irrefl _, lt_irrefl _⟩, rfl⟩

/-- A message without fields. -/
theorem decode_empty_iff {message result : α} :
    (do
      (ReceivedFrame.of messageType bytes).require emptyBodyBytes
      pure message : Except WireError α) = .ok result ↔
      bytes = [payloadVersion] ∧ message = result := by
  rw [check_bind_eq_ok, require_iff (by decide), pure_eq_ok]
  simp [emptyBodyBytes]

/-- A message whose one field is an entry of a table. -/
theorem decode_byte_iff {β : Type} {encode : β → UInt8} {decode : UInt8 → Except ProtocolError β}
    (table : Table encode decode) {message : β → α} {result : α} :
    (do
      (ReceivedFrame.of messageType bytes).require signalBodyBytes
      pure (message (← protocol (decode (← index (ReceivedFrame.of messageType bytes).body 1)))) :
        Except WireError α) = .ok result ↔
      ∃ value, bytes = [payloadVersion, encode value] ∧ message value = result := by
  simp only [check_bind_eq_ok, require_iff (show 0 < signalBodyBytes by decide),
    bind_eq_ok (α := UInt8), bind_eq_ok (α := β), index, okOr_eq_ok, protocol_eq_ok, pure_eq_ok]
  constructor
  · rintro ⟨⟨fields, rfl, length⟩, byte, hbyte, value, hvalue, rfl⟩
    obtain ⟨first, rfl⟩ := List.length_eq_one_iff.1 (by simpa [signalBodyBytes] using length)
    obtain rfl : first = byte := by simpa [ReceivedFrame.of] using hbyte
    exact ⟨value, by rw [(table _ _).1 hvalue], rfl⟩
  · rintro ⟨value, rfl, rfl⟩
    exact ⟨⟨_, rfl, rfl⟩, encode value, rfl, value, (table _ _).2 rfl, rfl⟩

/-- A message whose field is a size. -/
theorem decode_size_iff {message : CellCount → CellCount → α} {result : α} :
    (do
      (ReceivedFrame.of messageType bytes).require terminalSizeBodyBytes
      let (rows, cols) ← decodeTerminalSize (← slice (ReceivedFrame.of messageType bytes).body 1 5)
      pure (message rows cols) : Except WireError α) = .ok result ↔
      ∃ rows cols size, encodeTerminalSize rows cols = .ok size ∧ bytes = payloadVersion :: size ∧
        message rows cols = result := by
  simp only [check_bind_eq_ok, require_iff (show 0 < terminalSizeBodyBytes by decide),
    bind_eq_ok (α := List UInt8), bind_eq_ok (α := CellCount × CellCount), Prod.exists,
    decodeTerminalSize_iff, pure_eq_ok]
  have read : ∀ {fields : List UInt8}, fields.length = 4 →
      slice (ReceivedFrame.of messageType (payloadVersion :: fields)).body 1 5 = .ok fields := by
    intro fields length
    have whole : slice (ReceivedFrame.of messageType ([payloadVersion] ++ fields ++ [])).body 1 5 =
      .ok fields := slice_of rfl (by rw [length])
    simpa using whole
  constructor
  · rintro ⟨⟨fields, rfl, length⟩, size, hsize, rows, cols, hencode, rfl⟩
    rw [read (by simpa [terminalSizeBodyBytes] using length)] at hsize
    cases hsize
    exact ⟨rows, cols, fields, hencode, rfl, rfl⟩
  · rintro ⟨rows, cols, size, hencode, rfl, rfl⟩
    have length : size.length = 4 := by
      obtain ⟨-, rfl⟩ := encodeTerminalSize_eq_ok.1 hencode
      simp [length_cellBytes]
    exact ⟨⟨size, rfl, by rw [length]; rfl⟩, size, read length, rows, cols, hencode, rfl⟩

end

/-! ## Commands -/

/-- A body of a type decodes to a command exactly when the command is encoded as it. -/
theorem decodeCommand_iff {messageType : UInt8} {bytes : List UInt8} {command : CoordinatorCommand} :
    decodeCommand (ReceivedFrame.of messageType bytes) = .ok command ↔
      encodeCommand command = .ok (messageType, bytes) := by
  constructor
  · intro h
    unfold decodeCommand at h
    split at h
    case h_11 => cases h
    all_goals
      rename_i type_eq
      cases type_eq
    · obtain ⟨rfl, rfl⟩ := decode_empty_iff.1 h
      rfl
    · obtain ⟨rfl, rfl⟩ := decode_empty_iff.1 h
      rfl
    · obtain ⟨rfl, rfl⟩ := decode_empty_iff.1 h
      rfl
    · obtain ⟨signal, rfl, rfl⟩ := (decode_byte_iff unixSignal_table).1 h
      rfl
    · obtain ⟨rows, cols, size, hsize, rfl, rfl⟩ := decode_size_iff.1 h
      rw [encodeCommand, hsize]
      rfl
    · obtain ⟨rfl, rfl⟩ := decode_empty_iff.1 h
      rfl
    · obtain ⟨rows, cols, size, hsize, rfl, rfl⟩ := decode_size_iff.1 h
      rw [encodeCommand, hsize]
      rfl
    · obtain ⟨rfl, rfl⟩ := decode_empty_iff.1 h
      rfl
    · obtain ⟨rfl, rfl⟩ := decode_empty_iff.1 h
      rfl
    · obtain ⟨role, rfl, rfl⟩ := (decode_byte_iff childRole_table).1 h
      rfl
  · intro h
    cases command with
    | start | terminalArmAccepted | stop | openInputGate | suspend | terminalRestored =>
      cases h
      exact decode_empty_iff.2 ⟨rfl, rfl⟩
    | signal signal =>
      cases h
      exact (decode_byte_iff unixSignal_table).2 ⟨signal, rfl, rfl⟩
    | childDescriptorsVerified role =>
      cases h
      exact (decode_byte_iff childRole_table).2 ⟨role, rfl, rfl⟩
    | resize rows cols | resume rows cols =>
      simp only [encodeCommand, bind_eq_ok, pure_eq_ok, Prod.mk.injEq] at h
      obtain ⟨size, hsize, rfl, rfl⟩ := h
      exact decode_size_iff.2 ⟨rows, cols, size, hsize, rfl, rfl⟩

/-! ## Events -/

/-- An event whose numbers and digest have the sizes of their types. -/
def GuardianEvent.Typed : GuardianEvent → Prop
  | .terminalArmed snapshot => snapshot.length = snapshotFingerprintBytes
  | .childStarted _ pid pgid => IsI32 pid ∧ IsI32 pgid
  | _ => True

section

variable {messageType : UInt8} {bytes : List UInt8}

/-- The body of a snapshot. -/
theorem decode_terminalArmed_iff {event : GuardianEvent} :
    (do
      (ReceivedFrame.of messageType bytes).require terminalArmedBodyBytes
      pure (.terminalArmed (← slice (ReceivedFrame.of messageType bytes).body 1
        terminalArmedBodyBytes)) : Except WireError GuardianEvent) = .ok event ↔
      ∃ snapshot : TerminalSnapshotFingerprint, snapshot.length = snapshotFingerprintBytes ∧
        bytes = payloadVersion :: snapshot ∧ GuardianEvent.terminalArmed snapshot = event := by
  simp only [check_bind_eq_ok, require_iff (show 0 < terminalArmedBodyBytes by decide),
    bind_eq_ok (α := List UInt8), pure_eq_ok]
  have read : ∀ {fields : List UInt8}, fields.length = snapshotFingerprintBytes →
      slice (ReceivedFrame.of messageType (payloadVersion :: fields)).body 1
        terminalArmedBodyBytes = .ok fields := by
    intro fields length
    have whole : slice (ReceivedFrame.of messageType ([payloadVersion] ++ fields ++ [])).body 1
      terminalArmedBodyBytes = .ok fields := slice_of rfl (congrArg (1 + ·) length)
    simpa using whole
  constructor
  · rintro ⟨⟨fields, rfl, length⟩, snapshot, hread, rfl⟩
    have length : fields.length = snapshotFingerprintBytes := by
      rw [terminalArmedBodyBytes] at length
      omega
    rw [read length] at hread
    cases hread
    exact ⟨fields, length, rfl, rfl⟩
  · rintro ⟨snapshot, length, rfl, rfl⟩
    exact ⟨⟨snapshot, rfl, by rw [length]; rfl⟩, snapshot, read length, rfl⟩

/-- The body of a started child. -/
theorem decode_childStarted_iff {event : GuardianEvent} :
    (do
      let frame := ReceivedFrame.of messageType bytes
      frame.require childStartedBodyBytes
      let role ← protocol (decodeChildRole (← index frame.body 1))
      let pid := readI32 (← slice frame.body 2 6)
      let pgid := readI32 (← slice frame.body 6 10)
      protocol (validateProcessGroup pid pgid)
      pure (.childStarted role pid pgid) : Except WireError GuardianEvent) = .ok event ↔
      ∃ role pid pgid, (IsI32 pid ∧ IsI32 pgid) ∧ validateProcessGroup pid pgid = .ok () ∧
        bytes = payloadVersion :: encodeChildRole role :: (i32Bytes pid ++ i32Bytes pgid) ∧
        GuardianEvent.childStarted role pid pgid = event := by
  simp only [check_bind_eq_ok, require_iff (show 0 < childStartedBodyBytes by decide),
    bind_eq_ok (α := UInt8), bind_eq_ok (α := ChildRole), bind_eq_ok (α := List UInt8),
    protocol_eq_ok, pure_eq_ok]
  have read : ∀ (byte : UInt8) {pid pgid : List UInt8}, pid.length = 4 → pgid.length = 4 →
      let body := (ReceivedFrame.of messageType (payloadVersion :: byte :: (pid ++ pgid))).body
      index body 1 = .ok byte ∧ slice body 2 6 = .ok pid ∧ slice body 6 10 = .ok pgid := by
    intro byte pid pgid hpid hpgid
    have first : index (ReceivedFrame.of messageType
      ([payloadVersion] ++ byte :: (pid ++ pgid))).body 1 = .ok byte := index_of rfl
    have second : slice (ReceivedFrame.of messageType
      ([payloadVersion, byte] ++ pid ++ pgid)).body 2 6 = .ok pid := slice_of rfl (by rw [hpid])
    have third : slice (ReceivedFrame.of messageType
        ((payloadVersion :: byte :: pid) ++ pgid ++ [])).body 6 10 = .ok pgid :=
      slice_of (by simp [hpid]) (by rw [hpgid])
    exact ⟨by simpa using first, by simpa using second, by simpa using third⟩
  constructor
  · rintro ⟨⟨fields, rfl, length⟩, byte, hbyte, role, hrole, pid, hpid, pgid, hpgid, valid, rfl⟩
    have fields_eq : ∃ head pid pgid, fields = head :: (pid ++ pgid) ∧ pid.length = 4 ∧
        pgid.length = 4 := by
      cases fields with
      | nil => simp [childStartedBodyBytes] at length
      | cons head rest =>
        simp only [List.length_cons, childStartedBodyBytes] at length
        exact ⟨head, rest.take 4, rest.drop 4, by rw [List.take_append_drop], by simp; omega,
          by simp; omega⟩
    obtain ⟨head, first, second, rfl, hfirst, hsecond⟩ := fields_eq
    obtain ⟨read₁, read₂, read₃⟩ := read head hfirst hsecond
    rw [read₁] at hbyte
    rw [read₂] at hpid
    rw [read₃] at hpgid
    cases hbyte
    cases hpid
    cases hpgid
    obtain ⟨range, same⟩ := i32Bytes_readI32 hfirst
    obtain ⟨range', same'⟩ := i32Bytes_readI32 hsecond
    refine ⟨role, _, _, ⟨range, range'⟩, valid, ?_, rfl⟩
    rw [same, same', (childRole_table _ _).1 hrole]
  · rintro ⟨role, pid, pgid, ⟨range, range'⟩, valid, rfl, rfl⟩
    obtain ⟨read₁, read₂, read₃⟩ := read (encodeChildRole role) (length_i32Bytes pid)
      (length_i32Bytes pgid)
    refine ⟨⟨_, rfl, by simp [length_i32Bytes, childStartedBodyBytes]⟩, _, read₁, role,
      (childRole_table _ _).2 rfl, _, read₂, _, read₃, ?_, ?_⟩
    · rw [readI32_i32Bytes range, readI32_i32Bytes range']
      exact valid
    · rw [readI32_i32Bytes range, readI32_i32Bytes range']

/-- The body of a failure. -/
theorem decode_failed_iff {event : GuardianEvent} :
    (do
      let frame := ReceivedFrame.of messageType bytes
      frame.require failedBodyBytes
      let phase ← protocol (decodePhase (← index frame.body 1))
      let code ← protocol (decodeFailureCode (← index frame.body 2))
      pure (.failed phase code) : Except WireError GuardianEvent) = .ok event ↔
      ∃ phase code, bytes = [payloadVersion, encodePhase phase, encodeFailureCode code] ∧
        GuardianEvent.failed phase code = event := by
  simp only [check_bind_eq_ok, require_iff (show 0 < failedBodyBytes by decide),
    bind_eq_ok (α := UInt8), bind_eq_ok (α := Phase), bind_eq_ok (α := FailureCode),
    protocol_eq_ok, pure_eq_ok]
  have read : ∀ first second : UInt8,
      let body := (ReceivedFrame.of messageType [payloadVersion, first, second]).body
      index body 1 = .ok first ∧ index body 2 = .ok second := fun _ _ => ⟨rfl, rfl⟩
  constructor
  · rintro ⟨⟨fields, rfl, length⟩, first, hfirst, phase, hphase, second, hsecond, code, hcode, rfl⟩
    obtain ⟨first', second', rfl⟩ := List.length_eq_two.1
      (show fields.length = 2 by simpa [failedBodyBytes] using length)
    rw [(read first' second').1] at hfirst
    rw [(read first' second').2] at hsecond
    cases hfirst
    cases hsecond
    exact ⟨phase, code, by rw [(phase_table _ _).1 hphase, (failureCode_table _ _).1 hcode], rfl⟩
  · rintro ⟨phase, code, rfl, rfl⟩
    exact ⟨⟨_, rfl, rfl⟩, _, (read _ _).1, phase, (phase_table _ _).2 rfl, _, (read _ _).2, code,
      (failureCode_table _ _).2 rfl, rfl⟩

theorem length_encodeChildDisposition {disposition : ChildDisposition}
    (h : encodeChildDisposition disposition = .ok bytes) : bytes.length = 4 := by
  have decoded := decodeChildDisposition_iff.2 h
  simp only [decodeChildDisposition, check_bind_eq_ok, rejectIf_eq_ok, Decidable.not_not] at decoded
  exact decoded.1

theorem length_encodeGuardianExitDisposition {disposition : GuardianExitDisposition}
    (h : encodeGuardianExitDisposition disposition = .ok bytes) : bytes.length = 2 := by
  have decoded := decodeGuardianExitDisposition_iff.2 h
  simp only [decodeGuardianExitDisposition, check_bind_eq_ok, rejectIf_eq_ok,
    Decidable.not_not] at decoded
  exact decoded.1

/-- The positions in the body of a report, whose parts have fixed lengths. -/
theorem read_report {app tui guardianExit : List UInt8} (worker cleanup session : UInt8)
    (happ : app.length = 4) (htui : tui.length = 4) (hexit : guardianExit.length = 2) :
    let body := (ReceivedFrame.of messageType
      (payloadVersion :: (app ++ tui ++ [worker, cleanup, session] ++ guardianExit))).body
    slice body 1 5 = .ok app ∧ slice body 5 9 = .ok tui ∧ index body 9 = .ok worker ∧
      index body 10 = .ok cleanup ∧ index body 11 = .ok session ∧
      slice body 12 14 = .ok guardianExit := by
  have first : slice (ReceivedFrame.of messageType ([payloadVersion] ++ app ++
      (tui ++ [worker, cleanup, session] ++ guardianExit))).body 1 5 = .ok app :=
    slice_of rfl (by rw [happ])
  have second : slice (ReceivedFrame.of messageType ((payloadVersion :: app) ++ tui ++
      ([worker, cleanup, session] ++ guardianExit))).body 5 9 = .ok tui :=
    slice_of (by simp [happ]) (by rw [htui])
  have third : index (ReceivedFrame.of messageType ((payloadVersion :: (app ++ tui)) ++
      worker :: ([cleanup, session] ++ guardianExit))).body 9 = .ok worker :=
    index_of (by simp [happ, htui])
  have fourth : index (ReceivedFrame.of messageType ((payloadVersion :: (app ++ tui ++ [worker])) ++
      cleanup :: ([session] ++ guardianExit))).body 10 = .ok cleanup :=
    index_of (by simp [happ, htui])
  have fifth : index (ReceivedFrame.of messageType
      ((payloadVersion :: (app ++ tui ++ [worker, cleanup])) ++ session :: guardianExit)).body 11 =
        .ok session := index_of (by simp [happ, htui])
  have sixth : slice (ReceivedFrame.of messageType
      ((payloadVersion :: (app ++ tui ++ [worker, cleanup, session])) ++ guardianExit ++ [])).body
      12 14 = .ok guardianExit := slice_of (by simp [happ, htui]) (by rw [hexit])
  refine ⟨by simpa using first, by simpa using second, by simpa using third, by simpa using fourth,
    by simpa using fifth, by simpa using sixth⟩

/-- A body of the length of a report has the parts of one. -/
theorem report_parts {fields : List UInt8} (h : fields.length + 1 = childrenReapedBodyBytes) :
    ∃ app tui worker cleanup session guardianExit,
      fields = app ++ tui ++ [worker, cleanup, session] ++ guardianExit ∧ app.length = 4 ∧
        tui.length = 4 ∧ guardianExit.length = 2 := by
  have length : fields.length = 13 := Nat.succ.inj h
  have middle : ∃ worker cleanup session,
      (fields.drop 8).take 3 = [worker, cleanup, session] := by
    apply List.length_eq_three.1
    simp
    omega
  obtain ⟨worker, cleanup, session, hmiddle⟩ := middle
  refine ⟨fields.take 4, (fields.drop 4).take 4, worker, cleanup, session, fields.drop 11, ?_,
    by simp; omega, by simp; omega, by simp; omega⟩
  rw [← hmiddle]
  have step : ∀ n k, fields.take n ++ (fields.drop n).take k = fields.take (n + k) := by
    intro n k
    rw [List.take_add]
  rw [step 4 4, step 8 3, List.take_append_drop]

/-- The body of a report. -/
theorem decode_childrenReaped_iff {event : GuardianEvent} :
    (do
      let frame := ReceivedFrame.of messageType bytes
      frame.require childrenReapedBodyBytes
      let app ← decodeChildDisposition (← slice frame.body 1 5)
      let tui ← decodeChildDisposition (← slice frame.body 5 9)
      let worker ← protocol (decodeWorkerJoinStatus (← index frame.body 9))
      let cleanup ← protocol (decodeCleanupStatus (← index frame.body 10))
      let session ← protocol (decodeSessionStatus (← index frame.body 11))
      let guardianExit ← decodeGuardianExitDisposition (← slice frame.body 12 14)
      pure (.childrenReaped app tui worker cleanup session guardianExit) :
        Except WireError GuardianEvent) = .ok event ↔
      ∃ app tui worker cleanup session guardianExit appBytes tuiBytes exitBytes,
        encodeChildDisposition app = .ok appBytes ∧ encodeChildDisposition tui = .ok tuiBytes ∧
        encodeGuardianExitDisposition guardianExit = .ok exitBytes ∧
        bytes = payloadVersion :: (appBytes ++ tuiBytes ++ [encodeWorkerJoinStatus worker,
          encodeCleanupStatus cleanup, encodeSessionStatus session] ++ exitBytes) ∧
        GuardianEvent.childrenReaped app tui worker cleanup session guardianExit = event := by
  simp only [check_bind_eq_ok, require_iff (show 0 < childrenReapedBodyBytes by decide),
    bind_eq_ok (α := UInt8), bind_eq_ok (α := List UInt8), bind_eq_ok (α := ChildDisposition),
    bind_eq_ok (α := WorkerJoinStatus), bind_eq_ok (α := CleanupStatus),
    bind_eq_ok (α := SessionStatus), bind_eq_ok (α := GuardianExitDisposition), protocol_eq_ok,
    pure_eq_ok]
  constructor
  · rintro ⟨⟨fields, rfl, length⟩, appBytes, happ, app, happ', tuiBytes, htui, tui, htui', worker₁,
      hworker, worker, hworker', cleanup₁, hcleanup, cleanup, hcleanup', session₁, hsession, session,
      hsession', exitBytes, hexit, guardianExit, hexit', rfl⟩
    obtain ⟨a, t, w, c, s, g, rfl, ha, ht, hg⟩ := report_parts length
    obtain ⟨r₁, r₂, r₃, r₄, r₅, r₆⟩ := @read_report messageType _ _ _ w c s ha ht hg
    rw [r₁] at happ
    rw [r₂] at htui
    rw [r₃] at hworker
    rw [r₄] at hcleanup
    rw [r₅] at hsession
    rw [r₆] at hexit
    cases happ
    cases htui
    cases hworker
    cases hcleanup
    cases hsession
    cases hexit
    refine ⟨app, tui, worker, cleanup, session, guardianExit, appBytes, tuiBytes, exitBytes,
      decodeChildDisposition_iff.1 happ', decodeChildDisposition_iff.1 htui',
      decodeGuardianExitDisposition_iff.1 hexit', ?_, rfl⟩
    rw [(workerJoinStatus_table _ _).1 hworker', (cleanupStatus_table _ _).1 hcleanup',
      (sessionStatus_table _ _).1 hsession']
  · rintro ⟨app, tui, worker, cleanup, session, guardianExit, a, t, g, happ, htui, hexit, rfl, rfl⟩
    have ha := length_encodeChildDisposition happ
    have ht := length_encodeChildDisposition htui
    have hg := length_encodeGuardianExitDisposition hexit
    obtain ⟨r₁, r₂, r₃, r₄, r₅, r₆⟩ := @read_report messageType _ _ _
      (encodeWorkerJoinStatus worker) (encodeCleanupStatus cleanup) (encodeSessionStatus session)
      ha ht hg
    exact ⟨⟨_, rfl, by simp [ha, ht, hg, childrenReapedBodyBytes]⟩, a, r₁, app,
      decodeChildDisposition_iff.2 happ, t, r₂, tui, decodeChildDisposition_iff.2 htui, _, r₃, worker,
      (workerJoinStatus_table _ _).2 rfl, _, r₄, cleanup, (cleanupStatus_table _ _).2 rfl, _, r₅,
      session, (sessionStatus_table _ _).2 rfl, g, r₆, guardianExit,
      decodeGuardianExitDisposition_iff.2 hexit, rfl⟩

/-- A body of a type decodes to an event exactly when it is typed and encoded as the body. -/
theorem decodeEvent_iff {event : GuardianEvent} :
    decodeEvent (ReceivedFrame.of messageType bytes) = .ok event ↔
      event.Typed ∧ encodeEvent event = .ok (messageType, bytes) := by
  constructor
  · intro h
    unfold decodeEvent at h
    split at h
    case h_15 => cases h
    all_goals
      rename_i type_eq
      cases type_eq
    · obtain ⟨rfl, rfl⟩ := decode_empty_iff.1 h
      exact ⟨trivial, rfl⟩
    · obtain ⟨snapshot, length, rfl, rfl⟩ := decode_terminalArmed_iff.1 h
      exact ⟨length, rfl⟩
    · obtain ⟨role, pid, pgid, range, valid, rfl, rfl⟩ := decode_childStarted_iff.1 h
      refine ⟨range, ?_⟩
      rw [encodeEvent, valid]
      rfl
    · obtain ⟨rfl, rfl⟩ := decode_empty_iff.1 h
      exact ⟨trivial, rfl⟩
    · obtain ⟨rfl, rfl⟩ := decode_empty_iff.1 h
      exact ⟨trivial, rfl⟩
    · obtain ⟨signal, rfl, rfl⟩ := (decode_byte_iff unixSignal_table).1 h
      exact ⟨trivial, rfl⟩
    · obtain ⟨rows, cols, size, hsize, rfl, rfl⟩ := decode_size_iff.1 h
      refine ⟨trivial, ?_⟩
      rw [encodeEvent, hsize]
      rfl
    · obtain ⟨rfl, rfl⟩ := decode_empty_iff.1 h
      exact ⟨trivial, rfl⟩
    · obtain ⟨rows, cols, size, hsize, rfl, rfl⟩ := decode_size_iff.1 h
      refine ⟨trivial, ?_⟩
      rw [encodeEvent, hsize]
      rfl
    · obtain ⟨rfl, rfl⟩ := decode_empty_iff.1 h
      exact ⟨trivial, rfl⟩
    · obtain ⟨rfl, rfl⟩ := decode_empty_iff.1 h
      exact ⟨trivial, rfl⟩
    · obtain ⟨rfl, rfl⟩ := decode_empty_iff.1 h
      exact ⟨trivial, rfl⟩
    · obtain ⟨phase, code, rfl, rfl⟩ := decode_failed_iff.1 h
      exact ⟨trivial, rfl⟩
    · obtain ⟨app, tui, worker, cleanup, session, guardianExit, appBytes, tuiBytes, exitBytes, happ,
        htui, hexit, rfl, rfl⟩ := decode_childrenReaped_iff.1 h
      refine ⟨trivial, ?_⟩
      rw [encodeEvent, happ, ok_bind, htui, ok_bind, hexit]
      rfl
  · rintro ⟨typed, h⟩
    cases event with
    | leaseCommitted | ready | inputGateOpened | suspended | usageExhausted | terminalQuiesced
    | terminalRecoveryDisarmed =>
      cases h
      exact decode_empty_iff.2 ⟨rfl, rfl⟩
    | terminalArmed snapshot =>
      cases h
      exact decode_terminalArmed_iff.2 ⟨snapshot, typed, rfl, rfl⟩
    | childStarted role pid pgid =>
      simp only [encodeEvent, check_bind_eq_ok, pure_eq_ok, Prod.mk.injEq] at h
      obtain ⟨valid, rfl, rfl⟩ := h
      exact decode_childStarted_iff.2 ⟨role, pid, pgid, typed, valid, rfl, rfl⟩
    | signalForwarded signal =>
      cases h
      exact (decode_byte_iff unixSignal_table).2 ⟨signal, rfl, rfl⟩
    | resizeApplied rows cols | resumed rows cols =>
      simp only [encodeEvent, bind_eq_ok, pure_eq_ok, Prod.mk.injEq] at h
      obtain ⟨size, hsize, rfl, rfl⟩ := h
      exact decode_size_iff.2 ⟨rows, cols, size, hsize, rfl, rfl⟩
    | failed phase code =>
      cases h
      exact decode_failed_iff.2 ⟨phase, code, rfl, rfl⟩
    | childrenReaped app tui worker cleanup session guardianExit =>
      simp only [encodeEvent, bind_eq_ok, pure_eq_ok, Prod.mk.injEq] at h
      obtain ⟨appBytes, happ, tuiBytes, htui, exitBytes, hexit, rfl, rfl⟩ := h
      exact decode_childrenReaped_iff.2 ⟨app, tui, worker, cleanup, session, guardianExit, appBytes,
        tuiBytes, exitBytes, happ, htui, hexit, rfl, rfl⟩

end

/-! ## Positions in range -/

section

variable {frame : ReceivedFrame} {bytes : List UInt8}

theorem inRange_require (frame : ReceivedFrame) (expected : ℕ) : InRange (frame.require expected) :=
  (inRange_protocol _).bind fun _ _ => inRange_protocol _

theorem inRange_decodeTerminalSize : InRange (decodeTerminalSize bytes) := by
  refine (inRange_rejectIf _ _).bind fun _ checked => ?_
  have length : bytes.length = 4 := Decidable.not_not.1 (rejectIf_eq_ok.1 checked)
  refine (inRange_slice (by omega) (by omega)).bind fun _ _ => ?_
  refine (inRange_slice (by omega) (by omega)).bind fun _ _ => ?_
  exact (inRange_protocol _).bind fun _ _ => inRange_pure _

theorem inRange_decodeChildDisposition : InRange (decodeChildDisposition bytes) := by
  refine (inRange_rejectIf _ _).bind fun _ checked => ?_
  have length : bytes.length = 4 := Decidable.not_not.1 (rejectIf_eq_ok.1 checked)
  refine (inRange_index (by omega)).bind fun _ _ => (inRange_index (by omega)).bind fun _ _ =>
    (inRange_index (by omega)).bind fun _ _ => (inRange_index (by omega)).bind fun _ _ =>
    (inRange_protocol _).bind fun _ _ => ?_
  split_ifs
  · exact inRange_pure _
  · exact inRange_pure _
  · exact inRange_pure _
  · exact inRange_error _

theorem inRange_decodeGuardianExitDisposition : InRange (decodeGuardianExitDisposition bytes) := by
  refine (inRange_rejectIf _ _).bind fun _ checked => ?_
  have length : bytes.length = 2 := Decidable.not_not.1 (rejectIf_eq_ok.1 checked)
  refine (inRange_index (by omega)).bind fun _ _ => (inRange_index (by omega)).bind fun _ _ => ?_
  split_ifs
  · exact inRange_pure _
  · exact inRange_pure _
  · exact inRange_pure _
  · exact inRange_pure _
  · exact inRange_error _

/-- No position of a command is out of range in the buffer of a body. -/
theorem inRange_decodeCommand (full : frame.body.length = maxBodyBytes) :
    InRange (decodeCommand frame) := by
  have size : frame.body.length = 56 := full
  unfold decodeCommand
  split
  all_goals try exact (inRange_require _ _).bind fun _ _ => inRange_pure _
  · exact (inRange_require _ _).bind fun _ _ => (inRange_index (by omega)).bind fun _ _ =>
      (inRange_protocol _).bind fun _ _ => inRange_pure _
  · exact (inRange_require _ _).bind fun _ _ => (inRange_slice (by omega) (by omega)).bind fun _ _ =>
      inRange_decodeTerminalSize.bind fun _ _ => inRange_pure _
  · exact (inRange_require _ _).bind fun _ _ => (inRange_slice (by omega) (by omega)).bind fun _ _ =>
      inRange_decodeTerminalSize.bind fun _ _ => inRange_pure _
  · exact (inRange_require _ _).bind fun _ _ => (inRange_index (by omega)).bind fun _ _ =>
      (inRange_protocol _).bind fun _ _ => inRange_pure _
  · exact inRange_error _

/-- No position of an event is out of range in the buffer of a body. -/
theorem inRange_decodeEvent (full : frame.body.length = maxBodyBytes) :
    InRange (decodeEvent frame) := by
  have size : frame.body.length = 56 := full
  have armed : terminalArmedBodyBytes = 33 := rfl
  unfold decodeEvent
  split
  all_goals try exact (inRange_require _ _).bind fun _ _ => inRange_pure _
  · exact (inRange_require _ _).bind fun _ _ => (inRange_slice (by omega) (by omega)).bind fun _ _ =>
      inRange_pure _
  · exact (inRange_require _ _).bind fun _ _ => (inRange_index (by omega)).bind fun _ _ =>
      (inRange_protocol _).bind fun _ _ => (inRange_slice (by omega) (by omega)).bind fun _ _ =>
      (inRange_slice (by omega) (by omega)).bind fun _ _ => (inRange_protocol _).bind fun _ _ =>
      inRange_pure _
  · exact (inRange_require _ _).bind fun _ _ => (inRange_index (by omega)).bind fun _ _ =>
      (inRange_protocol _).bind fun _ _ => inRange_pure _
  · exact (inRange_require _ _).bind fun _ _ => (inRange_slice (by omega) (by omega)).bind fun _ _ =>
      inRange_decodeTerminalSize.bind fun _ _ => inRange_pure _
  · exact (inRange_require _ _).bind fun _ _ => (inRange_slice (by omega) (by omega)).bind fun _ _ =>
      inRange_decodeTerminalSize.bind fun _ _ => inRange_pure _
  · exact (inRange_require _ _).bind fun _ _ => (inRange_index (by omega)).bind fun _ _ =>
      (inRange_protocol _).bind fun _ _ => (inRange_index (by omega)).bind fun _ _ =>
      (inRange_protocol _).bind fun _ _ => inRange_pure _
  · exact (inRange_require _ _).bind fun _ _ => (inRange_slice (by omega) (by omega)).bind fun _ _ =>
      inRange_decodeChildDisposition.bind fun _ _ =>
      (inRange_slice (by omega) (by omega)).bind fun _ _ =>
      inRange_decodeChildDisposition.bind fun _ _ => (inRange_index (by omega)).bind fun _ _ =>
      (inRange_protocol _).bind fun _ _ => (inRange_index (by omega)).bind fun _ _ =>
      (inRange_protocol _).bind fun _ _ => (inRange_index (by omega)).bind fun _ _ =>
      (inRange_protocol _).bind fun _ _ => (inRange_slice (by omega) (by omega)).bind fun _ _ =>
      inRange_decodeGuardianExitDisposition.bind fun _ _ => inRange_pure _
  · exact inRange_error _

end

end Calcifer.Supervisor
