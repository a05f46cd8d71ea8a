import Calcifer.Supervisor.CompletionVerdict

/-!
# The verdict of a recovery request

What repeated polls of the guardian say is a function of the stream that ended (`recoveryVerdict`): the
one request of the guardian's own generation, nothing at all, or anything else. A rejected request is
read to its end all the same, and is never verified afterwards.
-/

namespace Calcifer.Supervisor

open Codec Machine

/-! ## The frame -/

theorem length_encodeRecoveryRequestFrame (generation : DescriptorIdentity) :
    (encodeRecoveryRequestFrame generation).length = recoveryRequestFrameLength := by
  simp [encodeRecoveryRequestFrame, recoveryRequestHeader, recoveryRequestTerminator,
    recoveryRequestFrameLength]

theorem word_fits (n : UInt64) : n.toNat < 256 ^ 8 := n.toNat_lt

/-- The parts of a full frame. -/
theorem frame_eq_parts {frame : List UInt8} (full : frame.length = recoveryRequestFrameLength) :
    ∃ reason, frame[recoveryRequestReasonOffset]? = some reason ∧
      frame = frame.take recoveryRequestReasonOffset ++ [reason] ++
        (frame.drop recoveryRequestGenerationDeviceOffset).take 8 ++
        (frame.drop recoveryRequestGenerationInodeOffset).take 8 ++
        frame.drop recoveryRequestTerminatorOffset := by
  have inside : recoveryRequestReasonOffset < frame.length := by
    rw [full]
    decide
  refine ⟨frame[recoveryRequestReasonOffset], List.getElem?_eq_getElem inside, ?_⟩
  have inode : frame.drop recoveryRequestGenerationInodeOffset =
      (frame.drop recoveryRequestGenerationInodeOffset).take 8 ++
        frame.drop recoveryRequestTerminatorOffset := by
    conv_lhs => rw [← List.take_append_drop 8 (frame.drop recoveryRequestGenerationInodeOffset)]
    rw [List.drop_drop]
    rfl
  have device : frame.drop recoveryRequestGenerationDeviceOffset =
      (frame.drop recoveryRequestGenerationDeviceOffset).take 8 ++
        frame.drop recoveryRequestGenerationInodeOffset := by
    conv_lhs => rw [← List.take_append_drop 8 (frame.drop recoveryRequestGenerationDeviceOffset)]
    rw [List.drop_drop]
    rfl
  have reason : frame.drop recoveryRequestReasonOffset =
      frame[recoveryRequestReasonOffset] :: frame.drop recoveryRequestGenerationDeviceOffset :=
    List.drop_eq_getElem_cons inside
  conv_lhs => rw [← List.take_append_drop recoveryRequestReasonOffset frame, reason, device, inode]
  simp only [List.append_assoc, List.cons_append, List.nil_append]

/-- The parts of a request. -/
theorem encodeRecoveryRequestFrame_parts (generation : DescriptorIdentity) :
    (encodeRecoveryRequestFrame generation).take recoveryRequestReasonOffset = recoveryRequestHeader ∧
      (encodeRecoveryRequestFrame generation)[recoveryRequestReasonOffset]? =
        some (RecoveryRequestReason.wire .retainedGeneration) ∧
      ((encodeRecoveryRequestFrame generation).drop recoveryRequestGenerationDeviceOffset).take 8 =
        bigEndian 8 generation.device.toNat ∧
      ((encodeRecoveryRequestFrame generation).drop recoveryRequestGenerationInodeOffset).take 8 =
        bigEndian 8 generation.inode.toNat ∧
      (encodeRecoveryRequestFrame generation).drop recoveryRequestTerminatorOffset =
        recoveryRequestTerminator := by
  have device : (bigEndian 8 generation.device.toNat).length = 8 := length_bigEndian 8 _
  have inode : (bigEndian 8 generation.inode.toNat).length = 8 := length_bigEndian 8 _
  unfold encodeRecoveryRequestFrame
  generalize bigEndian 8 generation.device.toNat = d at device ⊢
  generalize bigEndian 8 generation.inode.toNat = i at inode ⊢
  simp [recoveryRequestHeader, recoveryRequestTerminator, recoveryRequestReasonOffset,
    recoveryRequestGenerationDeviceOffset, recoveryRequestGenerationInodeOffset,
    recoveryRequestTerminatorOffset, List.drop_append, device, inode]

/-- A full frame is valid exactly if it is the request for the generation. -/
theorem recoveryRequestFrameIsValid_iff {frame : List UInt8} {generation : DescriptorIdentity}
    (full : frame.length = recoveryRequestFrameLength) :
    recoveryRequestFrameIsValid frame generation = true ↔
      frame = encodeRecoveryRequestFrame generation := by
  constructor
  · intro valid
    simp only [recoveryRequestFrameIsValid, decide_eq_true_eq] at valid
    obtain ⟨header, reason, terminator, device, inode⟩ := valid
    obtain ⟨value, hvalue, parts⟩ := frame_eq_parts full
    have known : value = RecoveryRequestReason.wire .retainedGeneration := by
      rw [hvalue, Option.bind_some, RecoveryRequestReason.fromWire] at reason
      by_contra other
      rw [if_neg other] at reason
      cases reason
    have deviceBytes : (frame.drop recoveryRequestGenerationDeviceOffset).take 8 =
        bigEndian 8 generation.device.toNat := by
      rw [← device, bigEndian_of_length]
      simp [full, recoveryRequestFrameLength, recoveryRequestGenerationDeviceOffset]
    have inodeBytes : (frame.drop recoveryRequestGenerationInodeOffset).take 8 =
        bigEndian 8 generation.inode.toNat := by
      rw [← inode, bigEndian_of_length]
      simp [full, recoveryRequestFrameLength, recoveryRequestGenerationInodeOffset]
    rw [parts, header, known, deviceBytes, inodeBytes, terminator]
    rfl
  · rintro rfl
    obtain ⟨header, reason, device, inode, terminator⟩ := encodeRecoveryRequestFrame_parts generation
    simp only [recoveryRequestFrameIsValid, decide_eq_true_eq]
    refine ⟨header, ?_, terminator, ?_, ?_⟩
    · rw [reason]
      rfl
    · rw [device, ofBigEndian_bigEndian (word_fits _)]
    · rw [inode, ofBigEndian_bigEndian (word_fits _)]

theorem encodeRecoveryRequestFrame_injective : Function.Injective encodeRecoveryRequestFrame := by
  intro generation generation' h
  obtain ⟨-, -, device, inode, -⟩ := encodeRecoveryRequestFrame_parts generation
  obtain ⟨-, -, device', inode', -⟩ := encodeRecoveryRequestFrame_parts generation'
  rw [h, device'] at device
  rw [h, inode'] at inode
  have sameDevice := congrArg ofBigEndian device
  have sameInode := congrArg ofBigEndian inode
  rw [ofBigEndian_bigEndian (word_fits _), ofBigEndian_bigEndian (word_fits _)] at sameDevice sameInode
  cases generation
  cases generation'
  simp only [DescriptorIdentity.mk.injEq]
  exact ⟨(UInt64.toNat_inj.1 sameDevice).symm, (UInt64.toNat_inj.1 sameInode).symm⟩

/-! ## The verdict -/

/-- What a stream that ended says to the guardian of a generation. -/
def recoveryVerdict (identity : DescriptorIdentity) (bytes : List UInt8) : RecoveryRequestPoll :=
  if bytes = [] then .ownerLost
  else if bytes = encodeRecoveryRequestFrame identity then .verified
  else .protocolRejectedOwnerLost

theorem encodeRecoveryRequestFrame_ne_nil (identity : DescriptorIdentity) :
    encodeRecoveryRequestFrame identity ≠ [] :=
  List.length_pos_iff.1 (by rw [length_encodeRecoveryRequestFrame]; decide)

theorem recoveryVerdict_verified {identity : DescriptorIdentity} {bytes : List UInt8} :
    recoveryVerdict identity bytes = .verified ↔ bytes = encodeRecoveryRequestFrame identity := by
  unfold recoveryVerdict
  by_cases empty : bytes = []
  · rw [if_pos empty, empty]
    exact ⟨fun h => (by cases h), fun h => absurd h.symm (encodeRecoveryRequestFrame_ne_nil identity)⟩
  · rw [if_neg empty]
    by_cases request : bytes = encodeRecoveryRequestFrame identity
    · rw [if_pos request]
      exact ⟨fun _ => request, fun _ => rfl⟩
    · rw [if_neg request]
      exact ⟨fun h => (by cases h), fun h => absurd h request⟩

theorem recoveryVerdict_ownerLost {identity : DescriptorIdentity} {bytes : List UInt8} :
    recoveryVerdict identity bytes = .ownerLost ↔ bytes = [] := by
  unfold recoveryVerdict
  by_cases empty : bytes = []
  · rw [if_pos empty]
    exact ⟨fun _ => empty, fun _ => rfl⟩
  · rw [if_neg empty]
    refine ⟨fun h => ?_, fun h => absurd h empty⟩
    split at h <;> cases h

theorem recoveryVerdict_rejected {identity : DescriptorIdentity} {bytes : List UInt8}
    (some : bytes ≠ []) (other : bytes ≠ encodeRecoveryRequestFrame identity) :
    recoveryVerdict identity bytes = .protocolRejectedOwnerLost := by
  rw [recoveryVerdict, if_neg some, if_neg other]

/-! ## Turns -/

/-- No call of the turn fails: the channel is readable when the poll says that something happened. -/
structure RecoveryTurn.Sound (turn : RecoveryTurn) : Prop where
  polls : ∀ error, pollStreamBefore turn.polls ≠ some (.error error)
  events : ∀ events, pollStreamBefore turn.polls = some (.ok (some events)) →
    events.readable = true ∨ events.hangUp = true
  read : turn.read = .interrupted ∨ ∃ more, turn.read = .ready more

/-- What a turn without a failure finds. -/
theorem RecoveryTurn.Sound.reply_cases {turn : RecoveryTurn} (sound : turn.Sound) (channel : Channel)
    (limit : ℕ) (room : 0 < limit) :
    turn.reply channel limit = (.waiting, channel) ∨ turn.reply channel limit = (.timedOut, channel) ∨
      turn.reply channel limit = (.interrupted, channel) ∨
      ∃ piece rest, turn.reply channel limit = (.bytes piece, { channel with inbound := rest }) ∧
        channel.inbound = piece ++ rest ∧ piece.length ≤ limit ∧
        (piece = [] → channel.inbound = [] ∧ channel.ended = true) := by
  unfold RecoveryTurn.reply
  cases polled : pollStreamBefore turn.polls with
  | none => exact .inl rfl
  | some result =>
    cases result with
    | error error => exact absurd polled (sound.polls error)
    | ok found =>
      cases found with
      | none => exact .inr (.inl rfl)
      | some events =>
        dsimp only
        rw [if_neg (not_not.2 (sound.events events polled))]
        rcases sound.read with interrupted | ⟨more, ready⟩
        · rw [interrupted]
          exact .inr (.inr (.inl rfl))
        · rw [ready]
          by_cases readable : channel.Readable
          · obtain ⟨piece, rest, hread, found⟩ := channel.read_ready limit more room readable
            dsimp only
            rw [hread]
            exact .inr (.inr (.inr ⟨piece, rest, rfl, found⟩))
          · dsimp only
            rw [Channel.read_blocked more readable]
            exact .inl rfl

/-- What the guardian read so far: a request that can still be its own, or one that it rejected. -/
structure RequestReading (bytes : List UInt8) (ended : Bool) (identity : DescriptorIdentity)
    (g : GuardianCompletion) (channel : Channel) : Prop where
  own : g.identity = identity
  last : channel.ended = ended
  stream : g.recoveryProtocolRejected = false → g.recoveryFrame ++ channel.inbound = bytes
  fits : g.recoveryProtocolRejected = false → g.recoveryFrame.length ≤ recoveryRequestFrameLength
  full : g.recoveryProtocolRejected = false → g.recoveryFrame.length = recoveryRequestFrameLength →
    g.recoveryFrame = encodeRecoveryRequestFrame identity
  validated : g.recoveryFrameValidated = true →
    g.recoveryFrame = encodeRecoveryRequestFrame identity
  rejected : g.recoveryProtocolRejected = true →
    recoveryVerdict identity bytes = .protocolRejectedOwnerLost

/-- How a poll leaves the guardian: it says nothing final, or what the stream says at its end. -/
structure DecodesRequest (bytes : List UInt8) (ended : Bool) (identity : DescriptorIdentity)
    (decoded : Option (Except CompletionError RecoveryRequestPoll) × GuardianCompletion × Channel) :
    Prop where
  verdict : decoded.1 = none ∨ decoded.1 = some (.ok .pending) ∨
    decoded.1 = some (.ok .protocolRejected) ∨
    (ended = true ∧ decoded.1 = some (.ok (recoveryVerdict identity bytes)))
  reading : RequestReading bytes ended identity decoded.2.1 decoded.2.2

section

variable {bytes : List UInt8} {ended : Bool} {identity : DescriptorIdentity} {g : GuardianCompletion}
  {channel : Channel}

-- the equations of the poll, once for all of the proofs below
attribute [local simp] GuardianCompletion.pollRecoveryRequestBefore

theorem RequestReading.decodes_waiting (h : RequestReading bytes ended identity g channel) :
    DecodesRequest bytes ended identity (none, g, channel) :=
  ⟨.inl rfl, h⟩

theorem RequestReading.decodes_pending (h : RequestReading bytes ended identity g channel) :
    DecodesRequest bytes ended identity (some (.ok .pending), g, channel) :=
  ⟨.inr (.inl rfl), h⟩

theorem RequestReading.decodes_rejected (h : RequestReading bytes ended identity g channel) :
    DecodesRequest bytes ended identity (some (.ok .protocolRejected), g, channel) :=
  ⟨.inr (.inr (.inl rfl)), h⟩

/-- The end of the stream was found. -/
theorem RequestReading.decodes_final (h : RequestReading bytes ended identity g channel)
    (atEnd : channel.ended = true) {poll : RecoveryRequestPoll}
    (verdict : recoveryVerdict identity bytes = poll) :
    DecodesRequest bytes ended identity (some (.ok poll), g, channel) :=
  ⟨.inr (.inr (.inr ⟨h.last.symm.trans atEnd, by rw [verdict]⟩)), h⟩

/-- Of a rejected request nothing is known but what the stream will say. -/
theorem requestReading_of_rejected (own : g.identity = identity) (last : channel.ended = ended)
    (rejected : g.recoveryProtocolRejected = true)
    (validated : g.recoveryFrameValidated = true → g.recoveryFrame = encodeRecoveryRequestFrame identity)
    (verdict : recoveryVerdict identity bytes = .protocolRejectedOwnerLost) :
    RequestReading bytes ended identity g channel where
  own := own
  last := last
  stream going := by cases rejected.symm.trans going
  fits going := by cases rejected.symm.trans going
  full going := by cases rejected.symm.trans going
  validated := validated
  rejected _ := verdict

/-- A rejected request stays rejected, whatever is read of it. -/
theorem RequestReading.discard (h : RequestReading bytes ended identity g channel)
    (rejected : g.recoveryProtocolRejected = true) (rest : List UInt8) :
    RequestReading bytes ended identity g { channel with inbound := rest } :=
  requestReading_of_rejected h.own h.last rejected h.validated (h.rejected rejected)

theorem RequestReading.pollRejectedRequestOnce (h : RequestReading bytes ended identity g channel)
    (rejected : g.recoveryProtocolRejected = true) {turn : RecoveryTurn} (sound : turn.Sound) :
    DecodesRequest bytes ended identity (g.pollRejectedRequestOnce channel turn) := by
  unfold GuardianCompletion.pollRejectedRequestOnce
  rcases sound.reply_cases channel 64 (by decide) with
    reply | reply | reply | ⟨piece, rest, reply, -, -, atEnd⟩
  · rw [reply]
    exact h.decodes_waiting
  · rw [reply]
    exact h.decodes_rejected
  · rw [reply]
    exact h.decodes_rejected
  · rw [reply]
    cases piece with
    | nil => exact (h.discard rejected rest).decodes_final (atEnd rfl).2 (h.rejected rejected)
    | cons byte piece => exact (h.discard rejected rest).decodes_rejected

/-- A piece that does not fill the frame. -/
theorem RequestReading.extend (h : RequestReading bytes ended identity g channel)
    (going : g.recoveryProtocolRejected = false)
    (short : g.recoveryFrame.length < recoveryRequestFrameLength) {piece rest : List UInt8}
    (split : channel.inbound = piece ++ rest)
    (short' : (g.recoveryFrame ++ piece).length < recoveryRequestFrameLength) :
    RequestReading bytes ended identity { g with recoveryFrame := g.recoveryFrame ++ piece }
      { channel with inbound := rest } where
  own := h.own
  last := h.last
  stream _ := by
    rw [← h.stream going, split]
    exact List.append_assoc _ _ _
  fits _ := short'.le
  full _ full := absurd full short'.ne
  validated validated := by
    have full := congrArg List.length (h.validated validated)
    rw [length_encodeRecoveryRequestFrame] at full
    omega
  rejected rejected := by cases going.symm.trans rejected

/-- A frame that was filled is the request of the generation, or it is rejected. -/
theorem RequestReading.fill (h : RequestReading bytes ended identity g channel)
    (going : g.recoveryProtocolRejected = false)
    (short : g.recoveryFrame.length < recoveryRequestFrameLength) {piece rest : List UInt8}
    (split : channel.inbound = piece ++ rest)
    (full : (g.recoveryFrame ++ piece).length = recoveryRequestFrameLength) :
    RequestReading bytes ended identity
      (GuardianCompletion.validate { g with recoveryFrame := g.recoveryFrame ++ piece })
      { channel with inbound := rest } := by
  have unvalidated : g.recoveryFrameValidated = false := by
    by_contra validated
    have length := congrArg List.length (h.validated (by simpa using validated))
    rw [length_encodeRecoveryRequestFrame] at length
    omega
  have stream : (g.recoveryFrame ++ piece) ++ rest = bytes := by
    rw [← h.stream going, split, List.append_assoc]
  unfold GuardianCompletion.validate
  dsimp only
  rw [if_neg (by simp [unvalidated]), h.own]
  by_cases valid : recoveryRequestFrameIsValid (g.recoveryFrame ++ piece) identity = true
  · have request := (recoveryRequestFrameIsValid_iff full).1 valid
    rw [if_pos valid]
    exact ⟨rfl, h.last, fun _ => stream, fun _ => full.le, fun _ _ => request, fun _ => request,
      fun rejected => by cases going.symm.trans rejected⟩
  · have other : g.recoveryFrame ++ piece ≠ encodeRecoveryRequestFrame identity :=
      fun request => valid ((recoveryRequestFrameIsValid_iff full).2 request)
    rw [if_neg valid]
    refine requestReading_of_rejected rfl h.last rfl
      (fun validated => by cases unvalidated.symm.trans validated)
      (recoveryVerdict_rejected (fun empty => ?_) fun request => other ?_)
    · rw [← stream, List.append_eq_nil_iff] at empty
      rw [empty.1] at full
      cases full
    · have length := congrArg List.length (stream.trans request)
      rw [length_encodeRecoveryRequestFrame, List.length_append, full] at length
      have none : rest = [] := List.length_eq_zero_iff.1 (by omega)
      rw [← request, ← stream, none, List.append_nil]

/-- Something after the request. -/
theorem RequestReading.trail (h : RequestReading bytes ended identity g channel)
    (going : g.recoveryProtocolRejected = false)
    (full : g.recoveryFrame.length = recoveryRequestFrameLength) {piece rest : List UInt8}
    (split : channel.inbound = piece ++ rest) (more : piece ≠ []) :
    RequestReading bytes ended identity { g with recoveryProtocolRejected := true }
      { channel with inbound := rest } := by
  have stream : g.recoveryFrame ++ (piece ++ rest) = bytes := by
    rw [← split, h.stream going]
  have positive : 0 < piece.length := List.length_pos_iff.2 more
  refine requestReading_of_rejected h.own h.last rfl h.validated
    (recoveryVerdict_rejected (fun empty => ?_) fun request => ?_)
  · rw [← stream, List.append_eq_nil_iff] at empty
    rw [empty.1] at full
    cases full
  · have length := congrArg List.length (stream.trans request)
    rw [length_encodeRecoveryRequestFrame, List.length_append, full, List.length_append] at length
    omega

/-- A full frame was looked at. -/
theorem RequestReading.validate (h : RequestReading bytes ended identity g channel)
    (going : g.recoveryProtocolRejected = false)
    (full : g.recoveryFrame.length = recoveryRequestFrameLength) :
    g.validate = { g with recoveryFrameValidated := true } := by
  have request := h.full going full
  unfold GuardianCompletion.validate
  by_cases validated : g.recoveryFrameValidated = true
  · rw [if_pos validated, ← validated]
  · rw [if_neg validated, h.own, if_pos ((recoveryRequestFrameIsValid_iff full).2 request)]

/-- What the stream says when it ends before the frame is full. -/
theorem RequestReading.verdict_short (h : RequestReading bytes ended identity g channel)
    (going : g.recoveryProtocolRejected = false)
    (short : g.recoveryFrame.length < recoveryRequestFrameLength) (none : channel.inbound = []) :
    recoveryVerdict identity bytes =
      if g.recoveryFrame = [] then .ownerLost else .protocolRejectedOwnerLost := by
  have stream : g.recoveryFrame = bytes := by rw [← h.stream going, none, List.append_nil]
  rw [← stream]
  by_cases empty : g.recoveryFrame = []
  · rw [if_pos empty]
    exact recoveryVerdict_ownerLost.2 empty
  · rw [if_neg empty]
    refine recoveryVerdict_rejected empty fun request => ?_
    rw [request, length_encodeRecoveryRequestFrame] at short
    omega

/-- Whatever turns a poll is given, none of which fails, it reads on in the stream or says what the stream
says at its end. -/
theorem RequestReading.pollRecoveryRequestBefore (turns : List RecoveryTurn)
    (sound : ∀ turn ∈ turns, turn.Sound) (h : RequestReading bytes ended identity g channel) :
    DecodesRequest bytes ended identity (g.pollRecoveryRequestBefore channel turns) := by
  induction turns generalizing g channel with
  | nil => exact h.decodes_waiting
  | cons turn turns ih =>
    have now : turn.Sound := sound turn List.mem_cons_self
    have later : ∀ turn ∈ turns, turn.Sound := fun turn mem => sound turn (List.mem_cons_of_mem _ mem)
    rw [GuardianCompletion.pollRecoveryRequestBefore]
    by_cases rejected : g.recoveryProtocolRejected = true
    · rw [if_pos rejected]
      exact h.pollRejectedRequestOnce rejected now
    rw [if_neg rejected]
    have going : g.recoveryProtocolRejected = false := by simpa using rejected
    by_cases short : g.recoveryFrame.length < recoveryRequestFrameLength
    · rw [if_pos short]
      rcases now.reply_cases channel
          (recoveryRequestFrameLength - g.recoveryFrame.length) (by omega) with
        reply | reply | reply | ⟨piece, rest, reply, split, room, atEnd⟩
      · rw [reply]
        exact h.decodes_waiting
      · rw [reply]
        exact h.decodes_pending
      · rw [reply]
        exact ih later h
      · rw [reply]
        cases piece with
        | nil =>
          obtain ⟨none, ends⟩ := atEnd rfl
          have same : { channel with inbound := rest } = channel := by
            rw [← List.nil_append rest, ← split]
          rw [same]
          exact h.decodes_final ends (h.verdict_short going short none)
        | cons byte piece =>
          dsimp only
          by_cases short' : (g.recoveryFrame ++ byte :: piece).length < recoveryRequestFrameLength
          · rw [if_pos short']
            exact ih later (h.extend going short split short')
          · rw [if_neg short']
            refine ih later (h.fill going short split ?_)
            rw [List.length_append] at short' ⊢
            omega
    · rw [if_neg short]
      have full : g.recoveryFrame.length = recoveryRequestFrameLength :=
        le_antisymm (h.fits going) (not_lt.1 short)
      rw [h.validate going full]
      have h' : RequestReading bytes ended identity { g with recoveryFrameValidated := true } channel :=
        ⟨h.own, h.last, h.stream, h.fits, h.full, fun _ => h.full going full, h.rejected⟩
      dsimp only
      rw [if_neg rejected]
      rcases now.reply_cases channel 1 Nat.one_pos with
        reply | reply | reply | ⟨piece, rest, reply, split, -, atEnd⟩
      · rw [reply]
        exact h'.decodes_waiting
      · rw [reply]
        exact h'.decodes_pending
      · rw [reply]
        exact ih later h'
      · rw [reply]
        cases piece with
        | nil =>
          obtain ⟨none, ends⟩ := atEnd rfl
          have same : { channel with inbound := rest } = channel := by
            rw [← List.nil_append rest, ← split]
          rw [same]
          refine h'.decodes_final ends (recoveryVerdict_verified.2 ?_)
          rw [← h.stream going, none, List.append_nil, h.full going full]
        | cons byte piece =>
          exact ih later (h'.trail going full split (List.cons_ne_nil _ _))

/-- A turn takes nothing back. -/
theorem length_inbound_reply (turn : RecoveryTurn) (channel : Channel) (limit : ℕ) :
    (turn.reply channel limit).2.inbound.length ≤ channel.inbound.length := by
  unfold RecoveryTurn.reply
  split
  · exact le_rfl
  · exact le_rfl
  · exact le_rfl
  · split
    · exact le_rfl
    · split
      · next more _ =>
        have fewer : (channel.read limit (.ready more)).2.inbound.length ≤ channel.inbound.length := by
          rw [Channel.read]
          split
          · rw [List.length_drop]
            omega
          · exact le_rfl
        split
        · next hread => rwa [hread] at fewer
        · next hread => rwa [hread] at fewer
      · exact le_rfl
      · exact le_rfl
      · exact le_rfl

theorem length_inbound_pollRejectedRequestOnce (turn : RecoveryTurn) :
    (g.pollRejectedRequestOnce channel turn).2.2.inbound.length ≤ channel.inbound.length := by
  have fewer := length_inbound_reply turn channel 64
  unfold GuardianCompletion.pollRejectedRequestOnce
  split <;> next reply => rwa [reply] at fewer

theorem length_inbound_pollRecoveryRequestBefore (g : GuardianCompletion) (channel : Channel)
    (turns : List RecoveryTurn) :
    (g.pollRecoveryRequestBefore channel turns).2.2.inbound.length ≤ channel.inbound.length := by
  induction turns generalizing g channel with
  | nil => exact le_rfl
  | cons turn turns ih =>
    rw [GuardianCompletion.pollRecoveryRequestBefore]
    split
    · exact length_inbound_pollRejectedRequestOnce turn
    split
    · have fewer := length_inbound_reply turn channel
        (recoveryRequestFrameLength - g.recoveryFrame.length)
      split
      · next reply => rwa [reply] at fewer
      · next reply => rwa [reply] at fewer
      · next reply => rwa [reply] at fewer
      · next reply =>
        rw [reply] at fewer
        dsimp only
        split <;> exact (ih _ _).trans fewer
      · next reply => exact (ih _ _).trans (by rwa [reply] at fewer)
      · next reply => rwa [reply] at fewer
    · have fewer := length_inbound_reply turn channel 1
      dsimp only
      split
      · exact length_inbound_pollRejectedRequestOnce turn
      split
      · next reply => rwa [reply] at fewer
      · next reply => rwa [reply] at fewer
      · next reply => rwa [reply] at fewer
      · next reply => exact (ih _ _).trans (by rwa [reply] at fewer)
      · next reply => exact (ih _ _).trans (by rwa [reply] at fewer)
      · next reply => rwa [reply] at fewer

/-- The channel is polled ready and read. -/
def RecoveryTurn.reads (turn : RecoveryTurn) : Bool :=
  match pollStreamBefore turn.polls, turn.read with
  | some (.ok (some _)), .ready _ => true
  | _, _ => false

/-- The channel is polled ready, and the read is interrupted. -/
def RecoveryTurn.isInterrupted (turn : RecoveryTurn) : Bool :=
  match pollStreamBefore turn.polls, turn.read with
  | some (.ok (some _)), .interrupted => true
  | _, _ => false

/-- The poll comes to a turn that reads. A poll of a rejected request has only one. -/
def ProductiveTurns (rejected : Bool) (turns : List RecoveryTurn) : Bool :=
  match if rejected then turns else turns.dropWhile RecoveryTurn.isInterrupted with
  | turn :: _ => turn.reads
  | [] => false

theorem RecoveryTurn.Sound.reply_reads {turn : RecoveryTurn} (sound : turn.Sound)
    (reads : turn.reads = true) (readable : channel.Readable) (limit : ℕ) (room : 0 < limit) :
    ∃ piece rest, turn.reply channel limit = (.bytes piece, { channel with inbound := rest }) ∧
      channel.inbound = piece ++ rest := by
  unfold RecoveryTurn.reads at reads
  split at reads
  · next events more polled ready =>
    obtain ⟨piece, rest, hread, split, -⟩ := channel.read_ready limit more room readable
    refine ⟨piece, rest, ?_, split⟩
    unfold RecoveryTurn.reply
    rw [polled]
    dsimp only
    rw [if_neg (not_not.2 (sound.events events polled)), ready]
    dsimp only
    rw [hread]
  · cases reads

theorem RecoveryTurn.Sound.reply_isInterrupted {turn : RecoveryTurn} (sound : turn.Sound)
    (interrupted : turn.isInterrupted = true) (limit : ℕ) :
    turn.reply channel limit = (.interrupted, channel) := by
  unfold RecoveryTurn.isInterrupted at interrupted
  split at interrupted
  · next events polled read =>
    unfold RecoveryTurn.reply
    rw [polled]
    dsimp only
    rw [if_neg (not_not.2 (sound.events events polled)), read]
  · cases interrupted

/-- Nothing final was returned. -/
def Undecided (output : Option (Except CompletionError RecoveryRequestPoll)) : Prop :=
  output = none ∨ output = some (.ok .pending) ∨ output = some (.ok .protocolRejected)

theorem progress_rejected {turn : RecoveryTurn} (sound : turn.Sound) (reads : turn.reads = true)
    (readable : channel.ended = true)
    (undecided : Undecided (g.pollRejectedRequestOnce channel turn).1) :
    (g.pollRejectedRequestOnce channel turn).2.2.inbound.length < channel.inbound.length := by
  obtain ⟨piece, rest, reply, split⟩ := sound.reply_reads reads (show channel.Readable from .inr readable)
    64 (by decide)
  unfold GuardianCompletion.pollRejectedRequestOnce at undecided ⊢
  rw [reply] at undecided ⊢
  cases piece with
  | nil => simp [Undecided] at undecided
  | cons byte piece =>
    show rest.length < channel.inbound.length
    rw [split, List.length_append, List.length_cons]
    omega

/-- A poll that reads something of a stream that ends takes something from it, or says what it says. -/
theorem RequestReading.progress (h : RequestReading bytes ended identity g channel)
    (readable : channel.ended = true) {turns : List RecoveryTurn}
    (sound : ∀ turn ∈ turns, turn.Sound)
    (productive : ProductiveTurns g.recoveryProtocolRejected turns = true)
    (undecided : Undecided (g.pollRecoveryRequestBefore channel turns).1) :
    (g.pollRecoveryRequestBefore channel turns).2.2.inbound.length < channel.inbound.length := by
  induction turns generalizing g with
  | nil => cases hr : g.recoveryProtocolRejected <;> simp [ProductiveTurns, hr] at productive
  | cons turn turns ih =>
    have now : turn.Sound := sound turn List.mem_cons_self
    have later : ∀ turn ∈ turns, turn.Sound := fun turn mem => sound turn (List.mem_cons_of_mem _ mem)
    rw [GuardianCompletion.pollRecoveryRequestBefore] at undecided ⊢
    by_cases rejected : g.recoveryProtocolRejected = true
    · rw [if_pos rejected] at undecided ⊢
      rw [ProductiveTurns, if_pos rejected] at productive
      exact progress_rejected now productive readable undecided
    rw [if_neg rejected] at undecided ⊢
    have going : g.recoveryProtocolRejected = false := by simpa using rejected
    by_cases short : g.recoveryFrame.length < recoveryRequestFrameLength
    · rw [if_pos short] at undecided ⊢
      by_cases interrupted : turn.isInterrupted = true
      · have next' : ProductiveTurns g.recoveryProtocolRejected turns = true := by
          rw [ProductiveTurns, if_neg rejected, List.dropWhile_cons_of_pos interrupted] at productive
          rwa [ProductiveTurns, if_neg rejected]
        rw [now.reply_isInterrupted interrupted] at undecided ⊢
        exact ih h later next' undecided
      · have reads : turn.reads = true := by
          rwa [ProductiveTurns, if_neg rejected, List.dropWhile_cons_of_neg interrupted] at productive
        obtain ⟨piece, rest, reply, split⟩ := now.reply_reads reads (show channel.Readable from .inr readable)
          (recoveryRequestFrameLength - g.recoveryFrame.length) (by omega)
        rw [reply] at undecided ⊢
        cases piece with
        | nil =>
          dsimp only at undecided
          split at undecided <;> simp [Undecided] at undecided
        | cons byte piece =>
          have fewer : rest.length < channel.inbound.length := by
            rw [split, List.length_append, List.length_cons]
            omega
          dsimp only
          split <;> exact (length_inbound_pollRecoveryRequestBefore _ _ turns).trans_lt fewer
    · rw [if_neg short] at undecided ⊢
      have full : g.recoveryFrame.length = recoveryRequestFrameLength :=
        le_antisymm (h.fits going) (not_lt.1 short)
      have h' : RequestReading bytes ended identity { g with recoveryFrameValidated := true } channel :=
        ⟨h.own, h.last, h.stream, h.fits, h.full, fun _ => h.full going full, h.rejected⟩
      rw [h.validate going full] at undecided ⊢
      dsimp only at undecided ⊢
      rw [if_neg rejected] at undecided ⊢
      by_cases interrupted : turn.isInterrupted = true
      · have next' : ProductiveTurns g.recoveryProtocolRejected turns = true := by
          rw [ProductiveTurns, if_neg rejected, List.dropWhile_cons_of_pos interrupted] at productive
          rwa [ProductiveTurns, if_neg rejected]
        rw [now.reply_isInterrupted interrupted] at undecided ⊢
        exact ih h' later next' undecided
      · have reads : turn.reads = true := by
          rwa [ProductiveTurns, if_neg rejected, List.dropWhile_cons_of_neg interrupted] at productive
        obtain ⟨piece, rest, reply, split⟩ := now.reply_reads reads (show channel.Readable from .inr readable) 1 Nat.one_pos
        rw [reply] at undecided ⊢
        cases piece with
        | nil => simp [Undecided] at undecided
        | cons byte piece =>
          have fewer : rest.length < channel.inbound.length := by
            rw [split, List.length_append, List.length_cons]
            omega
          exact (length_inbound_pollRecoveryRequestBefore _ _ turns).trans_lt fewer

theorem recoveryTerminal_pollRecoveryRequestBefore (g : GuardianCompletion) (channel : Channel)
    (turns : List RecoveryTurn) :
    (g.pollRecoveryRequestBefore channel turns).2.1.recoveryTerminal = g.recoveryTerminal := by
  have validate : ∀ g : GuardianCompletion, g.validate.recoveryTerminal = g.recoveryTerminal := by
    intro g
    unfold GuardianCompletion.validate
    split
    · rfl
    · split <;> rfl
  have discard : ∀ (g : GuardianCompletion) channel turn,
      (g.pollRejectedRequestOnce channel turn).2.1 = g := by
    intro g channel turn
    unfold GuardianCompletion.pollRejectedRequestOnce
    split <;> rfl
  induction turns generalizing g channel with
  | nil => rfl
  | cons turn turns ih =>
    rw [GuardianCompletion.pollRecoveryRequestBefore]
    split
    · rw [discard]
    split
    · split
      · rfl
      · rfl
      · rfl
      · dsimp only
        split
        · rw [ih]
        · rw [ih, validate]
      · exact ih _ _
      · rfl
    · dsimp only
      split
      · rw [discard, validate]
      split
      · exact validate g
      · exact validate g
      · exact validate g
      · rw [ih]
        exact validate g
      · rw [ih, validate]
      · exact validate g

end

/-! ## Repeated polls -/

/-- The calls of a poll: the look at the identity of the endpoint, and its turns. -/
structure RecoveryCalls where
  identity : Bool
  turns : List RecoveryTurn
deriving DecidableEq, Repr

/-- No call fails. -/
def RecoveryCalls.Sound (calls : RecoveryCalls) : Prop :=
  calls.identity = true ∧ ∀ turn ∈ calls.turns, turn.Sound

abbrev RecoveryStep : Type :=
  Step (GuardianCompletion × Channel) RecoveryCalls (Option (Except CompletionError RecoveryRequestPoll))

def pollRequest (s : GuardianCompletion × Channel) (calls : RecoveryCalls) :
    Option (Except CompletionError RecoveryRequestPoll) × GuardianCompletion × Channel :=
  s.1.pollRecoveryRequest s.2 calls.identity calls.turns

/-- The polls of a new guardian, whose peer sends these bytes and then closes or does not. -/
def recoveryPolls (identity : DescriptorIdentity) (bytes : List UInt8) (ended : Bool)
    (polls : List RecoveryCalls) : List RecoveryStep :=
  history pollRequest (.new identity, ⟨bytes, ended, [], false⟩) polls

/-- The poll comes to a turn that reads. -/
def RecoveryStep.Productive (step : RecoveryStep) : Bool :=
  ProductiveTurns step.before.1.recoveryProtocolRejected step.input.turns

/-- The guardian reads on, or it has said what the stream says. -/
def Listened (bytes : List UInt8) (ended : Bool) (identity : DescriptorIdentity)
    (s : GuardianCompletion × Channel) : Prop :=
  (s.1.recoveryTerminal = none ∧ RequestReading bytes ended identity s.1 s.2) ∨
    ∃ terminal, s.1.recoveryTerminal = some terminal ∧ ended = true ∧
      terminal.intoResult = .ok (recoveryVerdict identity bytes)

section

variable {bytes : List UInt8} {ended : Bool} {identity : DescriptorIdentity}
  {s : GuardianCompletion × Channel} {calls : RecoveryCalls}

theorem pollRequest_terminal {terminal : RecoveryRequestTerminal}
    (h : s.1.recoveryTerminal = some terminal) (sound : calls.identity = true) :
    pollRequest s calls = (some terminal.intoResult, s) := by
  rw [pollRequest, GuardianCompletion.pollRecoveryRequest, if_neg (not_not.2 sound), h]

theorem pollRequest_reading (h : s.1.recoveryTerminal = none) (sound : calls.identity = true) :
    pollRequest s calls =
      ((s.1.pollRecoveryRequestBefore s.2 calls.turns).1,
        GuardianCompletion.finishPoll (s.1.pollRecoveryRequestBefore s.2 calls.turns).1
          (s.1.pollRecoveryRequestBefore s.2 calls.turns).2.1,
        (s.1.pollRecoveryRequestBefore s.2 calls.turns).2.2) := by
  rw [pollRequest, GuardianCompletion.pollRecoveryRequest, if_neg (not_not.2 sound), h]

/-- A final result is kept. -/
theorem finishPoll_verdict (identity : DescriptorIdentity) (bytes : List UInt8) (g : GuardianCompletion) :
    ∃ terminal, (GuardianCompletion.finishPoll (some (.ok (recoveryVerdict identity bytes))) g).recoveryTerminal =
      some terminal ∧ terminal.intoResult = .ok (recoveryVerdict identity bytes) := by
  unfold recoveryVerdict
  split
  · exact ⟨.ownerLost, rfl, rfl⟩
  · split
    · exact ⟨.verified, rfl, rfl⟩
    · exact ⟨.protocolRejectedOwnerLost, rfl, rfl⟩

theorem finishPoll_undecided {output : Option (Except CompletionError RecoveryRequestPoll)}
    (h : Undecided output) (g : GuardianCompletion) : GuardianCompletion.finishPoll output g = g := by
  rcases h with rfl | rfl | rfl <;> rfl

theorem Listened.step (h : Listened bytes ended identity s) (sound : calls.Sound) :
    Listened bytes ended identity (pollRequest s calls).2 ∧
      (Undecided (pollRequest s calls).1 ∨
        ended = true ∧ (pollRequest s calls).1 = some (.ok (recoveryVerdict identity bytes))) := by
  rcases h with ⟨going, reading⟩ | ⟨terminal, kept, ends, verdict⟩
  · have decodes := reading.pollRecoveryRequestBefore calls.turns sound.2
    have unended := (recoveryTerminal_pollRecoveryRequestBefore _ s.2 calls.turns).trans going
    have result : Undecided (s.1.pollRecoveryRequestBefore s.2 calls.turns).1 ∨
        ended = true ∧ (s.1.pollRecoveryRequestBefore s.2 calls.turns).1 =
          some (.ok (recoveryVerdict identity bytes)) := by
      rcases decodes.verdict with h | h | h | h
      · exact .inl (.inl h)
      · exact .inl (.inr (.inl h))
      · exact .inl (.inr (.inr h))
      · exact .inr h
    rw [pollRequest_reading going sound.1]
    refine ⟨?_, result⟩
    rcases result with undecided | ⟨ends, final⟩
    · refine .inl ?_
      dsimp only
      rw [finishPoll_undecided undecided]
      exact ⟨unended, decodes.reading⟩
    · dsimp only
      rw [final]
      obtain ⟨terminal, kept, verdict⟩ := finishPoll_verdict identity bytes
        (s.1.pollRecoveryRequestBefore s.2 calls.turns).2.1
      exact .inr ⟨terminal, kept, ends, verdict⟩
  · rw [pollRequest_terminal kept sound.1]
    exact ⟨.inr ⟨terminal, kept, ends, verdict⟩, .inr ⟨ends, congrArg some verdict⟩⟩

/-- What is known after some polls of a stream: what they returned, and that each productive one took
something from the stream as long as nothing final was returned. -/
structure ListenedPast (bytes : List UInt8) (ended : Bool) (identity : DescriptorIdentity)
    (past : List RecoveryStep) (s : GuardianCompletion × Channel) : Prop where
  listened : Listened bytes ended identity s
  outputs : ∀ step ∈ past, Undecided step.output ∨
    ended = true ∧ step.output = some (.ok (recoveryVerdict identity bytes))
  progress : ended = true → (∀ step ∈ past, Undecided step.output) →
    s.1.recoveryTerminal = none ∧
      past.countP RecoveryStep.Productive + s.2.inbound.length ≤ bytes.length

theorem ListenedPast.start :
    ListenedPast bytes ended identity [] (.new identity, ⟨bytes, ended, [], false⟩) where
  listened := by
    refine .inl ⟨rfl, rfl, rfl, fun _ => rfl, fun _ => Nat.zero_le _, fun _ full => ?_, fun h => ?_, fun h => ?_⟩
    · cases full
    · cases h
    · cases h
  outputs _ mem := by cases mem
  progress _ _ := ⟨rfl, by simp⟩

theorem ListenedPast.step {past : List RecoveryStep} (h : ListenedPast bytes ended identity past s)
    (sound : calls.Sound) : ListenedPast bytes ended identity
      (past ++ [stepAt pollRequest s calls]) (pollRequest s calls).2 where
  listened := (h.listened.step sound).1
  outputs step mem := by
    rcases List.mem_append.1 mem with mem | mem
    · exact h.outputs step mem
    · obtain rfl := List.mem_singleton.1 mem
      exact (h.listened.step sound).2
  progress ends undecided := by
    obtain ⟨going, count⟩ := h.progress ends fun step mem => undecided step (List.mem_append_left _ mem)
    have now : Undecided (pollRequest s calls).1 :=
      undecided _ (List.mem_append_right _ (List.mem_singleton_self _))
    have reading : RequestReading bytes ended identity s.1 s.2 := by
      rcases h.listened with ⟨-, reading⟩ | ⟨terminal, kept, -⟩
      · exact reading
      · cases going.symm.trans kept
    rw [pollRequest_reading going sound.1] at now ⊢
    refine ⟨?_, ?_⟩
    · show (GuardianCompletion.finishPoll _ _).recoveryTerminal = none
      rw [finishPoll_undecided now, recoveryTerminal_pollRecoveryRequestBefore, going]
    · rw [List.countP_append, List.countP_singleton]
      by_cases productive : RecoveryStep.Productive (stepAt pollRequest s calls) = true
      · have fewer : (s.1.pollRecoveryRequestBefore s.2 calls.turns).2.2.inbound.length <
            s.2.inbound.length :=
          reading.progress (reading.last.trans ends) sound.2 productive now
        rw [if_pos productive]
        dsimp only
        omega
      · have fewer := length_inbound_pollRecoveryRequestBefore s.1 s.2 calls.turns
        rw [if_neg productive]
        dsimp only
        omega

theorem listenedPast_of_sound {polls : List RecoveryCalls} (sound : ∀ calls ∈ polls, calls.Sound) :
    ListenedPast bytes ended identity (recoveryPolls identity bytes ended polls)
      (final pollRequest (.new identity, ⟨bytes, ended, [], false⟩) polls) :=
  history_invariant ListenedPast.start (fun _ _ _ past sound => past.step sound) polls
    fun _ mem => sound _ (input_mem_of_mem_history mem)

/-! ## Rejections -/

/-- The guardian can verify nothing any more. -/
def Barred (g : GuardianCompletion) : Prop :=
  g.recoveryTerminal ≠ some .verified ∧
    (g.recoveryProtocolRejected = true ∨ g.recoveryTerminal ≠ none)

theorem pollRejectedRequestOnce_barred (g : GuardianCompletion) (channel : Channel) (turn : RecoveryTurn) :
    (g.pollRejectedRequestOnce channel turn).1 ≠ some (.ok .verified) ∧
      (g.pollRejectedRequestOnce channel turn).2.1 = g := by
  unfold GuardianCompletion.pollRejectedRequestOnce
  split <;> exact ⟨by simp, rfl⟩

theorem barred_finishPoll {g : GuardianCompletion}
    {output : Option (Except CompletionError RecoveryRequestPoll)}
    (rejected : g.recoveryProtocolRejected = true) (unended : g.recoveryTerminal = none)
    (unverified : output ≠ some (.ok .verified)) : Barred (GuardianCompletion.finishPoll output g) := by
  unfold GuardianCompletion.finishPoll
  split
  · exact absurd rfl unverified
  · exact ⟨by simp, .inr (by simp)⟩
  · exact ⟨by simp, .inr (by simp)⟩
  · exact ⟨by simp [unended], .inl rejected⟩
  · exact ⟨by simp [unended], .inl rejected⟩
  · exact ⟨by simp [unended], .inl rejected⟩
  · exact ⟨by simp, .inr (by simp)⟩

/-- After a rejection, no call brings a verification. -/
theorem Barred.step (h : Barred s.1) :
    Barred (pollRequest s calls).2.1 ∧ (pollRequest s calls).1 ≠ some (.ok .verified) := by
  by_cases sound : calls.identity = true
  · cases kept : s.1.recoveryTerminal with
    | some terminal =>
      rw [pollRequest_terminal kept sound]
      refine ⟨h, fun verified => h.1 ?_⟩
      cases terminal <;> first | exact kept | cases verified
    | none =>
      have rejected : s.1.recoveryProtocolRejected = true := h.2.resolve_right (not_not.2 kept)
      have unverified : (s.1.pollRecoveryRequestBefore s.2 calls.turns).1 ≠ some (.ok .verified) ∧
          (s.1.pollRecoveryRequestBefore s.2 calls.turns).2.1 = s.1 := by
        cases calls.turns with
        | nil => exact ⟨by simp [GuardianCompletion.pollRecoveryRequestBefore], rfl⟩
        | cons turn turns =>
          rw [GuardianCompletion.pollRecoveryRequestBefore, if_pos rejected]
          exact pollRejectedRequestOnce_barred s.1 s.2 turn
      rw [pollRequest_reading kept sound]
      refine ⟨?_, unverified.1⟩
      show Barred (GuardianCompletion.finishPoll _ (s.1.pollRecoveryRequestBefore s.2 calls.turns).2.1)
      rw [unverified.2]
      exact barred_finishPoll rejected kept unverified.1
  · rw [pollRequest, GuardianCompletion.pollRecoveryRequest, if_pos sound]
    exact ⟨h, by simp⟩

/-- A poll that reports a rejection has kept it. -/
theorem pollRecoveryRequestBefore_rejected {g : GuardianCompletion} {channel : Channel}
    {turns : List RecoveryTurn}
    (h : (g.pollRecoveryRequestBefore channel turns).1 = some (.ok .protocolRejected)) :
    (g.pollRecoveryRequestBefore channel turns).2.1.recoveryProtocolRejected = true := by
  induction turns generalizing g channel with
  | nil => cases h
  | cons turn turns ih =>
    rw [GuardianCompletion.pollRecoveryRequestBefore] at h ⊢
    split at h
    · next rejected =>
      rw [if_pos rejected, (pollRejectedRequestOnce_barred g channel turn).2]
      exact rejected
    · next going =>
      rw [if_neg going]
      split at h
      · next short =>
        rw [if_pos short]
        split at h
        · cases h
        · cases h
        · split at h <;> cases h
        · dsimp only at h ⊢
          split at h
          · next short' =>
            rw [if_pos short']
            exact ih h
          · next full =>
            rw [if_neg full]
            exact ih h
        · exact ih h
        · cases h
      · next full =>
        rw [if_neg full]
        dsimp only at h ⊢
        split at h
        · next rejected =>
          rw [if_pos rejected, (pollRejectedRequestOnce_barred _ channel turn).2]
          exact rejected
        · next valid =>
          rw [if_neg valid]
          split at h
          · cases h
          · cases h
          · cases h
          · exact ih h
          · exact ih h
          · cases h

theorem barred_of_rejection (h : (pollRequest s calls).1 = some (.ok .protocolRejected) ∨
    (pollRequest s calls).1 = some (.ok .protocolRejectedOwnerLost)) : Barred (pollRequest s calls).2.1 := by
  by_cases sound : calls.identity = true
  · cases kept : s.1.recoveryTerminal with
    | some terminal =>
      rw [pollRequest_terminal kept sound] at h ⊢
      refine ⟨fun verified => ?_, .inr (by simp [kept])⟩
      obtain rfl := Option.some.inj (kept.symm.trans verified)
      rcases h with h | h <;> cases h
    | none =>
      have unended := (recoveryTerminal_pollRecoveryRequestBefore s.1 s.2 calls.turns).trans kept
      rw [pollRequest_reading kept sound] at h ⊢
      rcases h with h | h
      · exact barred_finishPoll (pollRecoveryRequestBefore_rejected h) unended (by rw [h]; simp)
      · dsimp only at h ⊢
        rw [h]
        exact ⟨by simp [GuardianCompletion.finishPoll], .inr (by simp [GuardianCompletion.finishPoll])⟩
  · rw [pollRequest, GuardianCompletion.pollRecoveryRequest, if_pos sound] at h
    rcases h with h | h <;> cases h

theorem history_barred (polls : List RecoveryCalls) (h : Barred s.1) :
    ∀ step ∈ history pollRequest s polls, step.output ≠ some (.ok .verified) := by
  induction polls generalizing s with
  | nil => exact fun _ mem => by cases mem
  | cons calls polls ih =>
    intro step mem
    rw [history] at mem
    rcases List.mem_cons.1 mem with rfl | mem
    · exact h.step.2
    · exact ih h.step.1 step mem

/-- Whatever calls fail, nothing is verified after a rejection. -/
theorem recoveryPolls_barred {polls : List RecoveryCalls} {past later : List RecoveryStep}
    {step : RecoveryStep} (split : recoveryPolls identity bytes ended polls = past ++ step :: later)
    (rejected : step.output = some (.ok .protocolRejected) ∨
      step.output = some (.ok .protocolRejectedOwnerLost)) :
    ∀ after ∈ later, after.output ≠ some (.ok .verified) := by
  obtain ⟨earlier, calls, rest, -, -, rfl, rfl⟩ := history_split split
  exact history_barred rest (barred_of_rejection rejected)

/-! ## The edge -/

/-- What repeated polls say about a request. -/
structure RecoveryExact (identity : DescriptorIdentity) (bytes : List UInt8)
    (polls : List RecoveryCalls) : Prop where
  /-- Only the request of this generation is verified, at the end of the stream and alone. -/
  verified : ∀ ended, ∀ step ∈ recoveryPolls identity bytes ended polls,
    step.output = some (.ok .verified) → bytes = encodeRecoveryRequestFrame identity ∧ ended = true
  ownerLost : ∀ ended, ∀ step ∈ recoveryPolls identity bytes ended polls,
    step.output = some (.ok .ownerLost) → bytes = [] ∧ ended = true
  rejected : ∀ ended, ∀ step ∈ recoveryPolls identity bytes ended polls,
    step.output = some (.ok .protocolRejectedOwnerLost) →
      bytes ≠ [] ∧ bytes ≠ encodeRecoveryRequestFrame identity ∧ ended = true
  unfailed : ∀ ended, ∀ step ∈ recoveryPolls identity bytes ended polls,
    ∀ error, step.output ≠ some (.error error)
  /-- Enough polls of a stream that ended say which of the three it is. -/
  settled : bytes.length < (recoveryPolls identity bytes true polls).countP RecoveryStep.Productive →
    ∃ step ∈ recoveryPolls identity bytes true polls, ∃ poll, step.output = some (.ok poll) ∧
      (poll = .verified ↔ bytes = encodeRecoveryRequestFrame identity) ∧
      (poll = .ownerLost ↔ bytes = []) ∧
      (poll = .protocolRejectedOwnerLost ↔
        bytes ≠ [] ∧ bytes ≠ encodeRecoveryRequestFrame identity)

theorem recoveryVerdict_protocolRejectedOwnerLost :
    recoveryVerdict identity bytes = .protocolRejectedOwnerLost ↔
      bytes ≠ [] ∧ bytes ≠ encodeRecoveryRequestFrame identity := by
  constructor
  · intro h
    refine ⟨fun empty => ?_, fun request => ?_⟩
    · cases h.symm.trans (recoveryVerdict_ownerLost.2 empty)
    · cases h.symm.trans (recoveryVerdict_verified.2 request)
  · exact fun h => recoveryVerdict_rejected h.1 h.2

theorem recoveryExact (polls : List RecoveryCalls) (sound : ∀ calls ∈ polls, calls.Sound) :
    RecoveryExact identity bytes polls := by
  have outputs : ∀ ended, ∀ step ∈ recoveryPolls identity bytes ended polls,
      ∀ result, step.output = some result → result ≠ .ok .pending → result ≠ .ok .protocolRejected →
        ended = true ∧ result = .ok (recoveryVerdict identity bytes) := by
    intro ended step mem result output final final'
    rcases (listenedPast_of_sound sound).outputs step mem with (h | h | h) | ⟨ends, h⟩
    · cases output.symm.trans h
    · exact absurd (Option.some.inj (output.symm.trans h)) final
    · exact absurd (Option.some.inj (output.symm.trans h)) final'
    · exact ⟨ends, Option.some.inj (output.symm.trans h)⟩
  refine ⟨fun ended step mem h => ?_, fun ended step mem h => ?_, fun ended step mem h => ?_,
    fun ended step mem error h => ?_, fun enough => ?_⟩
  · obtain ⟨ends, same⟩ := outputs ended step mem _ h (by simp) (by simp)
    exact ⟨recoveryVerdict_verified.1 (Except.ok.inj same).symm, ends⟩
  · obtain ⟨ends, same⟩ := outputs ended step mem _ h (by simp) (by simp)
    exact ⟨recoveryVerdict_ownerLost.1 (Except.ok.inj same).symm, ends⟩
  · obtain ⟨ends, same⟩ := outputs ended step mem _ h (by simp) (by simp)
    obtain ⟨some, other⟩ := recoveryVerdict_protocolRejectedOwnerLost.1 (Except.ok.inj same).symm
    exact ⟨some, other, ends⟩
  · cases (outputs ended step mem _ h (by simp) (by simp)).2
  · have past : ListenedPast bytes true identity _ _ := listenedPast_of_sound sound
    have decided : ∃ step ∈ recoveryPolls identity bytes true polls, ¬Undecided step.output := by
      by_contra undecided
      have count := (past.progress rfl fun step mem => by
        by_contra final
        exact undecided ⟨step, mem, final⟩).2
      omega
    obtain ⟨step, mem, final⟩ := decided
    have said := ((past.outputs step mem).resolve_left final).2
    exact ⟨step, mem, _, said, recoveryVerdict_verified, recoveryVerdict_ownerLost,
      recoveryVerdict_protocolRejectedOwnerLost⟩

end

/-- The completion edge accepts exactly its frames, however its streams are cut. -/
theorem completion_edge_exact :
    (∀ bytes polls, (∀ calls ∈ polls, CompletionCalls.Sound calls) → CompletionExact bytes polls) ∧
    (∀ bytes ended polls past step later error, completionPolls bytes ended polls = past ++ step :: later →
      step.output = some (.error error) → ∀ after ∈ later, after.output = some (.error error)) ∧
    (∀ identity bytes polls, (∀ calls ∈ polls, RecoveryCalls.Sound calls) →
      RecoveryExact identity bytes polls) ∧
    (∀ identity bytes ended polls past step later,
      recoveryPolls identity bytes ended polls = past ++ step :: later →
      step.output = some (.ok .protocolRejected) ∨
        step.output = some (.ok .protocolRejectedOwnerLost) →
      ∀ after ∈ later, after.output ≠ some (.ok .verified)) ∧
    Function.Injective encodeRecoveryRequestFrame ∧
    ∀ bytes ended peer calls, RequestSent bytes ended peer calls :=
  ⟨fun _ polls sound => completionExact polls sound,
    fun _ _ _ _ _ _ _ split failed => completionPolls_sticky split failed,
    fun _ _ polls sound => recoveryExact polls sound,
    fun _ _ _ _ _ _ _ split rejected => recoveryPolls_barred split rejected,
    encodeRecoveryRequestFrame_injective, requestSent⟩

/-- A frame that arrives byte by byte, each after an interruption, with polls that would block. -/
theorem completion_edge_exact_bytewise :
    Returned (completionPolls (CompletionTerminalFrame.bytes .providerReleased) true
      (List.replicate 9 ⟨true, [.interrupted, .ready 0, .wouldBlock]⟩)) (.ok .verified) :=
  ((completion_edge_exact.1 _ _ fun calls mem => by
    rw [List.eq_of_mem_replicate mem]
    exact ⟨rfl, by decide⟩).settled (by decide)).1 .providerReleased rfl

end Calcifer.Supervisor
