import Calcifer.Library.Machine
import Calcifer.Supervisor.CompletionEdge

/-!
# The verdict of a completion stream

What repeated polls of the anchor say is a function of the stream alone (`completionVerdict`), however
its reads are cut: `Reading` ties what was read to the stream, one round of the decoder keeps it, and a
poll that ends says what the stream says. The recovery request is sent at most once and before anything
of the completion was read (`Unrequested`).
-/

namespace Calcifer.Supervisor

open Machine

/-! ## Reads -/

namespace Channel

variable {channel : Channel} {limit : ℕ} {outcome : ReadOutcome}

/-- What a read that is not in vain does. -/
theorem read_ready (limit more : ℕ) (room : 0 < limit) (readable : channel.Readable) :
    ∃ piece rest, channel.read limit (.ready more) = (.bytes piece, { channel with inbound := rest }) ∧
      channel.inbound = piece ++ rest ∧ piece.length ≤ limit ∧
      (piece = [] → channel.inbound = [] ∧ channel.ended = true) := by
  refine ⟨channel.inbound.take (min limit (more + 1)), channel.inbound.drop (min limit (more + 1)),
    ?_, (List.take_append_drop _ _).symm, ?_, fun empty => ?_⟩
  · rw [read, if_pos readable]
  · rw [List.length_take]
    omega
  · have none : channel.inbound = [] := by
      rcases List.take_eq_nil_iff.1 empty with zero | none
      · omega
      · exact none
    exact ⟨none, readable.resolve_left fun some => some none⟩

theorem read_blocked (more : ℕ) (blocked : ¬channel.Readable) :
    channel.read limit (.ready more) = (.wouldBlock, channel) := by
  rw [read, if_neg blocked]

end Channel

/-! ## The verdict -/

/-- What a stream says. -/
def completionVerdict (bytes : List UInt8) (ended : Bool) :
    Option (Except CompletionError CompletionPoll) :=
  if bytes.length < completionFrameLength then
    if ended then some (.error .missingFrame) else none
  else match CompletionTerminalFrame.ofBytes (bytes.take completionFrameLength) with
  | none => some (.error .invalidFrame)
  | some frame =>
    if completionFrameLength < bytes.length then some (.error .trailingData)
    else if ended then some (.ok frame.poll) else none

theorem CompletionTerminalFrame.ofBytes_eq_some {read : List UInt8} {frame : CompletionTerminalFrame} :
    ofBytes read = some frame ↔ read = frame.bytes := by
  unfold ofBytes
  by_cases released : read = bytes .providerReleased
  · rw [if_pos released, released]
    cases frame <;> simp [bytes]
  · rw [if_neg released]
    by_cases retained : read = bytes .retainedUnrecoverable
    · rw [if_pos retained, retained]
      cases frame <;> simp [bytes]
    · rw [if_neg retained]
      cases frame <;> simp [released, retained]

theorem CompletionTerminalFrame.poll_inj {frame frame' : CompletionTerminalFrame}
    (h : frame.poll = frame'.poll) : frame = frame' := by
  cases frame <;> cases frame' <;> first | rfl | cases h

/-- A stream is accepted exactly if it is a frame and ends. -/
theorem completionVerdict_eq_ok {bytes : List UInt8} {ended : Bool} {poll : CompletionPoll} :
    completionVerdict bytes ended = some (.ok poll) ↔
      ∃ frame : CompletionTerminalFrame, poll = frame.poll ∧ bytes = frame.bytes ∧ ended = true := by
  unfold completionVerdict
  constructor
  · intro h
    by_cases short : bytes.length < completionFrameLength
    · rw [if_pos short] at h
      cases ended <;> cases h
    rw [if_neg short] at h
    cases named : CompletionTerminalFrame.ofBytes (bytes.take completionFrameLength) with
    | none =>
      simp only [named] at h
      cases h
    | some frame =>
      simp only [named] at h
      by_cases long : completionFrameLength < bytes.length
      · rw [if_pos long] at h
        cases h
      rw [if_neg long] at h
      cases ended with
      | false => cases h
      | true =>
        cases h
        refine ⟨frame, rfl, ?_, rfl⟩
        rw [← CompletionTerminalFrame.ofBytes_eq_some.1 named, List.take_of_length_le (by omega)]
  · rintro ⟨frame, rfl, rfl, rfl⟩
    cases frame <;> rfl

/-- A stream that ends says something. -/
theorem completionVerdict_ended (bytes : List UInt8) : ∃ v, completionVerdict bytes true = some v := by
  unfold completionVerdict
  split
  · exact ⟨_, rfl⟩
  · split
    · exact ⟨_, rfl⟩
    · split <;> exact ⟨_, rfl⟩

theorem completionVerdict_ne_pending {bytes : List UInt8} {ended : Bool} :
    completionVerdict bytes ended ≠ some (.ok .pending) := by
  intro h
  obtain ⟨frame, pending, -⟩ := completionVerdict_eq_ok.1 h
  cases frame <;> cases pending

/-- A frame alone says nothing before the end. -/
theorem completionVerdict_frame (frame : CompletionTerminalFrame) :
    completionVerdict frame.bytes false = none := by
  cases frame <;> rfl

/-! ## Reading a stream -/

/-- What the anchor read so far, together with what is still to come, is the stream; a full frame is
one of the two. -/
structure Reading (bytes : List UInt8) (ended : Bool) (c : AnchorCompletion) (channel : Channel) :
    Prop where
  stream : c.frame ++ channel.inbound = bytes
  last : channel.ended = ended
  fits : c.frame.length ≤ completionFrameLength
  classified : c.frame.length = completionFrameLength → c.terminalFrame.isSome
  named : ∀ frame, c.terminalFrame = some frame → c.frame = frame.bytes

/-- How a poll leaves the anchor: it goes on reading the stream, or it says what the stream says. -/
structure DecodesStream (bytes : List UInt8) (ended : Bool)
    (decoded : Option (Except CompletionError CompletionPoll) × AnchorCompletion × Channel) : Prop where
  verdict : decoded.1 = none ∨ decoded.1 = some (.ok .pending) ∨
    decoded.1 = completionVerdict bytes ended
  reading : (∀ error, decoded.1 ≠ some (.error error)) → Reading bytes ended decoded.2.1 decoded.2.2

section

variable {bytes : List UInt8} {ended : Bool} {c : AnchorCompletion} {channel : Channel}

-- the equations of the decoder, once for all of the proofs below
attribute [local simp] AnchorCompletion.decodeCompletionOnce

theorem Reading.decodes_going (h : Reading bytes ended c channel) :
    DecodesStream bytes ended (none, c, channel) :=
  ⟨.inl rfl, fun _ => h⟩

theorem Reading.decodes_pending (h : Reading bytes ended c channel) :
    DecodesStream bytes ended (some (.ok .pending), c, channel) :=
  ⟨.inr (.inl rfl), fun _ => h⟩

theorem decodesStream_error {error : CompletionError}
    (h : completionVerdict bytes ended = some (.error error)) :
    DecodesStream bytes ended (some (.error error), c, channel) :=
  ⟨.inr (.inr h.symm), fun sound => absurd rfl (sound error)⟩

/-- The end of the stream before the frame is full. -/
theorem Reading.missing (h : Reading bytes ended c channel) (none : channel.inbound = [])
    (over' : channel.ended = true) (short : c.frame.length < completionFrameLength) :
    completionVerdict bytes ended = some (.error .missingFrame) := by
  have frame : bytes = c.frame := by rw [← h.stream, none, List.append_nil]
  rw [completionVerdict, frame, if_pos short, ← h.last, over']
  rfl

/-- A full frame that is none of the two. -/
theorem completionVerdict_invalid {frame rest : List UInt8} (full : frame.length = completionFrameLength)
    (unnamed : CompletionTerminalFrame.ofBytes frame = none) :
    completionVerdict (frame ++ rest) ended = some (.error .invalidFrame) := by
  have long : ¬(frame ++ rest).length < completionFrameLength := by
    rw [List.length_append]
    omega
  rw [completionVerdict, if_neg long, ← full, List.take_left' rfl, unnamed]

/-- Something after a full frame. -/
theorem completionVerdict_trailing {frame : CompletionTerminalFrame} {rest : List UInt8}
    (more : rest ≠ []) : completionVerdict (frame.bytes ++ rest) ended = some (.error .trailingData) := by
  have full : frame.bytes.length = completionFrameLength := frame.bytes_length
  have length : (frame.bytes ++ rest).length = completionFrameLength + rest.length := by
    rw [List.length_append, full]
  have positive : 0 < rest.length := List.length_pos_iff.2 more
  have name : CompletionTerminalFrame.ofBytes ((frame.bytes ++ rest).take completionFrameLength) =
      some frame := by
    rw [← full, List.take_left' rfl]
    exact CompletionTerminalFrame.ofBytes_eq_some.2 rfl
  rw [completionVerdict, if_neg (by omega), name]
  exact if_pos (by omega)

theorem Reading.unnamed (h : Reading bytes ended c channel)
    (short : c.frame.length < completionFrameLength) : c.terminalFrame = none := by
  cases name : c.terminalFrame with
  | none => rfl
  | some frame =>
    rw [h.named frame name, frame.bytes_length] at short
    omega

/-- A piece of the stream that belongs to the frame. -/
theorem Reading.extend (h : Reading bytes ended c channel) {piece rest : List UInt8}
    (short : c.frame.length < completionFrameLength) (split : channel.inbound = piece ++ rest)
    (short' : (c.frame ++ piece).length < completionFrameLength) :
    Reading bytes ended { c with frame := c.frame ++ piece } { channel with inbound := rest } where
  stream := by
    rw [← h.stream, split]
    exact List.append_assoc _ _ _
  last := h.last
  fits := short'.le
  classified full := absurd full short'.ne
  named frame name := by cases (h.unnamed short).symm.trans name

/-- The piece of the stream that fills the frame. -/
theorem Reading.fill (h : Reading bytes ended c channel) {piece rest : List UInt8}
    (split : channel.inbound = piece ++ rest) {frame : CompletionTerminalFrame}
    (name : c.frame ++ piece = frame.bytes) :
    Reading bytes ended { c with frame := c.frame ++ piece, terminalFrame := some frame }
      { channel with inbound := rest } where
  stream := by
    rw [← h.stream, split]
    exact List.append_assoc _ _ _
  last := h.last
  fits := by
    show (c.frame ++ piece).length ≤ _
    rw [name, frame.bytes_length]
  classified _ := rfl
  named frame' name' := by
    obtain rfl := Option.some.inj name'
    exact name

/-- Whatever reads a poll is given, none of which fails, it reads on in the stream or says what the
stream says. -/
theorem Reading.decodeCompletionOnce (outcomes : List ReadOutcome) (sound : .failed ∉ outcomes)
    (h : Reading bytes ended c channel) :
    DecodesStream bytes ended (c.decodeCompletionOnce channel outcomes) := by
  induction outcomes generalizing c channel with
  | nil => exact h.decodes_going
  | cons outcome outcomes ih =>
    have later : .failed ∉ outcomes := fun mem => sound (List.mem_cons_of_mem _ mem)
    by_cases short : c.frame.length < completionFrameLength
    · rw [AnchorCompletion.decodeCompletionOnce, if_pos short]
      cases outcome with
      | failed => exact absurd List.mem_cons_self sound
      | interrupted => exact ih later h
      | wouldBlock => exact h.decodes_pending
      | ready more =>
        by_cases readable : channel.Readable
        · obtain ⟨piece, rest, hread, split, room, atEnd⟩ :=
            channel.read_ready (completionFrameLength - c.frame.length) more (by omega) readable
          rw [hread]
          cases piece with
          | nil =>
            obtain ⟨none, over'⟩ := atEnd rfl
            exact decodesStream_error (h.missing none over' short)
          | cons byte piece =>
            dsimp only
            by_cases short' : (c.frame ++ byte :: piece).length < completionFrameLength
            · rw [if_pos short']
              exact ih later (h.extend short split short')
            · rw [if_neg short', h.unnamed short, Option.none_or]
              have full : (c.frame ++ byte :: piece).length = completionFrameLength := by
                rw [List.length_append] at short' ⊢
                omega
              cases name : CompletionTerminalFrame.ofBytes (c.frame ++ byte :: piece) with
              | none =>
                have stream : (c.frame ++ byte :: piece) ++ rest = bytes := by
                  rw [← h.stream, split, List.append_assoc]
                exact decodesStream_error (stream ▸ completionVerdict_invalid full name)
              | some frame =>
                exact ih later (h.fill split (CompletionTerminalFrame.ofBytes_eq_some.1 name))
        · rw [Channel.read_blocked more readable]
          exact h.decodes_pending
    · have full : c.frame.length = completionFrameLength := le_antisymm h.fits (not_lt.1 short)
      obtain ⟨frame, name⟩ := Option.isSome_iff_exists.1 (h.classified full)
      have same : { c with terminalFrame := some frame } = c := by rw [← name]
      rw [AnchorCompletion.decodeCompletionOnce, if_neg short, name, Option.some_or]
      dsimp only
      rw [same]
      cases outcome with
      | failed => exact absurd List.mem_cons_self sound
      | interrupted => exact ih later h
      | wouldBlock => exact h.decodes_pending
      | ready more =>
        by_cases readable : channel.Readable
        · obtain ⟨piece, rest, hread, split, -, atEnd⟩ :=
            channel.read_ready 1 more Nat.one_pos readable
          rw [hread]
          have stream : frame.bytes ++ (piece ++ rest) = bytes := by
            rw [← h.named frame name, ← split, h.stream]
          cases piece with
          | nil =>
            obtain ⟨none, over'⟩ := atEnd rfl
            have empty : rest = [] := by rw [← none, split, List.nil_append]
            have verdict : completionVerdict bytes ended = some (.ok frame.poll) := by
              refine completionVerdict_eq_ok.2 ⟨frame, rfl, ?_, h.last ▸ over'⟩
              rw [← stream, empty, List.append_nil, List.append_nil]
            refine ⟨.inr (.inr verdict.symm), fun _ => ⟨?_, h.last, h.fits, h.classified, h.named⟩⟩
            show c.frame ++ rest = bytes
            rw [empty, ← none, h.stream]
          | cons byte piece =>
            refine decodesStream_error ?_
            rw [← stream]
            exact completionVerdict_trailing (List.cons_ne_nil _ _)
        · rw [Channel.read_blocked more readable]
          exact h.decodes_pending

/-- What was read stays read. -/
theorem length_frame_le_decodeCompletionOnce (c : AnchorCompletion) (channel : Channel)
    (outcomes : List ReadOutcome) :
    c.frame.length ≤ (c.decodeCompletionOnce channel outcomes).2.1.frame.length := by
  induction outcomes generalizing c channel with
  | nil => exact le_rfl
  | cons outcome outcomes ih =>
    rw [AnchorCompletion.decodeCompletionOnce]
    split
    · split
      · exact le_rfl
      · next byte piece channel' hread =>
        have grows : c.frame.length ≤ (c.frame ++ byte :: piece).length := by
          rw [List.length_append]
          omega
        dsimp only
        split
        · exact grows.trans (ih { c with frame := c.frame ++ byte :: piece } _)
        · split
          · exact grows
          · next frame _ =>
            exact grows.trans (ih
              { c with frame := c.frame ++ byte :: piece, terminalFrame := some frame } _)
      · exact ih _ _
      · exact le_rfl
      · exact le_rfl
    · split
      · exact le_rfl
      · next frame _ =>
        dsimp only
        split
        · exact le_rfl
        · exact le_rfl
        · exact ih { c with terminalFrame := some frame } _
        · exact le_rfl
        · exact le_rfl

/-- Decoding itself keeps no error. -/
theorem terminalError_decodeCompletionOnce (c : AnchorCompletion) (channel : Channel)
    (outcomes : List ReadOutcome) :
    (c.decodeCompletionOnce channel outcomes).2.1.terminalError = c.terminalError := by
  induction outcomes generalizing c channel with
  | nil => rfl
  | cons outcome outcomes ih =>
    rw [AnchorCompletion.decodeCompletionOnce]
    split
    · split
      · rfl
      · next byte piece channel' hread =>
        dsimp only
        split
        · exact ih { c with frame := c.frame ++ byte :: piece } _
        · split
          · rfl
          · next frame _ =>
            exact ih { c with frame := c.frame ++ byte :: piece, terminalFrame := some frame } _
      · exact ih _ _
      · rfl
      · rfl
    · split
      · rfl
      · next frame _ =>
        dsimp only
        split
        · rfl
        · rfl
        · exact ih { c with terminalFrame := some frame } _
        · rfl
        · rfl

/-- A poll that would block returns. -/
theorem decodeCompletionOnce_returns {outcomes : List ReadOutcome} (blocks : .wouldBlock ∈ outcomes) :
    (c.decodeCompletionOnce channel outcomes).1 ≠ none := by
  induction outcomes generalizing c channel with
  | nil => cases blocks
  | cons outcome outcomes ih =>
    by_cases now : outcome = .wouldBlock
    · subst now
      rw [AnchorCompletion.decodeCompletionOnce]
      simp only [Channel.read]
      split
      · simp
      · split <;> simp
    · have later : .wouldBlock ∈ outcomes :=
        (List.mem_cons.1 blocks).resolve_left fun same => now same.symm
      rw [AnchorCompletion.decodeCompletionOnce]
      split
      · split
        · simp
        · dsimp only
          split
          · exact ih later
          · split
            · simp
            · exact ih later
        · exact ih later
        · simp
        · simp
      · split
        · simp
        · dsimp only
          split
          · simp
          · simp
          · exact ih later
          · simp
          · simp

/-- The poll comes to a read that is ready before it would block. -/
def Productive (outcomes : List ReadOutcome) : Bool :=
  match outcomes.dropWhile (· = .interrupted) with
  | .ready _ :: _ => true
  | _ => false

/-- A poll that reads something of a stream that ends grows the frame, or says what the stream says. -/
theorem Reading.progress (h : Reading bytes ended c channel) (readable : channel.ended = true)
    {outcomes : List ReadOutcome} (productive : Productive outcomes = true)
    (undecided : (c.decodeCompletionOnce channel outcomes).1 = none ∨
      (c.decodeCompletionOnce channel outcomes).1 = some (.ok .pending)) :
    c.frame.length < (c.decodeCompletionOnce channel outcomes).2.1.frame.length := by
  induction outcomes with
  | nil => cases productive
  | cons outcome outcomes ih =>
    by_cases short : c.frame.length < completionFrameLength
    · rw [AnchorCompletion.decodeCompletionOnce, if_pos short] at undecided ⊢
      cases outcome with
      | failed | wouldBlock => cases productive
      | interrupted => exact ih productive undecided
      | ready more =>
        obtain ⟨piece, rest, hread, -⟩ := channel.read_ready
          (completionFrameLength - c.frame.length) more (by omega) (.inr readable)
        rw [hread] at undecided ⊢
        cases piece with
        | nil => simp at undecided
        | cons byte piece =>
          have grows : c.frame.length < (c.frame ++ byte :: piece).length := by
            rw [List.length_append, List.length_cons]
            omega
          dsimp only at undecided ⊢
          split
          · exact grows.trans_le (length_frame_le_decodeCompletionOnce
              { c with frame := c.frame ++ byte :: piece } _ outcomes)
          · split
            · exact grows
            · next frame _ =>
              exact grows.trans_le (length_frame_le_decodeCompletionOnce
                { c with frame := c.frame ++ byte :: piece, terminalFrame := some frame } _ outcomes)
    · have full : c.frame.length = completionFrameLength := le_antisymm h.fits (not_lt.1 short)
      obtain ⟨frame, name⟩ := Option.isSome_iff_exists.1 (h.classified full)
      have same : { c with terminalFrame := some frame } = c := by rw [← name]
      rw [AnchorCompletion.decodeCompletionOnce, if_neg short, name, Option.some_or] at undecided ⊢
      dsimp only at undecided ⊢
      rw [same] at undecided ⊢
      cases outcome with
      | failed | wouldBlock => cases productive
      | interrupted => exact ih productive undecided
      | ready more =>
        obtain ⟨piece, rest, hread, -⟩ :=
          channel.read_ready 1 more Nat.one_pos (.inr readable)
        rw [hread] at undecided
        cases piece with
        | nil => cases frame <;> simp [CompletionTerminalFrame.poll] at undecided
        | cons byte piece => simp at undecided

end

/-! ## Repeated polls -/

/-- The calls of a poll: the look at the identity of the endpoint, and its reads. -/
structure CompletionCalls where
  identity : Bool
  reads : List ReadOutcome
deriving DecidableEq, Repr

/-- No call fails. -/
def CompletionCalls.Sound (calls : CompletionCalls) : Prop :=
  calls.identity = true ∧ .failed ∉ calls.reads

abbrev CompletionStep : Type :=
  Step (AnchorCompletion × Channel) CompletionCalls (Option (Except CompletionError CompletionPoll))

def pollCompletion (s : AnchorCompletion × Channel) (calls : CompletionCalls) :
    Option (Except CompletionError CompletionPoll) × AnchorCompletion × Channel :=
  s.1.pollOnce s.2 calls.identity calls.reads

/-- The polls of a new anchor, whose peer sends these bytes and then closes or does not. -/
def completionPolls (bytes : List UInt8) (ended : Bool) (polls : List CompletionCalls) :
    List CompletionStep :=
  history pollCompletion (.adopt, ⟨bytes, ended, [], false⟩) polls

/-- The anchor reads on, or it has failed as the stream does. -/
def Polled (bytes : List UInt8) (ended : Bool) (s : AnchorCompletion × Channel) : Prop :=
  (s.1.terminalError = none ∧ Reading bytes ended s.1 s.2) ∨
    ∃ error, s.1.terminalError = some error ∧ completionVerdict bytes ended = some (.error error)

section

variable {bytes : List UInt8} {ended : Bool} {s : AnchorCompletion × Channel} {calls : CompletionCalls}

theorem Polled.start : Polled bytes ended (.adopt, ⟨bytes, ended, [], false⟩) :=
  .inl ⟨rfl, rfl, rfl, Nat.zero_le _, fun full => (by cases full), fun _ name => (by cases name)⟩

theorem pollCompletion_failed {error : CompletionError} (h : s.1.terminalError = some error) :
    pollCompletion s calls = (some (.error error), s) := by
  rw [pollCompletion, AnchorCompletion.pollOnce, h]

theorem pollCompletion_reading (h : s.1.terminalError = none) (identity : calls.identity = true) :
    pollCompletion s calls =
      ((s.1.decodeCompletionOnce s.2 calls.reads).1,
        AnchorCompletion.finishPoll (s.1.decodeCompletionOnce s.2 calls.reads).1
          (s.1.decodeCompletionOnce s.2 calls.reads).2.1,
        (s.1.decodeCompletionOnce s.2 calls.reads).2.2) := by
  rw [pollCompletion, AnchorCompletion.pollOnce, h]
  dsimp only
  rw [if_pos identity]

/-- What a poll returns, and that it keeps what is known. -/
theorem Polled.step (h : Polled bytes ended s) (sound : calls.Sound) :
    Polled bytes ended (pollCompletion s calls).2 ∧
      ((pollCompletion s calls).1 = none ∨ (pollCompletion s calls).1 = some (.ok .pending) ∨
        (pollCompletion s calls).1 = completionVerdict bytes ended) := by
  rcases h with ⟨going, reading⟩ | ⟨error, failed, verdict⟩
  · have decodes := reading.decodeCompletionOnce calls.reads sound.2
    have unfailed := (terminalError_decodeCompletionOnce _ s.2 calls.reads).trans going
    rw [pollCompletion_reading going sound.1]
    refine ⟨?_, decodes.verdict⟩
    cases result : (s.1.decodeCompletionOnce s.2 calls.reads).1 with
    | none => exact .inl ⟨unfailed, decodes.reading fun _ h => by cases result.symm.trans h⟩
    | some returned =>
      cases returned with
      | ok poll => exact .inl ⟨unfailed, decodes.reading fun _ h => by cases result.symm.trans h⟩
      | error error =>
        refine .inr ⟨error, rfl, ?_⟩
        rcases decodes.verdict with h | h | h
        · cases result.symm.trans h
        · cases result.symm.trans h
        · exact h.symm.trans result
  · rw [pollCompletion_failed failed]
    exact ⟨.inr ⟨error, failed, verdict⟩, .inr (.inr verdict.symm)⟩

theorem pollCompletion_error {error : CompletionError}
    (h : (pollCompletion s calls).1 = some (.error error)) :
    (pollCompletion s calls).2.1.terminalError = some error := by
  unfold pollCompletion AnchorCompletion.pollOnce at h ⊢
  cases failed : s.1.terminalError with
  | some error' =>
    simp only [failed, Option.some.injEq, Except.error.injEq] at h
    rw [← h]
    exact failed
  | none =>
    simp only [failed] at h ⊢
    rw [h]
    rfl

theorem history_failed {error : CompletionError} (polls : List CompletionCalls)
    (h : s.1.terminalError = some error) :
    ∀ step ∈ history pollCompletion s polls, step.output = some (.error error) := by
  induction polls with
  | nil => exact fun _ mem => by cases mem
  | cons calls polls ih =>
    intro step mem
    rw [history, stepAt, pollCompletion_failed h] at mem
    rcases List.mem_cons.1 mem with rfl | mem
    · rfl
    · exact ih step mem

/-- The first error is final, whatever calls fail. -/
theorem completionPolls_sticky {polls : List CompletionCalls} {past later : List CompletionStep}
    {step : CompletionStep} {error : CompletionError}
    (split : completionPolls bytes ended polls = past ++ step :: later)
    (failed : step.output = some (.error error)) :
    ∀ after ∈ later, after.output = some (.error error) := by
  obtain ⟨earlier, calls, rest, -, -, rfl, rfl⟩ := history_split split
  exact history_failed rest (pollCompletion_error failed)

/-- A poll that would block returns. -/
theorem completionPolls_returns {polls : List CompletionCalls} {step : CompletionStep}
    (mem : step ∈ completionPolls bytes ended polls) (sound : step.input.Sound)
    (blocks : .wouldBlock ∈ step.input.reads) : step.output ≠ none := by
  obtain ⟨past, later, split⟩ := List.append_of_mem mem
  obtain ⟨earlier, calls, rest, -, -, rfl, -⟩ := history_split split
  show (pollCompletion _ calls).1 ≠ none
  generalize final pollCompletion _ earlier = s
  cases failed : s.1.terminalError with
  | some error =>
    rw [pollCompletion_failed failed]
    simp
  | none =>
    have identity : calls.identity = true := sound.1
    rw [pollCompletion_reading failed identity]
    exact decodeCompletionOnce_returns blocks

/-- A poll returned something final. -/
def Decided (output : Option (Except CompletionError CompletionPoll)) : Prop :=
  output ≠ none ∧ output ≠ some (.ok .pending)

/-- What is known after some polls of a stream: what they returned, and that each productive one added to
the frame as long as nothing final was returned. -/
structure PolledPast (bytes : List UInt8) (ended : Bool) (past : List CompletionStep)
    (s : AnchorCompletion × Channel) : Prop where
  polled : Polled bytes ended s
  outputs : ∀ step ∈ past, step.output = none ∨ step.output = some (.ok .pending) ∨
    step.output = completionVerdict bytes ended
  progress : ended = true → (∀ step ∈ past, ¬Decided step.output) →
    s.1.terminalError = none ∧
      (past.countP fun step => Productive step.input.reads) ≤ s.1.frame.length

theorem PolledPast.start : PolledPast bytes ended [] (.adopt, ⟨bytes, ended, [], false⟩) where
  polled := .start
  outputs _ mem := by cases mem
  progress _ _ := ⟨rfl, Nat.zero_le _⟩

theorem PolledPast.step {past : List CompletionStep} (h : PolledPast bytes ended past s)
    (sound : calls.Sound) :
    PolledPast bytes ended (past ++ [stepAt pollCompletion s calls]) (pollCompletion s calls).2 where
  polled := (h.polled.step sound).1
  outputs step mem := by
    rcases List.mem_append.1 mem with mem | mem
    · exact h.outputs step mem
    · obtain rfl := List.mem_singleton.1 mem
      exact (h.polled.step sound).2
  progress ends undecided := by
    obtain ⟨going, count⟩ := h.progress ends fun step mem => undecided step (List.mem_append_left _ mem)
    have now : ¬Decided (pollCompletion s calls).1 :=
      undecided _ (List.mem_append_right _ (List.mem_singleton_self _))
    have reading : Reading bytes ended s.1 s.2 := by
      rcases h.polled with ⟨-, reading⟩ | ⟨error, failed, -⟩
      · exact reading
      · cases going.symm.trans failed
    rw [pollCompletion_reading going sound.1] at now ⊢
    have open' : (s.1.decodeCompletionOnce s.2 calls.reads).1 = none ∨
        (s.1.decodeCompletionOnce s.2 calls.reads).1 = some (.ok .pending) := by
      by_contra final
      exact now (not_or.1 final)
    have same : AnchorCompletion.finishPoll (s.1.decodeCompletionOnce s.2 calls.reads).1
        (s.1.decodeCompletionOnce s.2 calls.reads).2.1 = (s.1.decodeCompletionOnce s.2 calls.reads).2.1 := by
      rcases open' with result | result <;> rw [result] <;> rfl
    refine ⟨?_, ?_⟩
    · show (AnchorCompletion.finishPoll _ _).terminalError = none
      rw [same, terminalError_decodeCompletionOnce, going]
    · show _ ≤ (AnchorCompletion.finishPoll _ _).frame.length
      rw [same, List.countP_append, List.countP_singleton]
      by_cases productive : Productive (stepAt pollCompletion s calls).input.reads = true
      · have grows : s.1.frame.length <
            (s.1.decodeCompletionOnce s.2 calls.reads).2.1.frame.length :=
          reading.progress (reading.last.trans ends) productive open'
        rw [if_pos productive]
        omega
      · have grows := length_frame_le_decodeCompletionOnce s.1 s.2 calls.reads
        rw [if_neg productive]
        omega

theorem polledPast_of_sound {polls : List CompletionCalls} (sound : ∀ calls ∈ polls, calls.Sound) :
    PolledPast bytes ended (completionPolls bytes ended polls)
      (final pollCompletion (.adopt, ⟨bytes, ended, [], false⟩) polls) :=
  history_invariant PolledPast.start (fun _ _ _ past sound => past.step sound) polls
    fun _ mem => sound _ (input_mem_of_mem_history mem)

/-- Of a stream that ends, eight polls can read something without returning what is final. -/
theorem completionPolls_settles (bytes : List UInt8) {polls : List CompletionCalls} (sound : ∀ calls ∈ polls, calls.Sound)
    (enough : completionFrameLength < polls.countP fun calls => Productive calls.reads) :
    ∃ step ∈ completionPolls bytes true polls, Decided step.output := by
  by_contra undecided
  have past : PolledPast bytes true _ _ := polledPast_of_sound sound
  obtain ⟨going, count⟩ := past.progress rfl fun step mem final => undecided ⟨step, mem, final⟩
  have fits : (final pollCompletion (.adopt, ⟨bytes, true, [], false⟩) polls).1.frame.length ≤
      completionFrameLength := by
    rcases past.polled with ⟨-, reading⟩ | ⟨error, failed, -⟩
    · exact reading.fits
    · cases going.symm.trans failed
  have counted : ((completionPolls bytes true polls).countP fun step => Productive step.input.reads) =
      polls.countP fun calls => Productive calls.reads := by
    have inputs : (completionPolls bytes true polls).map Step.input = polls := map_input_history polls
    conv_rhs => rw [← inputs]
    rw [List.countP_map]
    rfl
  omega

/-- A poll of the run returned this. -/
def Returned (steps : List CompletionStep) (result : Except CompletionError CompletionPoll) : Prop :=
  ∃ step ∈ steps, step.output = some result

/-- What repeated polls say about a stream. -/
structure CompletionExact (bytes : List UInt8) (polls : List CompletionCalls) : Prop where
  /-- A frame is accepted at the end of the stream only, and alone. -/
  accepted : ∀ ended frame, Returned (completionPolls bytes ended polls) (.ok frame.poll) →
    bytes = CompletionTerminalFrame.bytes frame ∧ ended = true
  /-- A frame fails in no way. -/
  refused : ∀ ended error, Returned (completionPolls bytes ended polls) (.error error) →
    ∀ frame, bytes ≠ CompletionTerminalFrame.bytes frame
  /-- Without the end of the stream, a frame is not enough. -/
  pending : ∀ frame, bytes = CompletionTerminalFrame.bytes frame →
    ∀ step ∈ completionPolls bytes false polls, step.output = none ∨ step.output = some (.ok .pending)
  /-- Enough polls of a stream that ended return a frame, or fail. -/
  settled : completionFrameLength < (polls.countP fun calls => Productive calls.reads) →
    (∀ frame, bytes = CompletionTerminalFrame.bytes frame →
      Returned (completionPolls bytes true polls) (.ok frame.poll)) ∧
    ((∀ frame, bytes ≠ CompletionTerminalFrame.bytes frame) →
      ∃ error, Returned (completionPolls bytes true polls) (.error error))
  /-- A poll that would block returns. -/
  returns : ∀ ended, ∀ step ∈ completionPolls bytes ended polls,
    .wouldBlock ∈ step.input.reads → step.output ≠ none

theorem returned_eq_verdict {polls : List CompletionCalls} (sound : ∀ calls ∈ polls, calls.Sound)
    {result : Except CompletionError CompletionPoll} (final : result ≠ .ok .pending)
    (h : Returned (completionPolls bytes ended polls) result) :
    completionVerdict bytes ended = some result := by
  obtain ⟨step, mem, returned⟩ := h
  rcases (polledPast_of_sound sound).outputs step mem with h | h | h
  · cases returned.symm.trans h
  · exact absurd (Option.some.inj (returned.symm.trans h)) final
  · exact h.symm.trans returned

theorem CompletionTerminalFrame.poll_ne_pending (frame : CompletionTerminalFrame) :
    (.ok frame.poll : Except CompletionError CompletionPoll) ≠ .ok .pending := by
  cases frame <;> simp [poll]

theorem completionExact (polls : List CompletionCalls) (sound : ∀ calls ∈ polls, calls.Sound) :
    CompletionExact bytes polls where
  accepted ended frame h := by
    obtain ⟨frame', same, hbytes, ends⟩ :=
      completionVerdict_eq_ok.1 (returned_eq_verdict sound frame.poll_ne_pending h)
    obtain rfl := CompletionTerminalFrame.poll_inj same
    exact ⟨hbytes, ends⟩
  refused ended error h := by
    rintro frame rfl
    have verdict := returned_eq_verdict sound (by simp) h
    cases ended with
    | true => cases verdict.symm.trans (completionVerdict_eq_ok.2 ⟨frame, rfl, rfl, rfl⟩)
    | false => cases verdict.symm.trans (completionVerdict_frame frame)
  pending frame := by
    rintro rfl step mem
    rcases (polledPast_of_sound sound).outputs step mem with h | h | h
    · exact .inl h
    · exact .inr h
    · exact .inl (h.trans (completionVerdict_frame frame))
  settled enough := by
    obtain ⟨step, mem, returned, final⟩ := completionPolls_settles bytes sound enough
    obtain ⟨result, hresult⟩ := Option.ne_none_iff_exists'.1 returned
    have verdict : completionVerdict bytes true = some result := by
      refine returned_eq_verdict sound (fun same => final ?_) ⟨step, mem, hresult⟩
      rw [hresult, same]
    refine ⟨fun frame same => ?_, fun other => ?_⟩
    · have accepted := completionVerdict_eq_ok.2 ⟨frame, rfl, same, rfl⟩
      obtain rfl := Option.some.inj (verdict.symm.trans accepted)
      exact ⟨step, mem, hresult⟩
    · cases result with
      | ok poll =>
        obtain ⟨frame, -, same, -⟩ := completionVerdict_eq_ok.1 verdict
        exact absurd same (other frame)
      | error error => exact ⟨error, step, mem, hresult⟩
  returns ended step mem blocks :=
    completionPolls_returns mem (sound _ (input_mem_of_mem_history mem)) blocks

end

/-! ## The recovery request -/

/-- A call on the anchor's end of the edge. -/
inductive EdgeCall where
  | poll (calls : CompletionCalls)
  | requestRecovery (attempt : RecoveryAttempt)

inductive EdgeReply where
  | polled (result : Option (Except CompletionError CompletionPoll))
  | requested (result : Option (Except CompletionError Unit))

def callAnchor (s : RecoveryAnchor × Channel) : EdgeCall → EdgeReply × RecoveryAnchor × Channel
  | .poll calls =>
    let (result, s) := s.1.pollOnce s.2 calls.identity calls.reads
    (.polled result, s)
  | .requestRecovery attempt =>
    let (result, s) := s.1.requestRecovery s.2 attempt
    (.requested result, s)

/-- What is known of an anchor: what it wrote is the start of one request, written before any byte of
the completion was read. -/
structure Requested (bytes : List UInt8) (peer : DescriptorIdentity) (s : RecoveryAnchor × Channel) :
    Prop where
  identity : s.1.peerIdentity = peer
  unread : s.1.frame = [] → s.2.inbound = bytes
  sent : s.2.outbound <+: encodeRecoveryRequestFrame peer
  first : s.1.recoveryRequestConsumed = false → s.2.outbound = []

section

variable {bytes : List UInt8} {peer : DescriptorIdentity} {s : RecoveryAnchor × Channel}

theorem outbound_read (channel : Channel) (limit : ℕ) (outcome : ReadOutcome) :
    (channel.read limit outcome).2.outbound = channel.outbound := by
  cases outcome with
  | ready more =>
    rw [Channel.read]
    split <;> rfl
  | interrupted | wouldBlock | failed => rfl

/-- Decoding writes nothing. -/
theorem outbound_decodeCompletionOnce {c : AnchorCompletion} {channel : Channel}
    (outcomes : List ReadOutcome) :
    (c.decodeCompletionOnce channel outcomes).2.2.outbound = channel.outbound := by
  induction outcomes generalizing c channel with
  | nil => rfl
  | cons outcome outcomes ih =>
    rw [AnchorCompletion.decodeCompletionOnce]
    split
    · have same := outbound_read channel (completionFrameLength - c.frame.length) outcome
      split
      · next hread => rwa [hread] at same
      · next hread =>
        rw [hread] at same
        dsimp only
        split
        · exact ih.trans same
        · split
          · exact same
          · exact ih.trans same
      · next hread => exact ih.trans (by rwa [hread] at same)
      · next hread => rwa [hread] at same
      · next hread => rwa [hread] at same
    · have same := outbound_read channel 1 outcome
      split
      · rfl
      · dsimp only
        split
        · next hread => rwa [hread] at same
        · next hread => rwa [hread] at same
        · next hread => exact ih.trans (by rwa [hread] at same)
        · next hread => rwa [hread] at same
        · next hread => rwa [hread] at same

/-- As long as the frame is empty, nothing was read. -/
theorem inbound_decodeCompletionOnce {c : AnchorCompletion} {channel : Channel}
    (outcomes : List ReadOutcome)
    (unread : (c.decodeCompletionOnce channel outcomes).2.1.frame = []) :
    c.frame = [] ∧ (c.decodeCompletionOnce channel outcomes).2.2.inbound = channel.inbound := by
  have empty : c.frame = [] := by
    have grows := length_frame_le_decodeCompletionOnce c channel outcomes
    rw [unread] at grows
    exact List.length_eq_zero_iff.1 (Nat.le_zero.1 grows)
  refine ⟨empty, ?_⟩
  induction outcomes with
  | nil => rfl
  | cons outcome outcomes ih =>
    have short : c.frame.length < completionFrameLength := by
      rw [empty]
      exact Nat.succ_pos _
    rw [AnchorCompletion.decodeCompletionOnce, if_pos short] at unread ⊢
    cases outcome with
    | interrupted => exact ih unread
    | wouldBlock | failed => rfl
    | ready more =>
      by_cases readable : channel.Readable
      · obtain ⟨piece, rest, hread, split, -⟩ := channel.read_ready
          (completionFrameLength - c.frame.length) more (by omega) readable
        rw [hread] at unread ⊢
        cases piece with
        | nil => exact split.symm
        | cons byte piece =>
          have grown : ∀ f, 0 < (AnchorCompletion.decodeCompletionOnce
              { c with frame := c.frame ++ byte :: piece, terminalFrame := f }
              { channel with inbound := rest } outcomes).2.1.frame.length := by
            intro f
            refine lt_of_lt_of_le ?_ (length_frame_le_decodeCompletionOnce _ _ outcomes)
            show 0 < (c.frame ++ byte :: piece).length
            simp
          exfalso
          dsimp only at unread
          split at unread
          · exact (grown c.terminalFrame).ne' (by rw [unread]; rfl)
          · split at unread
            · simp at unread
            · next frame _ => exact (grown (some frame)).ne' (by rw [unread]; rfl)
      · rw [Channel.read_blocked more readable]

theorem pollOnce_frame (a : RecoveryAnchor) (channel : Channel) (identity : Bool)
    (outcomes : List ReadOutcome) :
    (a.pollOnce channel identity outcomes).2.1.peerIdentity = a.peerIdentity ∧
      (a.pollOnce channel identity outcomes).2.1.recoveryRequestConsumed = a.recoveryRequestConsumed ∧
      (a.pollOnce channel identity outcomes).2.2.outbound = channel.outbound ∧
      ((a.pollOnce channel identity outcomes).2.1.frame = [] →
        a.frame = [] ∧ (a.pollOnce channel identity outcomes).2.2.inbound = channel.inbound) := by
  refine ⟨rfl, rfl, ?_⟩
  unfold RecoveryAnchor.pollOnce AnchorCompletion.pollOnce
  cases a.terminalError with
  | some error => exact ⟨rfl, fun unread => ⟨unread, rfl⟩⟩
  | none =>
    cases identity with
    | false => exact ⟨rfl, fun unread => ⟨unread, rfl⟩⟩
    | true =>
      have frame : ∀ result (c : AnchorCompletion), (AnchorCompletion.finishPoll result c).frame = c.frame := by
        intro result c
        unfold AnchorCompletion.finishPoll
        split <;> rfl
      dsimp only
      rw [if_pos rfl, frame]
      exact ⟨outbound_decodeCompletionOnce outcomes, inbound_decodeCompletionOnce outcomes⟩

/-- A write loop that stopped with nothing more written. -/
theorem sent_nothing {request : List UInt8} {channel : Channel}
    {result : Option (Except CompletionError Unit)} (stopped : result ≠ some (.ok ())) :
    ∃ written, written <+: request ∧
      ((result, channel).2 : Channel) = { channel with outbound := channel.outbound ++ written } ∧
      (result = some (.ok ()) → written = request) := by
  refine ⟨[], List.nil_prefix, ?_, fun ok => absurd ok stopped⟩
  rw [List.append_nil]

/-- What a write loop adds is the start of what it was to write. -/
theorem writeRequest_sent (calls : List WriteCall) (request : List UInt8) (channel : Channel) :
    ∃ written, written <+: request ∧
      (writeRequest calls request channel).2 =
        { channel with outbound := channel.outbound ++ written } ∧
      ((writeRequest calls request channel).1 = some (.ok ()) → written = request) := by
  induction calls generalizing request channel with
  | nil =>
    by_cases empty : request = []
    · refine ⟨[], List.nil_prefix, ?_, fun _ => empty.symm⟩
      rw [List.append_nil, writeRequest]
    · rw [writeRequest, if_neg empty]
      exact sent_nothing (by simp)
  | cons call calls ih =>
    rw [writeRequest]
    by_cases empty : request = []
    · rw [if_pos empty]
      refine ⟨[], List.nil_prefix, ?_, fun _ => empty.symm⟩
      rw [List.append_nil]
    rw [if_neg empty]
    by_cases late : call.late = true
    · rw [if_pos late]
      exact sent_nothing (by simp)
    rw [if_neg late]
    split
    · exact sent_nothing (by simp)
    · next more _ =>
      obtain ⟨written, before, sent, all⟩ := ih (request.drop (more + 1))
        { channel with outbound := channel.outbound ++ request.take (more + 1) }
      refine ⟨request.take (more + 1) ++ written, ?_, ?_, fun ok => ?_⟩
      · conv_rhs => rw [← List.take_append_drop (more + 1) request]
        exact (List.prefix_append_right_inj _).2 before
      · rw [sent, List.append_assoc]
      · rw [all ok, List.take_append_drop]
    · exact ih request channel
    · split
      · exact sent_nothing (by simp)
      · exact sent_nothing (by simp)
      · exact sent_nothing (by simp)
      · split
        · exact ih request channel
        · exact sent_nothing (by simp)
    · exact sent_nothing (by simp)

/-- An attempt that may go on to write found the completion unread. -/
theorem prepareRecoveryAttempt_frame (a : RecoveryAnchor) (channel : Channel)
    (attempt : RecoveryAttempt) :
    (a.prepareRecoveryAttempt channel attempt).2.1.peerIdentity = a.peerIdentity ∧
      (a.prepareRecoveryAttempt channel attempt).2.1.recoveryRequestConsumed =
        a.recoveryRequestConsumed ∧
      (a.prepareRecoveryAttempt channel attempt).2.2.outbound = channel.outbound ∧
      ((a.prepareRecoveryAttempt channel attempt).2.1.frame = [] →
        a.frame = [] ∧ (a.prepareRecoveryAttempt channel attempt).2.2.inbound = channel.inbound) ∧
      ((a.prepareRecoveryAttempt channel attempt).1 = some (.ok ()) →
        (a.prepareRecoveryAttempt channel attempt).2.1.frame = []) := by
  unfold RecoveryAnchor.prepareRecoveryAttempt
  cases a.terminalError with
  | some error => exact ⟨rfl, rfl, rfl, fun unread => ⟨unread, rfl⟩, fun ok => by cases ok⟩
  | none =>
    dsimp only
    by_cases begun : a.begun = true
    · rw [if_pos begun]
      exact ⟨rfl, rfl, rfl, fun unread => ⟨unread, rfl⟩, fun ok => by cases ok⟩
    rw [if_neg begun]
    obtain ⟨identity, consumed, outbound, inbound⟩ := pollOnce_frame a channel attempt.identity attempt.reads
    generalize a.pollOnce channel attempt.identity attempt.reads = polled at *
    obtain ⟨result, a', channel'⟩ := polled
    dsimp only at *
    split
    · exact ⟨identity, consumed, outbound, inbound, fun ok => by cases ok⟩
    · exact ⟨identity, consumed, outbound, inbound, fun ok => by cases ok⟩
    · exact ⟨identity, consumed, outbound, inbound, fun ok => by cases ok⟩
    · refine ⟨identity, consumed, outbound, inbound, fun ok => ?_⟩
      by_cases begun' : a'.begun = true
      · simp [begun'] at ok
      · simp [RecoveryAnchor.begun] at begun'
        exact begun'.1
    · exact ⟨identity, consumed, outbound, inbound, fun ok => by cases ok⟩

/-- What an attempt that was begun does to the anchor and the channel. -/
structure Attempted (a : RecoveryAnchor) (channel : Channel)
    (attempted : Option (Except CompletionError Unit) × RecoveryAnchor × Channel) : Prop where
  identity : attempted.2.1.peerIdentity = a.peerIdentity
  consumed : attempted.2.1.recoveryRequestConsumed = a.recoveryRequestConsumed
  unread : attempted.2.1.frame = [] → a.frame = [] ∧ attempted.2.2.inbound = channel.inbound
  sent : ∃ written, written <+: encodeRecoveryRequestFrame a.peerIdentity ∧
    attempted.2.2.outbound = channel.outbound ++ written ∧
    (written ≠ [] → attempted.2.1.frame = []) ∧
    (attempted.1 = some (.ok ()) → written = encodeRecoveryRequestFrame a.peerIdentity)

theorem requestRecoveryBefore_attempted (a : RecoveryAnchor) (channel : Channel)
    (attempt : RecoveryAttempt) : Attempted a channel (a.requestRecoveryBefore channel attempt) := by
  unfold RecoveryAnchor.requestRecoveryBefore
  obtain ⟨identity, consumed, outbound, inbound, unread⟩ := prepareRecoveryAttempt_frame a channel attempt
  generalize a.prepareRecoveryAttempt channel attempt = prepared at *
  obtain ⟨result, a', channel'⟩ := prepared
  dsimp only at identity consumed outbound inbound unread ⊢
  split
  · next same =>
    cases same
    obtain ⟨written, before, sent, all⟩ := writeRequest_sent attempt.writes
      (encodeRecoveryRequestFrame a'.peerIdentity) channel'
    rw [identity] at before sent all ⊢
    generalize writeRequest attempt.writes (encodeRecoveryRequestFrame a.peerIdentity) channel' =
      wrote at sent all ⊢
    obtain ⟨result, channel''⟩ := wrote
    dsimp only at sent all ⊢
    have outbound' : channel''.outbound = channel.outbound ++ written := by rw [sent, ← outbound]
    have inbound' : channel''.inbound = channel'.inbound := by rw [sent]
    split
    · next same =>
      cases same
      refine ⟨identity, consumed, fun empty => ⟨(inbound empty).1, inbound'.trans (inbound empty).2⟩,
        written, before, outbound', fun _ => unread rfl, fun _ => all rfl⟩
    · next unfinished same =>
      cases same
      refine ⟨identity, consumed, fun empty => ⟨(inbound empty).1, inbound'.trans (inbound empty).2⟩,
        written, before, outbound', fun _ => unread rfl, all⟩
  · next stopped =>
    refine ⟨identity, consumed, inbound, [], List.nil_prefix, ?_, fun some => absurd rfl some,
      fun ok => ?_⟩
    · rw [outbound, List.append_nil]
    · cases ok
      exact absurd rfl (stopped a' channel')

theorem attempted_failed (a : RecoveryAnchor) (channel : Channel) (error : CompletionError) :
    Attempted a channel (some (.error error), a, channel) := by
  refine ⟨rfl, rfl, fun unread => ⟨unread, rfl⟩, [], List.nil_prefix, ?_, fun some => absurd rfl some,
    fun ok => by cases ok⟩
  rw [List.append_nil]

theorem Attempted.shut {result : Option (Except CompletionError Unit)} {a a' : RecoveryAnchor}
    {channel channel' : Channel} (h : Attempted a channel (result, a', channel')) (closed : Bool) :
    Attempted a channel (result, a', { channel' with closed := closed }) :=
  ⟨h.identity, h.consumed, h.unread, h.sent⟩

theorem requestRecovery_cases (a : RecoveryAnchor) (channel : Channel) (attempt : RecoveryAttempt) :
    (a.recoveryRequestConsumed = true ∧ Attempted a channel (a.requestRecovery channel attempt) ∧
        (a.requestRecovery channel attempt).2.2.outbound = channel.outbound ∧
        (a.requestRecovery channel attempt).1 ≠ some (.ok ())) ∨
      (a.recoveryRequestConsumed = false ∧ Attempted { a with recoveryRequestConsumed := true } channel
        (a.requestRecovery channel attempt)) := by
  unfold RecoveryAnchor.requestRecovery RecoveryAnchor.beginRecoveryAttempt
  by_cases consumed : a.recoveryRequestConsumed = true
  · rw [if_pos consumed]
    exact .inl ⟨consumed, (attempted_failed a channel _).shut _, rfl, by simp⟩
  · rw [if_neg consumed]
    refine .inr ⟨by simpa using consumed, ?_⟩
    cases a.terminalError with
    | some error => exact (attempted_failed _ channel error).shut _
    | none =>
      have attempted := requestRecoveryBefore_attempted { a with recoveryRequestConsumed := true }
        channel attempt
      dsimp only
      generalize RecoveryAnchor.requestRecoveryBefore _ channel attempt = finished at attempted ⊢
      obtain ⟨_ | error | _, a', channel'⟩ := finished
      · exact attempted
      · exact attempted.shut _
      · exact attempted

/-- Every call of the anchor keeps what is known, and what it writes, it writes first and before anything
was read. -/
theorem Requested.call (h : Requested bytes peer s) (c : EdgeCall) :
    Requested bytes peer (callAnchor s c).2 ∧
      ((callAnchor s c).2.2.outbound ≠ s.2.outbound →
        s.2.outbound = [] ∧ (callAnchor s c).2.2.inbound = bytes) ∧
      ((callAnchor s c).1 = .requested (some (.ok ())) →
        (callAnchor s c).2.2.outbound = encodeRecoveryRequestFrame peer) := by
  cases c with
  | poll calls =>
    obtain ⟨identity, consumed, outbound, inbound⟩ := pollOnce_frame s.1 s.2 calls.identity calls.reads
    refine ⟨⟨identity.trans h.identity, fun unread => ?_, ?_, fun first => ?_⟩, fun wrote => ?_, fun ok => ?_⟩
    · exact (inbound unread).2.trans (h.unread (inbound unread).1)
    · exact outbound.symm ▸ h.sent
    · exact outbound.trans (h.first (consumed.symm.trans first))
    · exact absurd outbound wrote
    · cases ok
  | requestRecovery attempt =>
    show Requested bytes peer (s.1.requestRecovery s.2 attempt).2 ∧ _
    rcases requestRecovery_cases s.1 s.2 attempt with
      ⟨consumed, attempted, outbound, failed⟩ | ⟨first, attempted⟩
    · refine ⟨⟨attempted.identity.trans h.identity, fun unread => ?_, ?_, fun unconsumed => ?_⟩,
        fun wrote => absurd outbound wrote, fun ok => absurd (EdgeReply.requested.inj ok) failed⟩
      · exact (attempted.unread unread).2.trans (h.unread (attempted.unread unread).1)
      · exact outbound.symm ▸ h.sent
      · cases (attempted.consumed.trans consumed).symm.trans unconsumed
    · have silent : s.2.outbound = [] := h.first first
      have unread := fun empty =>
        (attempted.unread empty).2.trans (h.unread (attempted.unread empty).1)
      obtain ⟨written, before, outbound, early, all⟩ := attempted.sent
      rw [silent, List.nil_append] at outbound
      have same : encodeRecoveryRequestFrame { s.1 with recoveryRequestConsumed := true }.peerIdentity =
          encodeRecoveryRequestFrame peer := congrArg _ h.identity
      rw [same] at before all
      refine ⟨⟨attempted.identity.trans h.identity, unread, outbound.symm ▸ before, fun unconsumed => ?_⟩,
        fun wrote => ⟨silent, unread (early ?_)⟩, fun ok => ?_⟩
      · cases attempted.consumed.symm.trans unconsumed
      · rintro rfl
        exact wrote (outbound.trans silent.symm)
      · exact outbound.trans (all (EdgeReply.requested.inj ok))

/-- The calls on a new anchor, whose peer sends these bytes and then closes or does not. -/
def edgeCalls (bytes : List UInt8) (ended : Bool) (peer : DescriptorIdentity) (calls : List EdgeCall) :
    List (Step (RecoveryAnchor × Channel) EdgeCall EdgeReply) :=
  history callAnchor (.adopt peer, ⟨bytes, ended, [], false⟩) calls

theorem requested_final (bytes : List UInt8) (ended : Bool) (peer : DescriptorIdentity)
    (calls : List EdgeCall) :
    Requested bytes peer (final callAnchor (.adopt peer, ⟨bytes, ended, [], false⟩) calls) :=
  history_invariant (P := fun _ => True) (I := fun _ s => Requested bytes peer s)
    ⟨rfl, fun _ => rfl, List.nil_prefix, fun _ => rfl⟩ (fun _ _ c h _ => (h.call c).1) calls
    fun _ _ => trivial

/-- What a step of a run writes. -/
theorem requested_step {ended : Bool} {calls : List EdgeCall}
    {step : Step (RecoveryAnchor × Channel) EdgeCall EdgeReply}
    (mem : step ∈ edgeCalls bytes ended peer calls) :
    (step.after.2.outbound ≠ step.before.2.outbound →
        step.before.2.outbound = [] ∧ step.after.2.inbound = bytes) ∧
      (step.output = .requested (some (.ok ())) →
        step.after.2.outbound = encodeRecoveryRequestFrame peer) := by
  obtain ⟨past, later, split⟩ := List.append_of_mem mem
  obtain ⟨earlier, c, rest, -, -, rfl, -⟩ := history_split split
  exact ((requested_final bytes ended peer earlier).call c).2

/-- What an anchor sends over a whole run: at most one request, at once, before it read anything, and all
of it when it says so. -/
structure RequestSent (bytes : List UInt8) (ended : Bool) (peer : DescriptorIdentity)
    (calls : List EdgeCall) : Prop where
  once : (final callAnchor (.adopt peer, ⟨bytes, ended, [], false⟩) calls).2.outbound <+:
    encodeRecoveryRequestFrame peer
  early : ∀ step ∈ edgeCalls bytes ended peer calls, step.after.2.outbound ≠ step.before.2.outbound →
    step.before.2.outbound = [] ∧ step.after.2.inbound = bytes
  whole : ∀ step ∈ edgeCalls bytes ended peer calls, step.output = .requested (some (.ok ())) →
    step.after.2.outbound = encodeRecoveryRequestFrame peer

theorem requestSent (bytes : List UInt8) (ended : Bool) (peer : DescriptorIdentity)
    (calls : List EdgeCall) : RequestSent bytes ended peer calls where
  once := (requested_final bytes ended peer calls).sent
  early _ mem := (requested_step mem).1
  whole _ mem := (requested_step mem).2

end

end Calcifer.Supervisor
