import Calcifer.Supervisor.WireCodec

/-!
# Frames over a channel

The loops that write and read a frame before a deadline. Each call of the channel moves a part of
the bytes, or moves none and is made again, and the deadline is looked at before and after it. A
script of `IoCall`s says how the calls of a run go; when it is used up the loop still waits.

Whatever the script is, a loop that succeeds has moved exactly its bytes (`writeAllBefore_ok`,
`readExactBefore_ok`). When the deadline does not pass and no call fails, it succeeds after at most as
many calls that move something as there are bytes (`writeAllBefore_prompt`, `readExactBefore_prompt`).
-/

namespace Calcifer.Supervisor

open Checks Codec

/-- How a call on a channel goes. A call that succeeds without moving a byte, or claims to have moved
too many, stops a loop with the error of a call that fails. -/
inductive IoOutcome where
  /-- The channel is ready for up to `more + 1` bytes. -/
  | ready (more : ℕ)
  | interrupted
  | wouldBlock
  | timedOut
  | failed
deriving DecidableEq, Repr

/-- A call, and whether the deadline has passed before it, after it, and after yielding. -/
structure IoCall where
  late : Bool
  outcome : IoOutcome
  lateAfter : Bool
  lateAgain : Bool
deriving DecidableEq, Repr

namespace IoCall

/-- What stops a loop after a call that moved nothing. -/
def stops (call : IoCall) : Option ProtocolError :=
  match call.outcome with
  | .ready _ => none
  | .interrupted => none
  | .wouldBlock | .timedOut => if call.lateAfter ∨ call.lateAgain then some .timeout else none
  | .failed => some .io

/-- The deadline has not passed, and the call does not fail. -/
def Prompt (call : IoCall) : Prop :=
  call.late = false ∧ call.lateAfter = false ∧ call.lateAgain = false ∧ call.outcome ≠ .failed

/-- Whether a call finds the channel ready. -/
def isReady (call : IoCall) : Bool :=
  match call.outcome with
  | .ready _ => true
  | _ => false

theorem Prompt.stops {call : IoCall} (h : call.Prompt) : call.stops = none := by
  obtain ⟨-, after, again, notFailed⟩ := h
  unfold IoCall.stops
  cases ho : call.outcome with
  | ready more => rfl
  | interrupted => rfl
  | wouldBlock => simp [after, again]
  | timedOut => simp [after, again]
  | failed => exact absurd ho notFailed

end IoCall

/-- The number of calls that find the channel ready. -/
def readyCalls (calls : List IoCall) : ℕ := calls.countP IoCall.isReady

/-! ## Writing -/

/-- What has been written, and the calls to come. -/
structure Writer where
  sink : List UInt8
  writes : List IoCall
  flushes : List IoCall
deriving DecidableEq, Repr

/-- Write what is left of a buffer. -/
def writeAllBefore : List IoCall → (input sink : List UInt8) →
    Option (Except ProtocolError Unit) × List UInt8 × List IoCall
  | [], input, sink => if input = [] then (some (.ok ()), sink, []) else (none, sink, [])
  | call :: calls, input, sink =>
    if input = [] then (some (.ok ()), sink, call :: calls)
    else if call.late then (some (.error .timeout), sink, calls)
    else match call.outcome with
    | .ready more =>
      if call.lateAfter then (some (.error .timeout), sink ++ input.take (more + 1), calls)
      else writeAllBefore calls (input.drop (more + 1)) (sink ++ input.take (more + 1))
    | .interrupted | .wouldBlock | .timedOut | .failed =>
      match call.stops with
      | some error => (some (.error error), sink, calls)
      | none => writeAllBefore calls input sink

def flushBefore : List IoCall → Option (Except ProtocolError Unit) × List IoCall
  | [] => (none, [])
  | call :: calls =>
    if call.late then (some (.error .timeout), calls)
    else match call.outcome with
    | .ready _ => (if call.lateAfter then some (.error .timeout) else some (.ok ()), calls)
    | .interrupted | .wouldBlock | .timedOut | .failed =>
      match call.stops with
      | some error => (some (.error error), calls)
      | none => flushBefore calls

/-- Send a frame, unless it was refused when it was put together. -/
def sendFrame (frame : Except ProtocolError (List UInt8)) (writer : Writer) :
    Option (Except ProtocolError Unit) × Writer :=
  match frame with
  | .error error => (some (.error error), writer)
  | .ok frame =>
    match writeAllBefore writer.writes frame writer.sink with
    | (some (.ok ()), sink, writes) =>
      let flushed := flushBefore writer.flushes
      (flushed.1, ⟨sink, writes, flushed.2⟩)
    | (stopped, sink, writes) => (stopped, ⟨sink, writes, writer.flushes⟩)

def sendCoordinatorCommand (command : CoordinatorCommand) (writer : Writer) :
    Option (Except ProtocolError Unit) × Writer :=
  sendFrame (commandFrame command) writer

def sendGuardianEvent (event : GuardianEvent) (writer : Writer) :
    Option (Except ProtocolError Unit) × Writer :=
  sendFrame (eventFrame event) writer

/-! ## Reading -/

/-- What is still to come on a channel, and the calls that will read it. -/
structure Reader where
  stream : List UInt8
  calls : List IoCall
deriving DecidableEq, Repr

inductive ReadPart where
  | header
  | body
deriving DecidableEq, Repr

/-- The end of the stream, after `offset` bytes of a part. -/
def ReadPart.ended (part : ReadPart) (offset : ℕ) : ProtocolError :=
  match part with
  | .header => if offset = 0 then .unexpectedEof else .truncatedHeader
  | .body => .truncatedBody

/-- Fill a buffer of `len` bytes, of which `output` is there. -/
def readExactBefore (part : ReadPart) (len : ℕ) : List IoCall → (output stream : List UInt8) →
    Option (Except ProtocolError (List UInt8)) × Reader
  | [], output, stream =>
    if output.length < len then (none, ⟨stream, []⟩) else (some (.ok output), ⟨stream, []⟩)
  | call :: calls, output, stream =>
    if output.length < len then
      if call.late then (some (.error .timeout), ⟨stream, calls⟩)
      else match call.outcome with
      | .ready more =>
        let room := min (more + 1) (len - output.length)
        if stream = [] then (some (.error (part.ended output.length)), ⟨stream, calls⟩)
        else if call.lateAfter then (some (.error .timeout), ⟨stream.drop room, calls⟩)
        else readExactBefore part len calls (output ++ stream.take room) (stream.drop room)
      | .interrupted | .wouldBlock | .timedOut | .failed =>
        match call.stops with
        | some error => (some (.error error), ⟨stream, calls⟩)
        | none => readExactBefore part len calls output stream
    else (some (.ok output), ⟨stream, call :: calls⟩)

/-- A computation that reads from a channel. It has no result while it waits. -/
def ReadM (α : Type) : Type := Reader → Option (Except WireError α) × Reader

namespace ReadM

variable {α β : Type}

instance : Monad ReadM where
  pure a := fun reader => (some (.ok a), reader)
  bind x f := fun reader => match x reader with
    | (some (.ok a), reader) => f a reader
    | (some (.error e), reader) => (some (.error e), reader)
    | (none, reader) => (none, reader)

def lift (x : Except WireError α) : ReadM α := fun reader => (some x, reader)

/-- Fill a buffer. -/
def readExact (part : ReadPart) (len : ℕ) : ReadM (List UInt8) := fun reader =>
  let read := readExactBefore part len reader.calls [] reader.stream
  (read.1.map protocol, read.2)

theorem bind_apply (x : ReadM α) (f : α → ReadM β) (reader : Reader) :
    (x >>= f) reader = match x reader with
      | (some (.ok a), reader) => f a reader
      | (some (.error e), reader) => (some (.error e), reader)
      | (none, reader) => (none, reader) := rfl

end ReadM

def receiveFrame (expectedDirection : UInt8) : ReadM ReceivedFrame := do
  let header ← ReadM.readExact .header headerBytes
  let (messageType, bodyLen) ← ReadM.lift (checkHeader expectedDirection header)
  let bytes ← ReadM.readExact .body bodyLen
  pure {
    messageType
    body := bytes ++ List.replicate (maxBodyBytes - bodyLen) 0
    bodyLen }

def receiveCoordinatorCommand : ReadM CoordinatorCommand := do
  let frame ← receiveFrame coordinatorDirection
  ReadM.lift (decodeCommand frame)

def receiveGuardianEvent : ReadM GuardianEvent := do
  let frame ← receiveFrame guardianDirection
  ReadM.lift (decodeEvent frame)

/-! ## What the loops move -/

section

variable {calls calls' : List IoCall} {input sink sink' output stream : List UInt8}

/-- A buffer that was written is what was added to the sink. -/
theorem writeAllBefore_ok
    (h : writeAllBefore calls input sink = (some (.ok ()), sink', calls')) :
    sink' = sink ++ input := by
  induction calls generalizing input sink with
  | nil =>
    unfold writeAllBefore at h
    by_cases done : input = []
    · rw [if_pos done] at h
      cases h
      rw [done, List.append_nil]
    · rw [if_neg done] at h
      cases h
  | cons call calls ih =>
    unfold writeAllBefore at h
    by_cases done : input = []
    · rw [if_pos done] at h
      cases h
      rw [done, List.append_nil]
    rw [if_neg done] at h
    by_cases late : call.late = true
    · rw [if_pos late] at h
      cases h
    rw [if_neg late] at h
    cases outcome : call.outcome with
    | ready more =>
      simp only [outcome] at h
      by_cases after : call.lateAfter = true
      · rw [if_pos after] at h
        cases h
      · rw [if_neg after] at h
        rw [ih h, List.append_assoc, List.take_append_drop]
    | interrupted | wouldBlock | timedOut | failed =>
      simp only [outcome] at h
      cases stops : call.stops with
      | some error =>
        rw [stops] at h
        cases h
      | none =>
        rw [stops] at h
        exact ih h

/-- What a loop has written is a part of its buffer, also when it stops. -/
theorem writeAllBefore_prefix (calls : List IoCall) (input sink : List UInt8) :
    ∃ n, (writeAllBefore calls input sink).2.1 = sink ++ input.take n := by
  have nothing : ∃ n, sink = sink ++ input.take n := ⟨0, by simp⟩
  induction calls generalizing input sink with
  | nil =>
    unfold writeAllBefore
    by_cases done : input = []
    · rwa [if_pos done]
    · rwa [if_neg done]
  | cons call calls ih =>
    unfold writeAllBefore
    by_cases done : input = []
    · rwa [if_pos done]
    rw [if_neg done]
    by_cases late : call.late = true
    · rwa [if_pos late]
    rw [if_neg late]
    cases outcome : call.outcome with
    | ready more =>
      dsimp only
      by_cases after : call.lateAfter = true
      · rw [if_pos after]
        exact ⟨more + 1, rfl⟩
      · rw [if_neg after]
        obtain ⟨n, hn⟩ := ih (input.drop (more + 1)) (sink ++ input.take (more + 1)) ⟨0, by simp⟩
        refine ⟨more + 1 + n, ?_⟩
        rw [hn, List.append_assoc, ← List.take_add]
    | interrupted | wouldBlock | timedOut | failed =>
      dsimp only
      cases stops : call.stops with
      | some error => exact nothing
      | none => exact ih input sink nothing

/-- A prompt channel that is ready as often as there are bytes takes them all. -/
theorem writeAllBefore_prompt (prompt : ∀ call ∈ calls, call.Prompt)
    (ready : input.length ≤ readyCalls calls) :
    ∃ calls', writeAllBefore calls input sink = (some (.ok ()), sink ++ input, calls') := by
  induction calls generalizing input sink with
  | nil =>
    have empty : input = [] := List.eq_nil_of_length_eq_zero (Nat.le_zero.1 ready)
    refine ⟨[], ?_⟩
    rw [writeAllBefore, if_pos empty, empty, List.append_nil]
  | cons call calls ih =>
    have first := prompt call (List.mem_cons_self ..)
    have rest : ∀ other ∈ calls, other.Prompt := fun other h => prompt other (List.mem_cons_of_mem _ h)
    unfold writeAllBefore
    by_cases done : input = []
    · exact ⟨call :: calls, by rw [if_pos done, done, List.append_nil]⟩
    rw [if_neg done, first.1]
    have stops := first.stops
    cases outcome : call.outcome with
    | ready more =>
      have count : readyCalls (call :: calls) = readyCalls calls + 1 := by
        simp [readyCalls, IoCall.isReady, outcome]
      have shorter : (input.drop (more + 1)).length ≤ readyCalls calls := by
        rw [List.length_drop]
        omega
      obtain ⟨calls', h⟩ := @ih _ (sink ++ input.take (more + 1)) rest shorter
      refine ⟨calls', ?_⟩
      rw [List.append_assoc, List.take_append_drop] at h
      simpa [first.2.1] using h
    | interrupted | wouldBlock | timedOut | failed =>
      have count : readyCalls (call :: calls) = readyCalls calls := by
        simp [readyCalls, IoCall.isReady, outcome]
      obtain ⟨calls', h⟩ := @ih input sink rest (by omega)
      refine ⟨calls', ?_⟩
      simpa [stops] using h

/-- A buffer that was filled is what was taken from the stream. -/
theorem readExactBefore_ok {part : ReadPart} {len : ℕ} {bytes : List UInt8} {reader : Reader}
    (room : output.length ≤ len)
    (h : readExactBefore part len calls output stream = (some (.ok bytes), reader)) :
    ∃ read, stream = read ++ reader.stream ∧ bytes = output ++ read ∧ bytes.length = len := by
  induction calls generalizing output stream with
  | nil =>
    unfold readExactBefore at h
    by_cases short : output.length < len
    · rw [if_pos short] at h
      cases h
    · rw [if_neg short] at h
      cases h
      exact ⟨[], rfl, by simp, by omega⟩
  | cons call calls ih =>
    unfold readExactBefore at h
    by_cases short : output.length < len
    swap
    · rw [if_neg short] at h
      cases h
      exact ⟨[], rfl, by simp, by omega⟩
    rw [if_pos short] at h
    by_cases late : call.late = true
    · rw [if_pos late] at h
      cases h
    rw [if_neg late] at h
    cases outcome : call.outcome with
    | ready more =>
      simp only [outcome] at h
      by_cases ended : stream = []
      · rw [if_pos ended] at h
        cases h
      rw [if_neg ended] at h
      by_cases after : call.lateAfter = true
      · rw [if_pos after] at h
        cases h
      rw [if_neg after] at h
      have fits : (output ++ stream.take (min (more + 1) (len - output.length))).length ≤ len := by
        rw [List.length_append, List.length_take]
        omega
      obtain ⟨read, hstream, hbytes, hlen⟩ := ih fits h
      refine ⟨stream.take (min (more + 1) (len - output.length)) ++ read, ?_, ?_, hlen⟩
      · rw [List.append_assoc, ← hstream, List.take_append_drop]
      · rw [hbytes, List.append_assoc]
    | interrupted | wouldBlock | timedOut | failed =>
      simp only [outcome] at h
      cases stops : call.stops with
      | some error =>
        rw [stops] at h
        cases h
      | none =>
        rw [stops] at h
        exact ih room h

/-- What a prompt loop does: it waits, or fills the buffer with the next bytes, with at most one ready
call for each of them. -/
theorem readExactBefore_prompt {part : ReadPart} {len : ℕ} (prompt : ∀ call ∈ calls, call.Prompt)
    (room : output.length ≤ len) (enough : len ≤ output.length + stream.length) :
    ((readExactBefore part len calls output stream).1 = none ∧
      output.length + readyCalls calls < len) ∨
    ∃ calls', readExactBefore part len calls output stream =
        (some (.ok (output ++ stream.take (len - output.length))),
          ⟨stream.drop (len - output.length), calls'⟩) ∧
      (∀ call ∈ calls', call.Prompt) ∧
      readyCalls calls ≤ readyCalls calls' + (len - output.length) := by
  induction calls generalizing output stream with
  | nil =>
    unfold readExactBefore
    split_ifs with short
    · exact Or.inl ⟨rfl, by simpa [readyCalls] using short⟩
    · have full : len - output.length = 0 := by omega
      exact Or.inr ⟨[], by simp [full], by simp, by simp [readyCalls]⟩
  | cons call calls ih =>
    have first := prompt call (List.mem_cons_self ..)
    have rest : ∀ other ∈ calls, other.Prompt := fun other h => prompt other (List.mem_cons_of_mem _ h)
    unfold readExactBefore
    by_cases short : output.length < len
    · rw [if_pos short, first.1]
      have stops := first.stops
      cases outcome : call.outcome with
      | ready more =>
        have count : readyCalls (call :: calls) = readyCalls calls + 1 := by
          simp [readyCalls, IoCall.isReady, outcome]
        have nonempty : stream ≠ [] := by
          rintro rfl
          simp at enough
          omega
        obtain ⟨n, hn⟩ : ∃ n, min (more + 1) (len - output.length) = n := ⟨_, rfl⟩
        have positive : 0 < n := by omega
        have bounded : n ≤ len - output.length := by omega
        have taken : (output ++ stream.take n).length = output.length + n := by
          rw [List.length_append, List.length_take]
          omega
        simp only [Bool.false_eq_true, if_false, hn, if_neg nonempty, first.2.1]
        have step := @ih (output ++ stream.take n) (stream.drop n) rest (by omega)
          (by rw [taken, List.length_drop]; omega)
        rw [taken] at step
        obtain ⟨waits, few⟩ | ⟨calls', h, prompt', few⟩ := step
        · exact Or.inl ⟨waits, by omega⟩
        · refine Or.inr ⟨calls', ?_, prompt', by omega⟩
          have split : len - output.length = n + (len - (output.length + n)) := by omega
          rw [h, List.append_assoc, List.drop_drop, split, List.take_add]
      | interrupted | wouldBlock | timedOut | failed =>
        have count : readyCalls (call :: calls) = readyCalls calls := by
          simp [readyCalls, IoCall.isReady, outcome]
        simp only [Bool.false_eq_true, if_false, stops]
        rw [count]
        exact ih rest room enough
    · have full : len - output.length = 0 := by omega
      rw [if_neg short]
      exact Or.inr ⟨call :: calls, by simp [full], prompt, by simp⟩

end

end Calcifer.Supervisor
