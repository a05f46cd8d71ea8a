import Calcifer.Library.Lists
import Calcifer.Library.Machine
import Calcifer.Supervisor.Coordinator

/-!
# The output pump of the coordinator

The coordinator moves output from the terminal channel to the outer terminal, one fragment at a time. A
turn of the pump reads when nothing is pending, and writes what is pending once. `PumpTurn` says what the
clock, the channel and the terminal answer in a turn, and `PumpStep` keeps every one of these calls
beside the state in which it was made.
-/

namespace Calcifer.Supervisor

def terminalBufferCapacity : ℕ := 8 * 1024

inductive CoordinatorPumpProgress where
  | idle
  | output
  | outputPending
  | outputClosed
deriving DecidableEq, Repr

/-! ## Pending output -/

/-- What a call to read answers. At most the capacity of the buffer is read. -/
inductive ChannelReply where
  | data (bytes : List UInt8)
  | interrupted
  | wouldBlock
  | failed
deriving DecidableEq, Repr

/-- What a call to write answers. No more than what is offered is accepted. -/
inductive WriteReply where
  | accepted (count : ℕ)
  | interrupted
  | wouldBlock
  | failed
deriving DecidableEq, Repr

inductive PendingTerminalRead where
  | data
  | endOfStream
  | wouldBlock
deriving DecidableEq, Repr

inductive TerminalWrite where
  | complete
  | progress (written remaining : ℕ)
  | wouldBlock
deriving DecidableEq, Repr

structure PendingTerminalOutput where
  buffer : List UInt8
  length : ℕ
  offset : ℕ
deriving DecidableEq, Repr

/-- The bytes that a call to read delivers. -/
def ChannelReply.bytes : ChannelReply → List UInt8
  | .data bytes => bytes.take terminalBufferCapacity
  | _ => []

/-- How many of the offered bytes a call to write takes. -/
def WriteReply.count (offered : List UInt8) : WriteReply → ℕ
  | .accepted count => min count offered.length
  | _ => 0

namespace PendingTerminalOutput

def zeros (count : ℕ) : List UInt8 := List.replicate count 0

def new : PendingTerminalOutput where
  buffer := zeros terminalBufferCapacity
  length := 0
  offset := 0

variable (p : PendingTerminalOutput)

def isPending : Bool := p.offset < p.length

def remainingBytes : List UInt8 := (p.buffer.take p.length).drop p.offset

/-- Note that so many bytes were written, and erase them. -/
def recordWrite (length : ℕ) : Option TerminalWrite × PendingTerminalOutput :=
  if length = 0 ∨ p.length - p.offset < length then (none, p)
  else
    let offset := p.offset + length
    let buffer := p.buffer.take p.offset ++ zeros length ++ p.buffer.drop offset
    if offset = p.length then (some .complete, { buffer, length := 0, offset := 0 })
    else (some (.progress length (p.length - offset)), { p with buffer, offset })

/-- One call to write. -/
def tryWriteTo (reply : WriteReply) : Option TerminalWrite × PendingTerminalOutput :=
  if ¬p.isPending then (none, p)
  else match reply with
    | .accepted _ => p.recordWrite (reply.count p.remainingBytes)
    | .interrupted | .wouldBlock => (some .wouldBlock, p)
    | .failed => (none, p)

/-- One call to read. Whatever is not reported as read is erased. -/
def readFrom (reply : ChannelReply) : Option PendingTerminalRead × PendingTerminalOutput :=
  if p.isPending then (none, p)
  else
    let bytes := reply.bytes
    let buffer := bytes ++ zeros (terminalBufferCapacity - bytes.length)
    match reply with
    | .data _ =>
      if bytes = [] then (some .endOfStream, { p with buffer })
      else (some .data, { buffer, length := bytes.length, offset := 0 })
    | .interrupted | .wouldBlock => (some .wouldBlock, { p with buffer })
    | .failed => (none, { p with buffer })

/-! ### Queues -/

/-- The cursor is within what was read, and at its start once nothing is left. -/
structure Valid (p : PendingTerminalOutput) : Prop where
  capacity : p.buffer.length = terminalBufferCapacity
  length : p.length ≤ terminalBufferCapacity
  offset : p.offset ≤ p.length

theorem valid_new : new.Valid where
  capacity := List.length_replicate
  length := Nat.zero_le _
  offset := Nat.zero_le _

variable {p}

theorem Valid.length_remainingBytes (h : p.Valid) : p.remainingBytes.length = p.length - p.offset := by
  have capacity := h.capacity
  have fits := h.length
  unfold remainingBytes
  rw [List.length_drop, List.length_take]
  omega

theorem Valid.remainingBytes_eq_nil_iff (h : p.Valid) : p.remainingBytes = [] ↔ p.isPending = false := by
  rw [← List.length_eq_zero_iff, h.length_remainingBytes]
  unfold isPending
  rw [decide_eq_false_iff_not]
  omega

theorem remainingBytes_of_offset_eq (h : p.offset = p.length) : p.remainingBytes = [] := by
  unfold remainingBytes
  rw [h]
  exact List.drop_eq_nil_of_le (List.length_take_le _ _)

/-- Erasing what was written leaves the rest of the queue as it was. -/
theorem Valid.erase (h : p.Valid) {length : ℕ} (fits : length ≤ p.length - p.offset) :
    ((p.buffer.take p.offset ++ zeros length ++ p.buffer.drop (p.offset + length)).take p.length).drop
      (p.offset + length) = p.remainingBytes.drop length := by
  have capacity := h.capacity
  have bounded := h.length
  have ordered := h.offset
  have front : (p.buffer.take p.offset ++ zeros length).length = p.offset + length := by
    rw [List.length_append, List.length_take, zeros, List.length_replicate]
    omega
  have size : p.length = (p.buffer.take p.offset ++ zeros length).length +
      (p.length - (p.offset + length)) := by omega
  unfold remainingBytes
  rw [List.drop_drop]
  conv_lhs => rw [size, List.take_length_add_append, List.drop_left' front]
  rw [← List.drop_take]

theorem Valid.length_erase (h : p.Valid) {length : ℕ} (fits : length ≤ p.length - p.offset) :
    (p.buffer.take p.offset ++ zeros length ++ p.buffer.drop (p.offset + length)).length =
      terminalBufferCapacity := by
  have capacity := h.capacity
  have bounded := h.length
  have ordered := h.offset
  rw [List.length_append, List.length_append, List.length_take, zeros, List.length_replicate,
    List.length_drop]
  omega

/-- A write takes its bytes from the front of the queue. -/
theorem Valid.recordWrite (h : p.Valid) {length : ℕ} {write : TerminalWrite} {next : PendingTerminalOutput}
    (recorded : p.recordWrite length = (some write, next)) :
    next.Valid ∧ 0 < length ∧ p.remainingBytes = p.remainingBytes.take length ++ next.remainingBytes ∧
      (write = .complete ∧ next.remainingBytes = [] ∨
        ∃ remaining, write = .progress length remaining ∧ next.remainingBytes ≠ []) := by
  unfold PendingTerminalOutput.recordWrite at recorded
  by_cases refused : length = 0 ∨ p.length - p.offset < length
  · rw [if_pos refused] at recorded
    cases recorded
  · rw [if_neg refused] at recorded
    have fits : length ≤ p.length - p.offset := by omega
    have bounded := h.length
    have ordered := h.offset
    have size := h.length_remainingBytes
    dsimp only at recorded
    by_cases last : p.offset + length = p.length
    · rw [if_pos last] at recorded
      cases recorded
      have empty : (PendingTerminalOutput.mk
          (p.buffer.take p.offset ++ zeros length ++ p.buffer.drop (p.offset + length)) 0 0).remainingBytes =
            [] := remainingBytes_of_offset_eq rfl
      refine ⟨⟨h.length_erase fits, Nat.zero_le _, Nat.zero_le _⟩, by omega, ?_, .inl ⟨rfl, empty⟩⟩
      rw [empty, List.append_nil, List.take_of_length_le (by omega)]
    · rw [if_neg last] at recorded
      cases recorded
      have left := h.erase fits
      have within : p.offset + length ≤ p.length := by omega
      refine ⟨⟨h.length_erase fits, bounded, within⟩, by omega, ?_, .inr ⟨_, rfl, ?_⟩⟩
      · conv_lhs => rw [← List.take_append_drop length p.remainingBytes, ← left]
        rfl
      · refine fun empty => absurd (congrArg List.length (left.symm.trans empty)) ?_
        rw [List.length_drop, size, List.length_nil]
        omega

theorem WriteReply.count_le (offered : List UInt8) (reply : WriteReply) :
    reply.count offered ≤ offered.length := by
  cases reply with
  | accepted count => exact Nat.min_le_right _ _
  | interrupted => exact Nat.zero_le _
  | wouldBlock => exact Nat.zero_le _
  | failed => exact Nat.zero_le _

/-- What a call to write reports, when it took `count` bytes and left the queue `next`. -/
def Wrote (p next : PendingTerminalOutput) (count : ℕ) : Option TerminalWrite → Prop
  | some .complete => 0 < count ∧ next.isPending = false
  | some (.progress _ _) => 0 < count ∧ next.isPending = true
  | some .wouldBlock | none => count = 0 ∧ next = p

theorem recordWrite_eq_none {length : ℕ} {next : PendingTerminalOutput}
    (refused : p.recordWrite length = (none, next)) :
    next = p ∧ (length = 0 ∨ p.length - p.offset < length) := by
  unfold PendingTerminalOutput.recordWrite at refused
  split at refused
  · cases refused
    exact ⟨rfl, ‹_›⟩
  · dsimp only at refused
    split at refused
    · cases refused
    · cases refused

/-- What one call to write does to the queue. -/
theorem Valid.tryWriteTo (h : p.Valid) {reply : WriteReply} {result : Option TerminalWrite}
    {next : PendingTerminalOutput} (wrote : p.tryWriteTo reply = (result, next)) :
    next.Valid ∧ p.remainingBytes = p.remainingBytes.take (reply.count p.remainingBytes) ++
      next.remainingBytes ∧ Wrote p next (reply.count p.remainingBytes) result := by
  have still (nothing : reply.count p.remainingBytes = 0) :
      p.remainingBytes = p.remainingBytes.take (reply.count p.remainingBytes) ++ p.remainingBytes := by
    rw [nothing]
    rfl
  unfold PendingTerminalOutput.tryWriteTo at wrote
  by_cases pending : p.isPending = true
  · rw [if_neg (not_not.2 pending)] at wrote
    cases reply with
    | accepted count =>
      cases result with
      | none =>
        obtain ⟨rfl, refused⟩ := recordWrite_eq_none wrote
        have fits := WriteReply.count_le next.remainingBytes (.accepted count)
        have size := h.length_remainingBytes
        have nothing : (WriteReply.accepted count).count next.remainingBytes = 0 := by omega
        exact ⟨h, still nothing, nothing, rfl⟩
      | some write =>
        obtain ⟨valid, positive, queue, complete | ⟨remaining, progress, some_left⟩⟩ := h.recordWrite wrote
        · refine ⟨valid, queue, ?_⟩
          rw [complete.1]
          exact ⟨positive, valid.remainingBytes_eq_nil_iff.1 complete.2⟩
        · refine ⟨valid, queue, ?_⟩
          rw [progress]
          refine ⟨positive, ?_⟩
          by_contra idle
          exact some_left (valid.remainingBytes_eq_nil_iff.2 (Bool.eq_false_of_not_eq_true idle))
    | interrupted =>
      cases wrote
      exact ⟨h, still rfl, rfl, rfl⟩
    | wouldBlock =>
      cases wrote
      exact ⟨h, still rfl, rfl, rfl⟩
    | failed =>
      cases wrote
      exact ⟨h, still rfl, rfl, rfl⟩
  · rw [if_pos pending] at wrote
    cases wrote
    have empty := h.remainingBytes_eq_nil_iff.2 (Bool.eq_false_of_not_eq_true pending)
    have fits := WriteReply.count_le p.remainingBytes reply
    have nothing : reply.count p.remainingBytes = 0 := by
      rw [empty] at fits ⊢
      exact Nat.le_zero.1 fits
    exact ⟨h, still nothing, nothing, rfl⟩

/-- What a call to read reports, when it delivered `bytes` and left the queue `next`. -/
def Read (next : PendingTerminalOutput) (bytes : List UInt8) : Option PendingTerminalRead → Prop
  | some .data => next.isPending = true ∧ next.remainingBytes = bytes
  | some .endOfStream | some .wouldBlock | none => bytes = [] ∧ next.isPending = false

theorem Read.remainingBytes {next : PendingTerminalOutput} {bytes : List UInt8}
    {result : Option PendingTerminalRead} (h : Read next bytes result) (valid : next.Valid) :
    next.remainingBytes = bytes := by
  rcases result with _ | _ | _ | _
  · rw [h.1]
    exact valid.remainingBytes_eq_nil_iff.2 h.2
  · exact h.2
  · rw [h.1]
    exact valid.remainingBytes_eq_nil_iff.2 h.2
  · rw [h.1]
    exact valid.remainingBytes_eq_nil_iff.2 h.2

theorem ChannelReply.length_bytes (reply : ChannelReply) : reply.bytes.length ≤ terminalBufferCapacity := by
  cases reply with
  | data bytes => exact List.length_take_le _ _
  | interrupted => exact Nat.zero_le _
  | wouldBlock => exact Nat.zero_le _
  | failed => exact Nat.zero_le _

/-- What one call to read does to an empty queue. -/
theorem Valid.readFrom (h : p.Valid) (idle : p.isPending = false) {reply : ChannelReply}
    {result : Option PendingTerminalRead} {next : PendingTerminalOutput}
    (read : p.readFrom reply = (result, next)) : next.Valid ∧ Read next reply.bytes result := by
  have bounded := ChannelReply.length_bytes reply
  have filled : (reply.bytes ++ zeros (terminalBufferCapacity - reply.bytes.length)).length =
      terminalBufferCapacity := by
    rw [List.length_append, zeros, List.length_replicate]
    omega
  have erased : ({ p with
      buffer := reply.bytes ++ zeros (terminalBufferCapacity - reply.bytes.length) } :
        PendingTerminalOutput).Valid := ⟨filled, h.length, h.offset⟩
  unfold PendingTerminalOutput.readFrom at read
  rw [idle, if_neg Bool.false_ne_true] at read
  cases reply with
  | data bytes =>
    dsimp only at read
    by_cases ended : (ChannelReply.data bytes).bytes = []
    · rw [if_pos ended] at read
      cases read
      exact ⟨erased, ended, idle⟩
    · rw [if_neg ended] at read
      cases read
      have some_left := List.length_pos_iff.2 ended
      refine ⟨⟨filled, bounded, Nat.zero_le _⟩, decide_eq_true some_left, ?_⟩
      unfold remainingBytes
      dsimp only
      rw [List.take_left, List.drop_zero]
  | interrupted =>
    cases read
    exact ⟨erased, rfl, idle⟩
  | wouldBlock =>
    cases read
    exact ⟨erased, rfl, idle⟩
  | failed =>
    cases read
    exact ⟨erased, rfl, idle⟩

end PendingTerminalOutput

/-! ## Turns -/

abbrev Instant : Type := ℕ
abbrev Duration : Type := ℕ

/-- The parameters of a turn, and what its surroundings answer: the clock wherever the turn looks at it,
and the calls to read and write. The clock can tell no time after `latest`. -/
structure PumpTurn where
  stallTimeout : Duration
  outerDeadline : Instant
  latest : Instant
  observed : Instant
  observedAfterRead : Instant
  observedBeforeWrite : Instant
  observedAfterWrite : Instant
  read : ChannelReply
  write : WriteReply

structure OutputPump where
  output : PendingTerminalOutput
  stallDeadline : Option Instant
  outputClosed : Bool

inductive PumpEvent where
  | observed (instant : Instant)
  | read (reply : ChannelReply)
  | write (reply : WriteReply)

/-- A read that finds the end of the stream. -/
def PumpEvent.ends : PumpEvent → Prop
  | .read (.data bytes) => bytes = []
  | _ => False

theorem PendingTerminalOutput.readFrom_ends (p : PendingTerminalOutput) (idle : p.isPending = false)
    {reply : ChannelReply} (ends : (PumpEvent.read reply).ends) :
    (p.readFrom reply).1 = some .endOfStream := by
  cases reply with
  | data bytes =>
    cases ends
    unfold readFrom
    rw [idle, if_neg Bool.false_ne_true]
    rfl
  | interrupted => exact ends.elim
  | wouldBlock => exact ends.elim
  | failed => exact ends.elim

/-- A call to the surroundings, in the state in which it is made. -/
structure PumpMoment where
  pump : OutputPump
  event : PumpEvent

structure PumpStep where
  result : Except CoordinatorTerminalError CoordinatorPumpProgress
  pump : OutputPump
  moments : List PumpMoment

namespace PumpTurn

variable (turn : PumpTurn)

/-- The deadline of a write that is pending since `observed`, unless the clock cannot tell it. -/
def deadlineFrom (observed : Instant) : Option Instant :=
  if turn.latest < observed + turn.stallTimeout then none
  else some (min (observed + turn.stallTimeout) turn.outerDeadline)

end PumpTurn

namespace OutputPump

def new : OutputPump where
  output := .new
  stallDeadline := none
  outputClosed := false

variable (s : OutputPump) (turn : PumpTurn)

/-- The second half of a turn, in which what is pending is written. -/
def writeOnce (past : List PumpMoment) : PumpStep :=
  match s.stallDeadline with
  | none => ⟨.error .deadline, s, past⟩
  | some deadline =>
    let observed := turn.observedBeforeWrite
    let past := past ++ [⟨s, .observed observed⟩]
    if deadline ≤ observed ∨ turn.outerDeadline ≤ observed then ⟨.error .deadline, s, past⟩
    else
      let past := past ++ [⟨s, .write turn.write⟩]
      let (written, output) := s.output.tryWriteTo turn.write
      let s := { s with output }
      match written with
      | none => ⟨.error .outerTerminalWrite, s, past⟩
      | some .complete => ⟨.ok .output, { s with stallDeadline := none }, past⟩
      | some (.progress _ _) =>
        let observed := turn.observedAfterWrite
        let past := past ++ [⟨s, .observed observed⟩]
        match turn.deadlineFrom observed with
        | none => ⟨.error .deadline, s, past⟩
        | some renewed =>
          let s := { s with stallDeadline := some renewed }
          ⟨if renewed ≤ observed then .error .deadline else .ok .outputPending, s, past⟩
      | some .wouldBlock => ⟨.ok .outputPending, s, past⟩

def pumpOutputStateOnce : PumpStep :=
  let observed := turn.observed
  let past := [⟨s, .observed observed⟩]
  if s.output.isPending then
    match s.stallDeadline with
    | none => ⟨.error .deadline, s, past⟩
    | some deadline =>
      if deadline ≤ observed ∨ turn.outerDeadline ≤ observed then ⟨.error .deadline, s, past⟩
      else s.writeOnce turn past
  else if turn.outerDeadline ≤ observed then ⟨.error .deadline, s, past⟩
  else if s.outputClosed then ⟨.ok .outputClosed, s, past⟩
  else
    let past := past ++ [⟨s, .read turn.read⟩]
    let (read, output) := s.output.readFrom turn.read
    let s := { s with output }
    match read with
    | none => ⟨.error .terminalChannelRead, s, past⟩
    | some .data =>
      let observed := turn.observedAfterRead
      let past := past ++ [⟨s, .observed observed⟩]
      match turn.deadlineFrom observed with
      | none => ⟨.error .deadline, s, past⟩
      | some fixed =>
        let s := { s with stallDeadline := some fixed }
        if fixed ≤ observed then ⟨.error .deadline, s, past⟩ else s.writeOnce turn past
    | some .wouldBlock => ⟨.ok .idle, s, past⟩
    | some .endOfStream => ⟨.ok .outputClosed, { s with outputClosed := true }, past⟩

end OutputPump

/-! ## What a turn does -/

/-- The bytes that the reads of a log delivered. -/
def bytesRead (past : List PumpMoment) : List UInt8 :=
  past.flatMap fun moment => match moment.event with
    | .read reply => reply.bytes
    | _ => []

/-- The bytes that the writes of a log took from what was pending. -/
def bytesWritten (past : List PumpMoment) : List UInt8 :=
  past.flatMap fun moment => match moment.event with
    | .write reply => moment.pump.output.remainingBytes.take (reply.count moment.pump.output.remainingBytes)
    | _ => []

/-- The last thing that was done is a look at the clock, which showed a time before `deadline`. -/
def Before (past : List PumpMoment) (deadline : Instant) : Prop :=
  ∃ earlier moment instant, past = earlier ++ [moment] ∧ moment.event = .observed instant ∧
    instant < deadline

/-- A deadline that was set in a log: by the time then, and never after the outer deadline. -/
def Sets (turn : PumpTurn) (past : List PumpMoment) (deadline : Instant) : Prop :=
  ∃ moment ∈ past, ∃ instant, moment.event = .observed instant ∧
    deadline = min (instant + turn.stallTimeout) turn.outerDeadline

/-- What holds wherever a turn that was begun with `start` calls its surroundings. -/
structure PumpMoment.Proper (start : OutputPump) (turn : PumpTurn) (past : List PumpMoment)
    (moment : PumpMoment) : Prop where
  queue : start.output.remainingBytes ++ bytesRead past =
    bytesWritten past ++ moment.pump.output.remainingBytes
  read : ∀ reply, moment.event = .read reply → moment.pump = start ∧ start.output.isPending = false ∧
    start.outputClosed = false ∧
      ∃ instant, past = [⟨start, .observed instant⟩] ∧ instant < turn.outerDeadline
  write : ∀ reply, moment.event = .write reply → Before past turn.outerDeadline ∧
    ∃ deadline, moment.pump.stallDeadline = some deadline ∧ Before past deadline
  deadline : ∀ deadline, moment.pump.stallDeadline = some deadline →
    start.stallDeadline = some deadline ∨ Sets turn past deadline

/-- Where a turn has come to. -/
structure Turning (start : OutputPump) (turn : PumpTurn) (past : List PumpMoment) (s : OutputPump) :
    Prop where
  valid : s.output.Valid
  queue : start.output.remainingBytes ++ bytesRead past = bytesWritten past ++ s.output.remainingBytes
  each : Lists.Each (PumpMoment.Proper start turn) past
  deadline : ∀ deadline, s.stallDeadline = some deadline →
    start.stallDeadline = some deadline ∨ Sets turn past deadline
  renewed : start.output.isPending = true → s.stallDeadline ≠ start.stallDeadline →
    bytesWritten past ≠ []
  ended : (∃ moment ∈ past, moment.event.ends) → s.outputClosed = true
  closed : start.outputClosed = true → s.outputClosed = true

namespace Turning

variable {s₀ s : OutputPump} {turn : PumpTurn} {past : List PumpMoment}

theorem bytesRead_concat (moment : PumpMoment) :
    bytesRead (past ++ [moment]) = bytesRead past ++ bytesRead [moment] := by
  simp [bytesRead]

theorem bytesWritten_concat (moment : PumpMoment) :
    bytesWritten (past ++ [moment]) = bytesWritten past ++ bytesWritten [moment] := by
  simp [bytesWritten]

theorem start (valid : s.output.Valid) : Turning s turn [] s where
  valid
  queue := by simp [bytesRead, bytesWritten]
  each := .nil
  deadline _ set := .inl set
  renewed _ changed := absurd rfl changed
  ended := by simp
  closed h := h

theorem Sets.concat {deadline : Instant} (h : Sets turn past deadline) (moment : PumpMoment) :
    Sets turn (past ++ [moment]) deadline := by
  obtain ⟨before, mem, set⟩ := h
  exact ⟨before, List.mem_append_left _ mem, set⟩

/-- A deadline stays explained when more is done. -/
theorem deadline_concat (h : Turning s₀ turn past s) (moment : PumpMoment) (deadline : Instant)
    (set : s.stallDeadline = some deadline) :
    s₀.stallDeadline = some deadline ∨ Sets turn (past ++ [moment]) deadline :=
  (h.deadline deadline set).imp_right fun set => Sets.concat set moment

/-- Looking at the clock changes nothing. -/
theorem observe (h : Turning s₀ turn past s) (instant : Instant) :
    Turning s₀ turn (past ++ [⟨s, .observed instant⟩]) s where
  valid := h.valid
  queue := by
    rw [bytesRead_concat, bytesWritten_concat]
    simpa [bytesRead, bytesWritten] using h.queue
  each := by
    refine Lists.each_concat.2 ⟨h.each, h.queue, ?_, ?_, h.deadline⟩
    · rintro reply ⟨⟩
    · rintro reply ⟨⟩
  deadline := h.deadline_concat _
  renewed pending changed := by
    rw [bytesWritten_concat]
    exact List.append_ne_nil_of_left_ne_nil (h.renewed pending changed) _
  ended := by
    rintro ⟨moment, mem, ends⟩
    rcases List.mem_append.1 mem with old | new
    · exact h.ended ⟨moment, old, ends⟩
    · cases List.mem_singleton.1 new
      exact ends.elim
  closed := h.closed

/-- A read fills an empty queue. -/
theorem read (h : Turning s₀ turn past s) (same : s = s₀) (idle : s.output.isPending = false)
    (opened : s.outputClosed = false) {instant : Instant} (first : past = [⟨s, .observed instant⟩])
    (before : instant < turn.outerDeadline) {result : Option PendingTerminalRead} {output : PendingTerminalOutput}
    (read : s.output.readFrom turn.read = (result, output)) (outputClosed : Bool)
    (closes : (PumpEvent.read turn.read).ends → outputClosed = true) :
    Turning s₀ turn (past ++ [⟨s, .read turn.read⟩]) { s with output, outputClosed } where
  valid := (h.valid.readFrom idle read).1
  queue := by
    have empty := h.valid.remainingBytes_eq_nil_iff.2 idle
    have queue := h.queue
    rw [empty, List.append_nil] at queue
    rw [bytesRead_concat, bytesWritten_concat, ← List.append_assoc, queue]
    obtain ⟨valid, answer⟩ := h.valid.readFrom idle read
    simp [bytesRead, bytesWritten, answer.remainingBytes valid]
  each := by
    refine Lists.each_concat.2 ⟨h.each, h.queue, ?_, ?_, h.deadline⟩
    · rintro reply -
      exact ⟨same, same ▸ idle, same ▸ opened, instant, same ▸ first, before⟩
    · rintro reply ⟨⟩
  deadline := h.deadline_concat _
  renewed pending := by
    rw [← same, idle] at pending
    cases pending
  ended := by
    rintro ⟨moment, mem, ends⟩
    rcases List.mem_append.1 mem with old | new
    · have closed := h.ended ⟨moment, old, ends⟩
      rw [opened] at closed
      cases closed
    · cases List.mem_singleton.1 new
      exact closes ends
  closed closed := by
    rw [← same, opened] at closed
    cases closed

/-- A write takes its bytes from the front of the queue. -/
theorem write (h : Turning s₀ turn past s) (before : Before past turn.outerDeadline) {deadline : Instant}
    (set : s.stallDeadline = some deadline) (stalled : Before past deadline)
    {result : Option TerminalWrite} {output : PendingTerminalOutput}
    (wrote : s.output.tryWriteTo turn.write = (result, output)) :
    Turning s₀ turn (past ++ [⟨s, .write turn.write⟩]) { s with output } where
  valid := (h.valid.tryWriteTo wrote).1
  queue := by
    obtain ⟨-, queue, -⟩ := h.valid.tryWriteTo wrote
    rw [bytesRead_concat, bytesWritten_concat]
    simp only [bytesRead, bytesWritten, List.flatMap_cons, List.flatMap_nil, List.append_nil,
      List.append_assoc]
    rw [← queue]
    exact h.queue
  each := by
    refine Lists.each_concat.2 ⟨h.each, h.queue, ?_, ?_, h.deadline⟩
    · rintro reply ⟨⟩
    · rintro reply -
      exact ⟨before, deadline, set, stalled⟩
  deadline := h.deadline_concat _
  renewed pending changed := by
    rw [bytesWritten_concat]
    exact List.append_ne_nil_of_left_ne_nil (h.renewed pending changed) _
  ended := by
    rintro ⟨moment, mem, ends⟩
    rcases List.mem_append.1 mem with old | new
    · exact h.ended ⟨moment, old, ends⟩
    · cases List.mem_singleton.1 new
      exact ends.elim
  closed := h.closed

/-- The deadline is set after a look at the clock, or cleared. -/
theorem set (h : Turning s₀ turn past s) {stallDeadline : Option Instant}
    (explained : ∀ deadline, stallDeadline = some deadline → Sets turn past deadline)
    (written : s₀.output.isPending = true → bytesWritten past ≠ []) :
    Turning s₀ turn past { s with stallDeadline } where
  valid := h.valid
  queue := h.queue
  each := h.each
  deadline deadline same := .inr (explained deadline same)
  renewed pending _ := written pending
  ended := h.ended
  closed := h.closed

theorem before_concat {instant deadline : Instant} (h : instant < deadline) :
    Before (past ++ [⟨s, .observed instant⟩]) deadline := ⟨past, _, instant, rfl, rfl, h⟩

theorem sets_concat {instant deadline : Instant} (h : turn.deadlineFrom instant = some deadline) :
    Sets turn (past ++ [⟨s, .observed instant⟩]) deadline := by
  unfold PumpTurn.deadlineFrom at h
  split at h
  · cases h
  · cases h
    exact ⟨_, List.mem_append_right _ (List.mem_singleton_self _), instant, rfl, rfl⟩

theorem bytesWritten_ne_nil (some_taken : 0 < turn.write.count s.output.remainingBytes) :
    bytesWritten (past ++ [⟨s, .write turn.write⟩]) ≠ [] := by
  rw [bytesWritten_concat]
  refine List.append_ne_nil_of_right_ne_nil _ ?_
  have fits := PendingTerminalOutput.WriteReply.count_le s.output.remainingBytes turn.write
  intro empty
  have length := congrArg List.length empty
  simp only [bytesWritten, List.flatMap_cons, List.flatMap_nil, List.append_nil, List.length_take,
    List.length_nil] at length
  omega

/-- The second half of a turn. -/
theorem writeOnce (h : Turning s₀ turn past s) :
    Turning s₀ turn (s.writeOnce turn past).moments (s.writeOnce turn past).pump := by
  unfold OutputPump.writeOnce
  rcases due : s.stallDeadline with _ | deadline
  · exact h
  · dsimp only
    have looked := h.observe turn.observedBeforeWrite
    by_cases late : deadline ≤ turn.observedBeforeWrite ∨ turn.outerDeadline ≤ turn.observedBeforeWrite
    · rw [if_pos late]
      exact looked
    · rw [if_neg late]
      obtain ⟨stalled, outer⟩ := not_or.1 late
      rcases wrote : s.output.tryWriteTo turn.write with ⟨result, output⟩
      have written := looked.write (before_concat (not_le.1 outer)) due
        (before_concat (not_le.1 stalled)) wrote
      rw [due] at written
      obtain ⟨-, -, report⟩ := h.valid.tryWriteTo wrote
      rcases result with _ | _ | ⟨count, remaining⟩ | _
      · exact written
      · exact written.set (by rintro _ ⟨⟩) fun _ => bytesWritten_ne_nil report.1
      · have looked_again := written.observe turn.observedAfterWrite
        dsimp only
        rcases next : turn.deadlineFrom turn.observedAfterWrite with _ | renewed
        · exact looked_again
        · refine looked_again.set ?_ fun _ => ?_
          · rintro _ ⟨⟩
            exact sets_concat next
          · rw [bytesWritten_concat]
            exact List.append_ne_nil_of_left_ne_nil (bytesWritten_ne_nil report.1) _
      · exact written

end Turning

namespace OutputPump

variable {s : OutputPump}

/-- What a turn comes to. -/
theorem turning (valid : s.output.Valid) (turn : PumpTurn) :
    Turning s turn (s.pumpOutputStateOnce turn).moments (s.pumpOutputStateOnce turn).pump := by
  have looked : Turning s turn [⟨s, .observed turn.observed⟩] s := (Turning.start valid).observe turn.observed
  unfold pumpOutputStateOnce
  dsimp only
  by_cases pending : s.output.isPending = true
  · rw [if_pos pending]
    rcases s.stallDeadline with _ | deadline
    · exact looked
    · dsimp only
      by_cases late : deadline ≤ turn.observed ∨ turn.outerDeadline ≤ turn.observed
      · rw [if_pos late]
        exact looked
      · rw [if_neg late]
        exact looked.writeOnce
  · rw [if_neg pending]
    by_cases late : turn.outerDeadline ≤ turn.observed
    · rw [if_pos late]
      exact looked
    · rw [if_neg late]
      by_cases closed : s.outputClosed = true
      · rw [if_pos closed]
        exact looked
      · rw [if_neg closed]
        have idle := Bool.eq_false_of_not_eq_true pending
        have opened := Bool.eq_false_of_not_eq_true closed
        rcases delivered : s.output.readFrom turn.read with ⟨result, output⟩
        have read := looked.read rfl idle opened rfl (not_le.1 late) delivered
        have goes : result ≠ some .endOfStream → (PumpEvent.read turn.read).ends →
            s.outputClosed = true := by
          intro other ends
          have found := s.output.readFrom_ends idle ends
          rw [delivered] at found
          exact absurd found other
        rcases result with _ | _ | _ | _
        · exact read s.outputClosed (goes (by simp))
        · have loaded := (read s.outputClosed (goes (by simp))).observe turn.observedAfterRead
          dsimp only
          rcases next : turn.deadlineFrom turn.observedAfterRead with _ | fixed
          · exact loaded
          · have explained : ∀ deadline, some fixed = some deadline → Sets turn
                ([⟨s, .observed turn.observed⟩] ++ [⟨s, .read turn.read⟩] ++
                  [⟨{ s with output }, .observed turn.observedAfterRead⟩]) deadline := by
              rintro _ ⟨⟩
              exact Turning.sets_concat next
            have set := loaded.set explained fun waiting => absurd waiting pending
            dsimp only
            split
            · exact set
            · exact set.writeOnce
        · exact read true fun _ => rfl
        · exact read s.outputClosed (goes (by simp))

end OutputPump

/-! ## Runs -/

/-- A turn of the pump, and where it leaves the pump. -/
def pumpTurn (s : OutputPump) (turn : PumpTurn) : PumpStep × OutputPump :=
  (s.pumpOutputStateOnce turn, (s.pumpOutputStateOnce turn).pump)

/-- The state of the pump after some turns. -/
def pumpAfter (turns : List PumpTurn) : OutputPump := Machine.final pumpTurn .new turns

/-- Everything that some turns did. -/
def pumpCalls (turns : List PumpTurn) : List PumpMoment :=
  (Machine.history pumpTurn .new turns).flatMap fun step => step.output.moments

/-- The end of the stream was seen. -/
def SawEnd (past : List PumpMoment) : Prop := ∃ moment ∈ past, moment.event.ends

/-- The pump is a queue: what was read and not yet written is what is pending. -/
structure PumpMoment.Queues (past : List PumpMoment) (moment : PumpMoment) : Prop where
  queue : bytesRead past = bytesWritten past ++ moment.pump.output.remainingBytes
  read : ∀ reply, moment.event = .read reply →
    moment.pump.output.isPending = false ∧ bytesRead past = bytesWritten past ∧ ¬SawEnd past

structure Pumped (past : List PumpMoment) (s : OutputPump) : Prop where
  valid : s.output.Valid
  queue : bytesRead past = bytesWritten past ++ s.output.remainingBytes
  ended : SawEnd past → s.outputClosed = true
  each : Lists.Each PumpMoment.Queues past

theorem bytesRead_append (past later : List PumpMoment) :
    bytesRead (past ++ later) = bytesRead past ++ bytesRead later := by
  simp [bytesRead]

theorem bytesWritten_append (past later : List PumpMoment) :
    bytesWritten (past ++ later) = bytesWritten past ++ bytesWritten later := by
  simp [bytesWritten]

/-- What is pending at the start of a turn joins what was read before with what is read in the turn. -/
theorem queue_append {past later : List PumpMoment} {start rest : List UInt8}
    (before : bytesRead past = bytesWritten past ++ start)
    (within : start ++ bytesRead later = bytesWritten later ++ rest) :
    bytesRead (past ++ later) = bytesWritten (past ++ later) ++ rest := by
  rw [bytesRead_append, bytesWritten_append, before, List.append_assoc, within, List.append_assoc]

theorem Pumped.turn {past : List PumpMoment} {s : OutputPump} (h : Pumped past s) (turn : PumpTurn) :
    Pumped (past ++ (s.pumpOutputStateOnce turn).moments) (s.pumpOutputStateOnce turn).pump := by
  have turning := s.turning h.valid turn
  refine ⟨turning.valid, queue_append h.queue turning.queue, ?_, Lists.each_append.2 ⟨h.each, ?_⟩⟩
  · rintro ⟨moment, mem, ends⟩
    rcases List.mem_append.1 mem with old | new
    · exact turning.closed (h.ended ⟨moment, old, ends⟩)
    · exact turning.ended ⟨moment, new, ends⟩
  · intro within moment after same
    have proper := turning.each within moment after same
    refine ⟨queue_append h.queue proper.queue, fun reply reads => ?_⟩
    obtain ⟨begun, idle, opened, instant, rfl, -⟩ := proper.read reply reads
    have empty := h.valid.remainingBytes_eq_nil_iff.2 idle
    have queue := h.queue
    rw [empty, List.append_nil] at queue
    refine ⟨begun ▸ idle, ?_, ?_⟩
    · rw [bytesRead_append, bytesWritten_append, queue]
      rfl
    · rintro ⟨moment, mem, ends⟩
      rcases List.mem_append.1 mem with old | new
      · have closed := h.ended ⟨moment, old, ends⟩
        rw [opened] at closed
        cases closed
      · cases List.mem_singleton.1 new
        exact ends.elim

theorem pumped (turns : List PumpTurn) : Pumped (pumpCalls turns) (pumpAfter turns) := by
  induction turns using List.reverseRecOn with
  | nil =>
    refine ⟨PendingTerminalOutput.valid_new, rfl, ?_, .nil⟩
    rintro ⟨moment, mem, -⟩
    cases mem
  | append_singleton turns turn ih =>
    have calls : pumpCalls (turns ++ [turn]) =
        pumpCalls turns ++ ((pumpAfter turns).pumpOutputStateOnce turn).moments := by
      unfold pumpCalls
      rw [Machine.history_concat, List.flatMap_append, List.flatMap_cons, List.flatMap_nil, List.append_nil]
      rfl
    have after : pumpAfter (turns ++ [turn]) = ((pumpAfter turns).pumpOutputStateOnce turn).pump :=
      Machine.final_concat turns turn
    rw [calls, after]
    exact ih.turn turn

/-- In every run of the pump the bytes written are the first of the bytes read, and the rest is what is
pending; a read is made only when nothing is pending and the stream has not ended. A turn sets a deadline by
its own clock and never after its outer deadline, renews one only when it has written, and looks at the
clock before every call: the outer deadline has not come then, nor has the stall deadline of a write. -/
theorem output_pump_queue (turns : List PumpTurn) :
    (∀ before moment after, pumpCalls turns = before ++ moment :: after →
      bytesRead before = bytesWritten before ++ moment.pump.output.remainingBytes ∧
        ∀ reply, moment.event = .read reply →
          moment.pump.output.isPending = false ∧ ¬SawEnd before) ∧
      bytesRead (pumpCalls turns) =
        bytesWritten (pumpCalls turns) ++ (pumpAfter turns).output.remainingBytes ∧
      ∀ turn : PumpTurn,
        (∀ deadline, ((pumpAfter turns).pumpOutputStateOnce turn).pump.stallDeadline = some deadline →
          (pumpAfter turns).stallDeadline = some deadline ∨
            Sets turn ((pumpAfter turns).pumpOutputStateOnce turn).moments deadline) ∧
        ((pumpAfter turns).output.isPending = true →
          ((pumpAfter turns).pumpOutputStateOnce turn).pump.stallDeadline ≠
            (pumpAfter turns).stallDeadline →
          bytesWritten ((pumpAfter turns).pumpOutputStateOnce turn).moments ≠ []) ∧
        ∀ before moment after,
          ((pumpAfter turns).pumpOutputStateOnce turn).moments = before ++ moment :: after →
          (∀ deadline, moment.pump.stallDeadline = some deadline →
            (pumpAfter turns).stallDeadline = some deadline ∨ Sets turn before deadline) ∧
          (∀ reply, moment.event = .read reply → Before before turn.outerDeadline) ∧
          ∀ reply, moment.event = .write reply → Before before turn.outerDeadline ∧
            ∃ deadline, moment.pump.stallDeadline = some deadline ∧ Before before deadline := by
  have run := pumped turns
  refine ⟨fun before moment after same => ?_, run.queue, fun turn => ?_⟩
  · have queues := run.each before moment after same
    refine ⟨queues.queue, fun reply reads => ?_⟩
    obtain ⟨idle, -, running⟩ := queues.read reply reads
    exact ⟨idle, running⟩
  · have turning := (pumpAfter turns).turning run.valid turn
    refine ⟨turning.deadline, turning.renewed, fun before moment after same => ?_⟩
    have proper := turning.each before moment after same
    refine ⟨proper.deadline, fun reply reads => ?_, proper.write⟩
    obtain ⟨-, -, -, instant, rfl, early⟩ := proper.read reply reads
    exact ⟨[], _, instant, rfl, rfl, early⟩

end Calcifer.Supervisor
