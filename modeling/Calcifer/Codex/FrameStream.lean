import Calcifer.Codex.Frames

/-!
# A relayed stream in pieces

What an inspector makes of a stream does not depend on how the stream is cut (`ProtocolInspector.feed_uncut`).
No byte is looked for that is not there, and the buffers stay within their bounds, whatever is fed.
-/

namespace Calcifer

open Checks Incremental

namespace Readiness

namespace FrameDecoder

variable {inspect : Inspect} {d : FrameDecoder}

theorem extend_extend (first second : List UInt8) :
    (d.extend first).extend second = d.extend (first ++ second) := by
  simp [extend]

theorem extend_nil : d.extend [] = d := by
  simp [extend]

theorem Turn.extend_failed {next : FrameDecoder} {fault : Incremental.Fault ReadinessProxyError} (bytes : List UInt8)
    (h : Turn inspect d (.failed fault next)) :
    Turn inspect (d.extend bytes) (.failed fault (next.extend bytes)) := by
  have same := (steady_decodeFrameHeader d.direction).append d.buffer bytes (Nat.zero_le _)
  cases h with
  | broken header => exact .broken ((same (by simp [header])).trans header)
  | refused header refused => exact .refused ((same (by simp [header])).trans header) refused
  | failed header admitted whole consumed =>
    refine .failed ((same (by simp [header])).trans header) admitted ?_ ?_
    · exact whole.trans (by simp [FrameDecoder.extend])
    · rw [takeFrame_extend bytes whole, consumed]

theorem Turn.extend_taken {next : FrameDecoder} {events : List ObservedEvent} (bytes : List UInt8)
    (h : Turn inspect d (.taken next events)) :
    Turn inspect (d.extend bytes) (.taken (next.extend bytes) events) := by
  have same := (steady_decodeFrameHeader d.direction).append d.buffer bytes (Nat.zero_le _)
  cases h with
  | taken header admitted whole consumed =>
    refine .taken ((same (by simp [header])).trans header) admitted ?_ ?_
    · exact whole.trans (by simp [FrameDecoder.extend])
    · rw [takeFrame_extend bytes whole, consumed]

theorem turn_of_eq {r : Round ReadinessProxyError FrameDecoder ObservedEvent}
    (h : d.consumeBufferedFrame inspect = r) : Turn inspect d r := by
  rw [← h]
  exact turn

theorem frameLoop_prompt (inspect : Inspect) : (frameLoop inspect).Prompt where
  push_push _ first second := extend_extend first second
  failed bytes h := ((turn_of_eq h).extend_failed bytes).eq
  taken bytes h := ((turn_of_eq h).extend_taken bytes).eq

/-- The decoder only waits while the buffer has room. -/
theorem Turn.room (h : Turn inspect d .waiting) : d.buffer.length < maxFrameBufferBytes := by
  unfold maxFrameBufferBytes
  cases h with
  | short header =>
    have waits := (steady_decodeFrameHeader d.direction).waits d.buffer (Nat.zero_le _) header
    omega
  | partly header admitted partly =>
    have bounds := decodeFrameHeader_yields _ _ _ header
    omega

theorem room_of_consume {events : List ObservedEvent} {next : FrameDecoder}
    (h : d.consumeBufferedFrames inspect = (.ok events, next)) :
    next.buffer.length < maxFrameBufferBytes :=
  (turn_of_eq (Decoder.round_of_drain_ok h)).room

/-- Feeding drains the buffer with the bytes behind it. -/
theorem feed_agrees (inspect : Inspect) (d : FrameDecoder) (bytes : List UInt8) :
    Agree (d.feed inspect bytes) ((frameLoop inspect).drain (d.extend bytes)) := by
  induction size : bytes.length using Nat.strong_induction_on generalizing d bytes with
  | _ n ih =>
    rw [feed]
    rcases drained : d.consumeBufferedFrames inspect with ⟨fault | events, next⟩
    · have still := (frameLoop_prompt inspect).drain_push_of_error bytes drained
      exact Agree.error.trans (.of_eq still.symm)
    · have still := (frameLoop_prompt inspect).drain_push_of_ok bytes drained
      refine Agree.trans ?_ (.of_eq still.symm)
      dsimp only
      by_cases ended : bytes = []
      · have round : (frameLoop inspect).round next = .waiting := Decoder.round_of_drain_ok drained
        subst ended
        show Agree _ (after events ((frameLoop inspect).drain (next.extend [])))
        rw [if_pos rfl, extend_nil, Decoder.drain_waiting round]
        exact .of_eq (by simp [after, Except.map])
      · have room := room_of_consume drained
        have free : ¬next.available = 0 := by
          unfold available
          omega
        rw [if_neg ended, if_neg (by omega), dif_neg free]
        have some_left := List.length_pos_iff.2 ended
        rw [split_eq_ok (Nat.min_le_left _ _)]
        dsimp only
        refine Agree.after ?_ events
        refine (ih _ ?_ _ _ rfl).trans (.of_eq ?_)
        · rw [List.length_drop]
          omega
        · rw [extend_extend, List.take_append_drop]
          rfl

theorem feed_uncut (inspect : Inspect) : Uncut (feed inspect) :=
  (frameLoop_prompt inspect).uncut (feed_agrees inspect)

theorem feed_inRange (inspect : Inspect) (d : FrameDecoder) (bytes : List UInt8) :
    (d.feed inspect bytes).1 ≠ .error .outOfRange := by
  rw [(feed_agrees inspect d bytes).1]
  intro failed
  have named : Incremental.Fault.outOfRange ≠ (.outOfRange : Incremental.Fault ReadinessProxyError) := by
    refine Decoder.drain_fault ?_ failed
    intro d fault next round
    cases turn_of_eq round with
    | broken header => simp
    | refused header refused => simp
    | failed header admitted whole consumed => simp
  exact named rfl

/-! ### The decoders of a call -/

/-- The decoders that a call of `feed` goes through, the one it ends with among them. -/
inductive Passes (inspect : Inspect) : FrameDecoder → List UInt8 → FrameDecoder → Prop
  | here {d : FrameDecoder} {bytes : List UInt8} : Passes inspect d bytes d
  | taken {d next last : FrameDecoder} {bytes : List UInt8} {events : List ObservedEvent}
      (round : d.consumeBufferedFrame inspect = .taken next events)
      (rest : Passes inspect next bytes last) : Passes inspect d bytes last
  | failed {d next : FrameDecoder} {bytes : List UInt8} {fault : Incremental.Fault ReadinessProxyError}
      (round : d.consumeBufferedFrame inspect = .failed fault next) : Passes inspect d bytes next
  | filled {d last : FrameDecoder} {bytes front behind : List UInt8}
      (round : d.consumeBufferedFrame inspect = .waiting)
      (cut : split bytes (min bytes.length d.available) =
        (.ok (front, behind) : Except (Incremental.Fault ReadinessProxyError) _))
      (rest : Passes inspect (d.extend front) behind last) : Passes inspect d bytes last

/-- The buffer of a decoder is within its bound. -/
def Fits (d : FrameDecoder) : Prop := d.buffer.length ≤ maxFrameBufferBytes

theorem fits_of_round {d next : FrameDecoder} (fits : d.Fits) :
    (∀ events, d.consumeBufferedFrame inspect = .taken next events → next.Fits) ∧
      ∀ fault, d.consumeBufferedFrame inspect = .failed fault next → next.Fits := by
  unfold Fits at *
  constructor
  · intro events round
    have shrinks := (turn_of_eq round).shrinks
    omega
  · intro fault round
    cases turn_of_eq round with
    | broken header => exact fits
    | refused header refused => exact fits
    | failed header admitted whole consumed =>
      have left := takeFrame_buffer inspect d ‹_›
      rw [consumed] at left
      rw [left, List.length_drop]
      omega

theorem Passes.fits {bytes : List UInt8} {last : FrameDecoder} (h : Passes inspect d bytes last)
    (fits : d.Fits) : last.Fits := by
  induction h with
  | here => exact fits
  | taken round rest ih => exact ih ((fits_of_round fits).1 _ round)
  | failed round => exact (fits_of_round fits).2 _ round
  | filled round cut rest ih =>
    apply ih
    obtain ⟨-, rfl, -⟩ := of_split_eq_ok cut
    unfold Fits at fits ⊢
    unfold extend available
    rw [List.length_append, List.length_take]
    omega

theorem Passes.of_consume {bytes : List UInt8} {events : List ObservedEvent} {next last : FrameDecoder}
    (rest : Passes inspect next bytes last) :
    d.consumeBufferedFrames inspect = (.ok events, next) → Passes inspect d bytes last := by
  unfold consumeBufferedFrames
  induction d using (frameLoop inspect).drain_induction generalizing events with
  | waits d round =>
    rw [Decoder.drain_waiting round]
    rintro ⟨⟩
    exact rest
  | fails d fault next round =>
    rw [Decoder.drain_failed round]
    rintro ⟨⟩
  | takes d next first round ih =>
    rw [Decoder.drain_taken round, after_eq_ok]
    rintro ⟨more, drained, -⟩
    exact .taken round (ih drained)

theorem passes_of_failed {bytes : List UInt8} {fault : Incremental.Fault ReadinessProxyError} {next : FrameDecoder} :
    d.consumeBufferedFrames inspect = (.error fault, next) → Passes inspect d bytes next := by
  unfold consumeBufferedFrames
  induction d using (frameLoop inspect).drain_induction with
  | waits d round =>
    rw [Decoder.drain_waiting round]
    rintro ⟨⟩
  | fails d fault' next round =>
    rw [Decoder.drain_failed round]
    rintro ⟨⟩
    exact .failed round
  | takes d middle first round ih =>
    rw [Decoder.drain_taken round]
    rcases drained : (frameLoop inspect).drain middle with ⟨fault' | events, final⟩
    · rintro ⟨⟩
      exact .taken round (ih drained)
    · rintro ⟨⟩

theorem feed_passes (inspect : Inspect) (d : FrameDecoder) (bytes : List UInt8) :
    Passes inspect d bytes (d.feed inspect bytes).2 := by
  induction size : bytes.length using Nat.strong_induction_on generalizing d bytes with
  | _ n ih =>
    rw [feed]
    rcases drained : d.consumeBufferedFrames inspect with ⟨fault | events, next⟩
    · exact passes_of_failed drained
    · refine Passes.of_consume ?_ drained
      dsimp only
      by_cases ended : bytes = []
      · rw [if_pos ended]
        exact .here
      · have room := room_of_consume drained
        have free : ¬next.available = 0 := by
          unfold available
          omega
        have cut := @split_eq_ok ReadinessProxyError _ bytes _
          (Nat.min_le_left bytes.length next.available)
        have some_left := List.length_pos_iff.2 ended
        rw [if_neg ended, if_neg (by omega), dif_neg free, cut]
        refine .filled (Decoder.round_of_drain_ok drained) cut (ih _ ?_ _ _ rfl)
        rw [List.length_drop]
        omega

end FrameDecoder

/-! ## The inspector -/

theorem findHeaderEnd_eq_some {bytes : List UInt8} {stop : ℕ} :
    findHeaderEnd bytes = some stop ↔
      4 ≤ stop ∧ stop ≤ bytes.length ∧ (bytes.drop (stop - 4)).take 4 = headerEnd ∧
        ∀ i, i + 4 < stop → (bytes.drop i).take 4 ≠ headerEnd := by
  unfold findHeaderEnd
  rw [Option.map_eq_some_iff]
  simp only [List.find?_range_eq_some, List.mem_range, decide_eq_true_eq, Bool.not_eq_true',
    decide_eq_false_iff_not]
  constructor
  · rintro ⟨position, ⟨found, inside, first⟩, rfl⟩
    refine ⟨by omega, by omega, ?_, fun i before => first i (by omega)⟩
    rw [Nat.add_sub_cancel]
    exact found
  · rintro ⟨large, inside, found, first⟩
    exact ⟨stop - 4, ⟨found, by omega, fun i before => first i (by omega)⟩, by omega⟩

theorem window_append {bytes extra : List UInt8} {i : ℕ} (inside : i + 4 ≤ bytes.length) :
    ((bytes ++ extra).drop i).take 4 = (bytes.drop i).take 4 := by
  rw [List.drop_append_of_le_length (by omega), List.take_append_of_le_length]
  rw [List.length_drop]
  omega

/-- The first header end stays where it is when bytes arrive. -/
theorem findHeaderEnd_append {bytes : List UInt8} {stop : ℕ} (extra : List UInt8)
    (h : findHeaderEnd bytes = some stop) : findHeaderEnd (bytes ++ extra) = some stop := by
  rw [findHeaderEnd_eq_some] at h ⊢
  obtain ⟨large, inside, found, first⟩ := h
  refine ⟨large, ?_, ?_, fun i before => ?_⟩
  · rw [List.length_append]
    omega
  · rw [window_append (by omega)]
    exact found
  · rw [window_append (by omega)]
    exact first i before

namespace ProtocolInspector

variable {inspect : Inspect} {s : ProtocolInspector}

/-- What the inspector keeps of the head of the stream. -/
def kept (s : ProtocolInspector) (bytes : List UInt8) : List UInt8 :=
  s.handshake ++ bytes.take (min bytes.length (maxHandshakeBytes - s.handshake.length))

/-- The inspector behind the handshake. -/
def opened (s : ProtocolInspector) : ProtocolInspector :=
  { s with handshake := [], handshakeComplete := true }

theorem feed_complete (inspect : Inspect) (complete : s.handshakeComplete = true) (bytes : List UInt8) :
    s.feed inspect bytes = s.feedFrames inspect [bytes] := by
  unfold feed
  rw [if_pos complete]

section Handshake

variable {bytes : List UInt8} (unread : s.handshakeComplete = false)

include unread

theorem feed_unfinished (unfinished : findHeaderEnd (s.kept bytes) = none) :
    s.feed inspect bytes =
      if min bytes.length (maxHandshakeBytes - s.handshake.length) ≠ bytes.length ∨
          (s.kept bytes).length = maxHandshakeBytes then
        (.error (.error .handshakeTooLarge), { s with handshake := s.kept bytes })
      else (.ok [], { s with handshake := s.kept bytes }) := by
  unfold feed
  rw [unread, if_neg Bool.false_ne_true]
  dsimp only
  rw [split_eq_ok (Nat.min_le_left _ _)]
  unfold kept at unfinished
  dsimp only
  rw [unfinished]
  rfl

variable {stop : ℕ} (found : findHeaderEnd (s.kept bytes) = some stop)

include found

theorem feed_tooLarge (large : maxHandshakeBytes < stop) :
    s.feed inspect bytes = (.error (.error .handshakeTooLarge), { s with handshake := s.kept bytes }) := by
  unfold feed
  rw [unread, if_neg Bool.false_ne_true]
  dsimp only
  rw [split_eq_ok (Nat.min_le_left _ _)]
  unfold kept at found
  dsimp only
  rw [found]
  exact if_pos large

theorem feed_refused (small : ¬maxHandshakeBytes < stop) {error : ReadinessProxyError}
    (refused : validateHandshake ((s.kept bytes).take stop) s.direction = .error error) :
    s.feed inspect bytes = (.error (.error error), { s with handshake := s.kept bytes }) := by
  obtain ⟨-, inside, -⟩ := findHeaderEnd_eq_some.1 found
  unfold feed
  rw [unread, if_neg Bool.false_ne_true]
  dsimp only
  rw [split_eq_ok (Nat.min_le_left _ _)]
  unfold kept at found inside refused
  dsimp only
  rw [found]
  dsimp only
  rw [if_neg small, split_eq_ok inside]
  dsimp only
  rw [refused]
  rfl

theorem feed_opened (small : ¬maxHandshakeBytes < stop)
    (valid : validateHandshake ((s.kept bytes).take stop) s.direction = .ok ()) :
    s.feed inspect bytes = after [.handshake s.direction] (s.opened.feedFrames inspect
      [(s.kept bytes).drop stop, bytes.drop (min bytes.length (maxHandshakeBytes - s.handshake.length))]) := by
  obtain ⟨-, inside, -⟩ := findHeaderEnd_eq_some.1 found
  unfold feed
  rw [unread, if_neg Bool.false_ne_true]
  dsimp only
  rw [split_eq_ok (Nat.min_le_left _ _)]
  unfold kept at found inside valid ⊢
  dsimp only
  rw [found]
  dsimp only
  rw [if_neg small, split_eq_ok inside]
  dsimp only
  rw [valid]
  rfl

/-- Behind the handshake the frames get the rest of the stream. -/
theorem feed_finished (small : ¬maxHandshakeBytes < stop)
    (valid : validateHandshake ((s.kept bytes).take stop) s.direction = .ok ()) :
    Agree (s.feed inspect bytes)
      (after [.handshake s.direction] (s.opened.feed inspect ((s.handshake ++ bytes).drop stop))) := by
  obtain ⟨-, inside, -⟩ := findHeaderEnd_eq_some.1 found
  have whole : (s.kept bytes).drop stop ++
      bytes.drop (min bytes.length (maxHandshakeBytes - s.handshake.length)) =
        (s.handshake ++ bytes).drop stop := by
    rw [← List.drop_append_of_le_length inside, kept, List.append_assoc, List.take_append_drop]
  rw [feed_opened unread found small valid, feed_complete inspect (s := s.opened) rfl, ← whole]
  refine Agree.after ?_ _
  unfold feedFrames
  dsimp only
  rw [feedAll_singleton]
  exact ((FrameDecoder.feed_uncut inspect s.frames _ _).map fun frames => { s.opened with frames }).symm

end Handshake

theorem feedAll_complete (inspect : Inspect) (complete : s.handshakeComplete = true)
    (chunks : List (List UInt8)) : feedAll (feed inspect) s chunks = s.feedFrames inspect chunks := by
  induction chunks generalizing s with
  | nil => rfl
  | cons chunk chunks ih =>
    unfold feedFrames
    rw [feedAll, feed_complete inspect complete, feedAll]
    unfold feedFrames
    dsimp only
    rw [feedAll_singleton]
    rcases s.frames.feed inspect chunk with ⟨fault | events, next⟩
    · rfl
    · dsimp only
      have rest : feedAll (feed inspect) { s with frames := next } chunks = _ := ih complete
      rw [rest]
      rfl

theorem feed_uncut_complete (inspect : Inspect) (complete : s.handshakeComplete = true)
    (first second : List UInt8) :
    Agree (s.feed inspect (first ++ second)) (feedAll (feed inspect) s [first, second]) := by
  rw [feedAll_complete inspect complete, feed_complete inspect complete]
  unfold feedFrames
  dsimp only
  rw [feedAll_singleton]
  exact (FrameDecoder.feed_uncut inspect s.frames first second).map fun frames => { s with frames }

theorem kept_eq (s : ProtocolInspector) (bytes : List UInt8) :
    s.kept bytes = s.handshake ++ bytes.take (maxHandshakeBytes - s.handshake.length) := by
  unfold kept
  rw [List.append_cancel_left_eq, List.take_eq_take_iff]
  omega

/-- More bytes are kept behind those that are kept before. -/
theorem kept_append (s : ProtocolInspector) (first second : List UInt8) :
    ∃ extra, s.kept (first ++ second) = s.kept first ++ extra := by
  rw [kept_eq, kept_eq, List.take_append, ← List.append_assoc]
  exact ⟨_, rfl⟩

/-- A chunk that is kept whole might as well have come with the next one. -/
theorem feed_kept (unread : s.handshakeComplete = false) {first : List UInt8}
    (room : first.length ≤ maxHandshakeBytes - s.handshake.length) (second : List UInt8) :
    s.feed inspect (first ++ second) =
      ({ s with handshake := s.handshake ++ first } : ProtocolInspector).feed inspect second := by
  have whole : (first ++ second).length = first.length + second.length := List.length_append
  have head : (s.handshake ++ first).length = s.handshake.length + first.length := List.length_append
  have stored : min (first ++ second).length (maxHandshakeBytes - s.handshake.length) =
      first.length + min second.length (maxHandshakeBytes - (s.handshake ++ first).length) := by omega
  have front : s.handshake ++ (first ++ second).take
      (first.length + min second.length (maxHandshakeBytes - (s.handshake ++ first).length)) =
        s.handshake ++ first ++ second.take
          (min second.length (maxHandshakeBytes - (s.handshake ++ first).length)) := by
    rw [List.take_length_add_append, List.append_assoc]
  have cut : first.length + min second.length (maxHandshakeBytes - (s.handshake ++ first).length) ≠
      (first ++ second).length ↔
        min second.length (maxHandshakeBytes - (s.handshake ++ first).length) ≠ second.length := by omega
  have fits : first.length + min second.length (maxHandshakeBytes - (s.handshake ++ first).length) ≤
      (first ++ second).length := by omega
  unfold feed
  rw [unread, if_neg Bool.false_ne_true]
  dsimp only
  rw [stored, split_eq_ok fits, split_eq_ok (Nat.min_le_left _ _), if_neg Bool.false_ne_true]
  dsimp only
  rw [front, List.drop_length_add_append]
  simp only [cut]

/-- What the inspector makes of a stream does not depend on how it is cut. -/
theorem feed_uncut (inspect : Inspect) : Uncut (feed inspect) := by
  intro s first second
  by_cases complete : s.handshakeComplete = true
  · exact feed_uncut_complete inspect complete first second
  · have unread := Bool.eq_false_of_not_eq_true complete
    obtain ⟨extra, longer⟩ := s.kept_append first second
    rcases found : findHeaderEnd (s.kept first) with _ | stop
    · have size := congrArg List.length (s.kept_eq first)
      rw [List.length_append, List.length_take] at size
      have fed : s.feed inspect first = _ := feed_unfinished unread found
      by_cases full : min first.length (maxHandshakeBytes - s.handshake.length) ≠ first.length ∨
          (s.kept first).length = maxHandshakeBytes
      · -- the head is full: no byte of the second chunk is kept
        have stop : maxHandshakeBytes - s.handshake.length ≤ first.length := by omega
        have same : s.kept (first ++ second) = s.kept first := by
          rw [kept_eq, kept_eq, List.take_append_of_le_length stop]
        have still : findHeaderEnd (s.kept (first ++ second)) = none := by rw [same, found]
        rw [if_pos full] at fed
        rw [feedAll_cons_error _ _ fed, feed_unfinished unread still, same, if_pos]
        · exact .error
        · rw [List.length_append]
          omega
      · have all : s.kept first = s.handshake ++ first := by
          rw [kept_eq, List.take_of_length_le (by omega)]
        rw [if_neg full] at fed
        rw [feedAll_cons_ok _ _ fed, feedAll_singleton, after_nil, all]
        exact .of_eq (feed_kept unread (by omega) second)
    · have still : findHeaderEnd (s.kept (first ++ second)) = some stop := by
        rw [longer]
        exact findHeaderEnd_append extra found
      obtain ⟨-, inside, -⟩ := findHeaderEnd_eq_some.1 found
      have same : (s.kept (first ++ second)).take stop = (s.kept first).take stop := by
        rw [longer, List.take_append_of_le_length inside]
      by_cases large : maxHandshakeBytes < stop
      · rw [feed_tooLarge unread still large, feedAll_cons_error _ _ (feed_tooLarge unread found large)]
        exact .error
      · rcases valid : validateHandshake ((s.kept first).take stop) s.direction with error | ⟨⟨⟩⟩
        · have refused := valid
          rw [← same] at refused
          rw [feed_refused unread still large refused,
            feedAll_cons_error _ _ (feed_refused unread found large valid)]
          exact .error
        · have accepted := valid
          rw [← same] at accepted
          have within : stop ≤ (s.handshake ++ first).length := by
            refine inside.trans ?_
            rw [kept_eq, List.length_append, List.length_append, List.length_take]
            omega
          refine (feed_finished unread still large accepted).trans ?_
          refine Agree.trans ?_ ((feed_finished unread found large valid).feedAll_cons _ [second]).symm
          rw [← List.append_assoc, List.drop_append_of_le_length within]
          exact (feed_uncut_complete inspect rfl _ second).after _

theorem feedFrames_inRange (inspect : Inspect) (s : ProtocolInspector) (bytes : List UInt8) :
    (s.feedFrames inspect [bytes]).1 ≠ .error .outOfRange := by
  unfold feedFrames
  rw [feedAll_singleton]
  exact FrameDecoder.feed_inRange inspect s.frames bytes

/-- No index and no slice of the inspection is out of its range. -/
theorem feed_inRange (inspect : Inspect) (s : ProtocolInspector) (bytes : List UInt8) :
    (s.feed inspect bytes).1 ≠ .error .outOfRange := by
  by_cases complete : s.handshakeComplete = true
  · rw [feed_complete inspect complete]
    exact feedFrames_inRange inspect s bytes
  · have unread := Bool.eq_false_of_not_eq_true complete
    rcases found : findHeaderEnd (s.kept bytes) with _ | stop
    · rw [feed_unfinished unread found]
      split
      · simp
      · simp
    · by_cases large : maxHandshakeBytes < stop
      · rw [feed_tooLarge unread found large]
        simp
      · rcases valid : validateHandshake ((s.kept bytes).take stop) s.direction with error | ⟨⟨⟩⟩
        · rw [feed_refused unread found large valid]
          simp
        · rw [(feed_finished unread found large valid).1, Ne, after_fst_eq_error,
            feed_complete inspect (s := s.opened) rfl]
          exact feedFrames_inRange inspect s.opened _

/-! ### Bounds -/

/-- The inspectors that come out of any calls of `feed`, those that fail among them. -/
inductive Reachable (inspect : Inspect) : ProtocolInspector → Prop
  | new (direction : Direction) : Reachable inspect (.new direction)
  | feed {s : ProtocolInspector} (bytes : List UInt8) (reached : Reachable inspect s) :
      Reachable inspect (s.feed inspect bytes).2

/-- Both buffers of an inspector are within their bounds. -/
structure Bounded (s : ProtocolInspector) : Prop where
  handshake : s.handshake.length ≤ maxHandshakeBytes
  frames : s.frames.Fits

theorem Bounded.feedFrames (bounded : s.Bounded) (chunks : List (List UInt8)) :
    (s.feedFrames inspect chunks).2.Bounded where
  handshake := bounded.handshake
  frames := feedAll_keeps (FrameDecoder.feed inspect)
    (fun d bytes fits => (FrameDecoder.feed_passes inspect d bytes).fits fits) chunks bounded.frames

theorem Bounded.keep (bounded : s.Bounded) (bytes : List UInt8) :
    ({ s with handshake := s.kept bytes } : ProtocolInspector).Bounded where
  handshake := by
    have small := bounded.handshake
    show (s.kept bytes).length ≤ _
    rw [kept_eq, List.length_append, List.length_take]
    omega
  frames := bounded.frames

theorem Bounded.opened (bounded : s.Bounded) : s.opened.Bounded where
  handshake := Nat.zero_le _
  frames := bounded.frames

theorem Bounded.feed (bounded : s.Bounded) (bytes : List UInt8) : (s.feed inspect bytes).2.Bounded := by
  by_cases complete : s.handshakeComplete = true
  · rw [feed_complete inspect complete]
    exact bounded.feedFrames _
  · have unread := Bool.eq_false_of_not_eq_true complete
    rcases found : findHeaderEnd (s.kept bytes) with _ | stop
    · rw [feed_unfinished unread found]
      split
      · exact bounded.keep bytes
      · exact bounded.keep bytes
    · by_cases large : maxHandshakeBytes < stop
      · rw [feed_tooLarge unread found large]
        exact bounded.keep bytes
      · rcases valid : validateHandshake ((s.kept bytes).take stop) s.direction with error | ⟨⟨⟩⟩
        · rw [feed_refused unread found large valid]
          exact bounded.keep bytes
        · rw [feed_opened unread found large valid]
          rw [after_snd]
          exact bounded.opened.feedFrames _

theorem Reachable.bounded (h : Reachable inspect s) : s.Bounded := by
  induction h with
  | new direction => exact ⟨Nat.zero_le _, Nat.zero_le _⟩
  | feed bytes reached ih => exact ih.feed bytes

end ProtocolInspector

end Readiness

end Calcifer
