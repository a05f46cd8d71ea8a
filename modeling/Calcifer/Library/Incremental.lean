import Mathlib

/-!
# Decoding a growing buffer

A read looks at the front of a buffer: it is ready, fails, or waits for the buffer to grow. It is `Steady`
when it stays in range and no longer depends on what is appended once it does not wait.

A `Decoder` takes item after item from its buffer until it has to wait. When its rounds are steady, the
items of a stream do not depend on how the stream is cut (`drain_push_of_ok`, `drain_push_of_error`,
`Uncut.feedAll`).
-/

namespace Incremental

/-- How decoding goes wrong: with an error, or by looking at a byte that is not there. -/
inductive Fault (ε : Type) where
  | outOfRange
  | error (e : ε)
deriving DecidableEq

/-- `bytes[start..stop]`. -/
def slice {ε β : Type} (bytes : List β) (start stop : ℕ) : Except (Fault ε) (List β) :=
  if start ≤ stop ∧ stop ≤ bytes.length then .ok ((bytes.take stop).drop start)
  else .error .outOfRange

theorem slice_eq_ok {ε β : Type} {bytes : List β} {start stop : ℕ} (ordered : start ≤ stop)
    (fits : stop ≤ bytes.length) :
    slice bytes start stop = (.ok ((bytes.take stop).drop start) : Except (Fault ε) (List β)) :=
  if_pos ⟨ordered, fits⟩

/-- `bytes[..count]` and `bytes[count..]`. -/
def split {ε β : Type} (bytes : List β) (count : ℕ) : Except (Fault ε) (List β × List β) :=
  if count ≤ bytes.length then .ok (bytes.take count, bytes.drop count) else .error .outOfRange

theorem split_eq_ok {ε β : Type} {bytes : List β} {count : ℕ} (fits : count ≤ bytes.length) :
    split bytes count = (.ok (bytes.take count, bytes.drop count) :
      Except (Fault ε) (List β × List β)) :=
  if_pos fits

theorem of_split_eq_ok {ε β : Type} {bytes front rest : List β} {count : ℕ}
    (h : split bytes count = (.ok (front, rest) : Except (Fault ε) (List β × List β))) :
    count ≤ bytes.length ∧ front = bytes.take count ∧ rest = bytes.drop count := by
  unfold split at h
  split at h
  · cases h
    exact ⟨‹_›, rfl, rfl⟩
  · cases h

/-! ## Reads -/

/-- What a read makes of the bytes there are. -/
inductive Decoded (ε α : Type) where
  | more
  | broken (fault : Fault ε)
  | ready (value : α)
deriving DecidableEq

namespace Decoded

variable {ε α γ : Type}

instance : Monad (Decoded ε) where
  pure := .ready
  bind x f := match x with
    | .more => .more
    | .broken fault => .broken fault
    | .ready value => f value

@[simp] theorem more_bind (f : α → Decoded ε γ) : (.more >>= f) = .more := rfl

@[simp] theorem broken_bind (fault : Fault ε) (f : α → Decoded ε γ) :
    (.broken fault >>= f) = .broken fault := rfl

@[simp] theorem ready_bind (a : α) (f : α → Decoded ε γ) : (.ready a >>= f) = f a := rfl

theorem bind_eq_ready {x : Decoded ε α} {f : α → Decoded ε γ} {c : γ} :
    (x >>= f) = .ready c ↔ ∃ a, x = .ready a ∧ f a = .ready c := by
  cases x with
  | more => simp
  | broken fault => simp
  | ready a => simp

/-- What a read says, when it is ready. -/
def Yields (P : α → Prop) (x : Decoded ε α) : Prop := ∀ a, x = .ready a → P a

variable {P : α → Prop} {Q : γ → Prop}

theorem Yields.ready {a : α} (h : P a) : Yields P (.ready a : Decoded ε α) := by
  rintro _ ⟨⟩
  exact h

theorem Yields.more : Yields P (.more : Decoded ε α) := by
  rintro _ ⟨⟩

theorem Yields.broken (fault : Fault ε) : Yields P (.broken fault : Decoded ε α) := by
  rintro _ ⟨⟩

theorem Yields.bind {x : Decoded ε α} {f : α → Decoded ε γ} (first : Yields P x)
    (rest : ∀ a, P a → Yields Q (f a)) : Yields Q (x >>= f) := by
  intro c ready
  obtain ⟨a, said, ready⟩ := bind_eq_ready.1 ready
  exact rest a (first a said) c ready

theorem Yields.of_bind {x : Decoded ε α} {f : α → Decoded ε γ} (rest : ∀ a, Yields Q (f a)) :
    Yields Q (x >>= f) := by
  have first : Yields (fun _ => True) x := fun _ _ => trivial
  exact first.bind fun a _ => rest a

theorem Yields.ite {c : Prop} [Decidable c] {yes no : Decoded ε α} (left : c → Yields P yes)
    (right : ¬c → Yields P no) : Yields P (if c then yes else no) := by
  by_cases holds : c
  · rw [if_pos holds]
    exact left holds
  · rw [if_neg holds]
    exact right holds

/-- `bytes[i]`. -/
def byteAt {β : Type} (bytes : List β) (i : ℕ) : Decoded ε β :=
  match bytes[i]? with
  | some byte => .ready byte
  | none => .broken .outOfRange

end Decoded

section Steady

variable {ε α β γ : Type} {low high : ℕ}

/-- On buffers of at least `low` bytes a read stays in range, waits only below `high` bytes, and what it
says otherwise does not change when bytes are appended. -/
structure Steady (low high : ℕ) (read : List β → Decoded ε α) : Prop where
  inRange : ∀ bytes, low ≤ bytes.length → read bytes ≠ .broken .outOfRange
  waits : ∀ bytes, low ≤ bytes.length → read bytes = .more → bytes.length < high
  append : ∀ bytes extra, low ≤ bytes.length → read bytes ≠ .more →
    read (bytes ++ extra) = read bytes

theorem Steady.ready (a : α) : Steady low high fun _ : List β => (.ready a : Decoded ε α) where
  inRange _ _ := by simp
  waits _ _ h := by simp at h
  append _ _ _ _ := rfl

theorem Steady.error (e : ε) : Steady low high fun _ : List β => (.broken (.error e) : Decoded ε α) where
  inRange _ _ := by simp
  waits _ _ h := by simp at h
  append _ _ _ _ := rfl

theorem Decoded.byteAt_eq_ready {bytes : List β} {i : ℕ} (h : i < bytes.length) :
    (Decoded.byteAt bytes i : Decoded ε β) = .ready bytes[i] := by
  simp [Decoded.byteAt, h]

theorem Steady.byteAt {i : ℕ} (h : i < low) :
    Steady low high fun bytes : List β => (Decoded.byteAt bytes i : Decoded ε β) where
  inRange bytes fits := by
    rw [Decoded.byteAt_eq_ready (by omega)]
    simp
  waits bytes fits waiting := by
    rw [Decoded.byteAt_eq_ready (by omega)] at waiting
    cases waiting
  append bytes extra fits _ := by
    have inside : i < bytes.length := by omega
    have still : i < (bytes ++ extra).length := by
      rw [List.length_append]
      omega
    rw [Decoded.byteAt_eq_ready inside, Decoded.byteAt_eq_ready still, List.getElem_append_left inside]

/-- What follows may rely on what a read says. -/
theorem Steady.bind_of {P : α → Prop} {read : List β → Decoded ε α} {next : α → List β → Decoded ε γ}
    (first : Steady low high read) (yields : ∀ bytes, (read bytes).Yields P)
    (rest : ∀ a, P a → Steady low high (next a)) :
    Steady low high fun bytes => read bytes >>= fun a => next a bytes where
  inRange bytes fits := by
    have ranged := first.inRange bytes fits
    cases result : read bytes with
    | more => simp
    | broken fault =>
      rw [result] at ranged
      simpa using ranged
    | ready a => exact (rest a (yields bytes a result)).inRange bytes fits
  waits bytes fits waiting := by
    cases result : read bytes with
    | more => exact first.waits bytes fits result
    | broken fault => simp [result] at waiting
    | ready a =>
      rw [result] at waiting
      exact (rest a (yields bytes a result)).waits bytes fits waiting
  append bytes extra fits going := by
    cases result : read bytes with
    | more => simp [result] at going
    | broken fault =>
      have same := first.append bytes extra fits (by simp [result])
      simp only [same, result, Decoded.broken_bind]
    | ready a =>
      have same := first.append bytes extra fits (by simp [result])
      simp only [result, Decoded.ready_bind] at going
      simp only [same, result, Decoded.ready_bind]
      exact (rest a (yields bytes a result)).append bytes extra fits going

theorem Steady.bind {read : List β → Decoded ε α} {next : α → List β → Decoded ε γ}
    (first : Steady low high read) (rest : ∀ a, Steady low high (next a)) :
    Steady low high fun bytes => read bytes >>= fun a => next a bytes := by
  have yields : ∀ bytes, (read bytes).Yields fun _ => True := fun _ _ _ => trivial
  exact first.bind_of yields fun a _ => rest a

/-- A read that first waits until there are `count` bytes. -/
theorem Steady.wait {count : ℕ} {read : List β → Decoded ε α} (bounded : count ≤ high)
    (rest : Steady count high read) :
    Steady low high fun bytes => if bytes.length < count then .more else read bytes where
  inRange bytes _ := by
    by_cases short : bytes.length < count
    · simp [short]
    · rw [if_neg short]
      exact rest.inRange bytes (by omega)
  waits bytes _ waiting := by
    by_cases short : bytes.length < count
    · omega
    · rw [if_neg short] at waiting
      exact rest.waits bytes (by omega) waiting
  append bytes extra _ going := by
    by_cases short : bytes.length < count
    · simp [short] at going
    · rw [if_neg short] at going
      have still : ¬(bytes ++ extra).length < count := by
        rw [List.length_append]
        omega
      rw [if_neg short, if_neg still]
      exact rest.append bytes extra (by omega) going

theorem Steady.ite {c : Prop} [Decidable c] {yes no : List β → Decoded ε α}
    (left : Steady low high yes) (right : Steady low high no) :
    Steady low high fun bytes => if c then yes bytes else no bytes := by
  by_cases holds : c
  · simpa only [if_pos holds] using left
  · simpa only [if_neg holds] using right

end Steady

/-! ## Results of feeding -/

section Results

variable {ε σ ω : Type}

/-- A result after items that were taken before. -/
def after (out : List ω) (result : Except ε (List ω) × σ) : Except ε (List ω) × σ :=
  (result.1.map (out ++ ·), result.2)

@[simp] theorem after_nil (result : Except ε (List ω) × σ) : after [] result = result := by
  rcases result with ⟨_ | _, _⟩ <;> rfl

@[simp] theorem after_snd (out : List ω) (result : Except ε (List ω) × σ) :
    (after out result).2 = result.2 := rfl

theorem after_after (first second : List ω) (result : Except ε (List ω) × σ) :
    after first (after second result) = after (first ++ second) result := by
  rcases result with ⟨_ | out, next⟩
  · rfl
  · simp [after, Except.map]

theorem after_eq_ok {out items : List ω} {result : Except ε (List ω) × σ} {next : σ} :
    after out result = (.ok items, next) ↔ ∃ more, result = (.ok more, next) ∧ items = out ++ more := by
  rcases result with ⟨_ | more, last⟩
  · simp [after, Except.map]
  · simp [after, Except.map, eq_comm, and_comm]

theorem after_fst_eq_error {out : List ω} {result : Except ε (List ω) × σ} {e : ε} :
    (after out result).1 = .error e ↔ result.1 = .error e := by
  rcases result with ⟨_ | more, last⟩
  · simp [after, Except.map]
  · simp [after, Except.map]

/-- Two results with the same items and the same state, or with the same error. -/
def Agree (left right : Except ε (List ω) × σ) : Prop :=
  left.1 = right.1 ∧ ∀ out, left.1 = .ok out → left.2 = right.2

theorem Agree.refl (result : Except ε (List ω) × σ) : Agree result result := ⟨rfl, fun _ _ => rfl⟩

theorem Agree.of_eq {left right : Except ε (List ω) × σ} (h : left = right) : Agree left right := by
  rw [h]
  exact .refl right

theorem Agree.symm {left right : Except ε (List ω) × σ} (h : Agree left right) : Agree right left := by
  refine ⟨h.1.symm, fun out ok => ?_⟩
  rw [← h.1] at ok
  exact (h.2 out ok).symm

theorem Agree.trans {first second third : Except ε (List ω) × σ} (left : Agree first second)
    (right : Agree second third) : Agree first third := by
  refine ⟨left.1.trans right.1, fun out ok => (left.2 out ok).trans (right.2 out ?_)⟩
  rw [← left.1]
  exact ok

theorem Agree.after {left right : Except ε (List ω) × σ} (h : Agree left right) (out : List ω) :
    Agree (after out left) (after out right) := by
  refine ⟨by simp [Incremental.after, h.1], fun items ok => ?_⟩
  obtain ⟨more, same, -⟩ := after_eq_ok.1 (Prod.ext ok rfl)
  have last := h.2 more (congrArg Prod.fst same)
  simpa [Incremental.after] using last

theorem Agree.eq_ok {left right : Except ε (List ω) × σ} (h : Agree left right) {out : List ω} {next : σ} :
    left = (.ok out, next) ↔ right = (.ok out, next) := by
  constructor
  · rintro rfl
    exact Prod.ext h.1.symm (h.2 out rfl).symm
  · rintro rfl
    exact Prod.ext h.1 (h.2 out h.1)

theorem Agree.map {τ : Type} {left right : Except ε (List ω) × σ} (h : Agree left right) (f : σ → τ) :
    Agree (left.1, f left.2) (right.1, f right.2) :=
  ⟨h.1, fun out ok => congrArg f (h.2 out ok)⟩

theorem Agree.error {f : ε} {left right : σ} :
    Agree (ω := ω) (.error f, left) (.error f, right) := ⟨rfl, fun _ ok => by cases ok⟩

end Results

/-! ## Draining a buffer -/

/-- What a round of decoding comes to. -/
inductive Round (ε σ ω : Type) where
  | waiting
  | failed (fault : Fault ε) (next : σ)
  | taken (next : σ) (out : List ω)

/-- A decoder with its buffer in its state. Every item takes bytes from the buffer. -/
structure Decoder (ε σ β ω : Type) where
  push : σ → List β → σ
  size : σ → ℕ
  round : σ → Round ε σ ω
  shrinks : ∀ {s next out}, round s = .taken next out → size next < size s

namespace Decoder

variable {ε σ β ω : Type} (d : Decoder ε σ β ω)

/-- Take items until the decoder has to wait. -/
def drain (s : σ) : Except (Fault ε) (List ω) × σ :=
  match _h : d.round s with
  | .waiting => (.ok [], s)
  | .failed fault next => (.error fault, next)
  | .taken next out => after out (drain next)
termination_by d.size s
decreasing_by exact d.shrinks _h

variable {d} {s next : σ} {out : List ω} {fault : Fault ε}

theorem drain_waiting (h : d.round s = .waiting) : d.drain s = (.ok [], s) := by
  rw [drain]
  split <;> simp_all

theorem drain_failed (h : d.round s = .failed fault next) : d.drain s = (.error fault, next) := by
  rw [drain]
  split <;> simp_all

theorem drain_taken (h : d.round s = .taken next out) : d.drain s = after out (d.drain next) := by
  rw [drain]
  split <;> simp_all

/-- A drain is a run of rounds: what holds where it waits or fails, and is carried back over every item. -/
theorem drain_induction {P : σ → Prop} (waits : ∀ s, d.round s = .waiting → P s)
    (fails : ∀ s fault next, d.round s = .failed fault next → P s)
    (takes : ∀ s next out, d.round s = .taken next out → P next → P s) (s : σ) : P s := by
  induction size : d.size s using Nat.strong_induction_on generalizing s with
  | _ n ih =>
    cases result : d.round s with
    | waiting => exact waits s result
    | failed fault next => exact fails s fault next result
    | taken next out =>
      refine takes s next out result (ih (d.size next) ?_ next rfl)
      rw [← size]
      exact d.shrinks result

/-- A drain that succeeds ends where the decoder waits. -/
theorem round_of_drain_ok : d.drain s = (.ok out, next) → d.round next = .waiting := by
  induction s using d.drain_induction generalizing out with
  | waits s result =>
    rw [drain_waiting result]
    rintro ⟨⟩
    exact result
  | fails s fault last result =>
    rw [drain_failed result]
    rintro ⟨⟩
  | takes s last first result ih =>
    rw [drain_taken result, after_eq_ok]
    rintro ⟨more, drained, -⟩
    exact ih drained

/-- What every round keeps, a drain keeps. -/
theorem drain_keeps {P : σ → Prop} (takes : ∀ s next out, d.round s = .taken next out → P s → P next)
    (fails : ∀ s fault next, d.round s = .failed fault next → P s → P next) (h : P s) :
    P (d.drain s).2 := by
  induction s using d.drain_induction with
  | waits s result =>
    rw [drain_waiting result]
    exact h
  | fails s fault last result =>
    rw [drain_failed result]
    exact fails s fault last result h
  | takes s last first result ih =>
    rw [drain_taken result]
    exact ih (takes s last first result h)

/-- A drain fails as one of its rounds. -/
theorem drain_fault {P : Fault ε → Prop}
    (fails : ∀ s fault next, d.round s = .failed fault next → P fault) :
    (d.drain s).1 = .error fault → P fault := by
  induction s using d.drain_induction with
  | waits s result =>
    rw [drain_waiting result]
    rintro ⟨⟩
  | fails s fault' last result =>
    rw [drain_failed result]
    rintro ⟨⟩
    exact fails s fault last result
  | takes s last first result ih =>
    rw [drain_taken result, after_fst_eq_error]
    exact ih

/-- Bytes that arrive later change neither an item that is taken nor a failure. -/
structure Prompt (d : Decoder ε σ β ω) : Prop where
  push_push : ∀ s a b, d.push (d.push s a) b = d.push s (a ++ b)
  failed : ∀ {s fault next} bytes, d.round s = .failed fault next →
    d.round (d.push s bytes) = .failed fault (d.push next bytes)
  taken : ∀ {s next out} bytes, d.round s = .taken next out →
    d.round (d.push s bytes) = .taken (d.push next bytes) out

variable {bytes : List β}

theorem Prompt.drain_push_of_ok (prompt : d.Prompt) (bytes : List β) :
    d.drain s = (.ok out, next) → d.drain (d.push s bytes) = after out (d.drain (d.push next bytes)) := by
  induction s using d.drain_induction generalizing out with
  | waits s result =>
    rw [drain_waiting result]
    rintro ⟨⟩
    rw [after_nil]
  | fails s fault last result =>
    rw [drain_failed result]
    rintro ⟨⟩
  | takes s last first result ih =>
    rw [drain_taken result, after_eq_ok]
    rintro ⟨more, drained, rfl⟩
    rw [drain_taken (prompt.taken bytes result), ih drained, after_after]

theorem Prompt.drain_push_of_error (prompt : d.Prompt) (bytes : List β) :
    d.drain s = (.error fault, next) →
      d.drain (d.push s bytes) = (.error fault, d.push next bytes) := by
  induction s using d.drain_induction with
  | waits s result =>
    rw [drain_waiting result]
    rintro ⟨⟩
  | fails s fault' last result =>
    rw [drain_failed result]
    rintro ⟨⟩
    exact drain_failed (prompt.failed bytes result)
  | takes s last first result ih =>
    rw [drain_taken result]
    intro failed
    rcases drained : d.drain last with ⟨_ | more, final⟩
    · rw [drained] at failed
      cases failed
      rw [drain_taken (prompt.taken bytes result), ih drained]
      rfl
    · rw [drained] at failed
      cases failed

end Decoder

/-! ## Feeding in chunks -/

section Feeding

variable {ε ε' σ β ω : Type} (feed : σ → List β → Except ε (List ω) × σ)

/-- Feed chunk after chunk, until one of them fails. -/
def feedAll (s : σ) : List (List β) → Except ε (List ω) × σ
  | [] => (.ok [], s)
  | chunk :: chunks =>
    match feed s chunk with
    | (.error e, next) => (.error e, next)
    | (.ok out, next) => after out (feedAll next chunks)

attribute [local simp] feedAll

@[simp] theorem feedAll_nil (s : σ) : feedAll feed s [] = (.ok [], s) := rfl

@[simp] theorem feedAll_singleton (s : σ) (chunk : List β) : feedAll feed s [chunk] = feed s chunk := by
  rw [feedAll]
  rcases feed s chunk with ⟨_ | out, next⟩
  · rfl
  · simp [after, Except.map]

theorem feedAll_cons_ok {s next : σ} {chunk : List β} {out : List ω} (chunks : List (List β))
    (h : feed s chunk = (.ok out, next)) :
    feedAll feed s (chunk :: chunks) = after out (feedAll feed next chunks) := by
  rw [feedAll, h]

theorem feedAll_cons_error {s next : σ} {chunk : List β} {e : ε} (chunks : List (List β))
    (h : feed s chunk = (.error e, next)) : feedAll feed s (chunk :: chunks) = (.error e, next) := by
  rw [feedAll, h]

/-- What every feed keeps, a run of chunks keeps. -/
theorem feedAll_keeps {P : σ → Prop} (keeps : ∀ s chunk, P s → P (feed s chunk).2) {s : σ}
    (chunks : List (List β)) (h : P s) : P (feedAll feed s chunks).2 := by
  induction chunks generalizing s with
  | nil => exact h
  | cons chunk chunks ih =>
    have kept := keeps s chunk h
    rcases fed : feed s chunk with ⟨e | out, next⟩
    · rw [feedAll_cons_error feed chunks fed]
      rw [fed] at kept
      exact kept
    · rw [feedAll_cons_ok feed chunks fed]
      rw [fed] at kept
      exact ih kept

/-- A feed that agrees with a feed elsewhere goes on as that one does. -/
theorem Agree.feedAll_cons {s t : σ} {chunk other : List β} {out : List ω}
    (h : Agree (feed s chunk) (Incremental.after out (feed t other))) (chunks : List (List β)) :
    Agree (feedAll feed s (chunk :: chunks))
      (Incremental.after out (feedAll feed t (other :: chunks))) := by
  rcases fed : feed t other with ⟨e | items, next⟩
  · have same := h.1
    rw [fed] at same
    have failed : feed s chunk = (.error e, (feed s chunk).2) := Prod.ext same rfl
    rw [feedAll_cons_error feed chunks failed, feedAll_cons_error feed chunks fed]
    exact .error
  · rw [fed] at h
    have same : feed s chunk = (.ok (out ++ items), next) := h.eq_ok.2 rfl
    rw [feedAll_cons_ok feed chunks same, feedAll_cons_ok feed chunks fed, after_after]
    exact .refl _

/-- Feeding two chunks comes to the same as feeding them in one. -/
def Uncut : Prop := ∀ s a b, Agree (feed s (a ++ b)) (feedAll feed s [a, b])

variable {feed}

theorem Uncut.eq_ok (uncut : Uncut feed) {s final : σ} {a b : List β} {items : List ω} :
    feed s (a ++ b) = (.ok items, final) ↔
      ∃ first next second, feed s a = (.ok first, next) ∧ feed next b = (.ok second, final) ∧
        items = first ++ second := by
  rw [(uncut s a b).eq_ok]
  rcases fed : feed s a with ⟨_ | first, next⟩
  · simp [feedAll, fed]
  · rcases fed' : feed next b with ⟨_ | second, last⟩
    · simp [feedAll, fed, fed', after, Except.map]
    · simp [feedAll, fed, fed', after, Except.map, eq_comm, and_comm]

theorem Uncut.eq_error (uncut : Uncut feed) {s : σ} {a b : List β} {e : ε} :
    (feed s (a ++ b)).1 = .error e ↔
      (feed s a).1 = .error e ∨
        ∃ first next, feed s a = (.ok first, next) ∧ (feed next b).1 = .error e := by
  rw [(uncut s a b).1]
  rcases fed : feed s a with ⟨_ | first, next⟩
  · simp [feedAll, fed]
  · rcases fed' : feed next b with ⟨_ | second, last⟩
    · simp [feedAll, fed, fed', after, Except.map]
    · simp [feedAll, fed, fed', after, Except.map]

/-- However a stream is cut, the chunks come to the same as the whole. -/
theorem Uncut.feedAll (uncut : Uncut feed) (s : σ) (chunk : List β) (chunks : List (List β)) :
    Agree (feed s (chunk ++ chunks.flatten)) (Incremental.feedAll feed s (chunk :: chunks)) := by
  induction chunks generalizing s chunk with
  | nil =>
    rw [List.flatten_nil, List.append_nil, feedAll_singleton]
    exact .refl _
  | cons second chunks ih =>
    rw [List.flatten_cons]
    refine (uncut s chunk _).trans ?_
    rcases fed : feed s chunk with ⟨_ | out, next⟩
    · rw [feedAll_cons_error feed _ fed, feedAll_cons_error feed _ fed]
      exact .refl _
    · rw [feedAll_cons_ok feed _ fed, feedAll_cons_ok feed _ fed, feedAll_singleton]
      exact (ih next second).after out

/-- A feed that drains its buffer does not depend on the cut. -/
theorem Decoder.Prompt.uncut {d : Decoder ε' σ β ω} (prompt : d.Prompt)
    {feed : σ → List β → Except (Fault ε') (List ω) × σ}
    (drains : ∀ s bytes, Agree (feed s bytes) (d.drain (d.push s bytes))) : Uncut feed := by
  intro s a b
  refine (drains s (a ++ b)).trans ?_
  rw [← prompt.push_push]
  rcases drained : d.drain (d.push s a) with ⟨fault | out, next⟩
  · rw [prompt.drain_push_of_error _ drained]
    have same := (drains s a).1
    rw [drained] at same
    have fed : feed s a = (.error fault, (feed s a).2) := Prod.ext same rfl
    rw [feedAll_cons_error feed _ fed]
    exact .error
  · rw [prompt.drain_push_of_ok _ drained]
    have fed : feed s a = (.ok out, next) := (drains s a).eq_ok.2 drained
    rw [feedAll_cons_ok feed _ fed, feedAll_singleton]
    exact ((drains next b).after out).symm

end Feeding

end Incremental
