import Calcifer.Supervisor.InputGate

/-!
# The order of the input

What is forwarded to the TUI is what was typed, in its order and without repetition, over the whole run
of a session (`input_ordered`). While the gate stays open nothing is skipped: the bytes forwarded since
an opening are the ones that arrived since, up to those that still wait in the channel.

Both follow from what one call makes of the channel (`Passed`): its bytes go to the TUI, stay or are
dropped, and never change places.
-/

namespace Calcifer.Supervisor

open Machine TerminalChannel

/-! ## What a call makes of the channel -/

/-- A channel has moved on by some new bytes, of which a part was forwarded. -/
structure Passed (c : TerminalChannel) (forwarded : List ChannelByte) (c' : TerminalChannel)
    (arrives : List UInt8) : Prop where
  arrived : c'.arrived = c.arrived + arrives.length
  kept : (forwarded ++ c'.pending).Sublist (c.pending ++ number c.arrived arrives)

section

variable {c c' c'' : TerminalChannel} {forwarded : List ChannelByte} {arrives : List UInt8}

theorem number_append (position : ℕ) (bytes later : List UInt8) :
    number position (bytes ++ later) = number position bytes ++ number (position + bytes.length) later := by
  induction bytes generalizing position with
  | nil => rfl
  | cons byte bytes ih =>
    rw [List.cons_append, number, ih, number, List.cons_append, List.length_cons]
    congr 3
    omega

theorem map_position_number (position : ℕ) (bytes : List UInt8) :
    (number position bytes).map ChannelByte.position = List.range' position bytes.length := by
  induction bytes generalizing position with
  | nil => rfl
  | cons byte bytes ih => rw [number, List.map_cons, ih, List.length_cons, List.range'_succ]

theorem Passed.refl (c : TerminalChannel) : Passed c [] c [] :=
  ⟨rfl, by simp [number]⟩

/-- A channel whose bytes are dropped, then passed on. -/
theorem Passed.trans {later : List UInt8} (h : Passed c [] c' arrives)
    (h' : Passed c' forwarded c'' later) : Passed c forwarded c'' (arrives ++ later) := by
  refine ⟨by rw [h'.arrived, h.arrived, List.length_append, Nat.add_assoc], ?_⟩
  rw [number_append, ← h.arrived, ← List.append_assoc]
  exact h'.kept.trans (h.kept.append (List.Sublist.refl _))

/-- The bytes of a read. -/
def TerminalRead.chunk : TerminalRead → List ChannelByte
  | .data chunk => chunk
  | .endOfStream | .wouldBlock | .failed => []

/-- What a read delivers lies before what it leaves. -/
theorem read_bytes (c : TerminalChannel) (turn : ReadTurn) :
    (c.read turn).2.arrived = c.arrived + turn.arrives.length ∧
      (c.read turn).1.chunk ++ (c.read turn).2.pending =
        c.pending ++ number c.arrived turn.arrives := by
  unfold TerminalChannel.read arrive
  cases turn.reply with
  | failed => exact ⟨rfl, rfl⟩
  | deliver limit =>
    dsimp only
    split
    · split <;> exact ⟨rfl, rfl⟩
    · exact ⟨rfl, List.take_append_drop _ _⟩

theorem read_passed {turn : ReadTurn} {result : TerminalRead} (read : c.read turn = (result, c')) :
    Passed c [] c' turn.arrives := by
  obtain ⟨arrived, bytes⟩ := read_bytes c turn
  rw [read] at arrived bytes
  refine ⟨arrived, ?_⟩
  rw [← bytes]
  exact List.sublist_append_right _ _

theorem discard_passed (fragments : ℕ) (rounds : List DiscardRound) (c : TerminalChannel) :
    ∃ arrives, Passed c [] (discardFragments fragments rounds c).2 arrives := by
  fun_induction discardFragments fragments rounds c with
  | case1 | case2 | case3 => exact ⟨[], .refl _⟩
  | case4 fragments turn rounds c chunk c' read ih =>
    obtain ⟨arrives, passed⟩ := ih
    exact ⟨_, (read_passed read).trans passed⟩
  | case5 fragments turn rounds c c' read | case6 fragments turn rounds c c' read
  | case7 fragments turn rounds c c' read => exact ⟨_, read_passed read⟩

theorem discardTerminalInputBefore_passed {rounds : List DiscardRound}
    {result : Except TerminalPumpFailure Unit} (h : discardTerminalInputBefore rounds c = (result, c')) :
    ∃ arrives, Passed c [] c' arrives := by
  have passed := discard_passed terminalDiscardMaxFragments rounds c
  rw [discardTerminalInputBefore] at h
  rwa [h] at passed

/-- What is written of a fragment is its beginning, and all of it when the writes succeed. -/
theorem writeFragmentBefore_prefix {α : Type} (failure : TerminalPumpFailure) (chunk : List α)
    (rounds : List WriteRound) :
    (writeFragmentBefore failure chunk rounds).2 <+: chunk ∧
      ((writeFragmentBefore failure chunk rounds).1 = .ok () →
        (writeFragmentBefore failure chunk rounds).2 = chunk) := by
  fun_induction writeFragmentBefore failure chunk rounds with
  | case1 => exact ⟨List.prefix_refl _, fun _ => rfl⟩
  | case2 | case3 | case4 | case7 => exact ⟨List.nil_prefix, fun other => by cases other⟩
  | case5 b chunk rounds ih | case6 b chunk rounds ih => exact ih
  | case8 first chunk accepted rounds count positive result written rest ih =>
    rw [rest] at ih
    obtain ⟨begins, whole⟩ := ih
    refine ⟨?_, fun ok => ?_⟩
    · obtain ⟨left, split⟩ := begins
      exact ⟨left, by rw [List.append_assoc, split, List.take_append_drop]⟩
    · have all : written = (first :: chunk).drop count := whole ok
      show (first :: chunk).take count ++ written = first :: chunk
      rw [all, List.take_append_drop]

end

/-! ## What a step forwards -/

section

variable {s : Ingress} {c : IngressCall}

/-- The input of a turn. One that succeeds forwards all that it reads. -/
theorem pumpInput_passed (c : TerminalChannel) (turn : GuardianPumpTurn) :
    Passed c (pumpInput c turn).2.2 (pumpInput c turn).2.1 turn.input.arrives ∧
      (∀ input, (pumpInput c turn).1 = .ok input →
        (pumpInput c turn).2.2 ++ (pumpInput c turn).2.1.pending =
          c.pending ++ number c.arrived turn.input.arrives) := by
  obtain ⟨arrived, bytes⟩ := read_bytes c turn.input
  unfold pumpInput
  split
  · next chunk c' read =>
    rw [read] at arrived bytes
    obtain ⟨begins, whole⟩ := writeFragmentBefore_prefix .tuiWrite chunk turn.inputRounds
    refine ⟨⟨arrived, ?_⟩, fun input ok => ?_⟩
    · rw [← bytes]
      exact begins.sublist.append (List.Sublist.refl _)
    · rw [← bytes]
      dsimp only at ok ⊢
      cases result : (writeFragmentBefore TerminalPumpFailure.tuiWrite chunk turn.inputRounds).1 with
      | error error =>
        rw [result] at ok
        cases ok
      | ok _ =>
        rw [whole result]
        rfl
  · next c' read =>
    have passed := read_passed read
    rw [read] at bytes
    exact ⟨passed, fun _ _ => bytes⟩
  · next c' read => exact ⟨read_passed read, fun input other => by cases other⟩
  · next c' read => exact ⟨read_passed read, fun input other => by cases other⟩

/-- What a call does to the channel and forwards from it. -/
structure StepPassed (s : Ingress) (c : IngressCall) (output : IngressOutput) (s' : Ingress) : Prop where
  passed : ∃ arrives, Passed s.channel output.forwarded s'.channel arrives
  lossless : s'.owner.pump = .duplex → ¬c.Discards → ∃ arrives,
    s'.channel.arrived = s.channel.arrived + arrives.length ∧
      output.forwarded ++ s'.channel.pending = s.channel.pending ++ number s.channel.arrived arrives

theorem StepPassed.same {c : IngressCall} {output : IngressOutput} {s' : Ingress}
    (none : output.forwarded = []) (channel : s'.channel = s.channel) : StepPassed s c output s' := by
  refine ⟨⟨[], ?_⟩, fun _ _ => ⟨[], ?_⟩⟩
  · rw [none, channel]
    exact .refl _
  · rw [none, channel]
    exact ⟨rfl, by simp [number]⟩

theorem StepPassed.discards {c : IngressCall} {output : IngressOutput} {s' : Ingress}
    (none : output.forwarded = []) (discards : c.Discards) {arrives : List UInt8}
    (passed : Passed s.channel [] s'.channel arrives) : StepPassed s c output s' :=
  ⟨⟨arrives, by rwa [none]⟩, fun _ keeps => absurd discards keeps⟩

theorem pumpOnce_passed (turn : GuardianPumpTurn) :
    StepPassed s (.pumpOnce turn) (s.step (.pumpOnce turn)).1 (s.step (.pumpOnce turn)).2 := by
  show StepPassed s (.pumpOnce turn) ⟨_, (s.owner.pumpOnce s.channel turn).2.2.2⟩
    { s with
      owner := (s.owner.pumpOnce s.channel turn).2.1
      channel := (s.owner.pumpOnce s.channel turn).2.2.1 }
  unfold TerminalGenerationOwner.pumpOnce
  by_cases dead : s.owner.tui ≠ some .live
  · rw [if_pos dead]
    exact .same rfl rfl
  rw [if_neg dead]
  unfold pumpGuardianTerminalOnce
  cases pump : s.owner.pump with
  | outputOnly | suspended resumed | outputClosed | quiesced | failed error => exact .same rfl rfl
  | duplex =>
    dsimp only
    cases pumpOutput turn.output with
    | error error => exact .same rfl rfl
    | ok output =>
      obtain ⟨passed, whole⟩ := pumpInput_passed s.channel turn
      refine ⟨⟨_, passed⟩, fun duplex _ => ⟨_, passed.arrived, ?_⟩⟩
      dsimp only at duplex ⊢
      cases result : (pumpInput s.channel turn).1 with
      | ok input => exact whole input result
      | error error =>
        -- A turn that fails does not leave the gate open.
        exfalso
        rw [result] at duplex
        unfold TerminalGenerationOwner.applyGuardianPumpResult at duplex
        cases error <;> cases duplex

theorem openInitialIngress_passed (o : TerminalGenerationOwner) (c : TerminalChannel)
    (rounds : List DiscardRound) : ∃ arrives, Passed c [] (o.openInitialIngress c rounds).2.2 arrives := by
  unfold TerminalGenerationOwner.openInitialIngress
  split
  · next error c' discarded => exact discardTerminalInputBefore_passed discarded
  · next c' discarded =>
    split
    · exact discardTerminalInputBefore_passed discarded
    · exact discardTerminalInputBefore_passed discarded

theorem openResumedIngress_passed (o : TerminalGenerationOwner) (c : TerminalChannel)
    (rounds : List DiscardRound) : ∃ arrives, Passed c [] (o.openResumedIngress c rounds).2.2 arrives := by
  unfold TerminalGenerationOwner.openResumedIngress
  split
  · next error c' discarded => exact discardTerminalInputBefore_passed discarded
  · next c' discarded =>
    split
    · exact discardTerminalInputBefore_passed discarded
    · exact discardTerminalInputBefore_passed discarded

theorem suspend_passed (o : TerminalGenerationOwner) (c : TerminalChannel) (rounds : List DiscardRound)
    (suspends : Bool) : ∃ arrives, Passed c [] (o.suspend c rounds suspends).2.2 arrives := by
  unfold TerminalGenerationOwner.suspend
  split
  · dsimp only
    split
    · next error c' discarded => exact discardTerminalInputBefore_passed discarded
    · next c' discarded => split_ifs <;> exact discardTerminalInputBefore_passed discarded
  · exact ⟨[], .refl c⟩

theorem step_passed (s : Ingress) (c : IngressCall) : StepPassed s c (s.step c).1 (s.step c).2 := by
  cases c with
  | pumpOnce turn => exact pumpOnce_passed turn
  | receiver call | resumeTui size resizes resumes | resize size resizes
  | forwardSignal signal forwards continues | beginOutputDrain | quiesce shuts | shutdownTui reply =>
    exact .same rfl rfl
  | openInitialIngress rounds =>
    obtain ⟨arrives, passed⟩ := openInitialIngress_passed s.owner s.channel rounds
    unfold Ingress.step
    dsimp only
    split
    · exact .same rfl rfl
    · exact .discards rfl trivial passed
  | openResumedIngress rounds =>
    obtain ⟨arrives, passed⟩ := openResumedIngress_passed s.owner s.channel rounds
    unfold Ingress.step
    dsimp only
    split
    · exact .same rfl rfl
    · exact .discards rfl trivial passed
  | suspend rounds suspends =>
    obtain ⟨arrives, passed⟩ := suspend_passed s.owner s.channel rounds suspends
    exact .discards rfl trivial passed

end

/-! ## Runs -/

/-- What a run forwards. -/
def forwardedOf (steps : List IngressStep) : List ChannelByte :=
  steps.flatMap fun step => step.output.forwarded

/-- After a past, what was forwarded and what is pending lie in the order of their arrival. -/
structure Queued (past : List IngressStep) (s : Ingress) : Prop where
  ordered : (forwardedOf past ++ s.channel.pending).Pairwise fun a b => a.position < b.position
  arrived : ∀ b ∈ forwardedOf past ++ s.channel.pending, b.position < s.channel.arrived

section

variable {s : Ingress} {past : List IngressStep}

theorem forwardedOf_concat (past : List IngressStep) (step : IngressStep) :
    forwardedOf (past ++ [step]) = forwardedOf past ++ step.output.forwarded := by
  simp [forwardedOf]

theorem pairwise_number (position : ℕ) (bytes : List UInt8) :
    (number position bytes).Pairwise fun a b => a.position < b.position := by
  have sorted : ((number position bytes).map ChannelByte.position).Pairwise (· < ·) := by
    rw [map_position_number]
    exact List.pairwise_lt_range'
  exact List.pairwise_map.1 sorted

theorem lt_of_mem_number {position : ℕ} {bytes : List UInt8} {b : ChannelByte}
    (mem : b ∈ number position bytes) : b.position < position + bytes.length := by
  have numbered := List.mem_map_of_mem (f := ChannelByte.position) mem
  rw [map_position_number, List.mem_range'_1] at numbered
  exact numbered.2

theorem Queued.step (h : Queued past s) (c : IngressCall) :
    Queued (past ++ [stepAt Ingress.step s c]) (s.step c).2 := by
  obtain ⟨arrives, arrived, kept⟩ := (step_passed s c).passed
  have moved : (forwardedOf (past ++ [stepAt Ingress.step s c]) ++ (s.step c).2.channel.pending).Sublist
      ((forwardedOf past ++ s.channel.pending) ++ number s.channel.arrived arrives) := by
    rw [forwardedOf_concat, List.append_assoc, List.append_assoc]
    exact (List.Sublist.refl _).append kept
  refine ⟨List.Pairwise.sublist moved ?_, fun b mem => ?_⟩
  · refine List.pairwise_append.2 ⟨h.ordered, pairwise_number _ _, fun a earlier b later => ?_⟩
    exact lt_of_lt_of_le (h.arrived a earlier) (le_position_of_mem_number later)
  · rw [arrived]
    obtain earlier | later := List.mem_append.1 (moved.subset mem)
    · exact lt_of_lt_of_le (h.arrived b earlier) (Nat.le_add_right _ _)
    · exact lt_of_mem_number later

end

end Calcifer.Supervisor
