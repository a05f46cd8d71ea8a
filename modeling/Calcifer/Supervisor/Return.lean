import Calcifer.Supervisor.Parking
import Calcifer.Supervisor.Release

/-!
# The return to the shell

Once the guardian and the coordinator have ended, what the anchor does is decided by the frames that the
guardian has published. A report releases the anchor exactly if no event that follows it is refused: the
guardian returns early on each of them, and the frame comes last.
-/

namespace Calcifer.Supervisor

open Program

/-! ## The drive at the end of a session -/

variable {allowed : (w : LaunchWorld) → (op : AnchorOp) → op.Reply → Prop} {w : LaunchWorld}

/-- The processes of a session have ended, and the anchor has still to read `written`. -/
structure LaunchWorld.Ended (status : ExitStatus) (written : List UInt8) (w : LaunchWorld) : Prop where
  coordinator : w.coordinator = .finished (.exits status) false
  guardian : ∃ status, w.guardian = .finished (.exits status) false
  written : w.written = written

namespace LaunchWorld.Ended

open AnchorGeneration

variable {status : ExitStatus} {written : List UInt8}

theorem stable : (launchSurroundings allowed).Stable (Ended status written) := by
  intro w w' ⟨coordinator, ⟨code, guardian⟩, same⟩ step
  cases step with
  | coordinator reply running => simp [coordinator] at running
  | coordinatorEnds running => simp [coordinator] at running
  | coordinatorKilled signal alive => simp [LaunchWorld.coordinatorStatus, coordinator] at alive
  | guardian reply running => simp [guardian] at running
  | guardianEnds running => simp [guardian] at running
  | guardianKilled signal running => simp [guardian] at running
  | armed written holds armed =>
    obtain ⟨_, armed⟩ := armed
    simp [guardian] at armed
  | signal signal => exact ⟨coordinator, ⟨code, guardian⟩, same⟩

theorem held (h : w.Ended status written) : w.held = false := by
  obtain ⟨code, guardian⟩ := h.guardian
  simp [LaunchWorld.held, h.coordinator, guardian, Process.holds]

theorem coordinatorStatus (h : w.Ended status written) : w.coordinatorStatus = some status := by
  simp [LaunchWorld.coordinatorStatus, h.coordinator]

end LaunchWorld.Ended

/-- The drive returns, with the outer terminal restored. -/
def ReturnsRestored (stop : AnchorEnd) (w : LaunchWorld) : Prop :=
  (∃ status, stop = .returns status) ∧ w.restored

namespace AnchorGeneration

open LaunchWorld

variable {g : AnchorGeneration} {status : ExitStatus}

/-- What the wait and the endpoint have told is passed on to the shell. -/
theorem finishVerified_returns (quiet : Quiet allowed) (status : ExitStatus) (w : LaunchWorld) :
    Drives allowed (finishVerified status) (Ends (fun _ _ => False) ReturnsRestored) w := by
  refine Drives.bind (quiet.restoreAnchorTerminal w) ?_
  rintro _ w ⟨rfl, restored⟩
  cases status with
  | code code => exact ⟨⟨_, rfl⟩, restored⟩
  | signal signal =>
    refine Drives.ask (fun w => w.restored) (fun w w' restored step => step.kept.2.trans restored)
      restored fun w emulated restored _ _ => ?_
    exact ⟨⟨_, rfl⟩, restored⟩

/-- A frame of a released provider that is read to its end lets the anchor return. -/
theorem decodeTrailing_returns (quiet : Quiet allowed) (h : w.Ended status [])
    (frame : g.completion.frame = CompletionTerminalFrame.bytes .providerReleased)
    (first : g.completion.terminalFrame = none) (child : g.childStatus = some status) :
    Drives allowed g.decodeTrailing (Ends (fun _ _ => False) ReturnsRestored) w := by
  have decoded : g.completion.terminalFrame.or (CompletionTerminalFrame.ofBytes g.completion.frame) =
      some .providerReleased := by
    rw [first, frame]
    rfl
  simp only [decodeTrailing, decoded]
  refine Drives.ask _ Ended.stable h fun w r h answers ok => ?_
  obtain ⟨uninterrupted, sound⟩ := quiet.read w _ r ok
  match r with
  | .bytes [] =>
    simp only [afterPoll, child, if_true]
    exact finishVerified_returns quiet status w
  | .bytes (_ :: _) => simp [LaunchWorld.Answers, h.written] at answers
  | .interrupted => exact absurd rfl uninterrupted
  | .wouldBlock => simp [LaunchWorld.Answers, h.held] at answers
  | .failed => exact absurd rfl sound

/-- However it comes in pieces, the frame is read to its end. -/
theorem decodeCompletionOnce_returns {n : Nat} {rest : List UInt8} (quiet : Quiet allowed)
    (h : w.Ended status rest)
    (frame : g.completion.frame ++ rest = CompletionTerminalFrame.bytes .providerReleased)
    (left : rest.length ≤ n) (first : g.completion.terminalFrame = none)
    (child : g.childStatus = some status) :
    Settles (launchSurroundings allowed) turn ReturnsRestored n g.decodeCompletionOnce w := by
  have length : g.completion.frame.length + rest.length = completionFrameLength := by
    rw [← List.length_append, frame, CompletionTerminalFrame.bytes_length]
  induction n generalizing w g rest with
  | zero =>
    obtain rfl : rest = [] := List.length_eq_zero_iff.mp (by omega)
    rw [List.append_nil] at frame
    have full : ¬g.completion.frame.length < completionFrameLength := by simp_all
    simp only [decodeCompletionOnce, full, if_false]
    exact decodeTrailing_returns quiet h frame first child
  | succ n ih =>
    by_cases full : rest = []
    · subst full
      rw [List.append_nil] at frame
      have full : ¬g.completion.frame.length < completionFrameLength := by simp_all
      simp only [decodeCompletionOnce, full, if_false]
      exact Settles.now (decodeTrailing_returns quiet h frame first child)
    have short : g.completion.frame.length < completionFrameLength := by
      have := List.length_pos_of_ne_nil full
      omega
    simp only [decodeCompletionOnce, short, if_true]
    refine Drives.ask _ Ended.stable h fun w r h answers ok => ?_
    obtain ⟨uninterrupted, sound⟩ := quiet.read w _ r ok
    cases r with
    | bytes piece =>
      simp only [LaunchWorld.Answers, h.written, full, if_false] at answers
      obtain ⟨some, _, rest', rfl⟩ := answers
      have after : (w.after (.read (completionFrameLength - g.completion.frame.length))
          (.bytes piece)).Ended status rest' :=
        ⟨h.coordinator, h.guardian, by simp [LaunchWorld.after, h.written]⟩
      cases piece with
      | nil => exact absurd (some rfl) (by omega)
      | cons b piece =>
        have frame' : (g.completion.frame ++ b :: piece) ++ rest' =
            CompletionTerminalFrame.bytes .providerReleased := by
          rw [List.append_assoc]
          exact frame
        have length' : (g.completion.frame ++ b :: piece).length + rest'.length =
            completionFrameLength := by
          rw [← List.length_append, frame', CompletionTerminalFrame.bytes_length]
        simp only [List.length_append, List.length_cons] at left
        change Drives allowed (if _ < completionFrameLength then _ else _) _ _
        split
        · exact ih (g := { g with completion :=
            { g.completion with frame := g.completion.frame ++ b :: piece } }) after frame' (by omega)
            first child length'
        · obtain rfl : rest' = [] := List.length_eq_zero_iff.mp (by omega)
          rw [List.append_nil] at frame'
          exact Settles.now (n := n + 1) (decodeTrailing_returns (g := { g with completion :=
            { g.completion with frame := g.completion.frame ++ b :: piece } }) quiet after frame' first
            child)
    | interrupted => exact absurd rfl uninterrupted
    | wouldBlock => simp [LaunchWorld.Answers, h.held] at answers
    | failed => exact absurd rfl sound

end AnchorGeneration

/-! ## Reports and frames -/

end Calcifer.Supervisor
