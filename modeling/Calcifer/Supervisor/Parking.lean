import Calcifer.Supervisor.Launch

/-!
# Launches that start no provider

No frame is ever written before the guardian is armed. The anchor of a launch that fails before never
returns to the shell: once no process holds the completion endpoint any more, it reads the end of the
stream without a frame, ends the coordinator if it still runs, restores the outer terminal and parks.
-/

namespace Calcifer.Supervisor

open Program Anchor

/-! ## What the coordinator does before and after the spawn -/

/-- A program that spawns no guardian. -/
def Silent {α : Type} : Program LaunchOp LaunchOp.Reply α → Prop
  | .done _ => True
  | .call op next => op ≠ .spawnGuardian ∧ ∀ reply, Silent (next reply)

/-- A coordinator that spawns one guardian at most, keeps the completion endpoint until then, and is not
retained without a guardian. -/
def Unspawned : Program LaunchOp LaunchOp.Reply (Except UInt8 CoordinatorEnd) → Prop
  | .done result => result ≠ .ok .parks
  | .call .spawnGuardian next => Unspawned (next .failed) ∧ ∀ reply, Silent (next reply)
  | .call .dropCompletion _ => False
  | .call _ next => ∀ reply, Unspawned (next reply)

theorem Silent.require {α : Type} {code : UInt8} {step : LaunchStep} {f : Unit → Role α}
    (h : Silent (f ()).run) : Silent (Role.require code step >>= f).run := by
  refine ⟨nofun, fun ok => ?_⟩
  cases ok with
  | false => trivial
  | true => exact h

theorem Unspawned.require {code : UInt8} {step : LaunchStep} {f : Unit → Role CoordinatorEnd}
    (h : Unspawned (f ()).run) : Unspawned (Role.require code step >>= f).run := by
  intro ok
  cases ok with
  | false => nofun
  | true => exact h

theorem Unspawned.failed (code : UInt8) : Unspawned (.done (.error code)) := nofun

namespace LaunchWorld

/-- Whatever is left of the coordinator spawns no guardian. -/
def Spawned (w : LaunchWorld) : Prop :=
  ∀ rest holds, w.coordinator = .running rest holds → Silent rest

/-- How far a launch has come: until the guardian is armed, the processes that run on their way to it hold
the completion endpoint. -/
def Launching (w : LaunchWorld) : Prop :=
  match w.guardian with
  | .absent => (∃ rest, w.coordinator = .running rest true ∧ Unspawned rest) ∨
      ∃ status, w.coordinator = .finished (.exits status) false
  | .running _ holds => holds ∧ w.Spawned
  | .finished (.exits _) holds => holds = false ∧ w.Spawned
  | .finished .armed _ => w.Spawned

variable {w w' : LaunchWorld}

/-- A coordinator that has ended has nothing left. -/
theorem spawned_of_finished {result : CoordinatorEnd} {holds : Bool}
    (h : w.coordinator = .finished result holds) : w.Spawned := by
  intro rest holds' running
  simp [h] at running

theorem Launching.spawned (h : w.Launching) (present : w.guardian ≠ .absent) : w.Spawned := by
  unfold Launching at h
  split at h
  · exact absurd ‹_› present
  · exact h.2
  · exact h.2
  · exact h

/-- The coordinator moves on while the guardian is there. -/
theorem Launching.of_spawned (h : w.Launching) (present : w.guardian ≠ .absent)
    (same : w'.guardian = w.guardian) (spawned : w'.Spawned) : w'.Launching := by
  unfold Launching at h ⊢
  rw [same]
  split at h
  · exact absurd ‹_› present
  · exact ⟨h.1, spawned⟩
  · exact ⟨h.1, spawned⟩
  · exact spawned

/-- Whatever happens besides the calls of the anchor, the launch goes on in its order. -/
theorem Launching.env (h : w.Launching) (step : Env w w') : w'.Launching := by
  cases step with
  | @coordinator op next holds reply running =>
    by_cases present : w.guardian = .absent
    · simp only [Launching, present] at h
      obtain ⟨rest, same, before⟩ | ⟨status, ended⟩ := h
      · obtain ⟨rfl, rfl⟩ := Process.running.inj (running.symm.trans same)
        cases op with
        | spawnGuardian =>
          cases reply with
          | failed =>
            simp only [coordinatorCall, Launching, present]
            exact .inl ⟨_, rfl, before.1⟩
          | spawned | failedWithChild =>
            refine ⟨rfl, fun rest holds same => ?_⟩
            obtain ⟨rfl, rfl⟩ := Process.running.inj same
            exact before.2 _
        | dropCompletion => exact before.elim
        | attempt | sendPromotedLease | assemble | runCoordinator =>
          simp only [coordinatorCall, Launching, present]
          exact .inl ⟨_, rfl, before reply⟩
      · simp [ended] at running
    · have silent := h.spawned present _ _ running
      have spawned (holds : Bool) (rest : Program LaunchOp LaunchOp.Reply (Except UInt8 CoordinatorEnd))
          (holds' : Bool) (same : Process.running (next reply) holds = .running rest holds') :
          Silent rest := by
        obtain ⟨rfl, rfl⟩ := Process.running.inj same
        exact silent.2 reply
      cases op with
      | spawnGuardian => exact absurd rfl silent.1
      | dropCompletion => exact h.of_spawned present rfl (spawned false)
      | attempt | sendPromotedLease | assemble | runCoordinator =>
        exact h.of_spawned present rfl (spawned holds)
  | @coordinatorEnds result holds running =>
    by_cases present : w.guardian = .absent
    · simp only [Launching, present] at h
      obtain ⟨rest, same, before⟩ | ⟨status, ended⟩ := h
      · obtain ⟨rfl, rfl⟩ := Process.running.inj (running.symm.trans same)
        have exits : ∃ status, (w.coordinatorEnds true result).coordinator =
            .finished (.exits status) false := by
          match result, before with
          | .error code, _ => exact ⟨_, rfl⟩
          | .ok (.exits status), _ => exact ⟨_, rfl⟩
          | .ok .parks, before => exact absurd rfl before
        have same : (w.coordinatorEnds true result).guardian = .absent := by
          rw [← present]
          unfold coordinatorEnds
          split <;> rfl
        simp only [Launching, same]
        exact .inr exits
      · simp [ended] at running
    · refine h.of_spawned present ?_ ?_
      · unfold coordinatorEnds
        split <;> rfl
      · unfold coordinatorEnds
        split <;> exact spawned_of_finished rfl
  | coordinatorKilled signal alive =>
    by_cases present : w.guardian = .absent
    · simp only [Launching, present]
      exact .inr ⟨_, rfl⟩
    · exact h.of_spawned present rfl (spawned_of_finished rfl)
  | guardian reply running =>
    simp only [Launching, running] at h
    exact h
  | @guardianEnds result holds running =>
    simp only [Launching, running] at h
    obtain ⟨rfl, spawned⟩ := h
    match result with
    | .error code => exact ⟨rfl, spawned⟩
    | .ok (.exits status) => exact ⟨rfl, spawned⟩
    | .ok .armed => exact spawned
  | guardianKilled signal running =>
    simp only [Launching, running] at h
    exact ⟨rfl, h.2⟩
  | armed written holds armed =>
    obtain ⟨_, armed⟩ := armed
    simp only [Launching, armed] at h
    exact h
  | signal signal => exact h

theorem after_guardian (w : LaunchWorld) (op : AnchorOp) (reply : op.Reply) :
    (w.after op reply).guardian = w.guardian := by
  unfold after
  split <;> try rfl
  split <;> rfl

/-- The anchor ends a coordinator at most. -/
theorem after_coordinator (w : LaunchWorld) (op : AnchorOp) (reply : op.Reply) :
    (w.after op reply).coordinator = w.coordinator ∨
      (w.after op reply).coordinator = .finished (.exits (.signal 9)) false := by
  unfold after
  split <;> try exact .inl rfl
  split
  · exact .inr rfl
  · exact .inl rfl

theorem Launching.after (h : w.Launching) (op : AnchorOp) (reply : op.Reply) :
    (w.after op reply).Launching := by
  have same := after_guardian w op reply
  rcases after_coordinator w op reply with coordinator | killed
  · unfold Launching Spawned at h ⊢
    rw [same, coordinator]
    exact h
  · by_cases present : w.guardian = .absent
    · simp only [Launching, same, present]
      exact .inr ⟨_, killed⟩
    · exact h.of_spawned present same (spawned_of_finished killed)

theorem Armed.env (h : w.Armed) (launching : w.Launching) (step : Env w w') : w'.Armed := by
  obtain ⟨holds, armed⟩ := h
  have spawned := launching.spawned (by simp [armed])
  cases step with
  | @coordinator op next holds' reply running =>
    have silent := spawned _ _ running
    cases op with
    | spawnGuardian => exact absurd rfl silent.1
    | dropCompletion | attempt | sendPromotedLease | assemble | runCoordinator => exact ⟨holds, armed⟩
  | coordinatorEnds running =>
    unfold coordinatorEnds
    split <;> exact ⟨holds, armed⟩
  | coordinatorKilled | signal => exact ⟨holds, armed⟩
  | guardian reply running => simp [armed] at running
  | guardianEnds running => simp [armed] at running
  | guardianKilled signal running => simp [armed] at running
  | armed written holds' _ => exact ⟨holds', rfl⟩

/-- Nothing is written for a guardian that is not armed. -/
theorem Env.written (step : Env w w') (unarmed : ¬w'.Armed) : w'.written = w.written := by
  cases step with
  | @coordinator op next holds reply running =>
    cases op with
    | spawnGuardian => cases reply <;> rfl
    | dropCompletion | attempt | sendPromotedLease | assemble | runCoordinator => rfl
  | coordinatorEnds running =>
    unfold LaunchWorld.coordinatorEnds
    split <;> rfl
  | guardianEnds running =>
    unfold LaunchWorld.guardianEnds
    split <;> rfl
  | coordinatorKilled | guardian | guardianKilled | signal => rfl
  | armed written holds _ => exact absurd ⟨holds, rfl⟩ unarmed

/-- Only the anchor waits for its deadlines, and only it restores the terminal. -/
theorem Env.kept (step : Env w w') : w'.ticks = w.ticks ∧ w'.restored = w.restored := by
  cases step with
  | @coordinator op next holds reply running =>
    cases op with
    | spawnGuardian => cases reply <;> exact ⟨rfl, rfl⟩
    | dropCompletion | attempt | sendPromotedLease | assemble | runCoordinator => exact ⟨rfl, rfl⟩
  | coordinatorEnds running =>
    unfold LaunchWorld.coordinatorEnds
    split <;> exact ⟨rfl, rfl⟩
  | guardianEnds running =>
    unfold LaunchWorld.guardianEnds
    split <;> exact ⟨rfl, rfl⟩
  | coordinatorKilled | guardian | guardianKilled | armed | signal => exact ⟨rfl, rfl⟩

end LaunchWorld

/-! ## The drive of an anchor without a frame -/

/-- The anchor has read nothing. -/
structure AnchorGeneration.Blank (g : AnchorGeneration) : Prop where
  frame : g.completion.frame = []
  terminalFrame : g.completion.terminalFrame = none
  unverified : g.completionVerified = false

/-- Until the guardian is armed, nothing is written and nothing was read. -/
structure LaunchWorld.Unstarted (g : AnchorGeneration) (w : LaunchWorld) : Prop where
  launching : w.Launching
  blank : w.Armed ∨ w.written = [] ∧ g.Blank

variable {allowed : (w : LaunchWorld) → (op : AnchorOp) → op.Reply → Prop} {w : LaunchWorld}
  {g : AnchorGeneration}

theorem LaunchWorld.Unstarted.stable : (launchSurroundings allowed).Stable (Unstarted g) := by
  intro w w' ⟨launching, blank⟩ step
  refine ⟨launching.env step, ?_⟩
  rcases blank with armed | ⟨nothing, blank⟩
  · exact .inl (armed.env launching step)
  · by_cases armed : w'.Armed
    · exact .inl armed
    · exact .inr ⟨(step.written armed).trans nothing, blank⟩

theorem LaunchWorld.Unstarted.after (h : w.Unstarted g) (op : AnchorOp) (reply : op.Reply) :
    (w.after op reply).Unstarted g := by
  refine ⟨h.launching.after op reply, ?_⟩
  rcases h.blank with ⟨holds, armed⟩ | ⟨nothing, blank⟩
  · exact .inl ⟨holds, (LaunchWorld.after_guardian w op reply).trans armed⟩
  · refine .inr ⟨?_, blank⟩
    unfold LaunchWorld.after
    split <;> try exact nothing
    · simp [nothing]
    · split <;> exact nothing

theorem LaunchWorld.Unstarted.status (h : w.Unstarted g) (status : Option ExitStatus) :
    w.Unstarted { g with childStatus := status } := by
  obtain ⟨launching, armed | ⟨nothing, blank⟩⟩ := h
  · exact ⟨launching, .inl armed⟩
  · exact ⟨launching, .inr ⟨nothing, ⟨blank.frame, blank.terminalFrame, blank.unverified⟩⟩⟩

theorem LaunchWorld.Unstarted.error (h : w.Unstarted g) (error : CompletionError) :
    w.Unstarted { g with completion := { g.completion with terminalError := some error } } := by
  obtain ⟨launching, armed | ⟨nothing, blank⟩⟩ := h
  · exact ⟨launching, .inl armed⟩
  · exact ⟨launching, .inr ⟨nothing, ⟨blank.frame, blank.terminalFrame, blank.unverified⟩⟩⟩

/-- The calls of an anchor that is neither interrupted nor fails: the outer terminal can be restored, and
the coordinator can be killed. -/
structure Quiet (allowed : (w : LaunchWorld) → (op : AnchorOp) → op.Reply → Prop) : Prop where
  tryWait : ∀ w reply, allowed w .tryWait reply → ∃ status, reply = .ok status
  identity : ∀ w verified, allowed w .verifyIdentity verified → verified
  read : ∀ w limit reply, allowed w (.read limit) reply → reply ≠ .interrupted ∧ reply ≠ .failed
  kill : ∀ w sent, allowed w (.signalCoordinator .kill) sent → sent
  terminal : ∀ w owned, allowed w .ownsTerminal owned → owned
  foreground : ∀ w group, allowed w .foreground group → group = some .anchor ∨ group = some .coordinator
  reclaim : ∀ w selected, allowed w (.selectForeground .coordinator .anchor) selected → selected
  restore : ∀ w restored, allowed w .restoreSnapshot restored → restored.isSome

/-- The head of a round. A coordinator that was killed has ended, if the kill went through. -/
def AnchorHead (allowed : (w : LaunchWorld) → (op : AnchorOp) → op.Reply → Prop)
    (head : AnchorPoint × AnchorGeneration) (w : LaunchWorld) : Prop :=
  w.Unstarted head.2 ∧ (Quiet allowed → head.1 = .reaping true → w.coordinatorStatus ≠ none)

/-- A coordinator that has ended stays so. -/
theorem LaunchWorld.coordinatorStatus_stable (status : ExitStatus) :
    (launchSurroundings allowed).Stable fun w => w.coordinatorStatus = some status := by
  intro w w' ended step
  have finished : ∃ holds, w.coordinator = .finished (.exits status) holds := by
    unfold coordinatorStatus at ended
    split at ended
    · obtain rfl := Option.some.inj ended
      exact ⟨_, ‹_›⟩
    · cases ended
  obtain ⟨holds, finished⟩ := finished
  cases step with
  | coordinator reply running => simp [finished] at running
  | coordinatorEnds running => simp [finished] at running
  | coordinatorKilled signal alive => simp [ended] at alive
  | guardianEnds running =>
    unfold guardianEnds
    split <;> exact ended
  | guardian | guardianKilled | armed | signal => exact ended

theorem AnchorHead.stable {head : AnchorPoint × AnchorGeneration} :
    (launchSurroundings allowed).Stable (AnchorHead allowed head) := by
  intro w w' ⟨unstarted, killed⟩ step
  refine ⟨LaunchWorld.Unstarted.stable w w' unstarted step, fun quiet reaping => ?_⟩
  obtain ⟨status, ended⟩ := Option.ne_none_iff_exists'.mp (killed quiet reaping)
  rw [LaunchWorld.coordinatorStatus_stable status w w' ended step]
  nofun

/-- Only an armed guardian lets the anchor return. -/
def AnchorStop (stop : AnchorEnd) (w : LaunchWorld) : Prop :=
  ∀ status, stop = .returns status → w.Launching ∧ w.Armed

theorem AnchorStop.parks : AnchorStop .parks w := nofun

/-- A part of the drive, with what holds of its result. -/
def Drives {α : Type} (allowed : (w : LaunchWorld) → (op : AnchorOp) → op.Reply → Prop) (x : Anchor α)
    (Q : α → LaunchWorld → Prop) (w : LaunchWorld) : Prop :=
  Safe (launchSurroundings allowed) (fun _ => True) x Q w

section Rules

variable {α β : Type} {Q : α → LaunchWorld → Prop}

theorem Drives.mono {x : Anchor α} {Q' : α → LaunchWorld → Prop} (h : Drives allowed x Q w)
    (imp : ∀ a w, Q a w → Q' a w) : Drives allowed x Q' w :=
  Safe.mono h imp

/-- Sequencing: the first part establishes what the second one needs. -/
theorem Drives.bind {x : Anchor α} {f : α → Anchor β} {Q' : β → LaunchWorld → Prop}
    (h : Drives allowed x Q w) (next : ∀ a w, Q a w → Drives allowed (f a) Q' w) :
    Drives allowed (x >>= f) Q' w :=
  Safe.bind (Safe.mono h next)

/-- A call that relies on what the surroundings keep. -/
theorem Drives.ask {op : AnchorOp} {f : op.Reply → Anchor β} {Q' : β → LaunchWorld → Prop}
    (A : LaunchWorld → Prop) (stable : (launchSurroundings allowed).Stable A) (hA : A w)
    (next : ∀ w r, A w → w.Answers op r → allowed w op r → Drives allowed (f r) Q' (w.after op r)) :
    Drives allowed (Anchor.ask op >>= f) Q' w := by
  refine Safe.call A stable hA fun w₁ hA r w₂ ⟨answers, ok, same⟩ => ⟨trivial, ?_⟩
  subst same
  exact next w₁ r hA answers ok

end Rules

namespace LaunchWorld.Unstarted

open AnchorGeneration

/-- A call keeps a launch that has not started. -/
theorem ask (h : w.Unstarted g) {β : Type} {op : AnchorOp} {f : op.Reply → Anchor β}
    {Q : β → LaunchWorld → Prop} (next : ∀ w r, w.Unstarted g → Drives allowed (f r) Q w) :
    Drives allowed (Anchor.ask op >>= f) Q w :=
  Drives.ask _ stable h fun _ r h _ _ => next _ r (h.after op r)

theorem head (h : w.Unstarted g) {point : AnchorPoint} (other : point ≠ .reaping true) :
    Ends (AnchorHead allowed) AnchorStop (.inl (point, g)) w :=
  ⟨h, fun _ same => absurd same other⟩

/-- The restoration of the terminal keeps a launch that has not started. -/
theorem restoreAnchorTerminal (h : w.Unstarted g) :
    Drives allowed restoreAnchorTerminal (fun _ w => w.Unstarted g) w := by
  have restore {w : LaunchWorld} (h : w.Unstarted g) :
      Drives allowed (do return (← Anchor.ask .restoreSnapshot).isSome) (fun _ w => w.Unstarted g) w :=
    h.ask fun _ _ h => h
  refine h.ask fun w owned h => ?_
  cases owned with
  | false => exact h
  | true =>
    refine h.ask fun w group h => ?_
    match group with
    | none | some .other => exact h
    | some .anchor => exact restore h
    | some .coordinator =>
      refine h.ask fun w selected h => ?_
      cases selected with
      | false => exact h
      | true => exact restore h

theorem armed_of_verified (h : w.Unstarted g) (verified : g.completionVerified) :
    w.Launching ∧ w.Armed := by
  refine ⟨h.launching, ?_⟩
  rcases h.blank with armed | ⟨-, blank⟩
  · exact armed
  · simp [blank.unverified] at verified

theorem finishEmergency (h : w.Unstarted g) :
    Drives allowed g.finishEmergency (Ends (AnchorHead allowed) AnchorStop) w := by
  refine Drives.bind h.restoreAnchorTerminal fun restored w h => ?_
  cases restored with
  | false => exact AnchorStop.parks
  | true =>
    change Ends (AnchorHead allowed) AnchorStop
      (.inr (if g.completionVerified then .returns (.code 1) else .parks)) w
    split
    · exact fun _ _ => h.armed_of_verified ‹_›
    · exact AnchorStop.parks

theorem finishVerified (h : w.Unstarted g) (verified : g.completionVerified) (status : ExitStatus) :
    Drives allowed (finishVerified status) (Ends (AnchorHead allowed) AnchorStop) w := by
  refine Drives.bind h.restoreAnchorTerminal fun restored w h => ?_
  cases restored with
  | false => exact AnchorStop.parks
  | true =>
    cases status with
    | code code => exact fun _ _ => h.armed_of_verified verified
    | signal signal => exact h.ask fun w emulated h => fun _ _ => h.armed_of_verified verified

theorem emergencyFailure (h : w.Unstarted g) :
    Drives allowed g.emergencyFailure (Ends (AnchorHead allowed) AnchorStop) w := by
  refine h.ask fun w _ h => ?_
  split
  · exact h.finishEmergency
  · exact h.ask fun w _ h => h.head (by decide)

/-- A coordinator that a kill has reached has ended. -/
theorem killed (w : LaunchWorld) : (w.after (.signalCoordinator .kill) true).coordinatorStatus ≠ none := by
  simp only [LaunchWorld.after, true_and]
  split
  · nofun
  · assumption

/-- One wait for the end of a coordinator that was told to end. -/
theorem reap {killed : Bool} (h : AnchorHead allowed (.reaping killed, g) w) :
    Drives allowed (reap killed g) (Ends (AnchorHead allowed) AnchorStop) w := by
  have again {w : LaunchWorld} (h : AnchorHead allowed (.reaping killed, g) w) (reply : Bool) :
      AnchorHead allowed (.reaping killed, g) (w.after .beforeDeadline reply) :=
    ⟨h.1.after _ _, h.2⟩
  refine Drives.ask _ AnchorHead.stable h fun w r h answers ok => ?_
  match r with
  | .ok (some status) => exact (h.1.status (some status)).finishEmergency
  | .ok none =>
    refine Drives.ask _ AnchorHead.stable h fun w before h _ _ => ?_
    cases before with
    | true => exact again h true
    | false =>
      cases killed with
      | true => exact AnchorStop.parks
      | false =>
        refine Drives.ask _ AnchorHead.stable (again h false) fun w sent h _ ok => ⟨h.1.after _ _, ?_⟩
        intro quiet _
        obtain rfl : sent = true := quiet.kill w sent ok
        exact killed w
  | .error .interrupted =>
    refine Drives.ask _ AnchorHead.stable h fun w before h _ _ => ?_
    cases before with
    | true => exact again h true
    | false => exact AnchorStop.parks
  | .error .failed => exact AnchorStop.parks

theorem recheckChild (h : w.Unstarted g) :
    Drives allowed g.recheckChild (Ends (AnchorHead allowed) AnchorStop) w := by
  refine h.ask fun w r h => ?_
  match r with
  | .ok (some status) => exact (h.status (some status)).head (by decide)
  | .ok none => exact h.emergencyFailure
  | .error .interrupted => exact h.head (by decide)
  | .error .failed => exact h.emergencyFailure

theorem relayStoppedCoordinator (h : w.Unstarted g) (dispatched : Bool) :
    Drives allowed (relayStoppedCoordinator dispatched g) (Ends (AnchorHead allowed) AnchorStop) w := by
  refine h.ask fun w selected h => ?_
  cases selected with
  | false => exact h.recheckChild
  | true =>
    refine h.ask fun w restored h => ?_
    split
    · exact h.recheckChild
    · refine h.ask fun w stopped h => ?_
      cases stopped with
      | false => exact h.recheckChild
      | true => exact h.head nofun

theorem peekChildState (h : w.Unstarted g) :
    Drives allowed peekChildState (fun _ w => w.Unstarted g) w := by
  refine h.ask fun w r h => ?_
  match r with
  | .ok state => exact h
  | .error .interrupted => exact h
  | .error .failed => exact h

theorem relayObservedCoordinatorStop (h : w.Unstarted g) :
    Drives allowed g.relayObservedCoordinatorStop (Ends (AnchorHead allowed) AnchorStop) w := by
  refine Drives.bind h.peekChildState fun state w h => ?_
  match state with
  | some .stopped => exact h.relayStoppedCoordinator false
  | some .running | some .exited => exact h.head (by decide)
  | none => exact h.recheckChild

theorem resumeCoordinator (h : w.Unstarted g) (dispatched : Bool) :
    Drives allowed (resumeCoordinator dispatched g) (Ends (AnchorHead allowed) AnchorStop) w := by
  refine Drives.bind h.peekChildState fun state w h => ?_
  split
  · exact h.recheckChild
  · refine h.ask fun w selected h => ?_
    cases selected with
    | false => exact h.recheckChild
    | true =>
      refine h.ask fun w sent h => ?_
      cases sent with
      | false => exact h.recheckChild
      | true =>
        cases dispatched with
        | true => exact h.relayObservedCoordinatorStop
        | false => exact h.head (by decide)

theorem relaySuspended (h : w.Unstarted g) (dispatched : Bool) :
    Drives allowed (relaySuspended dispatched g) (Ends (AnchorHead allowed) AnchorStop) w := by
  refine h.ask fun w action h => ?_
  match action with
  | some .continue => exact h.resumeCoordinator dispatched
  | some (.forward signal) =>
    refine h.ask fun w sent h => ?_
    cases sent with
    | false => exact h.recheckChild
    | true => exact h.head nofun
  | some .resize | some .suspend | none => exact h.head nofun

theorem awaitCoordinatorStopped (h : w.Unstarted g) :
    Drives allowed g.awaitCoordinatorStopped (Ends (AnchorHead allowed) AnchorStop) w := by
  refine Drives.bind h.peekChildState fun state w h => ?_
  match state with
  | some .stopped => exact h.relayStoppedCoordinator true
  | some .exited =>
    refine h.ask fun w r h => ?_
    match r with
    | .ok status => exact (h.status status).recheckChild
    | .error _ => exact h.recheckChild
  | some .running =>
    refine h.ask fun w before h => ?_
    cases before with
    | true => exact h.head (by decide)
    | false => exact h.recheckChild
  | none => exact h.recheckChild

theorem dispatchSignal (h : w.Unstarted g) :
    Drives allowed g.dispatchSignal (Ends (AnchorHead allowed) AnchorStop) w := by
  have forward {w : LaunchWorld} (h : w.Unstarted g) (signal : AnchorSignal) :
      Drives allowed (do
        if ← Anchor.ask (.signalCoordinator signal) then g.relayObservedCoordinatorStop
        else g.recheckChild) (Ends (AnchorHead allowed) AnchorStop) w := by
    refine h.ask fun w sent h => ?_
    cases sent with
    | false => exact h.recheckChild
    | true => exact h.relayObservedCoordinatorStop
  refine h.ask fun w action h => ?_
  match action with
  | none => exact h.relayObservedCoordinatorStop
  | some (.forward signal) => exact forward h (.unix signal)
  | some .resize => exact forward h .winch
  | some .suspend =>
    refine h.ask fun w sent h => ?_
    cases sent with
    | false => exact h.recheckChild
    | true => exact h.head (by decide)
  | some .continue => exact h.recheckChild

theorem afterPoll (h : w.Unstarted g) :
    Drives allowed g.afterPoll (Ends (AnchorHead allowed) AnchorStop) w := by
  unfold AnchorGeneration.afterPoll
  split
  · split
    · exact h.finishVerified ‹_› _
    · exact h.head (by decide)
  · exact h.dispatchSignal

theorem failPoll (h : w.Unstarted g) (error : CompletionError) :
    Drives allowed (g.failPoll error) (Ends (AnchorHead allowed) AnchorStop) w :=
  (h.error error).emergencyFailure

/-- Under an armed guardian the anchor may have read anything. -/
theorem of_armed (launching : w.Launching) (armed : w.Armed) (g : AnchorGeneration) : w.Unstarted g :=
  ⟨launching, .inl armed⟩

theorem decodeTrailing (launching : w.Launching) (armed : w.Armed) (g : AnchorGeneration) :
    Drives allowed g.decodeTrailing (Ends (AnchorHead allowed) AnchorStop) w := by
  have any {w : LaunchWorld} (h : w.Unstarted { g with completionVerified := true })
      (g' : AnchorGeneration) : w.Unstarted g' := by
    obtain ⟨launching, armed⟩ := h.armed_of_verified rfl
    exact of_armed launching armed g'
  unfold AnchorGeneration.decodeTrailing
  split
  · exact (of_armed launching armed g).failPoll .invalidFrame
  · rename_i frame _
    refine (of_armed launching armed { g with completionVerified := true }).ask fun w r h => ?_
    cases r with
    | bytes piece =>
      cases piece with
      | nil =>
        cases frame with
        | providerReleased => exact (any h _).afterPoll
        | retainedUnrecoverable => exact AnchorStop.parks
      | cons _ _ => exact (any h _).failPoll .trailingData
    | interrupted => exact (any h _).head (by decide)
    | wouldBlock => exact (any h _).afterPoll
    | failed => exact (any h _).failPoll .io

theorem decodeCompletionOnce (h : w.Unstarted g) :
    Drives allowed g.decodeCompletionOnce (Ends (AnchorHead allowed) AnchorStop) w := by
  have armed_of_frame {w : LaunchWorld} (h : w.Unstarted g) (full : g.completion.frame ≠ []) : w.Armed := by
    rcases h.blank with armed | ⟨-, blank⟩
    · exact armed
    · exact absurd blank.frame full
  unfold AnchorGeneration.decodeCompletionOnce
  split
  · refine Drives.ask _ stable h fun w r h answers _ => ?_
    match r with
    | .bytes [] => exact (h.after _ _).failPoll .missingFrame
    | .bytes (b :: piece) =>
      have armed : w.Armed := by
        rcases h.blank with armed | ⟨nothing, -⟩
        · exact armed
        · simp [LaunchWorld.Answers, nothing] at answers
      have launching := h.launching.after (.read (completionFrameLength - g.completion.frame.length))
        (.bytes (b :: piece))
      have armed' : (w.after (.read (completionFrameLength - g.completion.frame.length))
          (.bytes (b :: piece))).Armed := armed
      change Drives allowed (if _ < completionFrameLength then _ else _) _ _
      split
      · exact (of_armed launching armed' _).head nofun
      · exact decodeTrailing launching armed' _
    | .interrupted => exact h.head (by decide)
    | .wouldBlock => exact h.afterPoll
    | .failed => exact h.failPoll .io
  · refine decodeTrailing h.launching (armed_of_frame h ?_) g
    rintro nothing
    simp [nothing, completionFrameLength] at *

theorem pollOnce (h : w.Unstarted g) :
    Drives allowed g.pollOnce (Ends (AnchorHead allowed) AnchorStop) w := by
  unfold AnchorGeneration.pollOnce
  split
  · exact h.failPoll _
  · refine h.ask fun w verified h => ?_
    cases verified with
    | false => exact h.failPoll .descriptor
    | true => exact h.decodeCompletionOnce

theorem drive (h : w.Unstarted g) :
    Drives allowed g.drive (Ends (AnchorHead allowed) AnchorStop) w := by
  have observed {w : LaunchWorld} {g : AnchorGeneration} (h : w.Unstarted g) :
      Drives allowed (if g.completionVerified then g.afterPoll else g.pollOnce)
        (Ends (AnchorHead allowed) AnchorStop) w := by
    split
    · exact h.afterPoll
    · exact h.pollOnce
  unfold AnchorGeneration.drive
  dsimp only
  split
  · exact observed h
  · refine h.ask fun w r h => ?_
    match r with
    | .ok status => exact observed (h.status status)
    | .error .interrupted => exact observed h
    | .error .failed => exact h.emergencyFailure

end LaunchWorld.Unstarted

/-- One round of the anchor. -/
theorem AnchorHead.turn {head : AnchorPoint × AnchorGeneration} (h : AnchorHead allowed head w) :
    Drives allowed (AnchorGeneration.turn head) (Ends (AnchorHead allowed) AnchorStop) w := by
  obtain ⟨point, g⟩ := head
  cases point with
  | top => exact h.1.drive
  | polling => exact h.1.decodeCompletionOnce
  | awaitingStop => exact h.1.awaitCoordinatorStopped
  | suspended dispatched => exact h.1.relaySuspended dispatched
  | reaping killed => exact LaunchWorld.Unstarted.reap h

/-! ## The end of the stream -/

/-- No process holds the completion endpoint any more, and none will. -/
structure LaunchWorld.Over (w : LaunchWorld) : Prop where
  guardian : w.guardian = .absent ∨ ∃ status, w.guardian = .finished (.exits status) false
  spawned : w.Spawned
  released : w.coordinator.holds = false

namespace LaunchWorld

theorem Launching.unheld (h : w.Launching) (unarmed : ¬w.Armed) (released : w.held = false) : w.Over := by
  simp only [held, Bool.or_eq_false_iff] at released
  obtain ⟨coordinator, guardian⟩ := released
  unfold Launching at h
  split at h
  · obtain ⟨rest, running, -⟩ | ⟨status, ended⟩ := h
    · simp [running, Process.holds] at coordinator
    · exact ⟨.inl ‹_›, spawned_of_finished ended, coordinator⟩
  · simp_all [Process.holds]
  · obtain ⟨rfl, spawned⟩ := h
    exact ⟨.inr ⟨_, ‹_›⟩, spawned, coordinator⟩
  · exact absurd ⟨_, ‹_›⟩ unarmed

theorem Over.env {w' : LaunchWorld} (h : w.Over) (step : Env w w') : w'.Over := by
  obtain ⟨guardian, spawned, released⟩ := h
  cases step with
  | @coordinator op next holds reply running =>
    obtain rfl : holds = false := by simpa [running, Process.holds] using released
    have silent := spawned _ _ running
    have rest (rest : Program LaunchOp LaunchOp.Reply (Except UInt8 CoordinatorEnd)) (holds : Bool)
        (same : Process.running (next reply) false = .running rest holds) : Silent rest := by
      obtain ⟨rfl, -⟩ := Process.running.inj same
      exact silent.2 reply
    cases op with
    | spawnGuardian => exact absurd rfl silent.1
    | dropCompletion | attempt | sendPromotedLease | assemble | runCoordinator =>
      exact ⟨guardian, rest, rfl⟩
  | coordinatorEnds running =>
    simp only [running, Process.holds] at released
    subst released
    unfold coordinatorEnds
    split <;> exact ⟨guardian, spawned_of_finished rfl, rfl⟩
  | coordinatorKilled => exact ⟨guardian, spawned_of_finished rfl, rfl⟩
  | guardian reply running => simp [running] at guardian
  | guardianEnds running => simp [running] at guardian
  | guardianKilled signal running => simp [running] at guardian
  | armed written holds armed =>
    obtain ⟨_, armed⟩ := armed
    simp [armed] at guardian
  | signal => exact ⟨guardian, spawned, released⟩

theorem Over.unarmed (h : w.Over) : ¬w.Armed := by
  rintro ⟨holds, armed⟩
  simpa [armed] using h.guardian

theorem Over.held (h : w.Over) : w.held = false := by
  have guardian : w.guardian.holds = false := by
    rcases h.guardian with absent | ⟨status, exits⟩
    · simp [absent, Process.holds]
    · simp [exits, Process.holds]
  simp [LaunchWorld.held, h.released, guardian]

theorem Over.after (h : w.Over) (op : AnchorOp) (reply : op.Reply) : (w.after op reply).Over := by
  have same := after_guardian w op reply
  rcases after_coordinator w op reply with coordinator | killed
  · refine ⟨same ▸ h.guardian, ?_, coordinator ▸ h.released⟩
    unfold Spawned
    rw [coordinator]
    exact h.spawned
  · exact ⟨same ▸ h.guardian, spawned_of_finished killed, by simp [killed, Process.holds]⟩

end LaunchWorld

/-- Nothing is left to read, nobody will write anything, and `n` looks fit before the deadlines. -/
structure LaunchWorld.Silenced (n : Nat) (w : LaunchWorld) : Prop where
  unheld : w.Over
  nothing : w.written = []
  ticks : w.ticks = n

namespace LaunchWorld.Silenced

open AnchorGeneration

variable {n m : Nat}

theorem stable : (launchSurroundings allowed).Stable (Silenced n) := by
  intro w w' ⟨unheld, nothing, ticks⟩ step
  have unheld' := unheld.env step
  exact ⟨unheld', (step.written unheld'.unarmed).trans nothing, step.kept.1.trans ticks⟩

/-- A call that waits for no deadline keeps this. -/
theorem ask (h : w.Silenced n) {β : Type} {op : AnchorOp} {f : op.Reply → Anchor β}
    {Q : β → LaunchWorld → Prop} (other : op ≠ .beforeDeadline)
    (next : ∀ w r, w.Silenced n → allowed w op r → w.Answers op r → (w.after op r).Silenced n →
      Drives allowed (f r) Q (w.after op r)) :
    Drives allowed (Anchor.ask op >>= f) Q w := by
  refine Drives.ask _ stable h fun w r h answers ok => next w r h ok answers ?_
  refine ⟨h.unheld.after op r, ?_, ?_⟩
  · have nothing := h.nothing
    unfold LaunchWorld.after
    split <;> try exact nothing
    · simp [nothing]
    · split <;> exact nothing
  · have ticks := h.ticks
    unfold LaunchWorld.after
    split <;> try exact ticks
    · exact absurd rfl other
    · split <;> exact ticks

end LaunchWorld.Silenced

/-- The outer terminal is restored. -/
theorem Quiet.restoreAnchorTerminal (quiet : Quiet allowed) (w : LaunchWorld) :
    Drives allowed AnchorGeneration.restoreAnchorTerminal (fun ok w => ok = true ∧ w.restored) w := by
  have trivially : (launchSurroundings allowed).Stable fun _ => True := fun _ _ _ _ => trivial
  have restore (w : LaunchWorld) :
      Drives allowed (do return (← Anchor.ask .restoreSnapshot).isSome)
        (fun ok w => ok = true ∧ w.restored) w := by
    refine Drives.ask _ trivially trivial fun w restored _ _ ok => ?_
    have := quiet.restore w restored ok
    exact ⟨this, by simp [LaunchWorld.after, this]⟩
  refine Drives.ask _ trivially trivial fun w owned _ _ ok => ?_
  obtain rfl : owned = true := quiet.terminal w owned ok
  refine Drives.ask _ trivially trivial fun w group _ _ ok => ?_
  rcases quiet.foreground w group ok with rfl | rfl
  · exact restore _
  · refine Drives.ask _ trivially trivial fun w selected _ _ ok => ?_
    obtain rfl : selected = true := quiet.reclaim w selected ok
    exact restore _

namespace AnchorGeneration

variable {n m : Nat}

end AnchorGeneration

/-! ## Launches that never start a provider -/

/-- The calls of an anchor that nothing disturbs. -/
def quietAnswer (w : LaunchWorld) : (op : AnchorOp) → op.Reply
  | .tryWait => .ok w.coordinatorStatus
  | .read limit =>
    if w.written = [] ∧ w.held then .wouldBlock else .bytes (w.written.take limit)
  | .nextActive => w.latches.nextActive.1
  | .nextSuspended => w.latches.nextSuspended.1
  | .peekChildState => .ok (if w.coordinatorStatus.isSome then .exited else .running)
  | .beforeDeadline => decide (0 < w.ticks)
  | .foreground => some .coordinator
  | .restoreSnapshot => some true
  | .freezeForShutdown => ()
  | .verifyIdentity | .signalCoordinator _ | .stopAfterSuspendedAck | .ownsTerminal
  | .selectForeground _ _ => true
  | .emulateDefaultHandler _ => false

/-- The next world of an anchor that nothing disturbs. -/
def quietly (w : LaunchWorld) (op : AnchorOp) : op.Reply × LaunchWorld :=
  (quietAnswer w op, w.after op (quietAnswer w op))

end Calcifer.Supervisor
