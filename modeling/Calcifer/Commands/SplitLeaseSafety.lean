import Calcifer.Commands.SplitLeaseSteps

/-!
# The safety of the split lease

While a provider runs, its launch holds one of the two locks, unless both of its processes were lost
(`split_lease_safe`). So there is one running provider at most, nobody else holds both locks, and a
provider is spawned once, after a supervisor that held the coordinator lock has written `GO`.

`Launch.Sound` says what the two processes of a launch know of each other. `Moved` is what one step of a
launch may change, and the rest is about locks and launches in general.
-/

namespace Calcifer.SplitLease

open Machine

/-! ## What is known of a provider -/

namespace Launch

/-- The provider was spawned, with this identifier. -/
def Spawned (l : Launch) (pid : Pid) : Prop :=
  l.provider = .running pid ∨ l.provider = .exited pid

/-- No provider runs, and none will. -/
def Barred (l : Launch) : Prop :=
  (∃ pid, l.provider = .exited pid) ∨ l.provider = .unspawned ∧ l.guardian.closed

/-- What a line of the guardian says is so. -/
structure Truthful (l : Launch) (line : String) : Prop where
  ready : line = readyLine → l.guardian.greeted
  closes : line = abortLine ∨ line = doneLine → l.Barred
  started : ∀ text, Text.stripPrefix "START " line = some text →
    ∃ pid : Pid, text = toString pid.raw ∧ l.Spawned pid

end Launch

/-- The provider of a guardian in a phase. -/
def GuardianPhase.Provides : GuardianPhase → ProviderState → Prop
  | absent, p | starting, p | leased, p | connected, p | awaitingGo, p | checking _, p
  | ended .refused, p | ended (.aborted _ _), p | ended (.silent _), p => p = .unspawned
  | spawned pid, p | waiting pid, p => p = .running pid ∨ p = .exited pid
  | completing, p | ended .finished, p => ∃ pid, p = .exited pid
  | ended .waitFailed, _ | ended .killed, _ => True

theorem GuardianPhase.Provides.exits {guardian : GuardianPhase} {pid : Pid}
    (h : guardian.Provides (.running pid)) : guardian.Provides (.exited pid) := by
  cases guardian with
  | absent | starting | leased | connected | awaitingGo | checking _ => cases h
  | spawned _ | waiting _ =>
    obtain same | other := h
    · cases same
      exact .inr rfl
    · cases other
  | completing => exact ⟨pid, rfl⟩
  | ended how =>
    cases how with
    | refused | aborted _ _ | silent _ => cases h
    | finished => exact ⟨pid, rfl⟩
    | waitFailed | killed => trivial

/-- What a supervisor in a phase knows. -/
def SupervisorPhase.Knows : SupervisorPhase → Launch → Prop
  | starting, l | leased, l => l.guardian = .absent ∧ l.toSupervisor = []
  | greeted, l => l.guardian.greeted
  | monitoring (some raw), l | exiting raw, l => ∃ pid : Pid, pid.raw = raw ∧ l.Spawned pid
  | reaping, l | ended .returned, l => l.Barred
  | accepting, _ | connected, _ | authorizing, _ | monitoring none, _ | held _, _
  | ended .failed, _ | ended .killed, _ => True

/-- What the processes of a launch know of each other. -/
structure Launch.Sound (l : Launch) : Prop where
  provides : l.guardian.Provides l.provider
  unauthorized : l.supervisor.unauthorized →
    l.toGuardian = [] ∧ l.guardian.unauthorized ∧ l.provider = .unspawned
  knows : l.supervisor.Knows l
  goes : l.toGuardian ≠ [] → l.guardian.greeted
  truthful : ∀ line ∈ l.toSupervisor, l.Truthful line

namespace Launch

variable {l l' : Launch}

theorem sound_new : Sound .new where
  provides := rfl
  unauthorized _ := ⟨rfl, rfl, rfl⟩
  knows := ⟨rfl, rfl⟩
  goes other := absurd rfl other
  truthful line mem := by cases mem

theorem monitorRead_knows {providerPid : Option ℕ} {read : ControlLine}
    (truthful : ∀ text, read = .line text → l.Truthful text)
    (knows : (SupervisorPhase.monitoring providerPid).Knows l) :
    (monitorRead providerPid read).Knows l := by
  cases read with
  | eof | failed =>
    cases providerPid with
    | none => trivial
    | some pid => exact knows
  | line text =>
    have truth := truthful text rfl
    unfold monitorRead
    dsimp only
    cases monitored : monitorLine providerPid text with
    | reap => exact truth.closes (monitorLine_reap monitored)
    | track raw =>
      obtain ⟨digits, start, parsed⟩ := monitorLine_track monitored
      obtain ⟨pid, rfl, spawned⟩ := truth.started digits start
      rw [pid.parse] at parsed
      cases parsed
      exact ⟨pid, rfl, spawned⟩
    | hold reason => trivial

/-! ## The supervisor -/

/-- The supervisor goes on, and has read some lines. -/
theorem Sound.moveTo (h : l.Sound) {phase : SupervisorPhase} {lines : List String}
    (suffix : lines <:+ l.toSupervisor)
    (unauthorized : phase.unauthorized → l.supervisor.unauthorized)
    (knows : phase.Knows { l with supervisor := phase, toSupervisor := lines }) :
    Sound { l with supervisor := phase, toSupervisor := lines } where
  provides := h.provides
  unauthorized before := h.unauthorized (unauthorized before)
  knows := knows
  goes := h.goes
  truthful line mem := by
    obtain ⟨ready, closes, started⟩ := h.truthful line (suffix.subset mem)
    exact ⟨ready, closes, started⟩

/-- What a supervisor knows once it has written `GO` does not depend on the lines it has not read. -/
theorem knows_moveTo {phase : SupervisorPhase} {lines : List String}
    (after : phase.unauthorized = false) (knows : phase.Knows l) :
    phase.Knows { l with supervisor := phase, toSupervisor := lines } := by
  cases phase with
  | starting | leased | accepting | connected | greeted => cases after
  | authorizing | held _ => trivial
  | monitoring providerPid => cases providerPid <;> exact knows
  | exiting pid => exact knows
  | reaping => exact knows
  | ended how => cases how <;> exact knows

/-- A guardian that is killed before the supervisor has written `GO`. -/
theorem Sound.terminate (h : l.Sound) {lines : List String} (before : l.supervisor.unauthorized)
    (suffix : lines <:+ l.toSupervisor) :
    (terminateGuardian { l with toSupervisor := lines }).Sound := by
  obtain ⟨noGo, -, unspawned⟩ := h.unauthorized before
  have moved : Sound { l with supervisor := .ended .failed, toSupervisor := lines } :=
    h.moveTo suffix (fun other => by cases other) trivial
  unfold terminateGuardian
  dsimp only
  split_ifs with lives
  · refine ⟨trivial, fun other => (by cases other), trivial, fun _ => rfl, fun line mem => ?_⟩
    obtain ⟨-, closes, started⟩ := moved.truthful line mem
    refine ⟨fun _ => rfl, fun closing => ?_, started⟩
    exact .inr ⟨unspawned, rfl⟩
  · exact moved

theorem unauthorized_monitorRead (providerPid : Option ℕ) (read : ControlLine) :
    (monitorRead providerPid read).unauthorized = false := by
  cases read with
  | line text =>
    unfold monitorRead
    dsimp only
    cases monitorLine providerPid text <;> rfl
  | eof | failed => cases providerPid <;> rfl

theorem unauthorized_probeExit (pid : ℕ) (liveness : Liveness) :
    (probeExit pid liveness).unauthorized = false := by
  unfold probeExit
  split_ifs
  · rfl
  · rfl
  · cases liveness <;> rfl

theorem probeExit_knows {pid : ℕ} {liveness : Liveness} (h : l.Sound)
    (at_ : l.supervisor = .exiting pid)
    (known : ∀ running : Pid, l.provider = .running running → running.raw = pid →
      liveness ≠ .noSuchProcess) : (probeExit pid liveness).Knows l := by
  have knows := h.knows
  rw [at_] at knows
  unfold probeExit
  split_ifs
  · trivial
  · trivial
  · cases liveness with
    | noSuchProcess =>
      obtain ⟨spawned, same, runs | exited⟩ := knows
      · exact absurd rfl (known spawned runs same)
      · exact .inl ⟨spawned, exited⟩
    | present => exact knows
    | failed => trivial

theorem Sound.supervised {lockFree : Bool} {move : SupervisorMove} (h : l.Sound)
    (step : Supervised l lockFree move l') : l'.Sound := by
  have same : l.toSupervisor <:+ l.toSupervisor := List.suffix_refl _
  have knows := h.knows
  cases step with
  | lock at_ free =>
    rw [at_] at knows
    exact h.moveTo same (fun _ => by rw [at_]; rfl) knows
  | spawnGuardian at_ =>
    rw [at_] at knows
    obtain ⟨absent, none⟩ := knows
    obtain ⟨noGo, -, unspawned⟩ := h.unauthorized (by rw [at_]; rfl)
    exact ⟨unspawned, fun _ => ⟨noGo, rfl, unspawned⟩, trivial, fun go => absurd noGo go,
      fun line mem => by rw [none] at mem; cases mem⟩
  | accept at_ connected => exact h.moveTo same (fun _ => by rw [at_]; rfl) trivial
  | guardianExited at_ closed =>
    refine h.moveTo same (fun other => by cases other) ?_
    exact .inr ⟨(h.unauthorized (by rw [at_]; rfl)).2.2, closed⟩
  | terminate before spawned suffix => exact h.terminate before suffix
  | greet at_ read =>
    have ready := (h.truthful readyLine (by rw [read]; exact List.mem_cons_self)).ready rfl
    exact h.moveTo ⟨[readyLine], read.symm⟩ (fun _ => by rw [at_]; rfl) ready
  | go at_ =>
    rw [at_] at knows
    obtain ⟨noGo, before, unspawned⟩ := h.unauthorized (by rw [at_]; rfl)
    refine ⟨h.provides, fun other => (by cases other), trivial, fun _ => knows, fun line mem => ?_⟩
    obtain ⟨ready, closes, started⟩ := h.truthful line mem
    exact ⟨ready, closes, started⟩
  | awaitStart at_ => exact h.moveTo same (fun other => by cases other) trivial
  | @read fails providerPid read lines at_ reads =>
    obtain ⟨suffix, first⟩ := readControlLine_cases reads
    rw [at_] at knows
    have next : (monitorRead providerPid read).Knows l :=
      monitorRead_knows (fun text line => h.truthful text (by rw [first text line]; simp)) knows
    have after := unauthorized_monitorRead providerPid read
    exact h.moveTo suffix (fun other => by rw [after] at other; cases other) (knows_moveTo after next)
  | @probe pid liveness at_ known =>
    have after := unauthorized_probeExit pid liveness
    exact h.moveTo same (fun other => by rw [after] at other; cases other)
      (knows_moveTo after (probeExit_knows h at_ known))
  | reaped at_ closed =>
    rw [at_] at knows
    exact h.moveTo same (fun other => by cases other) knows
  | @lost _ how lives lost =>
    refine h.moveTo same (fun other => by cases other) ?_
    cases how with
    | returned => exact absurd rfl lost
    | failed | killed => trivial

/-! ## The guardian -/

/-- What was known of a guardian that has begun is still so. -/
structure Keeps (l l' : Launch) : Prop where
  begun : l.guardian ≠ .absent
  greeted : l.guardian.greeted → l'.guardian.greeted
  closed : l.guardian.closed → l'.guardian.closed ∧ l'.provider = l.provider ∨ l.provider ≠ .unspawned
  provider : l'.provider = l.provider ∨ l.provider = .unspawned ∨
    ∃ pid, l.provider = .running pid ∧ l'.provider = .exited pid

theorem begun_of_lives {guardian : GuardianPhase} (lives : guardian.lives) :
    guardian ≠ .absent ∧ guardian.closed = false := by
  cases guardian with
  | absent | ended _ => cases lives
  | starting | leased | connected | awaitingGo | checking _ | spawned _ | waiting _ | completing =>
    exact ⟨by simp, rfl⟩

/-- A guardian that lives goes on. -/
theorem Keeps.of_lives (lives : l.guardian.lives) (greeted : l.guardian.greeted → l'.guardian.greeted)
    (provider : l'.provider = l.provider ∨ l.provider = .unspawned ∨
      ∃ pid, l.provider = .running pid ∧ l'.provider = .exited pid) : Keeps l l' := by
  obtain ⟨begun, alive⟩ := begun_of_lives lives
  refine ⟨begun, greeted, fun closed => ?_, provider⟩
  rw [alive] at closed
  cases closed

theorem Keeps.spawned {pid : Pid} (h : Keeps l l') (spawned : l.Spawned pid) : l'.Spawned pid := by
  obtain same | unspawned | ⟨running, runs, exited⟩ := h.provider
  · unfold Spawned
    rwa [same]
  · obtain runs | exited := spawned
    · cases unspawned.symm.trans runs
    · cases unspawned.symm.trans exited
  · obtain runs' | exited' := spawned
    · cases runs.symm.trans runs'
      exact .inr exited
    · cases runs.symm.trans exited'

theorem Keeps.barred (h : Keeps l l') (barred : l.Barred) : l'.Barred := by
  obtain ⟨pid, exited⟩ | ⟨unspawned, closed⟩ := barred
  · obtain same | unspawned | ⟨running, runs, -⟩ := h.provider
    · exact .inl ⟨pid, same.trans exited⟩
    · cases unspawned.symm.trans exited
    · cases runs.symm.trans exited
  · obtain ⟨closed', same⟩ | spawned := h.closed closed
    · exact .inr ⟨same.trans unspawned, closed'⟩
    · exact absurd unspawned spawned

theorem Keeps.truthful {line : String} (h : Keeps l l') (truth : l.Truthful line) :
    l'.Truthful line where
  ready same := h.greeted (truth.ready same)
  closes closing := h.barred (truth.closes closing)
  started text same := by
    obtain ⟨pid, digits, spawned⟩ := truth.started text same
    exact ⟨pid, digits, h.spawned spawned⟩

theorem Keeps.knows {phase : SupervisorPhase} (h : Keeps l l') (knows : phase.Knows l) :
    phase.Knows l' := by
  have seen : ∀ raw, (∃ pid : Pid, pid.raw = raw ∧ l.Spawned pid) →
      ∃ pid : Pid, pid.raw = raw ∧ l'.Spawned pid := by
    rintro raw ⟨pid, same, spawned⟩
    exact ⟨pid, same, h.spawned spawned⟩
  cases phase with
  | starting | leased => exact absurd knows.1 h.begun
  | accepting | connected | authorizing | held _ => trivial
  | greeted => exact h.greeted knows
  | monitoring providerPid =>
    cases providerPid with
    | none => trivial
    | some raw => exact seen raw knows
  | exiting raw => exact seen raw knows
  | reaping => exact h.barred knows
  | ended how =>
    cases how with
    | returned => exact h.barred knows
    | failed | killed => trivial

/-- The guardian goes on, and writes a line. -/
theorem Sound.guardTo (h : l.Sound) (keeps : Keeps l l')
    (supervisor : l'.supervisor = l.supervisor) (provides : l'.guardian.Provides l'.provider)
    (unauthorized : l.supervisor.unauthorized →
      l'.toGuardian = [] ∧ l'.guardian.unauthorized ∧ l'.provider = .unspawned)
    (goes : l'.toGuardian ≠ [] → l'.guardian.greeted)
    (lines : ∀ line ∈ l'.toSupervisor, line ∈ l.toSupervisor ∨ l'.Truthful line) : l'.Sound where
  provides := provides
  unauthorized before := unauthorized (supervisor ▸ before)
  knows := by
    rw [supervisor]
    exact keeps.knows h.knows
  goes := goes
  truthful line mem := by
    obtain old | new := lines line mem
    · exact keeps.truthful (h.truthful line old)
    · exact new

theorem truthful_readyLine (greeted : l.guardian.greeted) : l.Truthful readyLine :=
  ⟨fun _ => greeted, fun other => absurd other (by decide), fun text other => by
    rw [show Text.stripPrefix "START " readyLine = none by decide] at other
    cases other⟩

theorem truthful_closing {line : String} (barred : l.Barred)
    (closing : line = abortLine ∨ line = doneLine) : l.Truthful line := by
  refine ⟨fun ready => ?_, fun _ => barred, fun text other => ?_⟩
  · obtain rfl | rfl := closing <;> exact absurd ready (by decide)
  · obtain rfl | rfl := closing
    · rw [show Text.stripPrefix "START " abortLine = none by decide] at other
      cases other
    · rw [show Text.stripPrefix "START " doneLine = none by decide] at other
      cases other

theorem truthful_startLine {pid : Pid} (spawned : l.Spawned pid) : l.Truthful (startLine pid) := by
  refine ⟨fun other => absurd other (startLine_ne (by decide)), fun other => ?_, fun text start => ?_⟩
  · obtain other | other := other
    · exact absurd other (startLine_ne (by decide))
    · exact absurd other (startLine_ne (by decide))
  · rw [stripPrefix_startLine] at start
    cases start
    exact ⟨pid, rfl, spawned⟩

theorem mem_writeLine {lines : List String} {text line : String} {delivered : Bool}
    (mem : line ∈ writeLine lines text delivered) : line ∈ lines ∨ line = text ∧ delivered := by
  cases delivered with
  | true => simpa [writeLine] using mem
  | false => exact .inl mem

/-- A guardian that is past `GO` has a supervisor that is. -/
theorem Sound.authorized (h : l.Sound) (past : l.guardian.unauthorized = false) :
    l.supervisor.unauthorized = false := by
  cases before : l.supervisor.unauthorized with
  | false => rfl
  | true =>
    obtain ⟨-, unauthorized, -⟩ := h.unauthorized before
    rw [past] at unauthorized
    cases unauthorized

theorem Sound.unspawned (h : l.Sound) (lives : l.guardian.lives) (before : l.guardian.unauthorized) :
    l.provider = .unspawned := by
  have provides := h.provides
  cases phase : l.guardian with
  | absent | starting | leased | connected | awaitingGo =>
    rw [phase] at provides
    exact provides
  | checking check | spawned pid | waiting pid | completing =>
    rw [phase] at before
    cases before
  | ended how =>
    rw [phase] at lives
    cases lives

/-- A guardian before its greeting goes on. -/
theorem Sound.greets (h : l.Sound) {guardian : GuardianPhase} {connected : Bool} {lines : List String}
    (lives : l.guardian.lives) (silent : l.guardian.greeted = false)
    (at_ : guardian = .leased ∨ guardian = .connected ∨ guardian = .awaitingGo)
    (written : ∀ line ∈ lines, line ∈ l.toSupervisor ∨ line = readyLine ∧ guardian = .awaitingGo) :
    Sound { l with guardian := guardian, connected := connected, toSupervisor := lines } := by
  have noGo : l.toGuardian = [] := by
    by_contra go
    have greeted := h.goes go
    rw [silent] at greeted
    cases greeted
  have unspawned : l.provider = .unspawned := by
    refine h.unspawned lives ?_
    cases phase : l.guardian with
    | starting | leased | connected | absent => rfl
    | awaitingGo | checking | spawned | waiting | completing | ended =>
      rw [phase] at silent
      cases silent
  refine h.guardTo (.of_lives lives (fun other => ?_) (.inl rfl)) rfl ?_
    (fun _ => ⟨noGo, ?_, unspawned⟩) (fun go => absurd noGo go) fun line mem => ?_
  · rw [silent] at other
    cases other
  · obtain rfl | rfl | rfl := at_ <;> exact unspawned
  · obtain rfl | rfl | rfl := at_ <;> rfl
  · obtain old | ⟨rfl, rfl⟩ := written line mem
    · exact .inl old
    · exact .inr (truthful_readyLine rfl)

/-- A guardian past `GO` goes on. -/
theorem Sound.guards (h : l.Sound) {guardian : GuardianPhase} {provider : ProviderState}
    {lines : List String} (lives : l.guardian.lives) (past : l.guardian.unauthorized = false)
    (greeted : guardian.greeted)
    (exits : provider = l.provider ∨ l.provider = .unspawned ∨
      ∃ pid, l.provider = .running pid ∧ provider = .exited pid)
    (provides : guardian.Provides provider)
    (written : ∀ line ∈ lines, line ∈ l.toSupervisor ∨ Truthful
      { l with guardian := guardian, provider := provider, toSupervisor := lines } line) :
    Sound { l with guardian := guardian, provider := provider, toSupervisor := lines } := by
  refine h.guardTo (.of_lives lives (fun _ => greeted) exits) rfl provides (fun before => ?_)
    (fun _ => greeted) written
  rw [h.authorized past] at before
  cases before

theorem Sound.guarded {lockFree : Bool} {move : GuardianMove} (h : l.Sound)
    (step : Guarded l lockFree move l') : l'.Sound := by
  have provides := h.provides
  cases step with
  | lock at_ free =>
    exact h.greets (by rw [at_]; rfl) (by rw [at_]; rfl) (.inl rfl) fun line => .inl
  | connect at_ =>
    exact h.greets (by rw [at_]; rfl) (by rw [at_]; rfl) (.inr (.inl rfl)) fun line => .inl
  | ready at_ =>
    refine h.greets (by rw [at_]; rfl) (by rw [at_]; rfl) (.inr (.inr rfl)) fun line mem => ?_
    obtain old | new := List.mem_append.1 mem
    · exact .inl old
    · exact .inr ⟨List.mem_singleton.1 new, rfl⟩
  | @go fails lines at_ read =>
    rw [at_] at provides
    refine h.guardTo (.of_lives (by rw [at_]; rfl) (fun _ => rfl) (.inl rfl)) rfl provides
      (fun before => ?_) (fun _ => rfl) fun line => .inl
    have noGo := (h.unauthorized before).1
    rw [read] at noGo
    cases noGo
  | @refuse _ lines spawnless lives before suffix =>
    have unspawned := h.unspawned lives before
    refine h.guardTo (.of_lives lives (fun _ => rfl) (.inl rfl)) rfl unspawned (fun before => ?_)
      (fun _ => rfl) fun line => .inl
    have noGo := (h.unauthorized before).1
    exact ⟨List.suffix_nil.1 (noGo ▸ suffix), rfl, unspawned⟩
  | pass at_ further =>
    rw [at_] at provides
    exact h.guards (by rw [at_]; rfl) (by rw [at_]; rfl) rfl (.inl rfl) provides fun line => .inl
  | abort at_ announced =>
    rw [at_] at provides
    refine h.guards (by rw [at_]; rfl) (by rw [at_]; rfl) rfl (.inl rfl) provides fun line mem => ?_
    obtain old | ⟨rfl, -⟩ := mem_writeLine mem
    · exact .inl old
    · exact .inr (truthful_closing (.inr ⟨provides, rfl⟩) (.inl rfl))
  | silent at_ unannounced =>
    rw [at_] at provides
    exact h.guards (by rw [at_]; rfl) (by rw [at_]; rfl) rfl (.inl rfl) provides fun line => .inl
  | @spawn pid at_ =>
    rw [at_] at provides
    exact h.guards (by rw [at_]; rfl) (by rw [at_]; rfl) rfl (.inr (.inl provides)) (.inl rfl)
      fun line => .inl
  | @start pid delivered provider at_ terminated exits =>
    rw [at_] at provides
    have spawned : provider = .running pid ∨ provider = .exited pid := by
      obtain rfl | ⟨running, runs, rfl⟩ := exits
      · exact provides
      · obtain runs' | exited := provides
        · cases runs.symm.trans runs'
          exact .inr rfl
        · cases runs.symm.trans exited
    refine h.guards (by rw [at_]; rfl) (by rw [at_]; rfl) rfl (exits.imp_right .inr) spawned
      fun line mem => ?_
    obtain old | ⟨rfl, -⟩ := mem_writeLine mem
    · exact .inl old
    · exact .inr (truthful_startLine spawned)
  | @reaped pid gone at_ exited =>
    exact h.guards (by rw [at_]; rfl) (by rw [at_]; rfl) rfl (.inl rfl) ⟨gone, exited⟩ fun line => .inl
  | waitFailed at_ =>
    exact h.guards (by rw [at_]; rfl) (by rw [at_]; rfl) rfl (.inl rfl) trivial fun line => .inl
  | finish at_ =>
    rw [at_] at provides
    refine h.guards (by rw [at_]; rfl) (by rw [at_]; rfl) rfl (.inl rfl) provides fun line mem => ?_
    obtain old | ⟨rfl, -⟩ := mem_writeLine mem
    · exact .inl old
    · exact .inr (truthful_closing (.inl provides) (.inr rfl))
  | kill lives =>
    refine h.guardTo (.of_lives lives (fun _ => rfl) (.inl rfl)) rfl trivial (fun before => ?_)
      (fun _ => rfl) fun line => .inl
    obtain ⟨noGo, -, unspawned⟩ := h.unauthorized before
    exact ⟨noGo, rfl, unspawned⟩

/-- The provider exits, whatever has become of its launch. -/
theorem Sound.exits (h : l.Sound) : l.providerExits.Sound := by
  unfold providerExits
  split
  · next pid runs =>
    have spawned : l.provider ≠ .unspawned := by
      rw [runs]
      simp
    have provides := h.provides
    rw [runs] at provides
    have begun : l.guardian ≠ .absent := by
      intro absent
      have unspawned := h.provides
      rw [absent] at unspawned
      exact spawned unspawned
    exact h.guardTo ⟨begun, id, fun _ => .inr spawned, .inr (.inr ⟨pid, runs, rfl⟩)⟩ rfl provides.exits
      (fun before => absurd (h.unauthorized before).2.2 spawned) h.goes fun line => .inl
  · exact h
  · exact h

/-! ## What a step may change -/

def Runs (l : Launch) : Prop := ∃ pid, l.provider = .running pid

/-- Both processes are gone, and neither in its regular course. -/
def Orphaned (l : Launch) : Prop :=
  (l.supervisor = .ended .failed ∨ l.supervisor = .ended .killed) ∧
    (l.guardian = .ended .waitFailed ∨ l.guardian = .ended .killed)

/-- A guardian that holds its lock and has its `GO`. -/
def Armed (l : Launch) : Prop :=
  l.guardian.leases ∧ (l.toGuardian ≠ [] ∨ l.guardian.unauthorized = false)

/-- `GO` was written. -/
def Told (l : Launch) : Prop :=
  l.toGuardian ≠ [] ∨ l.guardian.unauthorized = false ∨ l.provider ≠ .unspawned

/-- What one step of a launch may change. -/
structure Moved (l l' : Launch) (coordinatorFree providerFree : Bool) : Prop where
  coordinator : l'.supervisor.leases → l.supervisor.leases ∨ coordinatorFree
  provider : l'.guardian.leases → l.guardian.leases ∨ providerFree
  armed : l'.Armed → l.Armed ∨ l.supervisor.leases
  unguarded : l'.Runs → l'.guardian.closed → l.Runs ∧ (l.guardian.closed ∨ l.guardian.leases)
  orphaned : l.Orphaned → l'.Orphaned

variable {lockFree : Bool}

theorem Sound.not_runs (h : l.Sound) (before : l.supervisor.unauthorized) : ¬l.Runs := by
  rintro ⟨pid, runs⟩
  cases (h.unauthorized before).2.2.symm.trans runs

/-- While its provider runs, a launch that is not orphaned holds a lock. -/
theorem Sound.leases (h : l.Sound) (runs : l.Runs) (kept : ¬l.Orphaned) :
    l.guardian.leases ∨ l.guardian.closed ∧ l.supervisor.leases := by
  obtain ⟨pid, runs⟩ := runs
  have provides := h.provides
  have knows := h.knows
  rw [runs] at provides
  have notBarred : ¬l.Barred := by
    rintro (⟨gone, exited⟩ | ⟨unspawned, -⟩)
    · cases runs.symm.trans exited
    · cases runs.symm.trans unspawned
  cases guardian : l.guardian with
  | absent | starting | leased | connected | awaitingGo | checking check =>
    rw [guardian] at provides
    cases provides
  | spawned _ | waiting _ | completing => exact .inl rfl
  | ended how =>
    refine .inr ⟨rfl, ?_⟩
    have lost : l.guardian = .ended .waitFailed ∨ l.guardian = .ended .killed := by
      rw [guardian] at provides ⊢
      cases how with
      | refused | aborted _ _ | silent _ => cases provides
      | finished =>
        obtain ⟨gone, exited⟩ := provides
        cases exited
      | waitFailed => exact .inl rfl
      | killed => exact .inr rfl
    cases supervisor : l.supervisor with
    | starting => exact absurd ⟨pid, runs⟩ (h.not_runs (by rw [supervisor]; rfl))
    | leased | accepting | connected | greeted | authorizing | monitoring _ | exiting _ | reaping
    | held _ => rfl
    | ended how =>
      rw [supervisor] at knows
      cases how with
      | returned => exact absurd knows notBarred
      | failed => exact absurd ⟨.inl supervisor, lost⟩ kept
      | killed => exact absurd ⟨.inr supervisor, lost⟩ kept

/-- The supervisor goes on, and nothing else happens. -/
theorem Moved.of_supervisor {phase : SupervisorPhase} {lines : List String} {coordinatorFree : Bool}
    (lives : l.supervisor.closed = false)
    (coordinator : phase.leases → l.supervisor.leases ∨ coordinatorFree) (providerFree : Bool) :
    Moved l { l with supervisor := phase, toSupervisor := lines } coordinatorFree providerFree where
  coordinator := coordinator
  provider := .inl
  armed := .inl
  unguarded runs closed := ⟨runs, .inl closed⟩
  orphaned := by
    rintro ⟨supervisor | supervisor, -⟩ <;>
    · rw [supervisor] at lives
      cases lives

theorem Moved.terminate (h : l.Sound) {lines : List String} (before : l.supervisor.unauthorized)
    (coordinatorFree providerFree : Bool) :
    Moved l (terminateGuardian { l with toSupervisor := lines }) coordinatorFree providerFree := by
  have stops :
      (if l.guardian.lives then GuardianPhase.ended .killed else l.guardian).leases = false := by
    cases l.guardian <;> rfl
  refine ⟨fun other => (by cases other), fun other => ?_, fun armed => ?_, fun runs => ?_, ?_⟩
  · cases stops.symm.trans other
  · cases stops.symm.trans armed.1
  · exact absurd runs (h.not_runs before)
  · rintro ⟨supervisor | supervisor, -⟩ <;>
    · rw [supervisor] at before
      cases before

theorem Moved.supervised {move : SupervisorMove} (h : l.Sound) (step : Supervised l lockFree move l')
    (providerFree : Bool) : Moved l l' lockFree providerFree := by
  cases step with
  | lock at_ free => exact .of_supervisor (by rw [at_]; rfl) (fun _ => .inr free) providerFree
  | spawnGuardian at_ =>
    refine ⟨fun _ => .inl (by rw [at_]; rfl), fun other => (by cases other), fun other => ?_,
      fun runs => ?_, ?_⟩
    · cases other.1
    · exact absurd runs (h.not_runs (by rw [at_]; rfl))
    · rintro ⟨supervisor | supervisor, -⟩ <;> cases at_.symm.trans supervisor
  | accept at_ connected =>
    exact .of_supervisor (by rw [at_]; rfl) (fun _ => .inl (by rw [at_]; rfl)) providerFree
  | guardianExited at_ closed =>
    exact .of_supervisor (by rw [at_]; rfl) (fun other => by cases other) providerFree
  | terminate before spawned suffix => exact .terminate h before lockFree providerFree
  | greet at_ read =>
    exact .of_supervisor (by rw [at_]; rfl) (fun _ => .inl (by rw [at_]; rfl)) providerFree
  | go at_ =>
    refine ⟨fun _ => .inl (by rw [at_]; rfl), .inl, fun _ => .inr (by rw [at_]; rfl),
      fun runs closed => ⟨runs, .inl closed⟩, ?_⟩
    rintro ⟨supervisor | supervisor, -⟩ <;> cases at_.symm.trans supervisor
  | awaitStart at_ =>
    exact .of_supervisor (by rw [at_]; rfl) (fun _ => .inl (by rw [at_]; rfl)) providerFree
  | read at_ reads =>
    exact .of_supervisor (by rw [at_]; rfl) (fun _ => .inl (by rw [at_]; rfl)) providerFree
  | probe at_ known =>
    exact .of_supervisor (by rw [at_]; rfl) (fun _ => .inl (by rw [at_]; rfl)) providerFree
  | reaped at_ closed =>
    exact .of_supervisor (by rw [at_]; rfl) (fun other => by cases other) providerFree
  | lost lives lost => exact .of_supervisor lives (fun other => by cases other) providerFree

theorem not_orphaned_of_lives (lives : l.guardian.lives) : ¬l.Orphaned := by
  rintro ⟨-, guardian | guardian⟩ <;>
  · rw [guardian] at lives
    cases lives

/-- The guardian goes on with its lock. -/
theorem Moved.of_guardian {guardian : GuardianPhase} {provider : ProviderState} {connected : Bool}
    {toGuardian toSupervisor : List String} (leases : l.guardian.leases)
    (armed : Armed ⟨l.supervisor, guardian, provider, connected, toGuardian, toSupervisor⟩ → l.Armed)
    (unguarded : guardian.closed → provider = l.provider) (coordinatorFree providerFree : Bool) :
    Moved l ⟨l.supervisor, guardian, provider, connected, toGuardian, toSupervisor⟩ coordinatorFree
      providerFree where
  coordinator := .inl
  provider _ := .inl leases
  armed now := .inl (armed now)
  unguarded runs closed := by
    obtain ⟨pid, runs⟩ := runs
    exact ⟨⟨pid, (unguarded closed).symm.trans runs⟩, .inr leases⟩
  orphaned := by
    rintro ⟨-, guardian | guardian⟩ <;>
    · rw [guardian] at leases
      cases leases

theorem Moved.guarded {move : GuardianMove} (h : l.Sound) (step : Guarded l lockFree move l')
    (coordinatorFree : Bool) : Moved l l' coordinatorFree lockFree := by
  cases step with
  | lock at_ free =>
    refine ⟨.inl, fun _ => .inr free, fun armed => ?_, fun _ other => (by cases other),
      fun orphaned => absurd orphaned (not_orphaned_of_lives (by rw [at_]; rfl))⟩
    obtain ⟨-, go | other⟩ := armed
    · have greeted := h.goes go
      rw [at_] at greeted
      cases greeted
    · cases other
  | connect at_ =>
    have leases : l.guardian.leases := by rw [at_]; rfl
    refine .of_guardian leases (fun armed => ?_) (fun other => by cases other) coordinatorFree lockFree
    obtain ⟨-, go | other⟩ := armed
    · exact ⟨leases, .inl go⟩
    · cases other
  | ready at_ =>
    have leases : l.guardian.leases := by rw [at_]; rfl
    refine .of_guardian leases (fun armed => ?_) (fun other => by cases other) coordinatorFree lockFree
    obtain ⟨-, go | other⟩ := armed
    · exact ⟨leases, .inl go⟩
    · cases other
  | go at_ read =>
    have leases : l.guardian.leases := by rw [at_]; rfl
    exact .of_guardian leases (fun _ => ⟨leases, .inl (by rw [read]; simp)⟩)
      (fun other => by cases other) coordinatorFree lockFree
  | refuse spawnless lives before suffix =>
    refine ⟨.inl, fun other => (by cases other), fun other => ?_, fun runs _ => ?_,
      fun orphaned => absurd orphaned (not_orphaned_of_lives lives)⟩
    · cases other.1
    · obtain ⟨pid, runs⟩ := runs
      cases (h.unspawned lives before).symm.trans runs
  | pass at_ _ | spawn at_ | start at_ _ | reaped at_ _ =>
    have leases : l.guardian.leases := by rw [at_]; rfl
    have past : l.guardian.unauthorized = false := by rw [at_]; rfl
    exact .of_guardian leases (fun _ => ⟨leases, .inr past⟩) (fun other => by cases other)
      coordinatorFree lockFree
  | abort at_ _ | silent at_ _ | waitFailed at_ | finish at_ =>
    have leases : l.guardian.leases := by rw [at_]; rfl
    exact .of_guardian leases (fun other => by cases other.1) (fun _ => rfl) coordinatorFree lockFree
  | kill lives =>
    refine ⟨.inl, fun other => (by cases other), fun other => ?_, fun runs _ => ⟨runs, ?_⟩,
      fun orphaned => absurd orphaned (not_orphaned_of_lives lives)⟩
    · cases other.1
    · obtain ⟨pid, runs⟩ := runs
      have unspawned : l.guardian.leases = false → l.provider = .unspawned := by
        intro free
        refine h.unspawned lives ?_
        cases phase : l.guardian with
        | absent | starting => rfl
        | leased | connected | awaitingGo | checking _ | spawned _ | waiting _ | completing =>
          rw [phase] at free
          cases free
        | ended how =>
          rw [phase] at lives
          cases lives
      cases leases : l.guardian.leases with
      | true => exact .inr rfl
      | false => cases (unspawned leases).symm.trans runs

/-- A guardian that holds its lock while its provider runs has its `GO`. -/
theorem Sound.armed (h : l.Sound) (runs : l.Runs) (leases : l.guardian.leases) : l.Armed := by
  obtain ⟨pid, runs⟩ := runs
  have provides := h.provides
  rw [runs] at provides
  refine ⟨leases, .inr ?_⟩
  cases phase : l.guardian with
  | absent | starting | leased | connected | awaitingGo | checking check =>
    rw [phase] at provides
    cases provides
  | spawned _ | waiting _ | completing => rfl
  | ended how =>
    rw [phase] at leases
    cases leases

theorem Moved.exits (coordinatorFree providerFree : Bool) :
    Moved l l.providerExits coordinatorFree providerFree := by
  unfold providerExits
  split
  · refine ⟨.inl, .inl, .inl, fun other => ?_, id⟩
    obtain ⟨pid, other⟩ := other
    cases other
  · exact ⟨.inl, .inl, .inl, fun runs closed => ⟨runs, .inl closed⟩, id⟩
  · exact ⟨.inl, .inl, .inl, fun runs closed => ⟨runs, .inl closed⟩, id⟩

end Launch

/-! ## The system -/

namespace System

def leasesCoordinator (s : System) : Holder → Bool
  | .launch id => (s.launch id).supervisor.leases
  | .user id => (s.user id).leasesCoordinator

def leasesProvider (s : System) : Holder → Bool
  | .launch id => (s.launch id).guardian.leases
  | .user id => (s.user id).leasesProvider

/-- The locks and the processes agree, and a launch whose guardian is gone while its provider runs keeps
every other guardian from its `GO`. -/
structure Consistent (s : System) : Prop where
  sound : ∀ id, (s.launch id).Sound
  coordinator : Locks.Owned s.coordinator s.leasesCoordinator
  provider : Locks.Owned s.provider s.leasesProvider
  covered : ∀ i j, i ≠ j → (s.launch i).Runs → (s.launch i).guardian.closed →
    ¬(s.launch i).Orphaned → ¬(s.launch j).Armed

variable {s s' : System}

theorem consistent_new : Consistent .new where
  sound _ := Launch.sound_new
  coordinator holder := by
    cases holder <;> exact ⟨fun other => (by cases other), fun other => by cases other⟩
  provider holder := by
    cases holder <;> exact ⟨fun other => (by cases other), fun other => by cases other⟩
  covered i j _ runs := by
    obtain ⟨pid, runs⟩ := runs
    cases runs

theorem leasesCoordinator_setLaunch (s : System) (id : ℕ) (l : Launch) :
    (s.setLaunch id l).leasesCoordinator =
      Function.update s.leasesCoordinator (.launch id) l.supervisor.leases := by
  funext holder
  cases holder with
  | launch other =>
    by_cases same : other = id
    · subst same
      simp [leasesCoordinator, setLaunch]
    · simp [leasesCoordinator, setLaunch, same]
  | user other => simp [leasesCoordinator, setLaunch]

theorem leasesProvider_setLaunch (s : System) (id : ℕ) (l : Launch) :
    (s.setLaunch id l).leasesProvider =
      Function.update s.leasesProvider (.launch id) l.guardian.leases := by
  funext holder
  cases holder with
  | launch other =>
    by_cases same : other = id
    · subst same
      simp [leasesProvider, setLaunch]
    · simp [leasesProvider, setLaunch, same]
  | user other => simp [leasesProvider, setLaunch]

theorem launch_setLaunch_self (s : System) (id : ℕ) (l : Launch) : (s.setLaunch id l).launch id = l :=
  Function.update_self ..

theorem launch_setLaunch_of_ne (s : System) {id other : ℕ} (l : Launch) (apart : other ≠ id) :
    (s.setLaunch id l).launch other = s.launch other :=
  Function.update_of_ne apart ..

/-- A launch whose guardian is gone while its provider runs holds the coordinator lock. -/
theorem Consistent.supervised (h : s.Consistent) {id : ℕ} (runs : (s.launch id).Runs)
    (closed : (s.launch id).guardian.closed) (kept : ¬(s.launch id).Orphaned) :
    (s.launch id).supervisor.leases := by
  obtain leases | ⟨-, leases⟩ := (h.sound id).leases runs kept
  · cases phase : (s.launch id).guardian with
    | ended how =>
      rw [phase] at leases
      cases leases
    | absent | starting | leased | connected | awaitingGo | checking _ | spawned _ | waiting _
    | completing =>
      rw [phase] at closed
      cases closed
  · exact leases

theorem Consistent.setLaunch (h : s.Consistent) {id : ℕ} {l : Launch} (sound : l.Sound)
    (moved : Launch.Moved (s.launch id) l s.coordinator.isNone s.provider.isNone) :
    (s.setLaunch id l).Consistent where
  sound other := by
    by_cases same : other = id
    · subst same
      rwa [launch_setLaunch_self]
    · rw [launch_setLaunch_of_ne s l same]
      exact h.sound other
  coordinator := by
    rw [leasesCoordinator_setLaunch]
    exact h.coordinator.settle moved.coordinator
  provider := by
    rw [leasesProvider_setLaunch]
    exact h.provider.settle moved.provider
  covered i j apart runs closed kept armed := by
    by_cases first : i = id
    · subst first
      rw [launch_setLaunch_self] at runs closed kept
      rw [launch_setLaunch_of_ne s l apart.symm] at armed
      have kept' : ¬(s.launch i).Orphaned := fun orphaned => kept (moved.orphaned orphaned)
      obtain ⟨ran, gone | leased⟩ := moved.unguarded runs closed
      · exact h.covered i j apart ran gone kept' armed
      · have same := h.provider.unique (a := .launch i) (b := .launch j) leased armed.1
        exact apart (Holder.launch.inj same)
    · rw [launch_setLaunch_of_ne s l first] at runs closed kept
      by_cases second : j = id
      · subst second
        rw [launch_setLaunch_self] at armed
        obtain before | leases := moved.armed armed
        · exact h.covered i j apart runs closed kept before
        · have covers := h.supervised runs closed kept
          have same := h.coordinator.unique (a := .launch i) (b := .launch j) covers leases
          exact apart (Holder.launch.inj same)
      · rw [launch_setLaunch_of_ne s l second] at armed
        exact h.covered i j apart runs closed kept armed

theorem leasesCoordinator_setUser (s : System) (id : ℕ) (u : UserPhase) :
    (s.setUser id u).leasesCoordinator =
      Function.update s.leasesCoordinator (.user id) u.leasesCoordinator := by
  funext holder
  cases holder with
  | launch other => simp [leasesCoordinator, setUser]
  | user other =>
    by_cases same : other = id
    · subst same
      simp [leasesCoordinator, setUser]
    · simp [leasesCoordinator, setUser, same]

theorem leasesProvider_setUser (s : System) (id : ℕ) (u : UserPhase) :
    (s.setUser id u).leasesProvider = Function.update s.leasesProvider (.user id) u.leasesProvider := by
  funext holder
  cases holder with
  | launch other => simp [leasesProvider, setUser]
  | user other =>
    by_cases same : other = id
    · subst same
      simp [leasesProvider, setUser]
    · simp [leasesProvider, setUser, same]

theorem use_leases {u u' : UserPhase} {coordinatorFree providerFree : Bool} {move : UserMove}
    (h : u.use coordinatorFree providerFree move = some u') :
    (u'.leasesCoordinator → u.leasesCoordinator ∨ coordinatorFree) ∧
      (u'.leasesProvider → u.leasesProvider ∨ providerFree) := by
  cases move <;> cases u <;> cases coordinatorFree <;> cases providerFree <;> cases h <;> decide

theorem Consistent.setUser (h : s.Consistent) {id : ℕ} {u : UserPhase}
    (coordinator : u.leasesCoordinator → (s.user id).leasesCoordinator ∨ s.coordinator.isNone)
    (provider : u.leasesProvider → (s.user id).leasesProvider ∨ s.provider.isNone) :
    (s.setUser id u).Consistent where
  sound := h.sound
  coordinator := by
    rw [leasesCoordinator_setUser]
    exact h.coordinator.settle coordinator
  provider := by
    rw [leasesProvider_setUser]
    exact h.provider.settle provider
  covered := h.covered

theorem Consistent.move (h : s.Consistent) {m : Move} (taken : s.move m = some s') : s'.Consistent := by
  cases m with
  | supervisor id move =>
    obtain ⟨l, supervised, rfl⟩ := Option.map_eq_some_iff.1 taken
    have step := supervise_cases supervised
    exact h.setLaunch ((h.sound id).supervised step) (.supervised (h.sound id) step _)
  | guardian id move =>
    obtain ⟨l, guarded, rfl⟩ := Option.map_eq_some_iff.1 taken
    have step := guard_cases guarded
    exact h.setLaunch ((h.sound id).guarded step) (.guarded (h.sound id) step _)
  | providerExits id =>
    cases taken
    exact h.setLaunch (h.sound id).exits (.exits _ _)
  | user id move =>
    obtain ⟨u, used, rfl⟩ := Option.map_eq_some_iff.1 taken
    obtain ⟨coordinator, provider⟩ := use_leases used
    exact h.setUser coordinator provider

theorem Consistent.step (h : s.Consistent) (m : Move) : (s.step m).2.Consistent := by
  unfold System.step
  split
  · next s' taken => exact h.move taken
  · exact h

end System

/-! ## Runs -/

def ProviderState.pids : ProviderState → List Pid
  | unspawned => []
  | running pid | exited pid => [pid]

/-- The provider that a step spawns for a launch. -/
def spawnOf (id : ℕ) (step : Step System Move Bool) : Option Pid :=
  match step.input with
  | .guardian other (.spawn pid) => if other = id ∧ step.output then some pid else none
  | _ => none

/-- The supervisor of a launch writes `GO` while the launch holds the coordinator lock. -/
def Authorizes (id : ℕ) (step : Step System Move Bool) : Prop :=
  step.input = .supervisor id (.writeGo true) ∧ step.output ∧
    step.before.coordinator = some (.launch id)

/-- What the lease of a launch is for, over a run. -/
structure SplitLeaseSafe (past : List (Step System Move Bool)) (s : System) : Prop where
  leased : ∀ id, (s.launch id).Runs → ¬(s.launch id).Orphaned →
    s.coordinator = some (.launch id) ∨ s.provider = some (.launch id)
  exclusive : ∀ i j, (s.launch i).Runs → (s.launch j).Runs → ¬(s.launch i).Orphaned →
    ¬(s.launch j).Orphaned → i = j
  unshared : ∀ id user, (s.launch id).Runs → ¬(s.launch id).Orphaned → s.user user ≠ .leased
  once : ∀ id, (past.filterMap (spawnOf id)).length ≤ 1
  authorized : ∀ id front step back, past = front ++ step :: back → (spawnOf id step).isSome →
    ∃ go ∈ front, Authorizes id go

namespace Launch

variable {l l' : Launch} {lockFree : Bool}

theorem told_supervised {move : SupervisorMove} (step : Supervised l lockFree move l')
    (told : l'.Told) : l.Told ∨ move = .writeGo true ∧ l.supervisor = .greeted := by
  cases step with
  | go at_ => exact .inr ⟨rfl, at_⟩
  | lock _ _ | accept _ _ | guardianExited _ _ | greet _ _ | awaitStart _ | read _ _ | probe _ _
  | reaped _ _ | lost _ _ => exact .inl told
  | spawnGuardian at_ =>
    obtain go | other | spawned := told
    · exact .inl (.inl go)
    · cases other
    · exact .inl (.inr (.inr spawned))
  | terminate before spawned suffix =>
    obtain go | past | spawned := told
    · exact .inl (.inl go)
    · refine .inl (.inr (.inl ?_))
      unfold terminateGuardian at past
      dsimp only at past
      split_ifs at past
      · cases past
      · exact past
    · exact .inl (.inr (.inr spawned))

theorem told_guarded {move : GuardianMove} (step : Guarded l lockFree move l') (told : l'.Told) :
    l.Told := by
  cases step with
  | lock _ _ | connect _ | ready _ | kill _ =>
    obtain go | other | spawned := told
    · exact .inl go
    · cases other
    · exact .inr (.inr spawned)
  | go at_ read => exact .inl (by rw [read]; simp)
  | refuse spawnless lives before suffix =>
    obtain go | other | spawned := told
    · refine .inl fun none => go (List.suffix_nil.1 ?_)
      rwa [none] at suffix
    · cases other
    · exact .inr (.inr spawned)
  | pass at_ _ | abort at_ _ | silent at_ _ | spawn at_ | start at_ _ | reaped at_ _ | waitFailed at_
  | finish at_ => exact .inr (.inl (by rw [at_]; rfl))

theorem told_exits (told : l.providerExits.Told) : l.Told := by
  unfold providerExits at told
  split at told
  · next pid runs => exact .inr (.inr (by rw [runs]; simp))
  · exact told
  · exact told

/-- A guardian spawns its provider once, past its checks. -/
theorem pids_guarded {move : GuardianMove} (h : l.Sound) (step : Guarded l lockFree move l') :
    (∃ pid, move = .spawn pid ∧ l.guardian = .checking .spawn ∧ l.provider.pids = [] ∧
        l'.provider.pids = [pid]) ∨
      (∀ pid, move ≠ .spawn pid) ∧ l'.provider.pids = l.provider.pids := by
  cases step with
  | @spawn pid at_ =>
    have provides := h.provides
    rw [at_] at provides
    exact .inl ⟨pid, rfl, at_, by rw [show l.provider = .unspawned from provides]; rfl, rfl⟩
  | @start pid delivered provider at_ terminated exits =>
    refine .inr ⟨by simp, ?_⟩
    obtain rfl | ⟨running, runs, rfl⟩ := exits
    · rfl
    · rw [runs]
      rfl
  | refuse spawnless _ _ _ => exact .inr ⟨spawnless, rfl⟩
  | lock _ _ | connect _ | ready _ | go _ _ | pass _ _ | abort _ _ | silent _ _ | reaped _ _
  | waitFailed _ | finish _ | kill _ => exact .inr ⟨by simp, rfl⟩

theorem provider_supervised {move : SupervisorMove} (step : Supervised l lockFree move l') :
    l'.provider = l.provider := by
  cases step <;> rfl

theorem pids_exits (l : Launch) : l.providerExits.provider.pids = l.provider.pids := by
  unfold providerExits
  split
  · next pid runs => rw [runs]; rfl
  · rfl
  · rfl

end Launch

namespace System

/-- What the past of a run says of its launches. -/
structure Traced (past : List (Step System Move Bool)) (s : System) : Prop where
  consistent : s.Consistent
  told : ∀ id, (s.launch id).Told → ∃ go ∈ past, Authorizes id go
  spawned : ∀ id, past.filterMap (spawnOf id) = (s.launch id).provider.pids

variable {s s' : System} {past : List (Step System Move Bool)}

theorem spawnOf_of_launch {id : ℕ} {move : GuardianMove} {s s' : System} {output : Bool}
    (spawnless : ∀ pid, move ≠ .spawn pid) :
    spawnOf id ⟨s, .guardian id move, output, s'⟩ = none := by
  unfold spawnOf
  split
  · next other pid same =>
    cases same
    exact absurd rfl (spawnless pid)
  · rfl

theorem spawnOf_of_ne {id other : ℕ} {move : GuardianMove} {s s' : System} {output : Bool}
    (apart : other ≠ id) : spawnOf id ⟨s, .guardian other move, output, s'⟩ = none := by
  unfold spawnOf
  split
  · next pid same =>
    cases same
    rw [if_neg fun this => apart this.1]
  · rfl

/-- A step that changes one launch. -/
theorem Traced.setLaunch (h : Traced past s) {step : Step System Move Bool} {id : ℕ} {l : Launch}
    (consistent : (s.setLaunch id l).Consistent)
    (told : l.Told → (s.launch id).Told ∨ Authorizes id step)
    (pids : l.provider.pids = (s.launch id).provider.pids ++ (spawnOf id step).toList)
    (others : ∀ other, id ≠ other → spawnOf other step = none) :
    Traced (past ++ [step]) (s.setLaunch id l) where
  consistent := consistent
  told other now := by
    by_cases same : other = id
    · subst same
      rw [launch_setLaunch_self] at now
      obtain before | authorizes := told now
      · obtain ⟨go, mem, authorizes⟩ := h.told other before
        exact ⟨go, List.mem_append_left _ mem, authorizes⟩
      · exact ⟨step, List.mem_append_right _ (List.mem_singleton_self _), authorizes⟩
    · rw [launch_setLaunch_of_ne s l same] at now
      obtain ⟨go, mem, authorizes⟩ := h.told other now
      exact ⟨go, List.mem_append_left _ mem, authorizes⟩
  spawned other := by
    rw [List.filterMap_append, h.spawned other]
    by_cases same : other = id
    · subst same
      rw [launch_setLaunch_self, pids]
      cases spawn : spawnOf other step <;> simp [spawn]
    · rw [launch_setLaunch_of_ne s l same]
      simp [others other (Ne.symm same)]

/-- A step that changes no launch. -/
theorem Traced.still (h : Traced past s) {step : Step System Move Bool} (consistent : s'.Consistent)
    (launch : s'.launch = s.launch) (silent : ∀ id, spawnOf id step = none) :
    Traced (past ++ [step]) s' where
  consistent := consistent
  told id now := by
    rw [launch] at now
    obtain ⟨go, mem, authorizes⟩ := h.told id now
    exact ⟨go, List.mem_append_left _ mem, authorizes⟩
  spawned id := by
    rw [List.filterMap_append, h.spawned id, launch]
    simp [silent id]

theorem Traced.move (h : Traced past s) {m : Move} (taken : s.move m = some s') :
    Traced (past ++ [⟨s, m, true, s'⟩]) s' := by
  have consistent := h.consistent.move taken
  cases m with
  | supervisor id move =>
    obtain ⟨l, supervised, rfl⟩ := Option.map_eq_some_iff.1 taken
    have step := supervise_cases supervised
    refine h.setLaunch consistent (fun told => ?_) ?_ fun _ _ => rfl
    · obtain before | ⟨rfl, greeted⟩ := Launch.told_supervised step told
      · exact .inl before
      · have leases : s.leasesCoordinator (.launch id) := by
          show (s.launch id).supervisor.leases = true
          rw [greeted]
          rfl
        exact .inr ⟨rfl, rfl, (h.consistent.coordinator (.launch id)).2 leases⟩
    · rw [Launch.provider_supervised step]
      exact (List.append_nil _).symm
  | guardian id move =>
    obtain ⟨l, guarded, rfl⟩ := Option.map_eq_some_iff.1 taken
    have step := guard_cases guarded
    refine h.setLaunch consistent (fun told => .inl (Launch.told_guarded step told)) ?_
      fun other apart => spawnOf_of_ne apart
    obtain ⟨pid, rfl, -, none, one⟩ | ⟨spawnless, same⟩ :=
      Launch.pids_guarded (h.consistent.sound id) step
    · rw [none, one]
      simp [spawnOf]
    · rw [same, spawnOf_of_launch spawnless]
      exact (List.append_nil _).symm
  | providerExits id =>
    cases taken
    refine h.setLaunch consistent (fun told => .inl (Launch.told_exits told)) ?_ fun _ _ => rfl
    rw [Launch.pids_exits]
    exact (List.append_nil _).symm
  | user id move =>
    obtain ⟨u, -, rfl⟩ := Option.map_eq_some_iff.1 taken
    exact h.still consistent rfl fun _ => rfl

theorem Traced.step (h : Traced past s) (m : Move) :
    Traced (past ++ [stepAt System.step s m]) (System.step s m).2 := by
  unfold stepAt
  unfold System.step
  cases taken : s.move m with
  | some s' => exact h.move taken
  | none =>
    refine h.still h.consistent rfl fun id => ?_
    unfold spawnOf
    split
    · rw [if_neg fun this => Bool.false_ne_true this.2]
    · rfl

theorem traced_new : Traced [] .new where
  consistent := consistent_new
  told id told := by
    obtain other | other | other := told
    · exact absurd rfl other
    · cases other
    · exact absurd rfl other
  spawned _ := rfl

theorem traced_history (moves : List Move) :
    Traced (history System.step .new moves) (final System.step .new moves) :=
  history_invariant (P := fun _ => True) traced_new (fun _ _ m h _ => h.step m) moves fun _ _ => trivial

theorem Consistent.leased (h : s.Consistent) {id : ℕ} (runs : (s.launch id).Runs)
    (kept : ¬(s.launch id).Orphaned) :
    s.coordinator = some (.launch id) ∨ s.provider = some (.launch id) := by
  obtain guardian | ⟨-, supervisor⟩ := (h.sound id).leases runs kept
  · exact .inr ((h.provider (.launch id)).2 guardian)
  · exact .inl ((h.coordinator (.launch id)).2 supervisor)

/-- A guardian that spawns has read its `GO`. -/
theorem unauthorized_of_spawn (h : s.Consistent) {id : ℕ} {m : Move}
    (spawns : (spawnOf id (stepAt System.step s m)).isSome) :
    (s.launch id).guardian.unauthorized = false := by
  obtain ⟨pid, spawn⟩ := Option.isSome_iff_exists.1 spawns
  unfold spawnOf at spawn
  split at spawn
  · next other pid' input =>
    split_ifs at spawn with spawned
    obtain ⟨rfl, output⟩ := spawned
    have same : m = .guardian other (.spawn pid') := input
    subst same
    unfold stepAt System.step at output
    split at output
    · next s' taken =>
      obtain ⟨l, guarded, -⟩ := Option.map_eq_some_iff.1 taken
      obtain ⟨-, -, at_, -⟩ | ⟨spawnless, -⟩ :=
        Launch.pids_guarded (h.sound other) (guard_cases guarded)
      · rw [at_]
        rfl
      · exact absurd rfl (spawnless pid')
    · cases output
  · cases spawn

theorem Consistent.exclusive (h : s.Consistent) {i j : ℕ} (first : (s.launch i).Runs)
    (second : (s.launch j).Runs) (kept : ¬(s.launch i).Orphaned) (kept' : ¬(s.launch j).Orphaned) :
    i = j := by
  by_contra apart
  obtain guardian | ⟨closed, supervisor⟩ := (h.sound i).leases first kept
  · obtain guardian' | ⟨closed', -⟩ := (h.sound j).leases second kept'
    · have same := h.provider.unique (a := .launch i) (b := .launch j) guardian guardian'
      exact apart (Holder.launch.inj same)
    · exact h.covered j i (Ne.symm apart) second closed' kept' ((h.sound i).armed first guardian)
  · obtain guardian' | ⟨-, supervisor'⟩ := (h.sound j).leases second kept'
    · exact h.covered i j apart first closed kept ((h.sound j).armed second guardian')
    · have same := h.coordinator.unique (a := .launch i) (b := .launch j) supervisor supervisor'
      exact apart (Holder.launch.inj same)

end System

/-- While a provider runs, its launch holds one of the two locks, unless both of its processes were
lost: so no other provider runs, nobody holds both locks, and a launch spawns once, after its `GO`. -/
theorem split_lease_safe (moves : List Move) :
    SplitLeaseSafe (history System.step .new moves) (final System.step .new moves) := by
  have traced := System.traced_history moves
  have consistent := traced.consistent
  refine ⟨fun id => consistent.leased, fun i j => consistent.exclusive,
    fun id user runs kept both => ?_, fun id => ?_, fun id front step back split spawns => ?_⟩
  · obtain coordinator | provider := consistent.leased runs kept
    · have user' := (consistent.coordinator (.user user)).2 (by
        show UserPhase.leasesCoordinator _ = true
        rw [both]
        rfl)
      cases coordinator.symm.trans user'
    · have user' := (consistent.provider (.user user)).2 (by
        show UserPhase.leasesProvider _ = true
        rw [both]
        rfl)
      cases provider.symm.trans user'
  · rw [traced.spawned id]
    cases (final System.step .new moves).launch id |>.provider <;> simp [ProviderState.pids]
  · obtain ⟨earlier, m, rest, -, rfl, rfl, -⟩ := history_split split
    have before := System.traced_history earlier
    refine before.told id (.inr (.inl ?_))
    exact System.unauthorized_of_spawn before.consistent spawns

/-- A launch up to its running provider. -/
def launching (id : ℕ) (pid : Pid) : List Move :=
  [.supervisor id .lockCoordinator, .supervisor id .spawnGuardian, .guardian id .lockProvider,
    .guardian id .connect, .guardian id (.writeReady true), .supervisor id .accept,
    .supervisor id (.readReady false), .supervisor id (.writeGo true),
    .supervisor id (.awaitStart true), .guardian id (.readGo false)] ++
    List.replicate 7 (.guardian id (.check true true)) ++
    [.guardian id (.spawn pid), .guardian id (.writeStart true false)]

/-- Once both processes of a launch are killed, another provider can start beside its own. -/
example : (final System.step .new (launching 0 ⟨7, by decide, by decide⟩ ++
    [.supervisor 0 .kill, .guardian 0 .kill] ++ launching 1 ⟨8, by decide, by decide⟩)).provider =
      some (.launch 1) := by
  decide +kernel

end Calcifer.SplitLease
