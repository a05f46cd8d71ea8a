import Calcifer.Commands.SplitLeaseSafety

/-!
# What the guardian announces

After `GO` the supervisor takes silence for a provider: if the control stream ends before `START`, it
holds the coordinator lock for ever. So a guardian that gives up has to say so. It does, but for two of
its checks, which return at once; `fails_closed` says for every run when the supervisor is held, and
that its lock is released exactly when an `ABORT` was delivered.
-/

namespace Calcifer.SplitLease

open Machine

/-! ## The order of the lines -/

/-- The supervisor has read `READY`, and has not ended. -/
def SupervisorPhase.met : SupervisorPhase → Bool
  | starting | leased | accepting | connected | ended _ => false
  | greeted | authorizing | monitoring _ | exiting _ | reaping | held _ => true

/-- The supervisor awaits the first line after `GO`. -/
def SupervisorPhase.waits : SupervisorPhase → Bool
  | authorizing | monitoring none => true
  | _ => false

/-- The supervisor awaits nothing but the end of the guardian. -/
def SupervisorPhase.settled : SupervisorPhase → Bool
  | reaping | ended _ => true
  | _ => false

/-- The guardian has announced that it gave up. -/
def GuardianPhase.announced (guardian : GuardianPhase) : Prop :=
  ∃ check, guardian = .ended (.aborted check true)

/-- Which lines the guardian has written, and how far the supervisor has read them. -/
structure Launch.Ordered (l : Launch) : Prop where
  silent : l.guardian.greeted = false → l.toSupervisor = []
  meets : l.supervisor.met → l.guardian.greeted ∧ readyLine ∉ l.toSupervisor
  first : readyLine ∉ l.toSupervisor.tail
  heard : ∀ line ∈ l.toSupervisor, line = readyLine ∨ line = abortLine ∨ l.provider ≠ .unspawned
  aborts : abortLine ∈ l.toSupervisor → l.guardian.announced
  announced : l.guardian.announced → abortLine ∈ l.toSupervisor ∨ l.supervisor.settled

theorem readControlLine_failed {lines lines' : List String} {closed fails : Bool}
    (h : readControlLine lines closed fails = some (.failed, lines')) :
    fails = true ∧ lines' = lines := by
  unfold readControlLine at h
  cases fails with
  | true =>
    cases h
    exact ⟨rfl, rfl⟩
  | false =>
    cases lines with
    | nil => cases closed <;> cases h
    | cons text lines => cases h

theorem readControlLine_eof {lines lines' : List String} {closed fails : Bool}
    (h : readControlLine lines closed fails = some (.eof, lines')) : lines = [] ∧ closed := by
  unfold readControlLine at h
  cases fails with
  | true => cases h
  | false =>
    cases lines with
    | nil =>
      cases closed with
      | true => exact ⟨rfl, rfl⟩
      | false => cases h
    | cons text lines => cases h

theorem monitorRead_abortLine : monitorRead none (.line abortLine) = .reaping := by decide

namespace Launch

variable {l l' : Launch} {lockFree : Bool}

/-- An announced end has no provider. -/
theorem Sound.unspawned_of_announced (h : l.Sound) (announced : l.guardian.announced) :
    l.provider = .unspawned := by
  obtain ⟨check, at_⟩ := announced
  have provides := h.provides
  rwa [at_] at provides

/-- The supervisor goes on, and has read some lines. -/
theorem Ordered.moveTo (h : l.Ordered) {phase : SupervisorPhase} {lines : List String}
    (suffix : lines <:+ l.toSupervisor)
    (meets : phase.met → l.supervisor.met ∨ l.guardian.greeted ∧ readyLine ∉ lines)
    (announced : l.guardian.announced → abortLine ∈ lines ∨ phase.settled) :
    Ordered { l with supervisor := phase, toSupervisor := lines } where
  silent ungreeted := by
    have none := h.silent ungreeted
    rw [none] at suffix
    exact List.suffix_nil.1 suffix
  meets met := by
    obtain before | now := meets met
    · obtain ⟨greeted, unread⟩ := h.meets before
      exact ⟨greeted, fun mem => unread (suffix.subset mem)⟩
    · exact now
  first := by
    have first := h.first
    obtain ⟨front, read⟩ := suffix
    rw [← read] at first
    cases front with
    | nil => exact first
    | cons line front => exact fun mem => first (List.mem_append_right _ (List.mem_of_mem_tail mem))
  heard line mem := h.heard line (suffix.subset mem)
  aborts mem := h.aborts (suffix.subset mem)
  announced := announced

/-- What a supervisor makes of its next line after `GO`, if its guardian gave up. -/
theorem Ordered.announcement (h : l.Ordered) (sound : l.Sound) (met : l.supervisor.met)
    (announced : l.guardian.announced) : ∀ line ∈ l.toSupervisor, line = abortLine := by
  intro line mem
  obtain rfl | abort | spawned := h.heard line mem
  · exact absurd mem (h.meets met).2
  · exact abort
  · exact absurd (sound.unspawned_of_announced announced) spawned

theorem Ordered.supervised {move : SupervisorMove} (h : l.Ordered) (sound : l.Sound)
    (step : Supervised l lockFree move l') : l'.Ordered := by
  have same : l.toSupervisor <:+ l.toSupervisor := List.suffix_refl _
  have knows := sound.knows
  cases step with
  | lock at_ _ =>
    refine h.moveTo same (fun other => by cases other) fun announced => .inl ?_
    exact (h.announced announced).resolve_right (by rw [at_]; decide)
  | spawnGuardian at_ =>
    rw [at_] at knows
    refine ⟨fun _ => knows.2, fun other => (by cases other), h.first, h.heard, fun mem => ?_, ?_⟩
    · rw [knows.2] at mem
      cases mem
    · rintro ⟨check, other⟩
      cases other
  | accept at_ _ =>
    refine h.moveTo same (fun other => by cases other) fun announced => .inl ?_
    exact (h.announced announced).resolve_right (by rw [at_]; decide)
  | guardianExited at_ _ => exact h.moveTo same (fun other => by cases other) fun _ => .inr rfl
  | terminate before spawned suffix =>
    have moved : Ordered { l with supervisor := .ended .failed, toSupervisor := _ } :=
      h.moveTo suffix (fun other => by cases other) fun _ => .inr rfl
    unfold terminateGuardian
    dsimp only
    split_ifs with lives
    · refine ⟨fun other => (by cases other), fun other => (by cases other), moved.first, moved.heard,
        ?_, ?_⟩
      · intro mem
        obtain ⟨check, at_⟩ := moved.aborts mem
        have dead : l.guardian = .ended (.aborted check true) := at_
        rw [dead] at lives
        cases lives
      · rintro ⟨check, other⟩
        cases other
    · exact moved
  | @greet fails lines at_ read =>
    have only : readyLine ∉ lines := by
      have first := h.first
      rwa [read] at first
    refine h.moveTo ⟨[readyLine], read.symm⟩ (fun _ => .inr ⟨?_, only⟩) fun announced => .inl ?_
    · exact (sound.truthful readyLine (by rw [read]; exact List.mem_cons_self)).ready rfl
    · have mem := (h.announced announced).resolve_right (by rw [at_]; decide)
      rw [read] at mem
      exact (List.mem_cons.1 mem).resolve_left (by decide)
  | go at_ =>
    have met : l.supervisor.met := by rw [at_]; rfl
    refine ⟨h.silent, fun _ => h.meets met, h.first, h.heard, h.aborts, fun announced => .inl ?_⟩
    exact (h.announced announced).resolve_right (by rw [at_]; decide)
  | awaitStart at_ =>
    refine h.moveTo same (fun _ => .inl (by rw [at_]; rfl)) fun announced => .inl ?_
    exact (h.announced announced).resolve_right (by rw [at_]; decide)
  | @read fails providerPid read lines at_ reads =>
    have met : l.supervisor.met := by rw [at_]; rfl
    obtain ⟨suffix, next⟩ := readControlLine_cases reads
    refine h.moveTo suffix (fun _ => .inl met) fun announced => ?_
    have mem := (h.announced announced).resolve_right (by rw [at_]; simp [SupervisorPhase.settled])
    have only := h.announcement sound met announced
    cases read with
    | line text =>
      have abort : text = abortLine := only text (by rw [next text rfl]; simp)
      have unknown : providerPid = none := by
        cases providerPid with
        | none => rfl
        | some raw =>
          rw [at_] at knows
          obtain ⟨pid, -, spawned⟩ := knows
          have unspawned := sound.unspawned_of_announced announced
          obtain runs | exited := spawned
          · cases unspawned.symm.trans runs
          · cases unspawned.symm.trans exited
      rw [abort, unknown]
      exact .inr rfl
    | eof =>
      rw [(readControlLine_eof reads).1] at mem
      cases mem
    | failed =>
      rw [(readControlLine_failed reads).2]
      exact .inl mem
  | @probe pid liveness at_ known =>
    refine h.moveTo same (fun _ => .inl (by rw [at_]; rfl)) fun announced => .inl ?_
    exact (h.announced announced).resolve_right (by rw [at_]; simp [SupervisorPhase.settled])
  | reaped at_ _ => exact h.moveTo same (fun other => by cases other) fun _ => .inr rfl
  | lost lives _ => exact h.moveTo same (fun other => by cases other) fun _ => .inr rfl

/-- The guardian goes on without a word. -/
theorem Ordered.guardTo (h : l.Ordered) {guardian : GuardianPhase} {provider : ProviderState}
    {connected : Bool} {toGuardian : List String} (quiet : ¬l.guardian.announced)
    (silent : guardian.greeted = false → l.guardian.greeted = false)
    (greeted : l.guardian.greeted → guardian.greeted)
    (provided : l.provider ≠ .unspawned → provider ≠ .unspawned)
    (unannounced : ¬guardian.announced) :
    Ordered ⟨l.supervisor, guardian, provider, connected, toGuardian, l.toSupervisor⟩ where
  silent ungreeted := h.silent (silent ungreeted)
  meets met := (h.meets met).imp_left greeted
  first := h.first
  heard line mem := (h.heard line mem).imp_right fun rest => rest.imp_right provided
  aborts mem := absurd (h.aborts mem) quiet
  announced now := absurd now unannounced

/-- The guardian goes on, and writes a line that is not `READY`. -/
theorem Ordered.write (h : l.Ordered) {guardian : GuardianPhase} {provider : ProviderState}
    {text : String} {delivered : Bool} (quiet : ¬l.guardian.announced) (greeted : guardian.greeted)
    (provided : l.provider ≠ .unspawned → provider ≠ .unspawned)
    (other : text ≠ readyLine) (told : text = abortLine ∨ provider ≠ .unspawned)
    (announced : guardian.announced ↔ text = abortLine ∧ delivered) :
    Ordered ⟨l.supervisor, guardian, provider, l.connected, l.toGuardian,
      writeLine l.toSupervisor text delivered⟩ where
  silent ungreeted := by
    rw [greeted] at ungreeted
    cases ungreeted
  meets met := by
    refine ⟨greeted, fun mem => ?_⟩
    obtain old | new := mem_writeLine mem
    · exact (h.meets met).2 old
    · exact other new.1.symm
  first mem := by
    have first := h.first
    cases lines : l.toSupervisor with
    | nil =>
      rw [lines] at mem
      cases delivered <;> cases mem
    | cons line rest =>
      rw [lines] at mem first
      cases delivered with
      | false => exact first mem
      | true =>
        obtain old | new := List.mem_append.1 (show readyLine ∈ rest ++ [text] from mem)
        · exact first old
        · exact other (List.mem_singleton.1 new).symm
  heard line mem := by
    obtain old | ⟨rfl, -⟩ := mem_writeLine mem
    · exact (h.heard line old).imp_right fun rest => rest.imp_right provided
    · exact .inr told
  aborts mem := by
    obtain old | ⟨same, delivered⟩ := mem_writeLine mem
    · exact absurd (h.aborts old) quiet
    · exact announced.2 ⟨same.symm, delivered⟩
  announced now := by
    obtain ⟨rfl, rfl⟩ := announced.1 now
    exact .inl (List.mem_append_right _ (List.mem_singleton_self _))

theorem Ordered.guarded {move : GuardianMove} (h : l.Ordered) (sound : l.Sound)
    (step : Guarded l lockFree move l') : l'.Ordered := by
  have quiet : ∀ {phase : GuardianPhase}, l.guardian = phase → phase.closed = false →
      ¬l.guardian.announced := by
    rintro phase at_ opened ⟨check, announced⟩
    rw [← at_, announced] at opened
    cases opened
  have unannounced : ∀ {phase : GuardianPhase}, (∀ check, phase ≠ .ended (.aborted check true)) →
      ¬phase.announced := fun other announced => announced.elim other
  cases step with
  | lock at_ _ =>
    exact h.guardTo (quiet at_ rfl) (fun _ => by rw [at_]; rfl)
      (fun other => by rw [at_] at other; cases other) id (unannounced (by simp))
  | connect at_ =>
    exact h.guardTo (quiet at_ rfl) (fun _ => by rw [at_]; rfl)
      (fun other => by rw [at_] at other; cases other) id (unannounced (by simp))
  | ready at_ =>
    have none := h.silent (by rw [at_]; rfl)
    rw [none]
    refine ⟨fun other => (by cases other), fun met => ?_, fun mem => (by cases mem), fun line mem => ?_,
      fun mem => ?_, fun announced => ?_⟩
    · have greeted := (h.meets met).1
      rw [at_] at greeted
      cases greeted
    · exact .inl (List.mem_singleton.1 mem)
    · exact absurd (List.mem_singleton.1 mem) (by decide)
    · exact absurd announced (unannounced (by simp))
  | go at_ _ =>
    exact h.guardTo (quiet at_ rfl) (fun other => by cases other) (fun _ => rfl) id
      (unannounced (by simp))
  | refuse _ lives _ _ =>
    exact h.guardTo (quiet rfl (begun_of_lives lives).2) (fun other => by cases other) (fun _ => rfl) id
      (unannounced (by simp))
  | pass at_ _ =>
    exact h.guardTo (quiet at_ rfl) (fun other => by cases other) (fun _ => rfl) id
      (unannounced (by simp))
  | @abort check delivered at_ _ =>
    refine h.write (quiet at_ rfl) rfl id (by decide) (.inl rfl) ⟨?_, ?_⟩
    · rintro ⟨check', same⟩
      cases same
      exact ⟨rfl, rfl⟩
    · rintro ⟨-, rfl⟩
      exact ⟨check, rfl⟩
  | silent at_ _ =>
    exact h.guardTo (quiet at_ rfl) (fun other => by cases other) (fun _ => rfl) id
      (unannounced (by simp))
  | spawn at_ =>
    exact h.guardTo (quiet at_ rfl) (fun other => by cases other) (fun _ => rfl) (fun _ => by simp)
      (unannounced (by simp))
  | @start pid delivered provider at_ terminated exits =>
    have provides := sound.provides
    rw [at_] at provides
    have spawned : provider ≠ .unspawned := by
      obtain rfl | ⟨running, -, rfl⟩ := exits
      · obtain runs | exited := provides
        · rw [runs]
          simp
        · rw [exited]
          simp
      · simp
    refine h.write (quiet at_ rfl) rfl (fun _ => spawned) (startLine_ne (by decide)) (.inr spawned)
      ⟨?_, ?_⟩
    · exact fun announced => absurd announced (unannounced (by simp))
    · exact fun other => absurd other.1 (startLine_ne (by decide))
  | reaped at_ _ =>
    exact h.guardTo (quiet at_ rfl) (fun other => by cases other) (fun _ => rfl) id
      (unannounced (by simp))
  | waitFailed at_ =>
    exact h.guardTo (quiet at_ rfl) (fun other => by cases other) (fun _ => rfl) id
      (unannounced (by simp))
  | finish at_ =>
    have provides := sound.provides
    rw [at_] at provides
    obtain ⟨pid, exited⟩ := provides
    refine h.write (quiet at_ rfl) rfl id (by decide) (.inr (by rw [exited]; simp)) ⟨?_, ?_⟩
    · exact fun announced => absurd announced (unannounced (by simp))
    · exact fun other => absurd other.1 (by decide)
  | kill lives =>
    exact h.guardTo (quiet rfl (begun_of_lives lives).2) (fun other => by cases other) (fun _ => rfl) id
      (unannounced (by simp))

theorem Ordered.exits (h : l.Ordered) : l.providerExits.Ordered := by
  unfold providerExits
  split
  · refine ⟨h.silent, h.meets, h.first, fun line mem => ?_, h.aborts, h.announced⟩
    exact (h.heard line mem).imp_right fun rest => rest.imp_right fun _ => by simp
  · exact h
  · exact h

/-! ## When a supervisor is held -/

/-- A supervisor may be held: a provider was spawned, or its guardian ended and no `ABORT` arrived. -/
def MayHold (l : Launch) : Prop :=
  l.provider ≠ .unspawned ∨ l.guardian.closed ∧ ¬l.guardian.announced

theorem spawned_ne {pid : Pid} (spawned : l.Spawned pid) : l.provider ≠ .unspawned := by
  obtain runs | exited := spawned
  · rw [runs]
    simp
  · rw [exited]
    simp

theorem Ordered.monitorRead_held (h : l.Ordered) (sound : l.Sound) {providerPid : Option ℕ}
    {fails : Bool} {read : ControlLine} {lines : List String} {reason : String}
    (at_ : l.supervisor = .monitoring providerPid)
    (reads : readControlLine l.toSupervisor l.guardian.closed fails = some (read, lines))
    (held : monitorRead providerPid read = .held reason) : l.MayHold ∨ fails = true := by
  have knows := sound.knows
  rw [at_] at knows
  cases providerPid with
  | some raw =>
    obtain ⟨pid, -, spawned⟩ := knows
    exact .inl (.inl (spawned_ne spawned))
  | none =>
    cases read with
    | failed => exact .inr (readControlLine_failed reads).1
    | eof =>
      obtain ⟨none, closed⟩ := readControlLine_eof reads
      refine .inl (.inr ⟨closed, fun announced => ?_⟩)
      have mem := (h.announced announced).resolve_right (by rw [at_]; simp [SupervisorPhase.settled])
      rw [none] at mem
      cases mem
    | line text =>
      have mem : text ∈ l.toSupervisor := by
        rw [(readControlLine_cases reads).2 text rfl]
        exact List.mem_cons_self
      obtain ready | rfl | spawned := h.heard text mem
      · exact absurd (ready ▸ mem) (h.meets (by rw [at_]; rfl)).2
      · cases monitorRead_abortLine.symm.trans held
      · exact .inl (.inl spawned)

/-- A supervisor comes to be held when it may be, or when a read of its own fails. -/
theorem held_supervised {move : SupervisorMove} {reason : String} (ordered : l.Ordered)
    (sound : l.Sound) (step : Supervised l lockFree move l') (held : l'.supervisor = .held reason) :
    l.MayHold ∨ move = .readLine true := by
  cases step with
  | read at_ reads =>
    obtain mayHold | rfl := ordered.monitorRead_held sound at_ reads held
    · exact .inl mayHold
    · exact .inr rfl
  | probe at_ known =>
    have knows := sound.knows
    rw [at_] at knows
    obtain ⟨pid, -, spawned⟩ := knows
    exact .inl (.inl (spawned_ne spawned))
  | lock _ _ | spawnGuardian _ | accept _ _ | guardianExited _ _ | terminate _ _ _ | greet _ _ | go _
  | awaitStart _ | reaped _ _ | lost _ _ => cases held

theorem MayHold.supervised {move : SupervisorMove} (h : l.MayHold) (sound : l.Sound)
    (step : Supervised l lockFree move l') : l'.MayHold := by
  obtain spawned | ⟨closed, quiet⟩ := h
  · exact .inl (by rwa [provider_supervised step])
  · cases step with
    | spawnGuardian at_ =>
      have knows := sound.knows
      rw [at_] at knows
      rw [knows.1] at closed
      cases closed
    | terminate _ _ _ =>
      have dead : l.guardian.lives = false := by
        cases phase : l.guardian with
        | absent | ended how => rfl
        | starting | leased | connected | awaitingGo | checking _ | spawned _ | waiting _
        | completing =>
          rw [phase] at closed
          cases closed
      unfold terminateGuardian
      dsimp only
      rw [dead]
      exact .inr ⟨closed, quiet⟩
    | lock _ _ | accept _ _ | guardianExited _ _ | greet _ _ | go _ | awaitStart _ | read _ _
    | probe _ _ | reaped _ _ | lost _ _ => exact .inr ⟨closed, quiet⟩

theorem lives_of_guarded {move : GuardianMove} (step : Guarded l lockFree move l') :
    l.guardian.lives := by
  cases step with
  | lock at_ _ | connect at_ | ready at_ | go at_ _ | pass at_ _ | abort at_ _ | silent at_ _
  | spawn at_ | start at_ _ | reaped at_ _ | waitFailed at_ | finish at_ =>
    rw [at_]
    rfl
  | refuse _ lives _ _ | kill lives => exact lives

theorem MayHold.guarded {move : GuardianMove} (h : l.MayHold) (sound : l.Sound)
    (step : Guarded l lockFree move l') : l'.MayHold := by
  obtain spawned | ⟨closed, -⟩ := h
  · refine .inl fun unspawned => spawned ?_
    obtain ⟨pid, -, -, -, one⟩ | ⟨-, same⟩ := pids_guarded sound step
    · rw [unspawned] at one
      cases one
    · rw [unspawned] at same
      cases provider : l.provider with
      | unspawned => rfl
      | running pid | exited pid =>
        rw [provider] at same
        cases same
  · cases (begun_of_lives (lives_of_guarded step)).2.symm.trans closed

theorem MayHold.exits (h : l.MayHold) : l.providerExits.MayHold := by
  unfold providerExits
  split
  · exact .inl (by simp)
  · exact h
  · exact h

/-- A guardian ends without a word only where it returns at once. -/
def Explained (l : Launch) : Prop :=
  ∀ check, (l.guardian = .ended (.silent check) → check.announced = false) ∧
    ∀ delivered, l.guardian = .ended (.aborted check delivered) → check.announced

theorem Explained.supervised {move : SupervisorMove} (h : l.Explained)
    (step : Supervised l lockFree move l') : l'.Explained := by
  cases step with
  | spawnGuardian at_ =>
    exact fun check => ⟨fun other => (by cases other), fun delivered other => by cases other⟩
  | terminate _ _ _ =>
    unfold terminateGuardian
    dsimp only
    split_ifs
    · exact fun check => ⟨fun other => (by cases other), fun delivered other => by cases other⟩
    · exact h
  | lock _ _ | accept _ _ | guardianExited _ _ | greet _ _ | go _ | awaitStart _ | read _ _ | probe _ _
  | reaped _ _ | lost _ _ => exact h

theorem Explained.guarded {move : GuardianMove} (step : Guarded l lockFree move l') : l'.Explained := by
  intro check
  cases step with
  | abort _ announced =>
    refine ⟨fun other => (by cases other), fun delivered same => ?_⟩
    cases same
    exact announced
  | silent _ unannounced =>
    refine ⟨fun same => ?_, fun delivered other => by cases other⟩
    cases same
    exact unannounced
  | lock _ _ | connect _ | ready _ | go _ _ | refuse _ _ _ _ | pass _ _ | spawn _ | start _ _
  | reaped _ _ | waitFailed _ | finish _ | kill _ =>
    exact ⟨fun other => (by cases other), fun delivered other => by cases other⟩

theorem guardian_exits (l : Launch) : l.providerExits.guardian = l.guardian := by
  unfold providerExits
  split <;> rfl

theorem supervisor_exits (l : Launch) : l.providerExits.supervisor = l.supervisor := by
  unfold providerExits
  split <;> rfl

theorem supervisor_guarded {move : GuardianMove} (step : Guarded l lockFree move l') :
    l'.supervisor = l.supervisor := by
  cases step <;> rfl

end Launch

/-! ## Runs -/

/-- A read of the supervisor of a launch fails. -/
def ReadFails (id : ℕ) (step : Step System Move Bool) : Prop :=
  step.input = .supervisor id (.readLine true) ∧ step.output

namespace System

/-- What the past of a run says of the lines of its launches. -/
structure Accounted (past : List (Step System Move Bool)) (s : System) : Prop where
  traced : Traced past s
  ordered : ∀ id, (s.launch id).Ordered
  explained : ∀ id, (s.launch id).Explained
  held : ∀ id reason, (s.launch id).supervisor = .held reason →
    (s.launch id).MayHold ∨ ∃ step ∈ past, ReadFails id step

variable {s s' : System} {past : List (Step System Move Bool)}

theorem Accounted.setLaunch (h : Accounted past s) {step : Step System Move Bool} {id : ℕ} {l : Launch}
    (traced : Traced (past ++ [step]) (s.setLaunch id l)) (ordered : l.Ordered)
    (explained : l.Explained)
    (held : ∀ reason, l.supervisor = .held reason →
      l.MayHold ∨ ReadFails id step ∨ ∃ step ∈ past, ReadFails id step) :
    Accounted (past ++ [step]) (s.setLaunch id l) where
  traced := traced
  ordered other := by
    by_cases same : other = id
    · subst same
      rwa [launch_setLaunch_self]
    · rw [launch_setLaunch_of_ne s l same]
      exact h.ordered other
  explained other := by
    by_cases same : other = id
    · subst same
      rwa [launch_setLaunch_self]
    · rw [launch_setLaunch_of_ne s l same]
      exact h.explained other
  held other reason now := by
    by_cases same : other = id
    · subst same
      rw [launch_setLaunch_self] at now ⊢
      obtain mayHold | fails | ⟨earlier, mem, fails⟩ := held reason now
      · exact .inl mayHold
      · exact .inr ⟨step, List.mem_append_right _ (List.mem_singleton_self _), fails⟩
      · exact .inr ⟨earlier, List.mem_append_left _ mem, fails⟩
    · rw [launch_setLaunch_of_ne s l same] at now ⊢
      obtain mayHold | ⟨earlier, mem, fails⟩ := h.held other reason now
      · exact .inl mayHold
      · exact .inr ⟨earlier, List.mem_append_left _ mem, fails⟩

theorem Accounted.still (h : Accounted past s) {step : Step System Move Bool}
    (traced : Traced (past ++ [step]) s') (launch : s'.launch = s.launch) :
    Accounted (past ++ [step]) s' where
  traced := traced
  ordered id := by
    rw [launch]
    exact h.ordered id
  explained id := by
    rw [launch]
    exact h.explained id
  held id reason now := by
    rw [launch] at now ⊢
    obtain mayHold | ⟨earlier, mem, fails⟩ := h.held id reason now
    · exact .inl mayHold
    · exact .inr ⟨earlier, List.mem_append_left _ mem, fails⟩

theorem Accounted.move (h : Accounted past s) {m : Move} (taken : s.move m = some s') :
    Accounted (past ++ [⟨s, m, true, s'⟩]) s' := by
  have traced := h.traced.move taken
  have sound := h.traced.consistent.sound
  cases m with
  | supervisor id move =>
    obtain ⟨l, supervised, rfl⟩ := Option.map_eq_some_iff.1 taken
    have step := supervise_cases supervised
    refine h.setLaunch traced ((h.ordered id).supervised (sound id) step)
      ((h.explained id).supervised step) fun reason held => ?_
    obtain mayHold | rfl := Launch.held_supervised (h.ordered id) (sound id) step held
    · exact .inl (mayHold.supervised (sound id) step)
    · exact .inr (.inl ⟨rfl, rfl⟩)
  | guardian id move =>
    obtain ⟨l, guarded, rfl⟩ := Option.map_eq_some_iff.1 taken
    have step := guard_cases guarded
    refine h.setLaunch traced ((h.ordered id).guarded (sound id) step) (.guarded step)
      fun reason held => ?_
    rw [Launch.supervisor_guarded step] at held
    obtain mayHold | fails := h.held id reason held
    · exact .inl (mayHold.guarded (sound id) step)
    · exact .inr (.inr fails)
  | providerExits id =>
    cases taken
    refine h.setLaunch traced (h.ordered id).exits ?_ fun reason held => ?_
    · unfold Launch.Explained
      rw [Launch.guardian_exits]
      exact h.explained id
    · rw [Launch.supervisor_exits] at held
      obtain mayHold | fails := h.held id reason held
      · exact .inl mayHold.exits
      · exact .inr (.inr fails)
  | user id move =>
    obtain ⟨u, -, rfl⟩ := Option.map_eq_some_iff.1 taken
    exact h.still traced rfl

theorem Accounted.step (h : Accounted past s) (m : Move) :
    Accounted (past ++ [stepAt System.step s m]) (System.step s m).2 := by
  have traced := h.traced.step m
  unfold stepAt System.step at traced ⊢
  cases taken : s.move m with
  | some s' => exact h.move taken
  | none =>
    rw [taken] at traced
    exact h.still traced rfl

end System

end Calcifer.SplitLease
