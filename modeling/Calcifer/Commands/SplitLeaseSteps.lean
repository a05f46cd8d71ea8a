import Calcifer.Commands.SplitLease

/-!
# The steps of a launch

What the supervisor reads in the lines of its guardian, and what a move of either process can do
(`supervise_cases`, `guard_cases`): the later proofs look at the rules and not at the processes.
-/

namespace Calcifer.SplitLease

/-! ## Lines -/

theorem parseU32_toString {n : ℕ} (h : n < 2 ^ 32) : parseU32 (toString n) = some n := by
  have text : (toString n).toList = Nat.toDigits 10 n := Nat.toList_repr
  have isDigit : ∀ c ∈ Nat.toDigits 10 n, c.isDigit := fun c =>
    Nat.isDigit_of_mem_toDigits (by decide) (by decide)
  have digits : (Nat.toDigits 10 n).all Char.isDigit = true := List.all_eq_true.2 isDigit
  unfold parseU32
  rw [text]
  split
  · next rest signed =>
    have digit := isDigit '+' (by rw [signed]; exact List.mem_cons_self)
    exact absurd digit (by decide)
  · simp only [Nat.toDigits_ne_nil, digits, not_true_eq_false, or_self, if_false,
      Nat.ofDigitChars_ten_toDigits, h, if_true]

theorem Pid.parse (pid : Pid) : parseU32 (toString pid.raw) = some pid.raw :=
  parseU32_toString (lt_trans pid.bounded (by decide))

theorem stripPrefix_startLine (pid : Pid) :
    Text.stripPrefix "START " (startLine pid) = some (toString pid.raw) :=
  Text.stripPrefix_eq_some.2 rfl

theorem startLine_ne {pid : Pid} {line : String} (other : Text.stripPrefix "START " line = none) :
    startLine pid ≠ line := by
  rintro rfl
  rw [stripPrefix_startLine] at other
  cases other

/-- The monitor reaps for the line that closes its case, and tracks what a `START` says. -/
theorem monitorLine_reap {providerPid : Option ℕ} {line : String}
    (h : monitorLine providerPid line = .reap) : line = abortLine ∨ line = doneLine := by
  unfold monitorLine at h
  split_ifs at h with abort done
  · exact .inl abort.1
  · exact .inr done.1
  · split at h
    · split at h <;> cases h
    · cases h

theorem monitorLine_track {providerPid : Option ℕ} {line : String} {raw : ℕ}
    (h : monitorLine providerPid line = .track raw) :
    ∃ text, Text.stripPrefix "START " line = some text ∧ parseU32 text = some raw := by
  unfold monitorLine at h
  split_ifs at h
  split at h
  · split at h
    · next pid parsed =>
      cases h
      exact Option.bind_eq_some_iff.1 parsed
    · cases h
  · cases h

/-! ## Phases -/

/-- The guardian has written `READY`, or has ended. -/
def GuardianPhase.greeted : GuardianPhase → Bool
  | absent | starting | leased | connected => false
  | awaitingGo | checking _ | spawned _ | waiting _ | completing | ended _ => true

/-- The guardian has not read `GO`. -/
def GuardianPhase.unauthorized : GuardianPhase → Bool
  | absent | starting | leased | connected | awaitingGo | ended .refused | ended .killed => true
  | checking _ | spawned _ | waiting _ | completing | ended _ => false

/-- The supervisor has not written `GO`. -/
def SupervisorPhase.unauthorized : SupervisorPhase → Bool
  | starting | leased | accepting | connected | greeted => true
  | authorizing | monitoring _ | exiting _ | reaping | held _ | ended _ => false

/-! ## What a move can do -/

theorem readControlLine_cases {lines lines' : List String} {closed fails : Bool} {read : ControlLine}
    (h : readControlLine lines closed fails = some (read, lines')) :
    lines' <:+ lines ∧ ∀ text, read = .line text → lines = text :: lines' := by
  unfold readControlLine at h
  cases fails with
  | true =>
    cases h
    exact ⟨List.suffix_refl _, fun text other => by cases other⟩
  | false =>
    cases lines with
    | nil =>
      cases closed with
      | true =>
        cases h
        exact ⟨List.suffix_refl _, fun text other => by cases other⟩
      | false => cases h
    | cons text lines =>
      cases h
      exact ⟨List.suffix_cons _ _, fun text same => by cases same; rfl⟩

/-- The moves of a supervisor, with what has to hold before. -/
inductive Supervised (l : Launch) (lockFree : Bool) : SupervisorMove → Launch → Prop where
  | lock (at_ : l.supervisor = .starting) (free : lockFree) :
    Supervised l lockFree .lockCoordinator { l with supervisor := .leased }
  | spawnGuardian (at_ : l.supervisor = .leased) :
    Supervised l lockFree .spawnGuardian { l with supervisor := .accepting, guardian := .starting }
  | accept (at_ : l.supervisor = .accepting) (connected : l.connected) :
    Supervised l lockFree .accept { l with supervisor := .connected }
  | guardianExited (at_ : l.supervisor = .accepting) (closed : l.guardian.closed) :
    Supervised l lockFree .guardianExited { l with supervisor := .ended .returned }
  | terminate {move : SupervisorMove} {lines : List String} (before : l.supervisor.unauthorized)
    (spawned : l.supervisor ≠ .starting ∧ l.supervisor ≠ .leased) (suffix : lines <:+ l.toSupervisor) :
    Supervised l lockFree move { l with toSupervisor := lines }.terminateGuardian
  | greet {fails : Bool} {lines : List String} (at_ : l.supervisor = .connected)
    (read : l.toSupervisor = readyLine :: lines) :
    Supervised l lockFree (.readReady fails) { l with supervisor := .greeted, toSupervisor := lines }
  | go (at_ : l.supervisor = .greeted) :
    Supervised l lockFree (.writeGo true)
      { l with supervisor := .authorizing, toGuardian := l.toGuardian ++ [goLine] }
  | awaitStart (at_ : l.supervisor = .authorizing) :
    Supervised l lockFree (.awaitStart true) { l with supervisor := .monitoring none }
  | read {fails : Bool} {providerPid : Option ℕ} {read : ControlLine} {lines : List String}
    (at_ : l.supervisor = .monitoring providerPid)
    (reads : readControlLine l.toSupervisor l.guardian.closed fails = some (read, lines)) :
    Supervised l lockFree (.readLine fails)
      { l with supervisor := monitorRead providerPid read, toSupervisor := lines }
  | probe {pid : ℕ} {liveness : Liveness} (at_ : l.supervisor = .exiting pid)
    (known : ∀ running : Pid, l.provider = .running running → running.raw = pid →
      liveness ≠ .noSuchProcess) :
    Supervised l lockFree (.probe liveness) { l with supervisor := probeExit pid liveness }
  | reaped (at_ : l.supervisor = .reaping) (closed : l.guardian.closed) :
    Supervised l lockFree (.wait true) { l with supervisor := .ended .returned }
  | lost {move : SupervisorMove} {how : Ending} (lives : l.supervisor.closed = false)
    (lost : how ≠ .returned) :
    Supervised l lockFree move { l with supervisor := .ended how }

/-- The moves of a guardian. -/
inductive Guarded (l : Launch) (lockFree : Bool) : GuardianMove → Launch → Prop where
  | lock (at_ : l.guardian = .starting) (free : lockFree) :
    Guarded l lockFree .lockProvider { l with guardian := .leased }
  | connect (at_ : l.guardian = .leased) :
    Guarded l lockFree .connect { l with guardian := .connected, connected := true }
  | ready (at_ : l.guardian = .connected) :
    Guarded l lockFree (.writeReady true)
      { l with guardian := .awaitingGo, toSupervisor := l.toSupervisor ++ [readyLine] }
  | go {fails : Bool} {lines : List String} (at_ : l.guardian = .awaitingGo)
    (read : l.toGuardian = goLine :: lines) :
    Guarded l lockFree (.readGo fails)
      { l with guardian := .checking .readTimeout, toGuardian := lines }
  | refuse {move : GuardianMove} {lines : List String} (spawnless : ∀ pid, move ≠ .spawn pid)
    (lives : l.guardian.lives) (before : l.guardian.unauthorized) (suffix : lines <:+ l.toGuardian) :
    Guarded l lockFree move { l with guardian := .ended .refused, toGuardian := lines }
  | pass {check next : FinalCheck} {delivered : Bool} (at_ : l.guardian = .checking check)
    (further : check.next = some next) :
    Guarded l lockFree (.check true delivered) { l with guardian := .checking next }
  | abort {check : FinalCheck} {delivered : Bool} (at_ : l.guardian = .checking check)
    (announced : check.announced) :
    Guarded l lockFree (.check false delivered)
      { l with
        guardian := .ended (.aborted check delivered)
        toSupervisor := writeLine l.toSupervisor abortLine delivered }
  | silent {check : FinalCheck} {delivered : Bool} (at_ : l.guardian = .checking check)
    (unannounced : check.announced = false) :
    Guarded l lockFree (.check false delivered) { l with guardian := .ended (.silent check) }
  | spawn {pid : Pid} (at_ : l.guardian = .checking .spawn) :
    Guarded l lockFree (.spawn pid) { l with guardian := .spawned pid, provider := .running pid }
  | start {pid : Pid} {delivered : Bool} {provider : ProviderState} (at_ : l.guardian = .spawned pid)
    {terminated : Bool} (exits : provider = l.provider ∨
      ∃ running, l.provider = .running running ∧ provider = .exited running) :
    Guarded l lockFree (.writeStart delivered terminated)
      { l with
        guardian := .waiting pid
        provider := provider
        toSupervisor := writeLine l.toSupervisor (startLine pid) delivered }
  | reaped {pid gone : Pid} (at_ : l.guardian = .waiting pid) (exited : l.provider = .exited gone) :
    Guarded l lockFree (.wait true) { l with guardian := .completing }
  | waitFailed {pid : Pid} (at_ : l.guardian = .waiting pid) :
    Guarded l lockFree (.wait false) { l with guardian := .ended .waitFailed }
  | finish {delivered : Bool} (at_ : l.guardian = .completing) :
    Guarded l lockFree (.writeDone delivered)
      { l with
        guardian := .ended .finished
        toSupervisor := writeLine l.toSupervisor doneLine delivered }
  | kill (lives : l.guardian.lives) : Guarded l lockFree .kill { l with guardian := .ended .killed }

section

variable {l l' : Launch} {lockFree : Bool}

theorem supervise_cases {move : SupervisorMove} (h : l.supervise lockFree move = some l') :
    Supervised l lockFree move l' := by
  unfold Launch.supervise at h
  split at h
  · next at_ =>
    cases h
    cases free : lockFree with
    | true => exact .lock at_ rfl
    | false => exact .lost (by rw [at_]; rfl) (by decide)
  · next at_ =>
    cases h
    exact .spawnGuardian at_
  · next at_ =>
    split_ifs at h with connected
    cases h
    exact .accept at_ connected
  · next at_ =>
    split_ifs at h with closed
    cases h
    exact .guardianExited at_ closed
  · next at_ =>
    cases h
    exact .terminate (by rw [at_]; rfl) (by rw [at_]; decide) (List.suffix_refl _)
  · next fails at_ =>
    have before : l.supervisor.unauthorized := by rw [at_]; rfl
    have spawned : l.supervisor ≠ .starting ∧ l.supervisor ≠ .leased := by rw [at_]; decide
    split at h
    · cases h
    · cases h
      exact .lost (by rw [at_]; rfl) (by decide)
    · next text lines reads =>
      obtain ⟨suffix, same⟩ := readControlLine_cases reads
      split_ifs at h with ready
      · cases h
        exact .greet at_ (ready ▸ same text rfl)
      · cases h
        exact .terminate before spawned suffix
    · next lines reads =>
      cases h
      exact .terminate before spawned (readControlLine_cases reads).1
  · next written at_ =>
    cases h
    cases written with
    | true => exact .go at_
    | false => exact .lost (by rw [at_]; rfl) (by decide)
  · next succeeds at_ =>
    cases h
    cases succeeds with
    | true => exact .awaitStart at_
    | false => exact .lost (by rw [at_]; rfl) (by decide)
  · next fails providerPid at_ =>
    split at h
    · cases h
    · next read lines reads =>
      cases h
      exact .read at_ reads
  · next liveness pid at_ =>
    split at h
    · next running provider =>
      split_ifs at h with same
      cases h
      refine .probe at_ fun other runs known => ?_
      rw [provider] at runs
      cases runs
      exact absurd known same
    · next unknown =>
      cases h
      exact .probe at_ fun running runs _ gone => unknown running runs gone
  · next succeeds at_ =>
    split_ifs at h with succeeded closed
    · cases h
      rw [succeeded]
      exact .reaped at_ closed
    · cases h
      exact .lost (by rw [at_]; rfl) (by decide)
  · next at_ =>
    cases h
    exact .lost (by rw [at_]; rfl) (by decide)
  · next at_ =>
    cases h
    exact .lost (by rw [at_]; rfl) (by decide)
  · next at_ =>
    cases h
    exact .lost (by rw [at_]; rfl) (by decide)
  · next at_ =>
    cases h
    exact .lost (by rw [at_]; rfl) (by decide)
  · cases h
  · next alive =>
    cases h
    refine .lost ?_ (by decide)
    cases phase : l.supervisor with
    | ended how => exact absurd phase (alive how)
    | _ => rfl
  · cases h

theorem guard_cases {move : GuardianMove} (h : l.guard lockFree move = some l') :
    Guarded l lockFree move l' := by
  unfold Launch.guard at h
  split at h
  · next at_ =>
    cases h
    cases free : lockFree with
    | true => exact .lock at_ rfl
    | false => exact .refuse (by simp) (by rw [at_]; rfl) (by rw [at_]; rfl) (List.suffix_refl _)
  · next at_ =>
    split_ifs at h
    · cases h
      exact .refuse (by simp) (by rw [at_]; rfl) (by rw [at_]; rfl) (List.suffix_refl _)
    · cases h
      exact .connect at_
  · next written at_ =>
    cases h
    cases written with
    | true => exact .ready at_
    | false => exact .refuse (by simp) (by rw [at_]; rfl) (by rw [at_]; rfl) (List.suffix_refl _)
  · next fails at_ =>
    have lives : l.guardian.lives := by rw [at_]; rfl
    have before : l.guardian.unauthorized := by rw [at_]; rfl
    split at h
    · cases h
    · next text lines reads =>
      obtain ⟨suffix, same⟩ := readControlLine_cases reads
      cases h
      split_ifs with go
      · exact .go at_ (go ▸ same text rfl)
      · exact .refuse (by simp) lives before suffix
    · next lines reads =>
      cases h
      exact .refuse (by simp) lives before (readControlLine_cases reads).1
    · next lines reads =>
      cases h
      exact .refuse (by simp) lives before (readControlLine_cases reads).1
  · next passes delivered check at_ =>
    cases passes with
    | true =>
      obtain ⟨next, further, rfl⟩ := Option.map_eq_some_iff.1 h
      exact .pass at_ further
    | false =>
      rw [if_neg Bool.false_ne_true] at h
      split_ifs at h with announced
      · cases h
        exact .abort at_ announced
      · cases h
        exact .silent at_ (Bool.eq_false_of_not_eq_true announced)
  · next pid at_ =>
    cases h
    exact .spawn at_
  · next delivered terminated pid at_ =>
    cases h
    cases terminated with
    | false => exact .start at_ (.inl rfl)
    | true =>
      rw [if_pos rfl]
      unfold Launch.providerExits
      dsimp only
      split
      · next running runs => exact .start at_ (.inr ⟨running, runs, rfl⟩)
      · exact .start at_ (.inl rfl)
      · exact .start at_ (.inl rfl)
  · next succeeds pid at_ =>
    split_ifs at h with succeeded
    · rw [succeeded]
      split at h
      · next gone exited =>
        cases h
        exact .reaped at_ exited
      · cases h
      · cases h
    · cases h
      rw [Bool.eq_false_of_not_eq_true succeeded]
      exact .waitFailed at_
  · next delivered at_ =>
    cases h
    exact .finish at_
  · next at_ =>
    cases h
    exact .refuse (by simp) (by rw [at_]; rfl) (by rw [at_]; rfl) (List.suffix_refl _)
  · next at_ =>
    cases h
    exact .refuse (by simp) (by rw [at_]; rfl) (by rw [at_]; rfl) (List.suffix_refl _)
  · next at_ =>
    cases h
    exact .refuse (by simp) (by rw [at_]; rfl) (by rw [at_]; rfl) (List.suffix_refl _)
  · next at_ =>
    cases h
    exact .refuse (by simp) (by rw [at_]; rfl) (by rw [at_]; rfl) (List.suffix_refl _)
  · cases h
  · cases h
  · next unborn alive =>
    cases h
    refine .kill ?_
    cases phase : l.guardian with
    | absent => exact absurd phase unborn
    | ended how => exact absurd phase (alive how)
    | _ => rfl
  · cases h

end

end Calcifer.SplitLease
