import Calcifer.Codex.ReadinessRelay

/-!
# One verdict for each relay

`RelayMove` says what a step of a relay can do: most steps are quiet and leave the queue and the owner
alone. `Relay.Sound` holds of every relay that is reached. `Relay.Kept` ties a published success to what
the owner records, and holds as long as no arbitration was overtaken: the owner does not look at the queue
once a failure is selected.
-/

namespace Calcifer

open ReadinessTransportTracker

/-! ## What a step does -/

/-- A step that leaves the queue, the owner and the records alone. -/
structure QuietStep (r r' : Relay) : Prop where
  fails : r.transport.Fails r'.transport
  queue : r'.queue = r.queue
  published : r'.published = r.published
  owner : r'.owner = r.owner
  readinessResult : r'.readinessResult = r.readinessResult
  arbitrations : r'.arbitrations = r.arbitrations
  reported : r'.reported = r.reported
  sent : r.sent = true → r'.sent = true
  started : r'.worker = .running false → r.worker = .running false ∧ r'.sent = r.sent
  reporting : ∀ error, r'.worker = .reporting error →
    r.worker = .reporting error ∨ r'.transport.selection = .failed error
  finished : r.worker = .finished → r'.worker = .finished

/-- What a step does to a relay. -/
inductive RelayMove (r : Relay) : Relay → Prop
  | quiet {r' : Relay} (step : QuietStep r r') : RelayMove r r'
  | published (settings : EffectiveThreadSettings) (h : r.worker = .running false)
      (isOpen : r.transport.selection = .open) : RelayMove r { r with
    queue := some (.ok settings)
    sent := true
    worker := .running true
    published := settings :: r.published }
  | reported {error : ReadinessProxyError} (h : r.worker = .reporting error) :
    RelayMove r (r.report error)
  | look (h : r.owner = .idle) (unrecorded : r.readinessResult = none) (empty : r.queue = none) :
    RelayMove r { r with owner := .waiting }
  | receive {result : ReadinessResult} (h : r.owner = .idle ∨ r.owner = .waiting)
      (unrecorded : r.readinessResult = none) (full : r.queue = some result) :
    RelayMove r { r with owner := .recording result, queue := none }
  | disconnected (h : r.owner = .idle ∨ r.owner = .waiting) (unrecorded : r.readinessResult = none)
      (empty : r.queue = none) (gone : r.worker = .finished) : RelayMove r { r with owner := .lost }
  | arbitrate (h : r.owner = .waiting) : RelayMove r r.arbitrate
  | pending (h : r.owner = .waiting) : RelayMove r { r with owner := .idle }
  | preserve (h : r.owner = .lost) :
    RelayMove r { r with owner := .recording (.error (r.transport.preserveSelected .worker)) }
  | record {result : ReadinessResult} (h : r.owner = .recording result) :
    RelayMove r (r.recordReadiness result)
  | requestStop (h : r.owner = .idle) : RelayMove r r.requestStop
  | drop (h : r.owner = .idle) : RelayMove r { r.requestStop with owner := .gone }

variable {r r' : Relay}

/-- A worker that only moves on is quiet. -/
theorem QuietStep.of_worker (worker : WorkerPoint) (started : worker ≠ .running false)
    (reporting : ∀ error, worker = .reporting error → r.transport.selection = .failed error)
    (finished : r.worker ≠ .finished ∨ worker = .finished) :
    QuietStep r { r with worker } where
  fails := .same
  queue := rfl
  published := rfl
  owner := rfl
  readinessResult := rfl
  arbitrations := rfl
  reported := rfl
  sent := id
  started h := absurd h started
  reporting error h := .inr (reporting error h)
  finished h := finished.resolve_left (absurd h)

/-- A failure is quiet. -/
theorem QuietStep.of_fails {transport : ReadinessTransportTracker} {lifecycle : RelayLifecycle}
    (fails : r.transport.Fails transport) : QuietStep r { r with transport, lifecycle } where
  fails := fails
  queue := rfl
  published := rfl
  owner := rfl
  readinessResult := rfl
  arbitrations := rfl
  reported := rfl
  sent := id
  started h := ⟨h, rfl⟩
  reporting _ h := .inl h
  finished := id

/-- A worker that leaves its loop is quiet. -/
theorem QuietStep.of_break {transport : ReadinessTransportTracker} {lifecycle : RelayLifecycle}
    {worker : WorkerPoint} {sent : Bool} (fails : r.transport.Fails transport)
    (left : r.worker ≠ .finished) (started : worker ≠ .running false)
    (reporting : ∀ error, worker = .reporting error → transport.selection = .failed error)
    (still : r.sent = true → sent = true) :
    QuietStep r { r with transport, lifecycle, worker, sent } where
  fails := fails
  queue := rfl
  published := rfl
  owner := rfl
  readinessResult := rfl
  arbitrations := rfl
  reported := rfl
  sent := still
  started h := absurd h started
  reporting error h := .inr (reporting error h)
  finished h := absurd h left

/-- The arbitration finds a failure selected, and leaves a success in the queue. -/
def Arbitration.Overtaken (a : Arbitration) : Prop :=
  (∃ error, a.selection = .failed error) ∧ ∃ settings, a.queued = some (.ok settings)

namespace Relay

theorem publish_move (settings : EffectiveThreadSettings) (h : r.worker = .running false) :
    RelayMove r (r.publish settings) := by
  have fails := publishReadiness_fails (t := r.transport) r.lifecycle
    (success (r.owner ≠ .gone) settings) (r.queue, r.sent)
  have left : r.worker ≠ .finished := by simp [h]
  unfold publish
  unfold publishReadiness at fails ⊢
  by_cases stopping : r.lifecycle = .stopping
  · simp only [if_pos stopping] at fails ⊢
    exact .quiet (.of_break fails left (by simp) (by simp) id)
  cases selection : r.transport.selection with
  | failed error | stopped =>
    simp only [if_neg stopping, selection] at fails ⊢
    exact .quiet (.of_break fails left (by simp) (by simp) id)
  | «open» =>
    by_cases running : r.lifecycle = .running
    · by_cases gone : r.owner = .gone
      · have unreceived : decide (r.owner ≠ .gone) = false := by simp [gone]
        simp only [if_neg stopping, selection, if_pos running, success, unreceived,
          Bool.false_eq_true, ↓reduceIte] at fails ⊢
        exact .quiet (.of_break fails left (by simp) (by simp) (fun _ => rfl))
      · have received : decide (r.owner ≠ .gone) = true := by simp [gone]
        simp only [if_neg stopping, if_pos running, success, received, ↓reduceIte]
        exact .published settings h selection
    · simp only [if_neg stopping, selection, if_neg running] at fails ⊢
      exact .quiet (.of_break fails left (by simp) (by simp) id)

/-- A relay that is asked to stop decides its selection, and keeps all but its lifecycle. -/
theorem requestStop_eq (r : Relay) : ∃ transport lifecycle, r.transport.Decides transport ∧
    r.requestStop = { r with transport, lifecycle } := by
  unfold requestStop
  split
  · exact ⟨_, _, stop_decides r.lifecycle, rfl⟩
  · exact ⟨_, _, stopWithDisconnectedOrigin_decides r.lifecycle .lifecycleDisconnected, rfl⟩

theorem selectRunError_quiet {error : ReadinessProxyError} (h : r.worker = .broken (.failed error)) :
    QuietStep r (r.selectRunError error) := by
  have fails := selectFailure_fails (t := r.transport) error
  have left : r.worker ≠ .finished := by simp [h]
  unfold selectRunError
  cases selected : r.transport.selectFailure error with
  | mk result transport =>
    rw [selected] at fails
    cases result with
    | failed failure =>
      have failed : transport.selection = .failed failure := by
        have failed := @selectFailure_failed r.transport error failure (by rw [selected])
        rwa [selected] at failed
      refine .of_break fails left (by simp) ?_ id
      intro error reporting
      cases reporting
      exact failed
    | stopped => exact .of_break fails left (by simp) (by simp) id

theorem transportFailure_quiet {ready : Bool} (origin : ReadinessTransportOrigin)
    (h : r.worker = .running ready) : QuietStep r (r.transportFailure origin) := by
  have fails := failWhileRunning_fails (t := r.transport) r.lifecycle (.transport origin)
  refine @QuietStep.of_break r _ _ _ r.sent fails (by simp [h]) ?_ ?_ id
  · split <;> simp
  · intro error reporting
    split at reporting <;> cases reporting

end Relay

/-- A step is a quiet one, or one of the moves. -/
theorem RelayStep.move (step : RelayStep r r') : RelayMove r r' := by
  cases step with
  | publish settings h => exact Relay.publish_move settings h
  | breakFailed error h =>
    exact .quiet (.of_break (selectFailure_fails error) (by simp [h]) (by simp) (by simp) id)
  | breakUnselected error h => exact .quiet (.of_worker _ (by simp) (by simp) (.inl (by simp [h])))
  | breakStopped h => exact .quiet (.of_worker _ (by simp) (by simp) (.inl (by simp [h])))
  | transportFailure origin h => exact .quiet (Relay.transportFailure_quiet origin h)
  | readSelected h => exact .quiet (.of_worker _ (by simp) (by simp) (.inl (by simp [h])))
  | joinFails h => exact .quiet (.of_worker _ (by simp) (by simp) (.inl (by simp [h])))
  | endStopped => exact .quiet (.of_worker _ (by simp) (by simp) (.inr rfl))
  | selectRunError h => exact .quiet (Relay.selectRunError_quiet h)
  | report h => exact .reported h
  | panic => exact .quiet (.of_worker _ (by simp) (by simp) (.inr rfl))
  | fail error => exact .quiet (.of_fails (failWhileRunning_fails r.lifecycle error))
  | look h unrecorded empty => exact .look h unrecorded empty
  | receive h unrecorded full => exact .receive h unrecorded full
  | disconnected h unrecorded empty gone => exact .disconnected h unrecorded empty gone
  | arbitrate h => exact .arbitrate h
  | pending h => exact .pending h
  | preserve h => exact .preserve h
  | record h => exact .record h
  | ensure error => exact .quiet (.of_fails (failWhileRunning_fails r.lifecycle error))
  | classify origin => exact .quiet (.of_fails (classifyDisconnected_fails origin))
  | requestStop h => exact .requestStop h
  | drop h => exact .drop h

/-- Whatever the step, an operation on the selection is all that happens to it. -/
theorem RelayMove.decides (move : RelayMove r r') : r.transport.Decides r'.transport := by
  cases move with
  | quiet step => exact .fails step.fails
  | published | reported | look | receive | disconnected | pending | preserve => exact .fails .same
  | arbitrate => exact .fails (arbitrateDeadline_fails r.queue)
  | requestStop | drop =>
    obtain ⟨transport, lifecycle, decides, same⟩ := r.requestStop_eq
    rw [same]
    exact decides
  | @record result h =>
    cases result with
    | ok settings => exact .fails .same
    | error failure => exact stop_decides r.lifecycle

/-! ## What holds of every relay -/

namespace Relay

/-- What holds of a relay at any time. -/
structure Sound (r : Relay) : Prop where
  settled : r.transport.Settled
  queued : ∀ settings, r.queue = some (.ok settings) → r.published = [settings]
  unsent : r.sent = false → r.queue = none ∧ r.published = []
  unready : r.worker = .running false → r.sent = false
  once : r.published.length ≤ 1
  reporting : ∀ error, r.worker = .reporting error → r.transport.selection = .failed error
  reported : ∀ error, r.reported = some error → r.transport.selection = .failed error
  queuedError : ∀ error, r.queue = some (.error error) → r.transport.selection = .failed error
  polling : r.owner ≠ .idle → r.owner ≠ .gone → r.readinessResult = none
  lost : r.owner = .lost → r.worker = .finished ∧ r.queue = none
  quiet : r.owner = .waiting → r.transport.selection = .stopped → ∀ settings,
    r.queue ≠ some (.ok settings)
  arbitrated : ∀ a ∈ r.arbitrations,
    (r.owner = .recording a.result ∨ r.readinessResult = some a.result) ∧
    (∀ error, a.selection = .failed error → a.result = .error error) ∧
    ∀ settings, a.queued = some (.ok settings) → settings ∈ a.published

theorem start_sound : start.Sound where
  settled origin := by simp [start, new]
  queued := by simp [start]
  unsent := by simp [start]
  unready := by simp [start]
  once := by simp [start]
  reporting := by simp [start]
  reported := by simp [start]
  queuedError := by simp [start]
  polling := by simp [start]
  lost := by simp [start]
  quiet := by simp [start]
  arbitrated := by simp [start]

/-- A failure that is selected stays selected. -/
theorem selected_of_move (move : RelayMove r r') {error : ReadinessProxyError}
    (h : r.transport.selection = .failed error) : r'.transport.selection = .failed error := by
  rw [move.decides.selection (by rw [h]; simp), h]

theorem Sound.quietStep (sound : r.Sound) (step : QuietStep r r') : r'.Sound where
  settled := step.fails.settled sound.settled
  queued := by rw [step.queue, step.published]; exact sound.queued
  unsent h := by
    have unsent : r.sent = false := by
      by_contra sent
      rw [step.sent (by simpa using sent)] at h
      cases h
    rw [step.queue, step.published]
    exact sound.unsent unsent
  unready h := by
    obtain ⟨before, same⟩ := step.started h
    rw [same]
    exact sound.unready before
  once := by rw [step.published]; exact sound.once
  reporting error h := by
    rcases step.reporting error h with before | selected
    · exact selected_of_move (.quiet step) (sound.reporting error before)
    · exact selected
  reported error h := by
    rw [step.reported] at h
    exact selected_of_move (.quiet step) (sound.reported error h)
  queuedError error h := by
    rw [step.queue] at h
    exact selected_of_move (.quiet step) (sound.queuedError error h)
  polling := by rw [step.owner, step.readinessResult]; exact sound.polling
  lost h := by
    rw [step.owner] at h
    rw [step.queue]
    exact ⟨step.finished (sound.lost h).1, (sound.lost h).2⟩
  quiet h stopped := by
    rw [step.owner] at h
    rw [step.queue]
    exact sound.quiet h (step.fails.stopped stopped)
  arbitrated := by
    rw [step.arbitrations, step.owner, step.readinessResult]
    exact sound.arbitrated

/-- A relay whose owner does not poll is sound whatever becomes of its selection and its lifecycle. -/
theorem Sound.decided (sound : r.Sound) (h : r.owner = .idle) {transport : ReadinessTransportTracker}
    {lifecycle : RelayLifecycle} (decides : r.transport.Decides transport) {owner : OwnerPoint}
    (ended : owner = .idle ∨ owner = .gone) :
    Sound { r with transport, lifecycle, owner } where
  settled := decides.settled sound.settled
  queued := sound.queued
  unsent := sound.unsent
  unready := sound.unready
  once := sound.once
  reporting error h := by
    have selected := sound.reporting error h
    exact (decides.selection (by simp [selected])).trans selected
  reported error h := by
    have selected := sound.reported error h
    exact (decides.selection (by simp [selected])).trans selected
  queuedError error h := by
    have selected := sound.queuedError error h
    exact (decides.selection (by simp [selected])).trans selected
  polling idle gone := absurd ended (not_or.2 ⟨idle, gone⟩)
  lost h := by rcases ended with rfl | rfl <;> cases h
  quiet h := by rcases ended with rfl | rfl <;> cases h
  arbitrated a member := by
    obtain ⟨recorded, rest⟩ := sound.arbitrated a member
    rw [h] at recorded
    exact ⟨.inr (recorded.resolve_left (by simp)), rest⟩

/-- An owner that takes a result out of the queue. -/
theorem Sound.receive (sound : r.Sound) {result : ReadinessResult}
    (h : r.owner = .idle ∨ r.owner = .waiting) (unrecorded : r.readinessResult = none) :
    Sound { r with owner := .recording result, queue := none } where
  settled := sound.settled
  queued := by simp
  unsent h := ⟨rfl, (sound.unsent h).2⟩
  unready := sound.unready
  once := sound.once
  reporting := sound.reporting
  reported := sound.reported
  queuedError := by simp
  polling _ _ := unrecorded
  lost := by simp
  quiet := by simp
  arbitrated a member := by
    obtain ⟨recorded | recorded, -⟩ := sound.arbitrated a member
    · rcases h with h | h <;> rw [h] at recorded <;> cases recorded
    · rw [unrecorded] at recorded
      cases recorded

/-- An owner that polls has not arbitrated. -/
theorem Sound.unarbitrated (sound : r.Sound) (unrecorded : r.readinessResult = none)
    (h : ∀ result, r.owner ≠ .recording result) : r.arbitrations = [] := by
  refine List.eq_nil_iff_forall_not_mem.2 fun a member => ?_
  obtain ⟨recorded | recorded, -⟩ := sound.arbitrated a member
  · exact h _ recorded
  · rw [unrecorded] at recorded
    cases recorded

/-- What an arbitration leaves in the queue was there. -/
theorem arbitrateDeadline_queue {t : ReadinessTransportTracker} (queue : Option ReadinessResult) :
    (t.arbitrateDeadline queue).2.2 = none ∨
      (t.arbitrateDeadline queue).2.2 = queue ∧ (t.arbitrateDeadline queue).2.1 = t := by
  unfold arbitrateDeadline
  split
  · exact .inr ⟨rfl, rfl⟩
  · exact .inr ⟨rfl, rfl⟩
  · split <;> exact .inl rfl

theorem Sound.arbitrate (sound : r.Sound) (h : r.owner = .waiting) : r.arbitrate.Sound := by
  have fails := arbitrateDeadline_fails (t := r.transport) r.queue
  have queue := arbitrateDeadline_queue (t := r.transport) r.queue
  have unrecorded := sound.polling (by simp [h]) (by simp [h])
  have selected : ∀ {error}, r.transport.selection = .failed error →
      (r.transport.arbitrateDeadline r.queue).2.1.selection = .failed error := by
    intro error failed
    exact ((Decides.fails fails).selection (by simp [failed])).trans failed
  exact {
    settled := fails.settled sound.settled
    queued := by
      intro settings full
      rcases queue with empty | ⟨same, -⟩
      · exact absurd (empty.symm.trans full) (by simp)
      · exact sound.queued settings (same.symm.trans full)
    unsent := by
      intro unsent
      obtain ⟨empty, unpublished⟩ := sound.unsent unsent
      refine ⟨?_, unpublished⟩
      rcases queue with none | ⟨same, -⟩
      · exact none
      · exact same.trans empty
    unready := sound.unready
    once := sound.once
    reporting := fun error reporting => selected (sound.reporting error reporting)
    reported := fun error reported => selected (sound.reported error reported)
    queuedError := by
      intro error full
      rcases queue with empty | ⟨same, -⟩
      · exact absurd (empty.symm.trans full) (by simp)
      · exact selected (sound.queuedError error (same.symm.trans full))
    polling := fun _ _ => unrecorded
    lost := by simp [Relay.arbitrate]
    quiet := by simp [Relay.arbitrate]
    arbitrated := by
      intro a member
      have first : a = ⟨r.transport.selection, r.queue, r.published,
          (r.transport.arbitrateDeadline r.queue).1⟩ := by
        simpa [Relay.arbitrate, sound.unarbitrated unrecorded (by simp [h])] using member
      subst first
      refine ⟨.inl rfl, ?_, ?_⟩
      · intro error failed
        dsimp only at failed ⊢
        simp [arbitrateDeadline, failed]
      · intro settings full
        dsimp only at full ⊢
        simp [sound.queued settings full] }

/-- An owner that moves on before it has a result. -/
theorem Sound.polls (sound : r.Sound) (unrecorded : r.readinessResult = none)
    (unresolved : ∀ result, r.owner ≠ .recording result) {owner : OwnerPoint}
    (lost : owner = .lost → r.worker = .finished ∧ r.queue = none)
    (waiting : owner = .waiting → r.queue = none) : Sound { r with owner } :=
  { sound with
    polling := fun _ _ => unrecorded
    lost := lost
    quiet := fun h _ settings full => by
      rw [waiting h] at full
      cases full
    arbitrated := by simp [sound.unarbitrated unrecorded unresolved] }

theorem Sound.report (sound : r.Sound) {error : ReadinessProxyError}
    (h : r.worker = .reporting error) : (r.report error).Sound := by
  have selected := sound.reporting error h
  have held : ∀ settings, (r.report error).queue = some (.ok settings) →
      r.queue = some (.ok settings) := by
    intro settings full
    unfold Relay.report at full
    by_cases sent : r.sent = true
    · simpa [sent] using full
    · simp [sent] at full
  exact { sound with
    queued := fun settings full => sound.queued settings (held settings full)
    unsent := by simp [Relay.report]
    unready := by simp [Relay.report]
    reporting := by simp [Relay.report]
    reported := by
      rintro _ ⟨⟩
      exact selected
    queuedError := by
      intro failure full
      unfold Relay.report at full
      by_cases sent : r.sent = true
      · exact sound.queuedError failure (by simpa [sent] using full)
      · have same : error = failure := by simpa [sent] using full
        exact same ▸ selected
    lost := fun lost => absurd (sound.lost lost).1 (by simp [h])
    quiet := fun waiting stopped => absurd (selected.symm.trans stopped) (by simp) }

theorem Sound.record (sound : r.Sound) {result : ReadinessResult} (h : r.owner = .recording result) :
    (r.recordReadiness result).Sound := by
  have recorded : ∀ a ∈ r.arbitrations, a.result = result := by
    intro a member
    obtain ⟨recording | recorded, -⟩ := sound.arbitrated a member
    · rw [h] at recording
      cases recording
      rfl
    · rw [sound.polling (by simp [h]) (by simp [h])] at recorded
      cases recorded
  have decides := (RelayMove.record h).decides
  have selected : ∀ {error}, r.transport.selection = .failed error →
      (r.recordReadiness result).transport.selection = .failed error :=
    fun failed => selected_of_move (.record h) failed
  exact {
    settled := decides.settled sound.settled
    queued := by cases result <;> exact sound.queued
    unsent := by cases result <;> exact sound.unsent
    unready := by cases result <;> exact sound.unready
    once := by cases result <;> exact sound.once
    reporting := by
      intro error reporting
      refine selected (sound.reporting error ?_)
      cases result <;> exact reporting
    reported := by
      intro error reported
      refine selected (sound.reported error ?_)
      cases result <;> exact reported
    queuedError := by
      intro error full
      refine selected (sound.queuedError error ?_)
      cases result <;> exact full
    polling := fun idle => absurd rfl idle
    lost := by simp [recordReadiness]
    quiet := by simp [recordReadiness]
    arbitrated := by
      intro a member
      have before : a ∈ r.arbitrations := by cases result <;> exact member
      refine ⟨.inr ?_, (sound.arbitrated a before).2⟩
      rw [recorded a before]
      rfl }

theorem Sound.move (sound : r.Sound) (move : RelayMove r r') : r'.Sound := by
  cases move with
  | quiet step => exact sound.quietStep step
  | published settings h isOpen =>
    obtain ⟨empty, unpublished⟩ := sound.unsent (sound.unready h)
    exact { sound with
      queued := by simp [unpublished]
      unsent := by simp
      unready := by simp
      once := by simp [unpublished]
      reporting := by simp
      queuedError := by simp
      lost := fun lost => absurd (sound.lost lost).1 (by simp [h])
      quiet := fun _ stopped => absurd (isOpen.symm.trans stopped) (by simp) }
  | reported h => exact sound.report h
  | look h unrecorded empty =>
    exact sound.polls unrecorded (by simp [h]) (by simp) (fun _ => empty)
  | receive h unrecorded => exact sound.receive h unrecorded
  | disconnected h unrecorded empty gone =>
    refine sound.polls unrecorded ?_ (fun _ => ⟨gone, empty⟩) (by simp)
    rcases h with h | h <;> simp [h]
  | arbitrate h => exact sound.arbitrate h
  | pending h =>
    exact sound.polls (sound.polling (by simp [h]) (by simp [h])) (by simp [h]) (by simp) (by simp)
  | preserve h =>
    exact sound.polls (sound.polling (by simp [h]) (by simp [h])) (by simp [h]) (by simp) (by simp)
  | record h => exact sound.record h
  | requestStop h =>
    obtain ⟨transport, lifecycle, decides, same⟩ := r.requestStop_eq
    rw [same]
    exact sound.decided h decides (.inl h)
  | drop h =>
    obtain ⟨transport, lifecycle, decides, same⟩ := r.requestStop_eq
    rw [same]
    exact sound.decided h decides (.inr rfl)

theorem RelayReaches.sound (reaches : RelayReaches start r) : r.Sound := by
  induction reaches with
  | refl => exact start_sound
  | tail _ step sound => exact sound.move step.move

/-! ## What becomes of a published success -/

/-- A published success is in the queue until the owner takes it, and a failure is not recorded over
one. -/
structure Kept (r : Relay) : Prop where
  taken : ∀ settings, r.published = [settings] →
    (r.queue = some (.ok settings) ∧ r.readinessResult = none ∧ ∀ result, r.owner ≠ .recording result) ∨
    r.owner = .recording (.ok settings) ∨ r.readinessResult = some (.ok settings)
  owned : ∀ settings, r.owner = .recording (.ok settings) ∨ r.readinessResult = some (.ok settings) →
    r.published = [settings]
  closed : ∀ error, r.owner = .recording (.error error) ∨ r.readinessResult = some (.error error) →
    r.published = [] ∧ (r.transport.selection ≠ .open ∨ r.worker = .finished)
  arbitrated : ∀ a ∈ r.arbitrations, ∀ settings ∈ a.published, a.result = .ok settings

theorem start_kept : start.Kept where
  taken := by simp [start]
  owned := by simp [start]
  closed := by simp [start]
  arbitrated := by simp [start]

/-- While the owner polls, a published success is in the queue. -/
theorem Kept.queued (kept : r.Kept) (unrecorded : r.readinessResult = none)
    (unresolved : ∀ result, r.owner ≠ .recording result) {settings : EffectiveThreadSettings}
    (published : r.published = [settings]) : r.queue = some (.ok settings) := by
  rcases kept.taken settings published with ⟨queued, -⟩ | recording | recorded
  · exact queued
  · exact absurd recording (unresolved _)
  · rw [unrecorded] at recorded
    cases recorded

theorem published_nil (sound : r.Sound) (h : ∀ settings, r.published ≠ [settings]) :
    r.published = [] := by
  cases published : r.published with
  | nil => rfl
  | cons settings older =>
    have once := sound.once
    rw [published] at once
    have : older = [] := List.eq_nil_of_length_eq_zero (by simpa using once)
    exact absurd (published.trans (by rw [this])) (h settings)

theorem Kept.quietStep (kept : r.Kept) (step : QuietStep r r') : r'.Kept where
  taken := by
    rw [step.published, step.queue, step.readinessResult, step.owner]
    exact kept.taken
  owned := by
    rw [step.published, step.readinessResult, step.owner]
    exact kept.owned
  closed error h := by
    rw [step.owner, step.readinessResult] at h
    rw [step.published]
    obtain ⟨unpublished, decided | finished⟩ := kept.closed error h
    · refine ⟨unpublished, .inl ?_⟩
      rwa [(Decides.fails step.fails).selection decided]
    · exact ⟨unpublished, .inr (step.finished finished)⟩
  arbitrated := by
    rw [step.arbitrations]
    exact kept.arbitrated

/-- An owner that moves on before it has a result. -/
theorem Kept.polls (kept : r.Kept) (sound : r.Sound) (unrecorded : r.readinessResult = none)
    (unresolved : ∀ result, r.owner ≠ .recording result) {owner : OwnerPoint}
    (still : ∀ result, owner ≠ .recording result) : Kept { r with owner } where
  taken settings published := .inl ⟨kept.queued unrecorded unresolved published, unrecorded, still⟩
  owned settings h := by
    rcases h with h | h
    · exact absurd h (still _)
    · exact absurd h (by simp [unrecorded])
  closed error h := by
    rcases h with h | h
    · exact absurd h (still _)
    · exact absurd h (by simp [unrecorded])
  arbitrated := by simp [sound.unarbitrated unrecorded unresolved]

/-- A relay that resolves a poll with what the queue held, or with a failure. -/
theorem Kept.resolves (kept : r.Kept) (sound : r.Sound) (unrecorded : r.readinessResult = none)
    (unresolved : ∀ result, r.owner ≠ .recording result) {transport : ReadinessTransportTracker}
    {queue : Option ReadinessResult} {result : ReadinessResult} {arbitrations : List Arbitration}
    (taken : ∀ settings, r.queue = some (.ok settings) → result = .ok settings)
    (owned : ∀ settings, result = .ok settings → r.queue = some (.ok settings))
    (closed : ∀ error, result = .error error → transport.selection ≠ .open ∨ r.worker = .finished)
    (arbitrated : ∀ a ∈ arbitrations, a.published = r.published ∧ a.result = result) :
    Kept { r with transport, queue, owner := .recording result, arbitrations } where
  taken settings published := by
    rw [taken settings (kept.queued unrecorded unresolved published)]
    exact .inr (.inl rfl)
  owned settings h := by
    rcases h with h | h
    · cases h
      exact sound.queued settings (owned settings rfl)
    · exact absurd h (by simp [unrecorded])
  closed error h := by
    rcases h with h | h
    · cases h
      have unpublished : r.published = [] := by
        refine published_nil sound fun settings published => ?_
        have := taken settings (kept.queued unrecorded unresolved published)
        cases this
      exact ⟨unpublished, closed error rfl⟩
    · exact absurd h (by simp [unrecorded])
  arbitrated a member settings published := by
    obtain ⟨same, resolved⟩ := arbitrated a member
    rw [same] at published
    have once : r.published = [settings] := by
      have bound := sound.once
      cases all : r.published with
      | nil => simp [all] at published
      | cons first older =>
        have : older = [] := List.eq_nil_of_length_eq_zero (by simpa [all] using bound)
        simp_all
    exact resolved.trans (taken settings (kept.queued unrecorded unresolved once))

section Arbitration

variable {t : ReadinessTransportTracker} {queue : Option ReadinessResult}

theorem arbitrateDeadline_taken (isOpen : t.selection = .open) {settings : EffectiveThreadSettings}
    (full : queue = some (.ok settings)) : (t.arbitrateDeadline queue).1 = .ok settings := by
  simp [arbitrateDeadline, isOpen, full]

theorem arbitrateDeadline_ok {settings : EffectiveThreadSettings}
    (h : (t.arbitrateDeadline queue).1 = .ok settings) : queue = some (.ok settings) := by
  unfold arbitrateDeadline at h
  split at h
  · cases h
  · cases h
  · cases queue with
    | none => cases h
    | some result =>
      cases result with
      | ok settings => exact congrArg some h
      | error error => cases h

theorem arbitrateDeadline_error {error : ReadinessProxyError}
    (h : (t.arbitrateDeadline queue).1 = .error error) :
    (t.arbitrateDeadline queue).2.1.selection ≠ .open := by
  unfold arbitrateDeadline at h ⊢
  split at h
  · simp_all
  · simp_all
  · cases queue with
    | none => simp [close_selection]
    | some result =>
      cases result with
      | ok settings => cases h
      | error error => simp [close_selection]

end Arbitration

theorem Kept.arbitrate (kept : r.Kept) (sound : r.Sound) (h : r.owner = .waiting)
    (ahead : ∀ a ∈ r.arbitrate.arbitrations, ¬a.Overtaken) : r.arbitrate.Kept := by
  have unrecorded := sound.polling (by simp [h]) (by simp [h])
  have unresolved : ∀ result, r.owner ≠ .recording result := by simp [h]
  have spared : ∀ settings, r.queue = some (.ok settings) → r.transport.selection = .open := by
    intro settings full
    have untaken := ahead ⟨r.transport.selection, r.queue, r.published,
      (r.transport.arbitrateDeadline r.queue).1⟩ (by simp [Relay.arbitrate])
    cases selection : r.transport.selection with
    | «open» => rfl
    | failed error => exact absurd ⟨⟨error, selection⟩, settings, full⟩ untaken
    | stopped => exact absurd full (sound.quiet h selection settings)
  refine kept.resolves sound unrecorded unresolved ?_ (fun _ => arbitrateDeadline_ok)
    (fun _ failed => .inl (arbitrateDeadline_error failed)) ?_
  · exact fun settings full => arbitrateDeadline_taken (spared settings full) full
  · simp [sound.unarbitrated unrecorded unresolved]

theorem recordReadiness_published (result : ReadinessResult) :
    (r.recordReadiness result).published = r.published := by
  cases result <;> rfl

theorem recordReadiness_worker (result : ReadinessResult) :
    (r.recordReadiness result).worker = r.worker := by
  cases result <;> rfl

theorem recordReadiness_arbitrations (result : ReadinessResult) :
    (r.recordReadiness result).arbitrations = r.arbitrations := by
  cases result <;> rfl

theorem Kept.record (kept : r.Kept) (sound : r.Sound) {result : ReadinessResult}
    (h : r.owner = .recording result) : (r.recordReadiness result).Kept where
  taken settings published := by
    rw [recordReadiness_published] at published
    rcases kept.taken settings published with ⟨-, -, unresolved⟩ | recording | recorded
    · exact absurd h (unresolved result)
    · rw [h] at recording
      cases recording
      exact .inr (.inr rfl)
    · rw [sound.polling (by simp [h]) (by simp [h])] at recorded
      cases recorded
  owned settings recorded := by
    rw [recordReadiness_published]
    rcases recorded with recording | recorded
    · cases recording
    · cases recorded
      exact kept.owned settings (.inl h)
  closed error recorded := by
    rw [recordReadiness_published, recordReadiness_worker]
    rcases recorded with recording | recorded
    · cases recording
    · cases recorded
      obtain ⟨unpublished, decided | finished⟩ := kept.closed error (.inl h)
      · refine ⟨unpublished, .inl ?_⟩
        rwa [(RelayMove.record h).decides.selection decided]
      · exact ⟨unpublished, .inr finished⟩
  arbitrated := by
    rw [recordReadiness_arbitrations]
    exact kept.arbitrated

/-- An owner outside of a poll who decides the selection. -/
theorem Kept.decided (kept : r.Kept) (h : r.owner = .idle) {transport : ReadinessTransportTracker}
    {lifecycle : RelayLifecycle} (decides : r.transport.Decides transport) {owner : OwnerPoint}
    (ended : owner = .idle ∨ owner = .gone) : Kept { r with transport, lifecycle, owner } where
  taken settings published := by
    rcases kept.taken settings published with ⟨queued, unrecorded, -⟩ | recording | recorded
    · exact .inl ⟨queued, unrecorded, by rcases ended with rfl | rfl <;> simp⟩
    · rw [h] at recording
      cases recording
    · exact .inr (.inr recorded)
  owned settings recorded := by
    refine kept.owned settings (.inr (recorded.resolve_left ?_))
    rcases ended with rfl | rfl <;> simp
  closed error recorded := by
    have before : r.readinessResult = some (.error error) :=
      recorded.resolve_left (by rcases ended with rfl | rfl <;> simp)
    obtain ⟨unpublished, decided | finished⟩ := kept.closed error (.inr before)
    · refine ⟨unpublished, .inl ?_⟩
      rwa [decides.selection decided]
    · exact ⟨unpublished, .inr finished⟩
  arbitrated := kept.arbitrated

/-- A worker that publishes has published nothing, and no result is recorded. -/
theorem Kept.publish (kept : r.Kept) (sound : r.Sound) (settings : EffectiveThreadSettings)
    (h : r.worker = .running false) (isOpen : r.transport.selection = .open) :
    Kept { r with
      queue := some (.ok settings)
      sent := true
      worker := .running true
      published := settings :: r.published } := by
  obtain ⟨empty, unpublished⟩ := sound.unsent (sound.unready h)
  have unresolved : ∀ result,
      ¬(r.owner = .recording result ∨ r.readinessResult = some result) := by
    intro result resolved
    cases result with
    | ok older =>
      have := kept.owned older resolved
      simp [unpublished] at this
    | error error =>
      obtain ⟨-, decided | finished⟩ := kept.closed error resolved
      · exact decided isOpen
      · simp [h] at finished
  have unrecorded : r.readinessResult = none := by
    by_contra recorded
    obtain ⟨result, recorded⟩ := Option.ne_none_iff_exists'.1 recorded
    exact unresolved result (.inr recorded)
  exact {
    taken := by
      intro newer published
      have same : settings = newer := by simpa [unpublished] using published
      exact .inl ⟨by rw [same], unrecorded, fun result h => unresolved result (.inl h)⟩
    owned := fun older resolved => absurd resolved (unresolved _)
    closed := fun error resolved => absurd resolved (unresolved _)
    arbitrated := kept.arbitrated }

theorem Kept.report (kept : r.Kept) (sound : r.Sound) (error : ReadinessProxyError) :
    (r.report error).Kept where
  taken settings published := by
    have sent : r.sent = true := by
      by_contra unsent
      have unpublished := (sound.unsent (by simpa using unsent)).2
      exact absurd (unpublished.symm.trans published) (by simp)
    simpa [Relay.report, sent] using kept.taken settings published
  owned := kept.owned
  closed failure resolved := by
    obtain ⟨unpublished, -⟩ := kept.closed failure resolved
    exact ⟨unpublished, .inr rfl⟩
  arbitrated := kept.arbitrated

theorem Kept.move (kept : r.Kept) (sound : r.Sound) (move : RelayMove r r')
    (ahead : ∀ a ∈ r'.arbitrations, ¬a.Overtaken) : r'.Kept := by
  cases move with
  | quiet step => exact kept.quietStep step
  | published settings h isOpen => exact kept.publish sound settings h isOpen
  | reported => exact kept.report sound _
  | look h unrecorded empty => exact kept.polls sound unrecorded (by simp [h]) (by simp)
  | @receive result h unrecorded full =>
    have unresolved : ∀ result, r.owner ≠ .recording result := by rcases h with h | h <;> simp [h]
    refine kept.resolves sound unrecorded unresolved ?_ ?_ ?_ ?_
    · intro settings same
      rw [full] at same
      cases same
      rfl
    · rintro settings rfl
      exact full
    · rintro error rfl
      simp [sound.queuedError error full]
    · simp [sound.unarbitrated unrecorded unresolved]
  | disconnected h unrecorded empty gone =>
    refine kept.polls sound unrecorded ?_ (by simp)
    rcases h with h | h <;> simp [h]
  | arbitrate h => exact kept.arbitrate sound h ahead
  | pending h =>
    exact kept.polls sound (sound.polling (by simp [h]) (by simp [h])) (by simp [h]) (by simp)
  | preserve h =>
    obtain ⟨finished, empty⟩ := sound.lost h
    have unrecorded := sound.polling (by simp [h]) (by simp [h])
    have unresolved : ∀ result, r.owner ≠ .recording result := by simp [h]
    exact kept.resolves sound unrecorded unresolved (by simp [empty]) (by simp)
      (fun _ _ => .inr finished) (by simp [sound.unarbitrated unrecorded unresolved])
  | record h => exact kept.record sound h
  | requestStop h =>
    obtain ⟨transport, lifecycle, decides, same⟩ := r.requestStop_eq
    rw [same]
    exact kept.decided h decides (.inl h)
  | drop h =>
    obtain ⟨transport, lifecycle, decides, same⟩ := r.requestStop_eq
    rw [same]
    exact kept.decided h decides (.inr rfl)

/-- Arbitrations are remembered. -/
theorem arbitrations_of_move (move : RelayMove r r') :
    ∀ a ∈ r.arbitrations, a ∈ r'.arbitrations := by
  cases move with
  | quiet step => simp [step.arbitrations]
  | published | reported | look | receive | disconnected | pending | preserve => exact fun _ => id
  | arbitrate => exact fun a member => List.mem_cons_of_mem _ member
  | record => simp [recordReadiness_arbitrations]
  | requestStop | drop =>
    obtain ⟨transport, lifecycle, -, same⟩ := r.requestStop_eq
    simp [same]

theorem RelayReaches.kept (reaches : RelayReaches start r)
    (ahead : ∀ a ∈ r.arbitrations, ¬a.Overtaken) : r.Kept := by
  induction reaches with
  | refl => exact start_kept
  | tail rest step kept =>
    have move := step.move
    have before := kept fun a member => ahead a (arbitrations_of_move move a member)
    exact before.move (RelayReaches.sound rest) move ahead

/-! ## The verdict -/

end Relay

/-- The operations of the worker, of the pumps and of the owner on the selection. -/
inductive TrackerOp where
  | selectFailure (error : ReadinessProxyError)
  | publishReadiness (settings : EffectiveThreadSettings)
  | failWhileRunning (error : ReadinessProxyError)
  | disconnect (origin : ReadinessTransportOrigin)
  | classifyDisconnected (origin : ReadinessTransportOrigin)
  | arbitrateDeadline
  | stop
  | stopWithDisconnectedOrigin (origin : ReadinessTransportOrigin)

/-- The operations that a worker or a pump calls. -/
def TrackerOp.ofWorker : TrackerOp → Bool
  | .selectFailure _ | .publishReadiness _ | .failWhileRunning _ | .disconnect _ => true
  | .classifyDisconnected _ | .arbitrateDeadline | .stop | .stopWithDisconnectedOrigin _ => false

def ProxyRunError.failure : ProxyRunError → Option ReadinessProxyError
  | .stopped => none
  | .failed error => some error

namespace Relay

/-- The failure that an operation returns. -/
def returned (r : Relay) : TrackerOp → Option ReadinessProxyError
  | .selectFailure error => (r.transport.selectFailure error).1.failure
  | .publishReadiness settings =>
    match (r.transport.publishReadiness r.lifecycle (success (r.owner ≠ .gone) settings)
        (r.queue, r.sent)).1 with
    | .ok _ => none
    | .error error => error.failure
  | .failWhileRunning error => (r.transport.failWhileRunning r.lifecycle error).1
  | .disconnect origin => (r.transport.disconnect r.lifecycle origin).1
  | .classifyDisconnected origin => some (r.transport.classifyDisconnected origin).1
  | .arbitrateDeadline =>
    match (r.transport.arbitrateDeadline r.queue).1 with
    | .ok _ => none
    | .error error => some error
  | .stop => none
  | .stopWithDisconnectedOrigin origin =>
    (r.transport.stopWithDisconnectedOrigin r.lifecycle origin).1.2

/-- After a failure is selected, no other one is returned. -/
theorem returned_of_failed {error : ReadinessProxyError}
    (selected : r.transport.selection = .failed error) (op : TrackerOp) :
    r.returned op = none ∨ r.returned op = some error := by
  cases op with
  | selectFailure | classifyDisconnected | arbitrateDeadline | stopWithDisconnectedOrigin =>
    right
    simp [returned, selectFailure, classifyDisconnected, ReadinessTransportTracker.arbitrateDeadline,
      stopWithDisconnectedOrigin, selected, ProxyRunError.failure]
  | stop => exact .inl rfl
  | publishReadiness settings =>
    by_cases stopping : r.lifecycle = .stopping
    · left
      simp [returned, publishReadiness, stopping, ProxyRunError.failure]
    · right
      simp [returned, publishReadiness, stopping, selected, ProxyRunError.failure]
  | failWhileRunning | disconnect =>
    left
    simp [returned, disconnect, failWhileRunning, selected]

/-- After a stop, no worker or pump has a failure. -/
theorem returned_of_stopped (stopped : r.transport.selection = .stopped) {op : TrackerOp}
    (ofWorker : op.ofWorker) : r.returned op = none := by
  cases op with
  | selectFailure | failWhileRunning | disconnect =>
    simp [returned, selectFailure, failWhileRunning, disconnect, stopped, ProxyRunError.failure]
  | publishReadiness settings =>
    by_cases stopping : r.lifecycle = .stopping <;>
      simp [returned, publishReadiness, stopping, stopped, ProxyRunError.failure]
  | classifyDisconnected | arbitrateDeadline | stop | stopWithDisconnectedOrigin => cases ofWorker

/-- Worker, pumps and owner agree on one outcome, and a success that was published before the deadline of
the owner is it. -/
structure OneVerdict (r : Relay) : Prop where
  sticks : r.transport.selection ≠ .open → ∀ r', RelayStep r r' →
    r'.transport.selection = r.transport.selection
  failed : ∀ error, r.transport.selection = .failed error → ∀ op failure,
    r.returned op = some failure → failure = error
  stopped : r.transport.selection = .stopped →
    r.reported = none ∧ ∀ op : TrackerOp, op.ofWorker → r.returned op = none
  reported : ∀ error, r.reported = some error → r.transport.selection = .failed error
  origin : ∀ origin, r.transport.first = some origin ↔
    r.transport.selection = .failed (.transport origin)
  once : r.published.length ≤ 1
  closed : ∀ error, r.readinessResult = some (.error error) →
    (∀ settings, r.queue ≠ some (.ok settings)) ∧ ∀ r', RelayStep r r' → r'.published = r.published
  arbitrated : ∀ a ∈ r.arbitrations,
    (r.owner = .recording a.result ∨ r.readinessResult = some a.result) ∧
    ∀ settings ∈ a.published, a.result = .ok settings
  recorded : ∀ result, r.readinessResult = some result → ∀ r', RelayStep r r' →
    r'.readinessResult = some result

/-- A result that is recorded stays. -/
theorem Sound.recorded (sound : r.Sound) (move : RelayMove r r') {result : ReadinessResult}
    (recorded : r.readinessResult = some result) : r'.readinessResult = some result := by
  cases move with
  | quiet step => rw [step.readinessResult, recorded]
  | published | reported | look | receive | disconnected | arbitrate | pending | preserve =>
    exact recorded
  | record h =>
    rw [sound.polling (by simp [h]) (by simp [h])] at recorded
    cases recorded
  | requestStop | drop =>
    obtain ⟨transport, lifecycle, -, same⟩ := r.requestStop_eq
    rw [same]
    exact recorded

/-- After a failure is recorded, nothing is published. -/
theorem Kept.unpublished (kept : r.Kept) {error : ReadinessProxyError}
    (recorded : r.readinessResult = some (.error error)) (move : RelayMove r r') :
    r'.published = r.published := by
  cases move with
  | quiet step => exact step.published
  | published settings h isOpen =>
    obtain ⟨-, decided | finished⟩ := kept.closed error (.inr recorded)
    · exact absurd isOpen decided
    · rw [h] at finished
      cases finished
  | reported | look | receive | disconnected | arbitrate | pending | preserve => rfl
  | record => rw [recordReadiness_published]
  | requestStop | drop =>
    obtain ⟨transport, lifecycle, -, same⟩ := r.requestStop_eq
    rw [same]

theorem oneVerdict_of_kept (sound : r.Sound) (kept : r.Kept) : r.OneVerdict where
  sticks decided r' step := step.move.decides.selection decided
  failed error selected op failure returned := by
    rcases returned_of_failed selected op with none | some
    · rw [none] at returned
      cases returned
    · rw [some] at returned
      exact (Option.some.inj returned).symm
  stopped stopped := by
    refine ⟨?_, fun op ofWorker => returned_of_stopped stopped ofWorker⟩
    cases reported : r.reported with
    | none => rfl
    | some error =>
      rw [sound.reported error reported] at stopped
      cases stopped
  reported := sound.reported
  origin := sound.settled
  once := sound.once
  closed error recorded := by
    have unpublished := (kept.closed error (.inr recorded)).1
    refine ⟨?_, fun r' step => kept.unpublished recorded step.move⟩
    intro settings queued
    have := sound.queued settings queued
    rw [unpublished] at this
    cases this
  arbitrated a member := ⟨(sound.arbitrated a member).1, kept.arbitrated a member⟩
  recorded result recorded r' step := sound.recorded step.move recorded

/-- A relay that was reached keeps one verdict as long as no deadline arbitration found a failure selected
while a success was in the queue. -/
theorem oneVerdict_iff (reaches : RelayReaches start r) :
    r.OneVerdict ↔ ∀ a ∈ r.arbitrations, ¬a.Overtaken := by
  have sound := RelayReaches.sound reaches
  constructor
  · rintro verdict a member ⟨⟨error, selected⟩, settings, queued⟩
    obtain ⟨-, failed, published⟩ := sound.arbitrated a member
    have taken := (verdict.arbitrated a member).2 settings (published settings queued)
    rw [failed error selected] at taken
    cases taken
  · intro ahead
    exact oneVerdict_of_kept sound (RelayReaches.kept reaches ahead)

/-- The owner finds the queue empty, and the worker publishes. -/
def publishedLate : Relay := { start with owner := .waiting }.publish sampleSettings

theorem reaches_publishedLate : RelayReaches start publishedLate := by
  refine .tail (.tail (.refl start) (.look rfl rfl rfl ?_)) (.publish sampleSettings rfl)
  decide

/-- An owner that arbitrates now records the success. -/
theorem oneVerdict_iff_publishedLate :
    (publishedLate.arbitrate.recordReadiness (.ok sampleSettings)).OneVerdict := by
  have reaches : RelayReaches start (publishedLate.arbitrate.recordReadiness (.ok sampleSettings)) :=
    .tail (.tail reaches_publishedLate (.arbitrate rfl)) (.record rfl)
  refine (oneVerdict_iff reaches).2 ?_
  intro a member overtaken
  obtain ⟨error, selected⟩ := overtaken.1
  rw [List.mem_singleton.1 member] at selected
  cases selected

/-- A pump that fails before the owner arbitrates makes it record the failure, with the success unread. -/
theorem oneVerdict_overtaken :
    ∃ r, RelayReaches start r ∧
      r.published = [sampleSettings] ∧ r.queue = some (.ok sampleSettings) ∧
      r.readinessResult = some (.error (.transport .clientEof)) ∧ ¬r.OneVerdict := by
  refine ⟨((publishedLate.fail (.transport .clientEof)).arbitrate).recordReadiness
    (.error (.transport .clientEof)), ?_, rfl, rfl, rfl, ?_⟩
  · exact .tail (.tail (.tail reaches_publishedLate (.fail _)) (.arbitrate rfl)) (.record rfl)
  · intro verdict
    exact (verdict.closed _ rfl).1 sampleSettings rfl

end Relay

end Calcifer
