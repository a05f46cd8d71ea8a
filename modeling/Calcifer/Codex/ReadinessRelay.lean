import Calcifer.Codex.ThreadSettings

/-!
# The verdict of a readiness relay

A readiness relay has a worker, two pumps and an owner. They agree on one outcome through
`ReadinessTransportTracker`, each of whose operations is atomic: the selection leaves `open` once, for a
failure or for a stop. A success is not a selection. The worker publishes it in a queue of one slot, from
which the owner takes it.

`RelayStep` interleaves the steps of the four. `Relay.oneVerdict_iff` says exactly when the owner records
the success that was published before its deadline.
-/

namespace Calcifer

inductive RelayFailureSelection where
  | open
  | failed (error : ReadinessProxyError)
  | stopped
deriving DecidableEq, Repr

inductive RelayLifecycle where
  | running
  | disconnected
  | stopping
deriving DecidableEq, Repr

inductive ProxyRunError where
  | stopped
  | failed (error : ReadinessProxyError)
deriving DecidableEq, Repr

/-- What the worker tells the owner. -/
abbrev ReadinessResult := Except ReadinessProxyError EffectiveThreadSettings

structure ReadinessTransportTracker where
  first : Option ReadinessTransportOrigin
  selection : RelayFailureSelection
deriving DecidableEq, Repr

namespace ReadinessTransportTracker

variable (t : ReadinessTransportTracker)

def new : ReadinessTransportTracker where
  first := none
  selection := .open

/-- Record an origin, unless one is recorded. -/
def record (origin : ReadinessTransportOrigin) :
    ReadinessTransportOrigin × ReadinessTransportTracker :=
  match t.first with
  | none => (origin, { t with first := some origin })
  | some recorded => (recorded, t)

def error (origin : ReadinessTransportOrigin) : ReadinessProxyError × ReadinessTransportTracker :=
  let (origin, t) := t.record origin
  (.transport origin, t)

def authoritative : ReadinessProxyError → ReadinessProxyError × ReadinessTransportTracker
  | .transport origin => t.error origin
  | error => ((t.first.map .transport).getD error, t)

/-- Select the authoritative form of a failure. -/
def close (error : ReadinessProxyError) : ReadinessProxyError × ReadinessTransportTracker :=
  let (error, t) := t.authoritative error
  (error, { t with selection := .failed error })

def selectedFailure : Option ReadinessProxyError :=
  match t.selection with
  | .failed selected => some selected
  | .open | .stopped => none

def preserveSelected (error : ReadinessProxyError) : ReadinessProxyError :=
  t.selectedFailure.getD error

/-- Close the readiness deadline of the owner, who takes what the queue holds while the relay is open. -/
def arbitrateDeadline (readiness : Option ReadinessResult) :
    ReadinessResult × ReadinessTransportTracker × Option ReadinessResult :=
  match t.selection with
  | .failed error => (.error error, t, readiness)
  | .stopped => (.error .unexpectedSequence, t, readiness)
  | .open =>
    match readiness.getD (.error .timeout) with
    | .ok settings => (.ok settings, t, none)
    | .error error =>
      let (error, t) := t.close error
      (.error error, t, none)

def selectFailure (error : ReadinessProxyError) : ProxyRunError × ReadinessTransportTracker :=
  match t.selection with
  | .open =>
    let (error, t) := t.close error
    (.failed error, t)
  | .failed selected => (.failed selected, t)
  | .stopped => (.stopped, t)

/-- Publish, unless the relay has ended. Publishing acts on a state of its own. -/
def publishReadiness {σ : Type} (lifecycle : RelayLifecycle)
    (publish : σ → Except ReadinessProxyError Unit × σ) (s : σ) :
    Except ProxyRunError Unit × ReadinessTransportTracker × σ :=
  if lifecycle = .stopping then (.error .stopped, t, s) else
  match t.selection with
  | .failed error => (.error (.failed error), t, s)
  | .stopped => (.error .stopped, t, s)
  | .open =>
    if lifecycle = .running then
      match publish s with
      | (.ok _, s) => (.ok (), t, s)
      | (.error error, s) =>
        let (error, t) := t.close error
        (.error (.failed error), t, s)
    else
      let (error, t) := t.close .worker
      (.error (.failed error), t, s)

def failWhileRunning (lifecycle : RelayLifecycle) (error : ReadinessProxyError) :
    Option ReadinessProxyError × ReadinessTransportTracker × RelayLifecycle :=
  if lifecycle = .stopping then (none, t, lifecycle) else
  match t.selection with
  | .failed _ | .stopped => (none, t, lifecycle)
  | .open =>
    if lifecycle = .running then
      let (error, t) := t.close error
      (some error, t, .disconnected)
    else (none, t, lifecycle)

def disconnect (lifecycle : RelayLifecycle) (origin : ReadinessTransportOrigin) :
    Option ReadinessProxyError × ReadinessTransportTracker × RelayLifecycle :=
  t.failWhileRunning lifecycle (.transport origin)

def classifyDisconnected (origin : ReadinessTransportOrigin) :
    ReadinessProxyError × ReadinessTransportTracker :=
  match t.selection with
  | .failed error => (error, t)
  | .open =>
    let (error, t) := t.error origin
    (error, { t with selection := .failed error })
  | .stopped => (.unexpectedSequence, t)

/-- Stop on purpose. The lifecycle before it is returned. -/
def stop (lifecycle : RelayLifecycle) :
    RelayLifecycle × ReadinessTransportTracker × RelayLifecycle :=
  (lifecycle, if t.selection = .open then { t with selection := .stopped } else t, .stopping)

def stopWithDisconnectedOrigin (lifecycle : RelayLifecycle) (origin : ReadinessTransportOrigin) :
    (RelayLifecycle × Option ReadinessProxyError) × ReadinessTransportTracker × RelayLifecycle :=
  match t.selection with
  | .failed error => ((lifecycle, some error), t, .stopping)
  | .open =>
    if lifecycle = .disconnected then
      let (error, t) := t.error origin
      ((lifecycle, some error), { t with selection := .failed error }, .stopping)
    else ((lifecycle, none), { t with selection := .stopped }, .stopping)
  | .stopped => ((lifecycle, none), t, .stopping)

/-! ### What an operation does -/

/-- The first origin is known exactly when a transport failure is selected. -/
def Settled : Prop := ∀ origin, t.first = some origin ↔ t.selection = .failed (.transport origin)

/-- An operation changes nothing, or closes an open selection with a failure. -/
inductive Fails : ReadinessTransportTracker → Prop
  | same : Fails t
  | closes (h : t.selection = .open) (error : ReadinessProxyError) : Fails (t.close error).2

/-- An operation fails or stops an open selection. -/
inductive Decides : ReadinessTransportTracker → Prop
  | fails {t' : ReadinessTransportTracker} (h : t.Fails t') : Decides t'
  | stops (h : t.selection = .open) : Decides { t with selection := .stopped }

variable {t} {t' : ReadinessTransportTracker}

theorem close_selection (error : ReadinessProxyError) :
    (t.close error).2.selection = .failed (t.close error).1 := rfl

theorem Settled.first_of_open (settled : t.Settled) (h : t.selection = .open) : t.first = none := by
  cases first : t.first with
  | none => rfl
  | some origin =>
    have selected := (settled origin).1 first
    rw [h] at selected
    cases selected

theorem Fails.settled (h : t.Fails t') (settled : t.Settled) : t'.Settled := by
  cases h with
  | same => exact settled
  | closes isOpen error =>
    have unset := settled.first_of_open isOpen
    intro origin
    cases error <;> simp [close, authoritative, ReadinessTransportTracker.error, record, unset]

/-- A failure stops nothing. -/
theorem Fails.stopped (h : t.Fails t') (stopped : t'.selection = .stopped) : t.selection = .stopped := by
  cases h with
  | same => exact stopped
  | closes isOpen error => cases stopped

theorem Decides.settled (h : t.Decides t') (settled : t.Settled) : t'.Settled := by
  cases h with
  | fails h => exact h.settled settled
  | stops isOpen => intro origin; simp [settled.first_of_open isOpen]

theorem Decides.selection (h : t.Decides t') (decided : t.selection ≠ .open) :
    t'.selection = t.selection := by
  cases h with
  | stops isOpen => exact absurd isOpen decided
  | fails h =>
    cases h with
    | same => rfl
    | closes isOpen => exact absurd isOpen decided

theorem arbitrateDeadline_fails (readiness : Option ReadinessResult) :
    t.Fails (t.arbitrateDeadline readiness).2.1 := by
  unfold arbitrateDeadline
  split
  · exact .same
  · exact .same
  · rename_i isOpen
    split
    · exact .same
    · exact .closes isOpen _

theorem selectFailure_fails (error : ReadinessProxyError) : t.Fails (t.selectFailure error).2 := by
  unfold selectFailure
  split
  · rename_i isOpen
    exact .closes isOpen error
  · exact .same
  · exact .same

theorem publishReadiness_fails {σ : Type} (lifecycle : RelayLifecycle)
    (publish : σ → Except ReadinessProxyError Unit × σ) (s : σ) :
    t.Fails (t.publishReadiness lifecycle publish s).2.1 := by
  cases selection : t.selection with
  | failed error | stopped =>
    simp only [publishReadiness, selection]
    split_ifs <;> exact .same
  | «open» =>
    simp only [publishReadiness, selection]
    split_ifs
    · exact .same
    · split
      · exact .same
      · exact .closes selection _
    · exact .closes selection .worker

theorem failWhileRunning_fails (lifecycle : RelayLifecycle) (error : ReadinessProxyError) :
    t.Fails (t.failWhileRunning lifecycle error).2.1 := by
  cases selection : t.selection with
  | failed error | stopped =>
    simp only [failWhileRunning, selection]
    split_ifs <;> exact .same
  | «open» =>
    simp only [failWhileRunning, selection]
    split_ifs
    · exact .same
    · exact .closes selection error
    · exact .same

theorem classifyDisconnected_fails (origin : ReadinessTransportOrigin) :
    t.Fails (t.classifyDisconnected origin).2 := by
  unfold classifyDisconnected
  split
  · exact .same
  · rename_i isOpen
    exact .closes isOpen (.transport origin)
  · exact .same

theorem stop_decides (lifecycle : RelayLifecycle) : t.Decides (t.stop lifecycle).2.1 := by
  by_cases isOpen : t.selection = .open
  · simp only [stop, if_pos isOpen]
    exact .stops isOpen
  · simp only [stop, if_neg isOpen]
    exact .fails .same

theorem stopWithDisconnectedOrigin_decides (lifecycle : RelayLifecycle)
    (origin : ReadinessTransportOrigin) :
    t.Decides (t.stopWithDisconnectedOrigin lifecycle origin).2.1 := by
  unfold stopWithDisconnectedOrigin
  split
  · exact .fails .same
  · rename_i isOpen
    split_ifs
    · exact .fails (.closes isOpen (.transport origin))
    · exact .stops isOpen
  · exact .fails .same

/-- A run error that reports a failure reports the selected one. -/
theorem selectFailure_failed {error selected : ReadinessProxyError}
    (h : (t.selectFailure error).1 = .failed selected) :
    (t.selectFailure error).2.selection = .failed selected := by
  unfold selectFailure at h ⊢
  split at h
  · cases h
    rfl
  · rename_i selection
    cases h
    exact selection
  · cases h

end ReadinessTransportTracker

/-! ## The relay -/

/-- Where the worker stands: in its loop, after a transport failure that was selected elsewhere, out of
the loop, before its report, or at its end. -/
inductive WorkerPoint where
  | running (ready : Bool)
  | unselected
  | broken (result : ProxyRunError)
  | reporting (error : ReadinessProxyError)
  | finished
deriving DecidableEq, Repr

/-- Where the owner stands: outside of a poll, after it found the queue empty, after it found the worker
gone, about to record a result, or at its end. -/
inductive OwnerPoint where
  | idle
  | waiting
  | lost
  | recording (result : ReadinessResult)
  | gone
deriving DecidableEq

/-- A deadline arbitration: what it found, what had been published, and what it came to. -/
structure Arbitration where
  selection : RelayFailureSelection
  queued : Option ReadinessResult
  published : List EffectiveThreadSettings
  result : ReadinessResult

/-- A relay. It remembers what was published, what the worker reported and the arbitrations. -/
structure Relay where
  transport : ReadinessTransportTracker
  lifecycle : RelayLifecycle
  queue : Option ReadinessResult
  sent : Bool
  worker : WorkerPoint
  owner : OwnerPoint
  readinessResult : Option ReadinessResult
  published : List EffectiveThreadSettings
  reported : Option ReadinessProxyError
  arbitrations : List Arbitration

namespace Relay

variable (r : Relay)

def start : Relay where
  transport := .new
  lifecycle := .running
  queue := none
  sent := false
  worker := .running false
  owner := .idle
  readinessResult := none
  published := []
  reported := none
  arbitrations := []

/-- `ReadyNotifier::success`, on the queue and the flag of the notifier. -/
def success (received : Bool) (settings : EffectiveThreadSettings) :
    Option ReadinessResult × Bool → Except ReadinessProxyError Unit × Option ReadinessResult × Bool
  | (queue, _) => if received then (.ok (), some (.ok settings), true) else (.error .worker, queue, true)

/-- The worker publishes the settings of a ready session. -/
def publish (settings : EffectiveThreadSettings) : Relay :=
  match r.transport.publishReadiness r.lifecycle (success (r.owner ≠ .gone) settings)
      (r.queue, r.sent) with
  | (.ok (), transport, queue, sent) => { r with
      transport, queue, sent, worker := .running true, published := settings :: r.published }
  | (.error error, transport, queue, sent) => { r with
      transport, queue, sent, worker := .broken error }

/-- The worker leaves its loop with a failure. -/
def breakFailed (error : ReadinessProxyError) : Relay :=
  let (result, transport) := r.transport.selectFailure error
  { r with transport, worker := .broken result }

/-- The worker finds its transport failed. -/
def transportFailure (origin : ReadinessTransportOrigin) : Relay :=
  let (error, transport, lifecycle) := r.transport.disconnect r.lifecycle origin
  { r with
    transport
    lifecycle
    worker := match error with
      | some error => .broken (.failed error)
      | none => .unselected }

/-- The worker takes over the failure that was selected elsewhere. -/
def readSelected : Relay :=
  { r with
    worker := .broken (match r.transport.selectedFailure with
      | some error => .failed error
      | none => .stopped) }

/-- A pump panicked, which the worker finds when it joins them. -/
def joinFails (result : ProxyRunError) : Relay :=
  { r with
    worker := .broken (match result with
      | .failed error => .failed (r.transport.preserveSelected error)
      | .stopped => .failed .worker) }

/-- The worker selects its failure once more, before it reports. -/
def selectRunError (error : ReadinessProxyError) : Relay :=
  match r.transport.selectFailure error with
  | (.failed error, transport) => { r with transport, worker := .reporting error }
  | (.stopped, transport) => { r with transport, worker := .finished }

/-- The worker reports a failure, in the queue if nothing was sent before. -/
def report (error : ReadinessProxyError) : Relay :=
  { r with
    queue := if r.sent then r.queue else some (.error error)
    sent := true
    worker := .finished
    reported := some error }

/-- A pump or the owner finds a failure. -/
def fail (error : ReadinessProxyError) : Relay :=
  let (_, transport, lifecycle) := r.transport.failWhileRunning r.lifecycle error
  { r with transport, lifecycle }

/-- The owner arbitrates its deadline. -/
def arbitrate : Relay :=
  let (result, transport, queue) := r.transport.arbitrateDeadline r.queue
  { r with
    transport
    queue
    owner := .recording result
    arbitrations := ⟨r.transport.selection, r.queue, r.published, result⟩ :: r.arbitrations }

/-- The owner records a result, and stops the relay after a failure. -/
def recordReadiness (result : ReadinessResult) : Relay :=
  let r := match result with
    | .ok _ => r
    | .error _ =>
      let (_, transport, lifecycle) := r.transport.stop r.lifecycle
      { r with transport, lifecycle }
  { r with owner := .idle, readinessResult := some result }

/-- The owner classifies a relay that it finds disconnected. -/
def classify (origin : ReadinessTransportOrigin) : Relay :=
  { r with transport := (r.transport.classifyDisconnected origin).2 }

/-- The owner asks the relay to stop. -/
def requestStop : Relay :=
  match r.readinessResult with
  | some (.error _) =>
    let (_, transport, lifecycle) := r.transport.stop r.lifecycle
    { r with transport, lifecycle }
  | _ =>
    let (_, transport, lifecycle) :=
      r.transport.stopWithDisconnectedOrigin r.lifecycle .lifecycleDisconnected
    { r with transport, lifecycle }

end Relay

/-- The steps of the worker, of the pumps and of the owner, in any order. -/
inductive RelayStep (r : Relay) : Relay → Prop
  -- The worker. A pump may have panicked when it joins them, and it may panic itself.
  | publish (settings : EffectiveThreadSettings) (h : r.worker = .running false) :
    RelayStep r (r.publish settings)
  | breakFailed {ready : Bool} (error : ReadinessProxyError) (h : r.worker = .running ready) :
    RelayStep r (r.breakFailed error)
  | breakUnselected {ready : Bool} (error : ReadinessProxyError) (h : r.worker = .running ready) :
    RelayStep r { r with worker := .broken (.failed error) }
  | breakStopped {ready : Bool} (h : r.worker = .running ready) (ended : r.lifecycle ≠ .running) :
    RelayStep r { r with worker := .broken .stopped }
  | transportFailure {ready : Bool} (origin : ReadinessTransportOrigin)
      (h : r.worker = .running ready) : RelayStep r (r.transportFailure origin)
  | readSelected (h : r.worker = .unselected) : RelayStep r r.readSelected
  | joinFails {result : ProxyRunError} (h : r.worker = .broken result) :
    RelayStep r (r.joinFails result)
  | endStopped (h : r.worker = .broken .stopped) : RelayStep r { r with worker := .finished }
  | selectRunError {error : ReadinessProxyError} (h : r.worker = .broken (.failed error)) :
    RelayStep r (r.selectRunError error)
  | report {error : ReadinessProxyError} (h : r.worker = .reporting error) :
    RelayStep r (r.report error)
  | panic : RelayStep r { r with worker := .finished }
  -- The pumps.
  | fail (error : ReadinessProxyError) : RelayStep r (r.fail error)
  -- The owner. A poll ends at once when a result is recorded.
  | look (h : r.owner = .idle) (unrecorded : r.readinessResult = none) (empty : r.queue = none)
      (alive : r.worker ≠ .finished) : RelayStep r { r with owner := .waiting }
  | receive {result : ReadinessResult} (h : r.owner = .idle ∨ r.owner = .waiting)
      (unrecorded : r.readinessResult = none) (full : r.queue = some result) :
    RelayStep r { r with owner := .recording result, queue := none }
  | disconnected (h : r.owner = .idle ∨ r.owner = .waiting) (unrecorded : r.readinessResult = none)
      (empty : r.queue = none) (gone : r.worker = .finished) : RelayStep r { r with owner := .lost }
  | arbitrate (h : r.owner = .waiting) : RelayStep r r.arbitrate
  | pending (h : r.owner = .waiting) : RelayStep r { r with owner := .idle }
  | preserve (h : r.owner = .lost) :
    RelayStep r { r with owner := .recording (.error (r.transport.preserveSelected .worker)) }
  | record {result : ReadinessResult} (h : r.owner = .recording result) :
    RelayStep r (r.recordReadiness result)
  | ensure {settings : EffectiveThreadSettings} (error : ReadinessProxyError) (h : r.owner = .idle)
      (recorded : r.readinessResult = some (.ok settings)) : RelayStep r (r.fail error)
  | classify {settings : EffectiveThreadSettings} (origin : ReadinessTransportOrigin)
      (h : r.owner = .idle) (recorded : r.readinessResult = some (.ok settings)) :
    RelayStep r (r.classify origin)
  | requestStop (h : r.owner = .idle) : RelayStep r r.requestStop
  | drop (h : r.owner = .idle) : RelayStep r { r.requestStop with owner := .gone }

/-- The relays that an interleaving leads to. -/
inductive RelayReaches : Relay → Relay → Prop
  | refl (r : Relay) : RelayReaches r r
  | tail {r r₁ r₂ : Relay} (rest : RelayReaches r r₁) (step : RelayStep r₁ r₂) : RelayReaches r r₂

end Calcifer
