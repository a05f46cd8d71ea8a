import Calcifer.Library.Program
import Calcifer.Routing.Mutations
import Calcifer.Usage.Observations

/-!
# Selecting a target

One pass over an enabled pool, beginning after the source. `selectOnce` is written over the calls of
its runtime; what the runtime answers is left open, so a run of it is a `Program.Trace`.
-/

namespace Calcifer.Routing

open Checks Lists Usage

/-! ## Triggers -/

inductive SelectionReason where
  | authoritativeExhaustion
  | revalidatedUsageLimit
deriving DecidableEq, Repr

def SelectionReason.handoffReason : SelectionReason → HandoffReason
  | .authoritativeExhaustion | .revalidatedUsageLimit => .confirmedUsageExhaustion

structure SelectionTrigger where
  sourceProfileId : String
  reason : SelectionReason
  observedAt : ℤ
deriving DecidableEq, Repr

inductive TriggerError where
  | notAuthoritativeExhaustion
  | revalidationPredatesSignal
deriving DecidableEq, Repr

def authoritativeSource : ObservationSource → Bool
  | .activeMonitor | .idleRead => true
  | .usageLimitSignal => false

def isFreshAuthoritativeAvailable (view : UsageView) : Bool :=
  view.availability = .available ∧ view.freshness = .fresh ∧ authoritativeSource view.source

def isFreshAuthoritativeExhaustion (view : UsageView) : Bool :=
  view.availability = .exhausted ∧ view.freshness = .fresh ∧ authoritativeSource view.source

def requireAuthoritativeExhaustion (view : UsageView) : Except TriggerError Unit :=
  rejectIf (view.availability ≠ .exhausted ∨ view.freshness ≠ .fresh ∨
    ¬authoritativeSource view.source) .notAuthoritativeExhaustion

namespace SelectionTrigger

def authoritativeExhaustion (sourceProfileId : String) (view : UsageView) :
    Except TriggerError SelectionTrigger := do
  requireAuthoritativeExhaustion view
  return { sourceProfileId, reason := .authoritativeExhaustion, observedAt := view.observedAt }

def revalidatedUsageLimit (sourceProfileId : String) (signalObservedAt : ℤ) (revalidated : UsageView) :
    Except TriggerError SelectionTrigger := do
  requireAuthoritativeExhaustion revalidated
  rejectIf (revalidated.observedAt < signalObservedAt) .revalidationPredatesSignal
  return { sourceProfileId, reason := .revalidatedUsageLimit, observedAt := revalidated.observedAt }

end SelectionTrigger

/-! ## The runtime -/

/-- A candidate that is held by a reservation, with its usage read under it. -/
structure ReservedCandidate (ρ : Type) where
  profile : Profile
  usage : UsageView
  reservation : ρ
deriving DecidableEq, Repr

inductive ReservationResult (ρ : Type) where
  | ready (candidate : ReservedCandidate ρ)
  | busy
  | unknown
deriving DecidableEq, Repr

structure HandoffSelection (ρ : Type) where
  source : Profile
  target : Profile
  authorization : HandoffAuthorization
  poolId : String
  reason : SelectionReason
  triggerObservedAt : ℤ
  reservation : ρ
deriving DecidableEq, Repr

/-- The calls to the runtime. -/
inductive SelectionCall (ρ : Type) where
  | cachedUsage (profileId : String)
  | reserveAndRevalidate (profileId : String)
  | handoff (selection : HandoffSelection ρ)
deriving DecidableEq, Repr

/-- What a call returns when it succeeds. -/
abbrev SelectionCall.Result {ρ : Type} : SelectionCall ρ → Type
  | .cachedUsage _ => Option UsageView
  | .reserveAndRevalidate _ => ReservationResult ρ
  | .handoff _ => ℕ

abbrev SelectionCall.Reply {ρ : Type} (ε : Type) (call : SelectionCall ρ) : Type :=
  Except ε call.Result

structure SelectionNotice where
  pool : String
  trustDomain : String
  sourceProfile : String
  targetProfile : String
  generation : ℕ
  reason : SelectionReason
deriving DecidableEq, Repr

structure SelectionStop where
  pool : String
  trustDomain : String
  sourceProfile : String
  reason : SelectionReason
  candidates : ℕ
  exhausted : ℕ := 0
  unknown : ℕ := 0
  busy : ℕ := 0
  cooldown : ℕ := 0
deriving DecidableEq, Repr

inductive SelectionOutcome where
  | selected (notice : SelectionNotice)
  | exhausted (stop : SelectionStop)
  | allUnknown (stop : SelectionStop)
  | busy (stop : SelectionStop)
  | noEligible (stop : SelectionStop)
deriving DecidableEq, Repr

inductive SelectionError (ε : Type) where
  | policy (error : DefinitionError)
  | runtime (error : ε)
  | runtimeInvariant
deriving DecidableEq, Repr

abbrev SelectionM (ρ ε : Type) : Type → Type :=
  ExceptT (SelectionError ε) (Program (SelectionCall ρ) (SelectionCall.Reply ε))

variable {ρ ε : Type}

def callSelection (call : SelectionCall ρ) : SelectionM ρ ε call.Result :=
  ExceptT.mk do
    let reply : Except ε call.Result ← Program.perform call
    return reply.mapError .runtime

def callPolicy {α : Type} (x : Except DefinitionError α) : SelectionM ρ ε α :=
  ExceptT.mk (pure (x.mapError .policy))

/-! ## The pass -/

/-- What a pass is made for. -/
structure Pass where
  definitions : Definitions
  pool : EnabledPool
  source : Profile
  trigger : SelectionTrigger
  cooldownProfileIds : List String

/-- What comes of one candidate. -/
inductive Probe where
  | exhausted
  | unknown
  | busy
  | selected (notice : SelectionNotice)
deriving DecidableEq, Repr

/-- The usage of a candidate allows the handoff. -/
def Pass.accepts (pass : Pass) (usage : UsageView) : Bool :=
  pass.trigger.observedAt ≤ usage.observedAt ∧ isFreshAuthoritativeAvailable usage

/-- What is handed over with the reservation of the target. -/
def Pass.selection (pass : Pass) (authorization : HandoffAuthorization)
    (candidate : ReservedCandidate ρ) : HandoffSelection ρ where
  source := pass.source
  target := candidate.profile
  authorization
  poolId := pass.pool.id
  reason := pass.trigger.reason
  triggerObservedAt := pass.trigger.observedAt
  reservation := candidate.reservation

def Pass.notice (pass : Pass) (target : Profile) (generation : ℕ) : SelectionNotice where
  pool := pass.pool.aliasName
  trustDomain := pass.pool.trustDomainAlias
  sourceProfile := pass.source.reference
  targetProfile := target.reference
  generation
  reason := pass.trigger.reason

/-- Hand off to a reserved candidate if its usage allows it. -/
def Pass.offer (pass : Pass) (profileId : String) (authorization : HandoffAuthorization)
    (candidate : ReservedCandidate ρ) : SelectionM ρ ε Probe :=
  if candidate.profile.id ≠ profileId ∨ candidate.profile.provider ≠ pass.pool.provider then
    throw .runtimeInvariant
  else if pass.accepts candidate.usage then do
    let generation ← callSelection (.handoff (pass.selection authorization candidate))
    return .selected (pass.notice candidate.profile generation)
  else if isFreshAuthoritativeExhaustion candidate.usage then
    return .exhausted
  else
    return .unknown

/-- Look at one candidate that is not in cooldown. -/
def Pass.probe (pass : Pass) (profileId : String) : SelectionM ρ ε Probe := do
  let authorization ← callPolicy
    (pass.definitions.authorizeHandoff pass.pool.trustDomainId pass.source.id profileId .codex)
  let cached ← callSelection (ρ := ρ) (.cachedUsage profileId)
  if Option.any isFreshAuthoritativeExhaustion cached then
    return .exhausted
  match ← callSelection (ρ := ρ) (.reserveAndRevalidate profileId) with
  | .busy => return .busy
  | .unknown => return .unknown
  | .ready candidate => pass.offer profileId authorization candidate

/-- The outcome of a pass without a handoff. -/
def SelectionStop.outcome (stop : SelectionStop) : SelectionOutcome :=
  let eligible := stop.candidates - stop.cooldown
  if eligible = 0 then .noEligible stop
  else if stop.exhausted = eligible then .exhausted stop
  else if stop.busy = eligible ∨ 0 < stop.busy then .busy stop
  else .allUnknown stop

/-- Go through the candidates that are left. -/
def Pass.traverse (pass : Pass) :
    List String → List String → SelectionStop → SelectionM ρ ε SelectionOutcome
  | [], _, stop => pure stop.outcome
  | profileId :: rest, visited, stop => do
    if profileId ∈ visited then
      throw .runtimeInvariant
    let visited := profileId :: visited
    if profileId ∈ pass.cooldownProfileIds then
      pass.traverse rest visited { stop with cooldown := stop.cooldown + 1 }
    else
      match ← pass.probe profileId with
      | .exhausted => pass.traverse rest visited { stop with exhausted := stop.exhausted + 1 }
      | .unknown => pass.traverse rest visited { stop with unknown := stop.unknown + 1 }
      | .busy => pass.traverse rest visited { stop with busy := stop.busy + 1 }
      | .selected notice => return .selected notice

/-- The members in the order of the loop, which counts on from the source modulo their number. -/
def candidateOrder (members : List String) (sourceIndex : ℕ) : List String :=
  (List.range' 1 (members.length - 1)).filterMap fun offset =>
    members[(sourceIndex + offset) % members.length]?

def Pass.firstStop (pass : Pass) : SelectionStop where
  pool := pass.pool.aliasName
  trustDomain := pass.pool.trustDomainAlias
  sourceProfile := pass.source.reference
  reason := pass.trigger.reason
  candidates := pass.pool.profileIds.length - 1

/-- Traverse the pool at most once. -/
def selectOnce (pass : Pass) : SelectionM ρ ε SelectionOutcome := do
  let current ← callPolicy
    (pass.definitions.enabledPoolForSource pass.pool.id pass.source.id pass.source.provider)
  if current ≠ pass.pool ∨ pass.source.provider ≠ pass.pool.provider ∨
      pass.trigger.sourceProfileId ≠ pass.source.id then
    throw .runtimeInvariant
  match pass.pool.profileIds.findIdx? (· = pass.source.id) with
  | none => throw .runtimeInvariant
  | some sourceIndex =>
    pass.traverse (candidateOrder pass.pool.profileIds sourceIndex) [pass.source.id] pass.firstStop

/-! ## What a probe can do -/

/-- The calls of a pass and their replies. -/
abbrev SelectionLog (ρ ε : Type) : Type := List ((call : SelectionCall ρ) × call.Reply ε)

open Program

variable {pass : Pass} {id : String} {log : SelectionLog ρ ε}

/-- A call fails, or the rest goes on with what it returned. -/
theorem trace_callSelection {α : Type} {call : SelectionCall ρ} {f : call.Result → SelectionM ρ ε α}
    {r : Except (SelectionError ε) α} (run : Trace (callSelection call >>= f).run log r) :
    (∃ e : ε, log = [⟨call, (.error e : Except ε call.Result)⟩] ∧ r = .error (.runtime e)) ∨
      ∃ a rest, log = ⟨call, (.ok a : Except ε call.Result)⟩ :: rest ∧ Trace (f a).run rest r := by
  have hrun : (callSelection call >>= f).run = Program.perform call >>= fun reply =>
      match (reply : Except ε call.Result) with
      | .ok a => (f a).run
      | .error e => pure (.error (.runtime e)) := by
    refine congrArg (Program.call call) (funext fun reply => ?_)
    cases reply with
    | ok a => rfl
    | error e => rfl
  rw [hrun, trace_bind] at run
  obtain ⟨before, rest, reply, rfl, hp, hr⟩ := run
  obtain rfl := trace_perform.1 hp
  cases reply with
  | ok a => exact Or.inr ⟨a, rest, rfl, hr⟩
  | error e =>
    obtain ⟨rfl, rfl⟩ := trace_pure.1 hr
    exact Or.inl ⟨e, rfl, rfl⟩

/-- A question of policy is denied, or the rest goes on with its answer. -/
theorem trace_callPolicy {α β : Type} {x : Except DefinitionError β} {f : β → SelectionM ρ ε α}
    {r : Except (SelectionError ε) α} (run : Trace (callPolicy x >>= f).run log r) :
    (∃ e, x = .error e ∧ log = [] ∧ r = .error (.policy e)) ∨
      ∃ a, x = .ok a ∧ Trace (f a).run log r := by
  cases x with
  | error e =>
    obtain ⟨rfl, rfl⟩ := trace_pure.1 run
    exact Or.inl ⟨e, rfl, rfl, rfl⟩
  | ok a => exact Or.inr ⟨a, rfl, run⟩

theorem trace_ok {α : Type} {a : α} {r : Except (SelectionError ε) α} :
    Trace (pure a : SelectionM ρ ε α).run log r ↔ log = [] ∧ r = .ok a :=
  trace_pure

theorem trace_throw {α : Type} {e : SelectionError ε} {r : Except (SelectionError ε) α} :
    Trace (throw e : SelectionM ρ ε α).run log r ↔ log = [] ∧ r = .error e :=
  trace_pure

/-- The beginning of a probe whose candidate is reserved: nothing in the cache speaks against it. -/
def uncached (id : String) (cached : Option UsageView) (reply : Except ε (ReservationResult ρ)) :
    SelectionLog ρ ε :=
  [⟨.cachedUsage id, (.ok cached : Except ε (Option UsageView))⟩, ⟨.reserveAndRevalidate id, reply⟩]

/-- A reserved candidate that the pass hands off to. -/
structure Pass.Fits (pass : Pass) (id : String) (candidate : ReservedCandidate ρ)
    (authorization : HandoffAuthorization) : Prop where
  same : candidate.profile.id = id
  provider : candidate.profile.provider = pass.pool.provider
  accepts : pass.accepts candidate.usage = true
  authorized : pass.definitions.authorizeHandoff pass.pool.trustDomainId pass.source.id id .codex =
    .ok authorization

/-- What a probe of a candidate calls and comes to. -/
inductive Pass.Probed (pass : Pass) (id : String) :
    SelectionLog ρ ε → Except (SelectionError ε) Probe → Prop
  | denied (e : DefinitionError) : Probed pass id [] (.error (.policy e))
  | unread (e : ε) :
      Probed pass id [⟨.cachedUsage id, (.error e : Except ε (Option UsageView))⟩] (.error (.runtime e))
  | cached (view : UsageView) (h : isFreshAuthoritativeExhaustion view = true) :
      Probed pass id [⟨.cachedUsage id, (.ok (some view) : Except ε (Option UsageView))⟩]
        (.ok .exhausted)
  | unreserved {cached : Option UsageView} (h : cached.any isFreshAuthoritativeExhaustion = false)
      (e : ε) : Probed pass id (uncached id cached (.error e)) (.error (.runtime e))
  | busy {cached : Option UsageView} (h : cached.any isFreshAuthoritativeExhaustion = false) :
      Probed pass id (uncached id cached (.ok .busy)) (.ok .busy)
  | unknown {cached : Option UsageView} (h : cached.any isFreshAuthoritativeExhaustion = false) :
      Probed pass id (uncached id cached (.ok .unknown)) (.ok .unknown)
  | mismatched {cached : Option UsageView} (h : cached.any isFreshAuthoritativeExhaustion = false)
      (candidate : ReservedCandidate ρ)
      (hne : candidate.profile.id ≠ id ∨ candidate.profile.provider ≠ pass.pool.provider) :
      Probed pass id (uncached id cached (.ok (.ready candidate))) (.error .runtimeInvariant)
  | exhausted {cached : Option UsageView} (h : cached.any isFreshAuthoritativeExhaustion = false)
      (candidate : ReservedCandidate ρ) (no : pass.accepts candidate.usage = false)
      (hx : isFreshAuthoritativeExhaustion candidate.usage = true) :
      Probed pass id (uncached id cached (.ok (.ready candidate))) (.ok .exhausted)
  | undecided {cached : Option UsageView} (h : cached.any isFreshAuthoritativeExhaustion = false)
      (candidate : ReservedCandidate ρ) (no : pass.accepts candidate.usage = false)
      (hx : isFreshAuthoritativeExhaustion candidate.usage = false) :
      Probed pass id (uncached id cached (.ok (.ready candidate))) (.ok .unknown)
  | failed {cached : Option UsageView} (h : cached.any isFreshAuthoritativeExhaustion = false)
      {candidate : ReservedCandidate ρ} {authorization : HandoffAuthorization}
      (fits : pass.Fits id candidate authorization) (e : ε) :
      Probed pass id (uncached id cached (.ok (.ready candidate)) ++
          [⟨.handoff (pass.selection authorization candidate), (.error e : Except ε ℕ)⟩])
        (.error (.runtime e))
  | handed {cached : Option UsageView} (h : cached.any isFreshAuthoritativeExhaustion = false)
      {candidate : ReservedCandidate ρ} {authorization : HandoffAuthorization}
      (fits : pass.Fits id candidate authorization) (generation : ℕ) :
      Probed pass id (uncached id cached (.ok (.ready candidate)) ++
          [⟨.handoff (pass.selection authorization candidate), (.ok generation : Except ε ℕ)⟩])
        (.ok (.selected (pass.notice candidate.profile generation)))

theorem Pass.offer_trace {cached : Option UsageView}
    (h : cached.any isFreshAuthoritativeExhaustion = false) {candidate : ReservedCandidate ρ}
    {authorization : HandoffAuthorization}
    (authorized : pass.definitions.authorizeHandoff pass.pool.trustDomainId pass.source.id id .codex =
      .ok authorization) {r : Except (SelectionError ε) Probe}
    (hr : Trace (pass.offer id authorization candidate : SelectionM ρ ε Probe).run log r) :
    pass.Probed id (uncached id cached (.ok (.ready candidate)) ++ log) r := by
  unfold Pass.offer at hr
  split_ifs at hr with hne yes hx
  · obtain ⟨rfl, rfl⟩ := trace_throw.1 hr
    exact .mismatched h candidate hne
  · simp only [not_or, Decidable.not_not] at hne
    have fits : pass.Fits id candidate authorization := ⟨hne.1, hne.2, yes, authorized⟩
    obtain ⟨e, rfl, rfl⟩ | ⟨generation, rest, rfl, hrest⟩ := trace_callSelection hr
    · exact .failed h fits e
    · obtain ⟨rfl, rfl⟩ := trace_ok.1 hrest
      exact .handed h fits generation
  · obtain ⟨rfl, rfl⟩ := trace_ok.1 hr
    exact .exhausted h candidate (by simpa using yes) hx
  · obtain ⟨rfl, rfl⟩ := trace_ok.1 hr
    exact .undecided h candidate (by simpa using yes) (by simpa using hx)

theorem Pass.probe_trace {r : Except (SelectionError ε) Probe}
    (run : Trace (pass.probe id : SelectionM ρ ε Probe).run log r) : pass.Probed id log r := by
  unfold Pass.probe at run
  obtain ⟨e, -, rfl, rfl⟩ | ⟨authorization, authorized, run₁⟩ := trace_callPolicy run
  · exact .denied e
  obtain ⟨e, rfl, rfl⟩ | ⟨cached, log, rfl, run₂⟩ := trace_callSelection run₁
  · exact .unread e
  split_ifs at run₂ with hx
  · obtain ⟨rfl, rfl⟩ := trace_ok.1 run₂
    cases cached with
    | none => cases hx
    | some view => exact .cached view hx
  have hx : Option.any isFreshAuthoritativeExhaustion cached = false := by simpa using hx
  obtain ⟨e, rfl, rfl⟩ | ⟨reserved, log, rfl, run₃⟩ := trace_callSelection run₂
  · exact .unreserved hx e
  cases reserved with
  | busy =>
    obtain ⟨rfl, rfl⟩ := trace_ok.1 run₃
    exact .busy hx
  | unknown =>
    obtain ⟨rfl, rfl⟩ := trace_ok.1 run₃
    exact .unknown hx
  | ready candidate => exact Pass.offer_trace hx authorized run₃

end Calcifer.Routing
