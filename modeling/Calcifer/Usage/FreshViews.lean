import Calcifer.Usage.Merges

/-!
# What a fresh view rests on

A view is fresh because of the last event that was accepted for its profile (`cacheRun_fresh`). The view
that `ObservationStore.observeUsage` returns is that of the entry the observation left, unless the
observation was out of order.
-/

namespace Calcifer.Usage

open Checks

/-! ## Views -/

namespace CacheEntry

variable {entry : CacheEntry} {now : ℤ}

/-- Nothing speaks against the entry at some time: no signal, no failure, no expiry. -/
structure Current (entry : CacheEntry) (now : ℤ) : Prop where
  revalidated : ∀ signal ∈ entry.revalidationRequiredAt, signal < entry.observedAt
  answered : entry.lastFailure = none
  unexpired : ∀ expiry ∈ entry.expiresAt, now < expiry

theorem current_iff : entry.Current now ↔
    entry.revalidationRequiredAt.any (fun signal => entry.observedAt ≤ signal) = false ∧
      entry.lastFailure.isSome = false ∧ entry.expiresAt.any (fun expiry => expiry ≤ now) = false := by
  rw [Option.any_eq_false, Option.any_eq_false, Option.isSome_eq_false_iff, Option.isNone_iff_eq_none]
  simp only [decide_eq_false_iff_not, not_le]
  exact ⟨fun h => ⟨h.revalidated, h.answered, h.unexpired⟩, fun ⟨h, h', h''⟩ => ⟨h, h', h''⟩⟩

/-- The availability that a view shows of a current entry. -/
def shown (entry : CacheEntry) : Availability :=
  match entry.availability with
  | .available => .available
  | .exhausted => .exhausted
  | .unknown => .unknown
  | .unsupported => .unsupported

@[simp] theorem shown_eq_available : entry.shown = .available ↔ entry.availability = .available := by
  unfold shown
  split <;> simp_all

@[simp] theorem shown_eq_exhausted : entry.shown = .exhausted ↔ entry.availability = .exhausted := by
  unfold shown
  split <;> simp_all

theorem view_of_current (h : entry.Current now) : (entry.view now).availability = entry.shown ∧
    ((entry.view now).freshness = .fresh ↔ entry.availability ≠ .unsupported) := by
  obtain ⟨revalidated, answered, unexpired⟩ := current_iff.1 h
  by_cases hu : entry.availability = .unsupported
  · simp [view, revalidated, hu, shown]
  · cases ha : entry.availability <;> simp [view, revalidated, ha, answered, unexpired, shown]

/-- Nothing else than a current entry has a fresh view. -/
theorem current_of_fresh (h : (entry.view now).freshness = .fresh) : entry.Current now := by
  rw [current_iff]
  simp only [view] at h
  split_ifs at h with revalidation unsupported failure usage expired
  simp only [Bool.not_eq_true] at revalidation failure expired
  exact ⟨revalidation, failure, expired⟩

end CacheEntry

/-! ## What an event leaves -/

namespace CacheOp

variable {policy : ObservationPolicy} {d d' : CacheDocument} {op : CacheOp} {entry : CacheEntry}

/-- What an accepted event has left in the entry of its profile: a usage that is current for some time,
or a signal or a failure that stands in the way of a fresh view. -/
def Left (policy : ObservationPolicy) : CacheOp → CacheEntry → Prop
  | observeUsage profileId source codexVersion usage observedAt, entry =>
    entry = usageEntry profileId source codexVersion usage observedAt
      (observedAt + policy.freshTtlSeconds)
  | observeFailure _ _ _ _ _ observedAt, entry =>
    entry.latestEventAt = observedAt ∧ entry.lastFailure.isSome
  | requireRevalidation _ observedAt, entry =>
    entry.latestEventAt = observedAt ∧ entry.revalidationRequiredAt = some entry.observedAt

theorem Left.latestEventAt (h : op.Left policy entry) : entry.latestEventAt = op.observedAt := by
  cases op with
  | observeUsage =>
    obtain rfl := h
    rfl
  | observeFailure => exact h.1
  | requireRevalidation => exact h.1

theorem left_of_entry (h : op.entry policy d = .ok entry) : op.Left policy entry := by
  cases op with
  | observeUsage profileId source codexVersion usage observedAt =>
    simp only [CacheOp.entry, check_bind_eq_ok, bind_eq_ok (α := ℤ), pure_eq_ok] at h
    obtain ⟨-, -, -, -, -, expiresAt, hexpiry, rfl⟩ := h
    rw [ObservationPolicy.expiry, check_bind_eq_ok, pure_eq_ok] at hexpiry
    show _ = usageEntry _ _ _ _ _ _
    rw [hexpiry.2]
  | observeFailure profileId source codexVersion compatibility failure observedAt =>
    simp only [CacheOp.entry, check_bind_eq_ok, bind_eq_ok (α := ℤ), pure_eq_ok] at h
    obtain ⟨-, -, -, -, nextRefreshAt, -, rfl⟩ := h
    unfold failureEntry
    split
    next => exact ⟨rfl, rfl⟩
    next => exact ⟨rfl, rfl⟩
  | requireRevalidation profileId observedAt =>
    simp only [CacheOp.entry, check_bind_eq_ok, pure_eq_ok] at h
    obtain ⟨-, -, -, rfl⟩ := h
    exact ⟨rfl, rfl⟩

/-- Only a usage observation leaves an entry with a fresh view. -/
theorem Left.of_current {now : ℤ} (h : op.Left policy entry) (current : entry.Current now) :
    ∃ profileId source codexVersion usage observedAt,
      op = .observeUsage profileId source codexVersion usage observedAt := by
  cases op with
  | observeUsage profileId source codexVersion usage observedAt => exact ⟨_, _, _, _, _, rfl⟩
  | observeFailure =>
    rw [Left, current.answered] at h
    exact absurd h.2 (by decide)
  | requireRevalidation => exact absurd (current.revalidated _ h.2) (lt_irrefl _)

end CacheOp

/-! ## Runs -/

/-- The events of a profile. -/
def eventsOf (profileId : String) (events : List CacheOp) : List CacheOp :=
  events.filter fun op => op.profileId = profileId

/-- One operation, on the cache and the events that it has accepted, the last of them first. -/
def cacheStep (policy : ObservationPolicy) (state : CacheDocument × List CacheOp) (op : CacheOp) :
    CacheDocument × List CacheOp :=
  (((op.run policy).run state.1).2, if op.accepted policy state.1 then op :: state.2 else state.2)

/-- A sequence of operations, beginning with the default document. -/
def cacheRun (policy : ObservationPolicy) (ops : List CacheOp) : CacheDocument × List CacheOp :=
  ops.foldl (cacheStep policy) ({}, [])

/-- The entries of the cache are what the last accepted events of their profiles have left. -/
structure Recorded (policy : ObservationPolicy) (state : CacheDocument × List CacheOp) : Prop where
  distinct : state.1.Distinct
  left : ∀ profileId,
    Option.Rel (CacheOp.Left policy) (eventsOf profileId state.2).head? (state.1.entry profileId)
  ordered : ∀ profileId,
    (eventsOf profileId state.2).Pairwise fun later earlier => earlier.observedAt ≤ later.observedAt

variable {policy : ObservationPolicy} {d : CacheDocument} {events : List CacheOp}

/-- An event that is not out of order is the last one of its profile. -/
theorem Recorded.observedAt_le (h : Recorded policy (d, events)) {profileId : String} {observedAt : ℤ}
    (order : d.isOutOfOrder profileId observedAt = false) :
    ∀ earlier ∈ eventsOf profileId events, earlier.observedAt ≤ observedAt := by
  have left := h.left profileId
  have ordered := h.ordered profileId
  simp only at left ordered
  cases hev : eventsOf profileId events with
  | nil => simp
  | cons last earlier =>
    rw [hev] at left ordered
    obtain ⟨entry, hentry, hlast⟩ : ∃ entry, d.entry profileId = some entry ∧ last.Left policy entry := by
      generalize d.entry profileId = found at left
      cases left with
      | some hlast => exact ⟨_, rfl, hlast⟩
    have hle : last.observedAt ≤ observedAt := by
      simpa [CacheDocument.isOutOfOrder, hentry, hlast.latestEventAt] using order
    refine List.forall_mem_cons.2 ⟨hle, fun op hop => ?_⟩
    exact ((List.pairwise_cons.1 ordered).1 op hop).trans hle

/-- What a step does: the event is dropped, or it comes last and leaves its entry. -/
theorem cacheStep_cases (distinct : d.Distinct) (op : CacheOp) :
    (∃ d', cacheStep policy (d, events) op = (d', events) ∧ d'.entries = d.entries) ∨
      ∃ d' entry, cacheStep policy (d, events) op = (d', op :: events) ∧
        d.isOutOfOrder op.profileId op.observedAt = false ∧ op.Left policy entry ∧
        entry.profileId = op.profileId ∧ d.Placed entry d' := by
  rcases hrun : (op.run policy).run d with ⟨r, d'⟩
  have hd' : ((op.run policy).run d).2 = d' := congrArg Prod.snd hrun
  obtain ⟨rejected, same, -⟩ | ⟨accepted, entry, hentry, hid, placed⟩ :=
    CacheOp.run_merged distinct hrun
  · exact Or.inl ⟨d', by simp [cacheStep, hd', rejected], same⟩
  · refine Or.inr ⟨d', entry, by simp [cacheStep, hd', accepted], ?_, CacheOp.left_of_entry hentry,
      hid, placed⟩
    simp only [CacheOp.accepted, decide_eq_true_eq, Bool.not_eq_true] at accepted
    exact accepted.2.1

theorem eventsOf_cons {op : CacheOp} (profileId : String) : eventsOf profileId (op :: events) =
    if op.profileId = profileId then op :: eventsOf profileId events else eventsOf profileId events := by
  rw [eventsOf, List.filter_cons]
  simp only [decide_eq_true_eq]
  rfl

theorem Recorded.step (h : Recorded policy (d, events)) (op : CacheOp) :
    Recorded policy (cacheStep policy (d, events) op) := by
  have cases := @cacheStep_cases policy d events h.distinct op
  obtain ⟨d', hstep, same⟩ | ⟨d', entry, hstep, order, hleft, hid, placed⟩ := cases
  · rw [hstep]
    have hentry : ∀ profileId, d'.entry profileId = d.entry profileId := fun profileId =>
      congrArg (List.find? _) same
    refine ⟨?_, fun profileId => ?_, h.ordered⟩
    · show CacheDocument.Distinct d'
      rw [CacheDocument.Distinct, same]
      exact h.distinct
    · show Option.Rel _ _ (d'.entry profileId)
      rw [hentry]
      exact h.left profileId
  · rw [hstep]
    refine ⟨placed.distinct, fun profileId => ?_, fun profileId => ?_⟩
    · show Option.Rel _ (eventsOf profileId (op :: events)).head? (d'.entry profileId)
      rw [eventsOf_cons]
      split_ifs with hown
      · subst hown
        rw [← hid, placed.own]
        exact .some hleft
      · rw [placed.others profileId fun heq => hown (hid.symm.trans heq.symm)]
        exact h.left profileId
    · show (eventsOf profileId (op :: events)).Pairwise _
      rw [eventsOf_cons]
      split_ifs with hown
      · subst hown
        exact List.pairwise_cons.2 ⟨h.observedAt_le order, h.ordered _⟩
      · exact h.ordered profileId

theorem recorded (policy : ObservationPolicy) (ops : List CacheOp) :
    Recorded policy (cacheRun policy ops) := by
  have init : Recorded policy ({}, []) := ⟨List.nodup_nil, fun _ => .none, fun _ => .nil⟩
  exact List.foldlRecOn ops (cacheStep policy) init fun state h op _ => h.step op

theorem cacheRun_subset (policy : ObservationPolicy) (ops : List CacheOp) :
    (cacheRun policy ops).2 ⊆ ops := by
  have init : (({}, []) : CacheDocument × List CacheOp).2 ⊆ ops := List.nil_subset ops
  refine List.foldlRecOn (motive := fun state => state.2 ⊆ ops) ops (cacheStep policy) init
    fun state h op hop => ?_
  show (if _ then op :: state.2 else state.2) ⊆ ops
  split_ifs
  · exact List.cons_subset.2 ⟨hop, h⟩
  · exact h

theorem ObservationSource.isAuthoritativeUsage_iff {source : ObservationSource} :
    source.isAuthoritativeUsage = true ↔ source = .activeMonitor ∨ source = .idleRead := by
  cases source <;> decide

/-- The source is one that the store admits for usage observations. -/
def CacheOp.Authoritative : CacheOp → Prop
  | .observeUsage _ source _ _ _ => source.isAuthoritativeUsage
  | .observeFailure .. | .requireRevalidation .. => True

instance : DecidablePred CacheOp.Authoritative
  | .observeUsage _ source _ _ _ => inferInstanceAs (Decidable (source.isAuthoritativeUsage = true))
  | .observeFailure .. | .requireRevalidation .. => .isTrue trivial

/-- The last accepted event of a profile with a fresh view. -/
theorem Recorded.last_of_fresh (h : Recorded policy (d, events)) {profileId : String} {now : ℤ}
    {view : UsageView} (hview : d.view profileId now = some view) (fresh : view.freshness = .fresh) :
    ∃ source codexVersion usage observedAt earlier,
      eventsOf profileId events =
        .observeUsage profileId source codexVersion usage observedAt :: earlier ∧
      view = (usageEntry profileId source codexVersion usage observedAt
        (observedAt + policy.freshTtlSeconds)).view now := by
  obtain ⟨entry, hentry, rfl⟩ := Option.map_eq_some_iff.1 hview
  have left := h.left profileId
  rw [hentry] at left
  simp only at left
  cases hev : eventsOf profileId events with
  | nil =>
    rw [hev] at left
    cases left
  | cons op earlier =>
    rw [hev] at left
    obtain ⟨hleft⟩ := left
    obtain ⟨id, source, codexVersion, usage, observedAt, rfl⟩ :=
      hleft.of_current (CacheEntry.current_of_fresh fresh)
    have hmem : .observeUsage id source codexVersion usage observedAt ∈ eventsOf profileId events := by
      rw [hev]
      exact List.mem_cons_self
    obtain rfl : id = profileId := of_decide_eq_true (List.mem_filter.1 hmem).2
    exact ⟨source, codexVersion, usage, observedAt, earlier, rfl, by rw [hleft]⟩

/-- A fresh view is due to the last accepted event of its profile, which is a usage observation that has
not expired. After a usage-limit signal there is none before a later usage observation. -/
theorem cacheRun_fresh (policy : ObservationPolicy) (ops : List CacheOp) {profileId : String} {now : ℤ}
    {view : UsageView} (hview : (cacheRun policy ops).1.view profileId now = some view)
    (fresh : view.freshness = .fresh) :
    (∃ source codexVersion usage observedAt earlier,
      eventsOf profileId (cacheRun policy ops).2 =
        .observeUsage profileId source codexVersion usage observedAt :: earlier ∧
      (view.availability = .available → classify usage = .available) ∧
      (view.availability = .exhausted → classify usage = .exhausted) ∧
      now < observedAt + policy.freshTtlSeconds ∧ view.source = source ∧
      ((∀ op ∈ ops, op.Authoritative) → source = .activeMonitor ∨ source = .idleRead) ∧
      ∀ op ∈ earlier, op.observedAt ≤ observedAt) ∧
    ∀ later earlier signal,
      (cacheRun policy ops).2 = later ++ .requireRevalidation profileId signal :: earlier →
      ∃ source codexVersion usage observedAt, signal ≤ observedAt ∧
        .observeUsage profileId source codexVersion usage observedAt ∈ later := by
  have h := recorded policy ops
  have hsubset := cacheRun_subset policy ops
  revert hview h hsubset
  rcases cacheRun policy ops with ⟨d, events⟩
  intro hview h hsubset
  obtain ⟨source, codexVersion, usage, observedAt, earlier, hev, rfl⟩ := h.last_of_fresh hview fresh
  have ordered := h.ordered profileId
  rw [hev, List.pairwise_cons] at ordered
  have current := CacheEntry.current_of_fresh fresh
  have hshown := (CacheEntry.view_of_current current).1
  constructor
  · refine ⟨source, codexVersion, usage, observedAt, earlier, hev, fun hv => ?_, fun hv => ?_, ?_, rfl,
      fun authoritative => ?_, ordered.1⟩
    · exact CacheEntry.shown_eq_available.1 (hshown.symm.trans hv)
    · exact CacheEntry.shown_eq_exhausted.1 (hshown.symm.trans hv)
    · exact current.unexpired _ rfl
    · have hmem : .observeUsage profileId source codexVersion usage observedAt ∈
          eventsOf profileId events := by
        rw [hev]
        exact List.mem_cons_self
      exact ObservationSource.isAuthoritativeUsage_iff.1
        (authoritative _ (hsubset (List.mem_filter.1 hmem).1))
  · rintro later before signal rfl
    have hsplit : eventsOf profileId (later ++ .requireRevalidation profileId signal :: before) =
        eventsOf profileId later ++
          .requireRevalidation profileId signal :: eventsOf profileId before := by
      rw [eventsOf, List.filter_append, List.filter_cons_of_pos (by simp [CacheOp.profileId])]
      rfl
    rw [hsplit] at hev
    cases hlater : eventsOf profileId later with
    | nil =>
      rw [hlater] at hev
      cases hev
    | cons last rest =>
      rw [hlater, List.cons_append] at hev
      obtain ⟨rfl, rfl⟩ := List.cons.inj hev
      refine ⟨source, codexVersion, usage, observedAt, ?_, ?_⟩
      · exact ordered.1 _ (List.mem_append_right _ List.mem_cons_self)
      · have hmem : .observeUsage profileId source codexVersion usage observedAt ∈
            eventsOf profileId later := by
          rw [hlater]
          exact List.mem_cons_self
        exact (List.mem_filter.1 hmem).1

/-! ## A run with a source that the store would refuse -/

def sampleProfileId : String := "00000000-0000-4000-8000-000000000001"

/-- A usage with a single window. -/
def sampleObservation (usedPercent : ℕ) (reachedType : Option String) : CodexUsage where
  rateLimits := some {
    limitId := none, limitName := none, planType := none, rateLimitReachedType := reachedType
    primary := some {
      usedPercent, remainingPercent := 100 - usedPercent, windowDurationMins := none, resetsAt := none }
    secondary := none, credits := none, individualLimit := none }
  rateLimitsByLimitId := []
  resetCredits := none

/-- A signal and a later usage observation. -/
def sampleOps : List CacheOp :=
  [.requireRevalidation sampleProfileId 90,
    .observeUsage sampleProfileId .idleRead "0.144.4" (sampleObservation 20 none) 100]

theorem cacheRun_fresh_sample :
    (∃ source codexVersion usage observedAt earlier,
      eventsOf sampleProfileId (cacheRun {} sampleOps).2 =
        .observeUsage sampleProfileId source codexVersion usage observedAt :: earlier ∧
      110 < observedAt + 60 ∧ (source = .activeMonitor ∨ source = .idleRead)) := by
  have h := @cacheRun_fresh {} sampleOps sampleProfileId 110 _ rfl (by decide +kernel)
  obtain ⟨source, codexVersion, usage, observedAt, earlier, hev, -, -, hnow, -, hsource, -⟩ := h.1
  exact ⟨source, codexVersion, usage, observedAt, earlier, hev, hnow, hsource (by decide)⟩

/-- An observation whose source the store refuses. -/
def signalOps : List CacheOp :=
  [.observeUsage sampleProfileId .usageLimitSignal "0.144.4" (sampleObservation 20 none) 100]

/-- A document takes a usage from any source, and its view is as fresh as any. -/
theorem cacheRun_fresh_of_signal :
    (∃ view, (cacheRun {} signalOps).1.view sampleProfileId 110 = some view ∧
      view.freshness = .fresh ∧ view.availability = .available) ∧
    ¬∃ source codexVersion usage observedAt earlier,
      eventsOf sampleProfileId (cacheRun {} signalOps).2 =
        .observeUsage sampleProfileId source codexVersion usage observedAt :: earlier ∧
      (source = .activeMonitor ∨ source = .idleRead) := by
  refine ⟨⟨_, rfl, by decide +kernel⟩, ?_⟩
  rintro ⟨source, codexVersion, usage, observedAt, earlier, hev, hsource⟩
  have hevents : eventsOf sampleProfileId (cacheRun {} signalOps).2 = signalOps := by decide +kernel
  rw [hevents] at hev
  obtain ⟨hop, -⟩ := List.cons.inj hev
  injection hop with _ hsignal
  rw [← hsignal] at hsource
  exact absurd hsource (by decide)

end Calcifer.Usage
