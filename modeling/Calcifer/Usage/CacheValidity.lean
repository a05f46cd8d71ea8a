import Calcifer.Library.Folds
import Calcifer.Usage.Classification
import Calcifer.Usage.Merges

/-!
# Operations keep the cache valid

`CacheDocument.Valid` says what `validate` admits, entry by entry and audit event by audit event. An
operation that succeeds puts a valid entry in its place and logs one event, so that the check after
every mutation never fails.
-/

namespace Calcifer.Usage

open Checks Lists

/-! ## Valid documents -/

theorem validateSome_eq_ok {α : Type} {f : α → Except ObservationError Unit} {o : Option α} :
    validateSome f o = .ok () ↔ ∀ a ∈ o, f a = .ok () := by
  cases o <;> simp [validateSome]

theorem validateTimestamp_eq_ok {value : ℤ} :
    validateTimestamp value = .ok () ↔ 0 ≤ value ∧ value ≤ maxProviderTimestampSeconds := by
  simp only [validateTimestamp, rejectIf_eq_ok, not_or, not_lt]

/-- What is checked on an entry. -/
structure CacheEntry.Valid (entry : CacheEntry) : Prop where
  observed : 0 ≤ entry.observedAt
  event : entry.observedAt ≤ entry.latestEventAt
  refresh : entry.latestEventAt ≤ entry.nextRefreshAt
  bounded : entry.nextRefreshAt ≤ maxProviderTimestampSeconds
  expires : ∀ expiresAt ∈ entry.expiresAt,
    entry.observedAt ≤ expiresAt ∧ expiresAt ≤ maxProviderTimestampSeconds
  required : ∀ requiredAt ∈ entry.revalidationRequiredAt, requiredAt ≤ entry.latestEventAt ∧
    entry.source = .usageLimitSignal ∧ entry.lastFailure = none ∧ entry.nextRefreshAt = requiredAt
  codexVersion : ∀ version ∈ entry.codexVersion, validateVersion version = .ok ()
  adapterVersion : validateVersion entry.adapterVersion = .ok ()
  usage : ∀ usage ∈ entry.usage, validateUsage usage = .ok () ∧ entry.expiresAt ≠ none ∧
    entry.codexVersion ≠ none ∧ entry.compatibility = .compatible
  unread : entry.usage = none → entry.availability ≠ .available ∧ entry.availability ≠ .exhausted
  unsupported : entry.availability = .unsupported →
    entry.lastFailure = some .unsupported ∧ entry.usage = none
  exhausted : entry.availability = .exhausted → ∃ usage ∈ entry.usage, classify usage = .exhausted

theorem validateEntry_iff {entry : CacheEntry} : validateEntry entry = .ok () ↔ entry.Valid := by
  unfold validateEntry
  simp only [check_bind_eq_ok, validateTimestamp_eq_ok, rejectIf_eq_ok, validateSome_eq_ok, not_lt,
    not_or, not_not]
  constructor
  · rintro ⟨⟨observed, -⟩, -, event, ⟨-, bounded⟩, refresh, expires, required, version, adapter, rest⟩
    have expires : ∀ expiresAt ∈ entry.expiresAt,
        entry.observedAt ≤ expiresAt ∧ expiresAt ≤ maxProviderTimestampSeconds :=
      fun expiresAt h => ⟨(expires expiresAt h).2, (expires expiresAt h).1.2⟩
    have required : ∀ requiredAt ∈ entry.revalidationRequiredAt, requiredAt ≤ entry.latestEventAt ∧
        entry.source = .usageLimitSignal ∧ entry.lastFailure = none ∧
          entry.nextRefreshAt = requiredAt := by
      intro requiredAt h
      obtain ⟨-, order, source, failure, refresh⟩ := required requiredAt h
      exact ⟨order, source, by simpa using failure, refresh⟩
    cases hu : entry.usage with
    | none =>
      simp only [hu, check_bind_eq_ok, rejectIf_eq_ok, not_or] at rest
      obtain ⟨unread, unsupported, exhausted⟩ := rest
      exact ⟨observed, event, refresh, bounded, expires, required, version, adapter, by simp [hu],
        fun _ => unread, by simpa [hu] using unsupported, by simpa [hu] using exhausted⟩
    | some usage =>
      simp only [hu, check_bind_eq_ok, rejectIf_eq_ok, not_or, not_not] at rest
      obtain ⟨valid, read, unsupported, exhausted⟩ := rest
      exact ⟨observed, event, refresh, bounded, expires, required, version, adapter,
        by simpa [hu] using ⟨valid, read⟩, by simp [hu], by simpa [hu] using unsupported,
        by simpa [hu] using exhausted⟩
  · intro h
    have observed := h.observed
    have event := h.event
    have refresh := h.refresh
    have bounded := h.bounded
    refine ⟨⟨observed, by omega⟩, ⟨by omega, by omega⟩, event, ⟨by omega, bounded⟩, refresh,
      fun expiresAt he => ?_, fun requiredAt hr => ?_, h.codexVersion, h.adapterVersion, ?_⟩
    · obtain ⟨order, le⟩ := h.expires expiresAt he
      exact ⟨⟨by omega, le⟩, order⟩
    · obtain ⟨order, source, failure, same⟩ := h.required requiredAt hr
      exact ⟨⟨by omega, by omega⟩, order, source, by simp [failure], same⟩
    · have usage := h.usage
      have unread := h.unread
      have unsupported := h.unsupported
      have exhausted := h.exhausted
      cases hu : entry.usage with
      | none =>
        rw [hu] at unread unsupported exhausted
        simp only [check_bind_eq_ok, rejectIf_eq_ok, not_or]
        exact ⟨unread rfl, by simpa using unsupported, by simpa using exhausted⟩
      | some read =>
        rw [hu] at usage unsupported exhausted
        simp only [check_bind_eq_ok, rejectIf_eq_ok, not_or, not_not]
        obtain ⟨valid, rest⟩ := usage read rfl
        exact ⟨valid, rest, by simpa using unsupported, by simpa using exhausted⟩

namespace CacheDocument

/-- What `validate` admits. -/
structure Valid (d : CacheDocument) : Prop where
  schema : d.schemaVersion = cacheSchemaVersion
  fewEntries : d.entries.length ≤ maxEntries
  fewEvents : d.audit.length ≤ maxAuditEvents
  distinct : d.Distinct
  entries : ∀ entry ∈ d.entries, validateProfileId entry.profileId = .ok () ∧ entry.Valid
  events : ∀ event ∈ d.audit, validateProfileId event.profileId = .ok () ∧
    validateTimestamp event.observedAt = .ok ()
  revisions : (d.audit.map (·.revision)).Pairwise (· < ·)
  logged : ∀ event ∈ d.audit, 1 ≤ event.revision ∧ event.revision ≤ d.revision

variable {d d' : CacheDocument}

theorem validate_iff : d.validate = .ok () ↔ d.Valid := by
  simp only [validate, check_bind_eq_ok, rejectIf_eq_ok, forEach_eq_ok, not_or, not_lt, not_not,
    validateEntry_iff, List.any_eq_true, decide_eq_true_eq, not_exists, not_and]
  have increasing : (d.audit.map (·.revision)).Pairwise (· < ·) ↔ ∀ i event, d.audit[i]? = some event →
      0 < i → ¬(d.audit[i - 1]?.any fun previous => event.revision ≤ previous.revision) = true := by
    rw [List.pairwise_map, ← List.isChain_iff_pairwise, isChain_iff_previous]
    simp only [not_lt, not_and]
  constructor
  · rintro ⟨schema, ⟨fewEntries, fewEvents⟩, entries, events⟩
    refine ⟨schema, fewEntries, fewEvents, ?_, fun entry he => ?_, fun event he => ?_,
      increasing.2 fun i event he => (events i event he).2.2.2.2, fun event he => ?_⟩
    · rw [Distinct, ← pairwise_ne_iff_nodup_map, ← forall_take_iff_pairwise]
      exact fun i entry he => (entries i entry he).2.1
    · obtain ⟨i, hi⟩ := List.mem_iff_getElem?.1 he
      exact ⟨(entries i entry hi).1, (entries i entry hi).2.2⟩
    · obtain ⟨i, hi⟩ := List.mem_iff_getElem?.1 he
      exact ⟨(events i event hi).1, (events i event hi).2.1⟩
    · obtain ⟨i, hi⟩ := List.mem_iff_getElem?.1 he
      obtain ⟨-, -, pos, le, -⟩ := events i event hi
      exact ⟨Nat.one_le_iff_ne_zero.2 pos, le⟩
  · intro h
    have distinct := h.distinct
    rw [Distinct, ← pairwise_ne_iff_nodup_map, ← forall_take_iff_pairwise] at distinct
    refine ⟨h.schema, ⟨h.fewEntries, h.fewEvents⟩, fun i entry hi => ?_, fun i event hi => ?_⟩
    · obtain ⟨id, valid⟩ := h.entries entry (List.mem_of_getElem? hi)
      exact ⟨id, distinct i entry hi, valid⟩
    · have hmem := List.mem_of_getElem? hi
      obtain ⟨id, time⟩ := h.events event hmem
      obtain ⟨pos, le⟩ := h.logged event hmem
      exact ⟨id, time, Nat.one_le_iff_ne_zero.1 pos, le, increasing.1 h.revisions i event hi⟩

end CacheDocument

/-! ## Times of a valid policy -/

namespace ObservationPolicy

variable {policy : ObservationPolicy}

theorem validate_eq_ok (h : policy.validate = .ok ()) :
    0 < policy.freshTtlSeconds ∧ 0 < policy.retryBaseSeconds ∧
      policy.retryBaseSeconds ≤ policy.retryMaxSeconds := by
  rw [validate, rejectIf_eq_ok] at h
  omega

theorem expiry_eq_ok {observedAt expiresAt : ℤ} (h : policy.expiry observedAt = .ok expiresAt) :
    expiresAt = observedAt + policy.freshTtlSeconds ∧ expiresAt ≤ maxProviderTimestampSeconds := by
  simp only [expiry, check_bind_eq_ok, rejectIf_eq_ok, not_lt, pure_eq_ok] at h
  exact ⟨h.2.symm, h.2 ▸ h.1⟩

/-- The delay of a retry is positive and bounded whatever the number of failures, and only a time that
the cache cannot hold is refused. -/
theorem retryAt_delay (h : policy.validate = .ok ()) (observedAt : ℤ) (failures : ℕ) :
    ∃ delay, 1 ≤ delay ∧ delay ≤ policy.retryMaxSeconds ∧
      (maxProviderTimestampSeconds < observedAt + delay ∧
          policy.retryAt observedAt failures = .error .invalidInput ∨
        observedAt + delay ≤ maxProviderTimestampSeconds ∧
          policy.retryAt observedAt failures = .ok (observedAt + delay)) := by
  obtain ⟨-, base, le⟩ := validate_eq_ok h
  have multiplier : (1 : ℤ) ≤ 2 ^ min (failures - 1) 30 := one_le_pow₀ (by norm_num)
  have product : (1 : ℤ) ≤ policy.retryBaseSeconds * 2 ^ min (failures - 1) 30 := by nlinarith
  refine ⟨min (min (policy.retryBaseSeconds * 2 ^ min (failures - 1) 30) (2 ^ 63 - 1))
    policy.retryMaxSeconds, ?_, min_le_right _ _, ?_⟩
  · exact le_min (le_min product (by norm_num)) (by omega)
  · by_cases late : maxProviderTimestampSeconds < observedAt +
        min (min (policy.retryBaseSeconds * 2 ^ min (failures - 1) 30) (2 ^ 63 - 1)) policy.retryMaxSeconds
    · exact Or.inl ⟨late, by rw [retryAt, rejectIf, if_pos late]; rfl⟩
    · exact Or.inr ⟨not_lt.1 late, by rw [retryAt, rejectIf, if_neg late]; rfl⟩

theorem retryAt_eq_ok (h : policy.validate = .ok ()) {observedAt nextRefreshAt : ℤ} {failures : ℕ}
    (hretry : policy.retryAt observedAt failures = .ok nextRefreshAt) :
    observedAt < nextRefreshAt ∧ nextRefreshAt ≤ observedAt + policy.retryMaxSeconds ∧
      nextRefreshAt ≤ maxProviderTimestampSeconds := by
  obtain ⟨delay, pos, le, ⟨-, refused⟩ | ⟨bounded, granted⟩⟩ := retryAt_delay h observedAt failures
  · rw [refused] at hretry
    exact absurd hretry (by simp)
  · rw [granted] at hretry
    obtain rfl := Except.ok.inj hretry
    omega

end ObservationPolicy

/-! ## The entries of the operations -/

section

variable {profileId : String} {source : ObservationSource} {observedAt : ℤ}

theorem validateVersion_cargoPkgVersion : validateVersion cargoPkgVersion = .ok () := by
  decide +kernel

theorem usageEntry_valid {codexVersion : String} {usage : CodexUsage} {expiresAt : ℤ}
    (observed : 0 ≤ observedAt) (version : validateVersion codexVersion = .ok ())
    (valid : validateUsage usage = .ok ()) (order : observedAt ≤ expiresAt)
    (bounded : expiresAt ≤ maxProviderTimestampSeconds) :
    (usageEntry profileId source codexVersion usage observedAt expiresAt).Valid where
  observed := observed
  event := le_rfl
  refresh := order
  bounded := bounded
  expires := by simpa [usageEntry] using ⟨order, bounded⟩
  required := by simp [usageEntry]
  codexVersion := by simpa [usageEntry] using version
  adapterVersion := validateVersion_cargoPkgVersion
  usage := by simpa [usageEntry] using valid
  unread := by simp [usageEntry]
  unsupported := by
    intro h
    exact absurd h (classify_ne_unsupported usage)
  exhausted := by simp [usageEntry]

theorem signalEntry_valid {previous : Option CacheEntry} (observed : 0 ≤ observedAt)
    (bounded : observedAt ≤ maxProviderTimestampSeconds) (valid : ∀ entry ∈ previous, entry.Valid) :
    (signalEntry previous profileId observedAt).Valid where
  observed := observed
  event := le_rfl
  refresh := le_rfl
  bounded := bounded
  expires := by simp [signalEntry]
  required := by simp [signalEntry]
  codexVersion := by
    intro version hversion
    obtain ⟨entry, hentry, hversion⟩ := Option.bind_eq_some_iff.1 hversion
    exact (valid entry hentry).codexVersion version hversion
  adapterVersion := validateVersion_cargoPkgVersion
  usage := by simp [signalEntry]
  unread := by simp [signalEntry]
  unsupported := by simp [signalEntry]
  exhausted := by simp [signalEntry]

/-- A failure keeps what was read before it, if anything, and is no earlier. -/
theorem failureEntry_valid {previous : Option CacheEntry} {codexVersion : Option String}
    {compatibility : CodexCompatibilityStatus} {failure : StoredFailure} {nextRefreshAt : ℤ}
    {failures : ℕ} (observed : 0 ≤ observedAt)
    (version : ∀ version ∈ codexVersion, validateVersion version = .ok ())
    (order : observedAt ≤ nextRefreshAt) (bounded : nextRefreshAt ≤ maxProviderTimestampSeconds)
    (valid : ∀ entry ∈ previous, entry.Valid)
    (inOrder : ∀ entry ∈ previous, entry.latestEventAt ≤ observedAt) :
    (failureEntry previous profileId source codexVersion compatibility failure observedAt nextRefreshAt
      failures).Valid := by
  unfold failureEntry
  split
  next entry kept =>
    obtain ⟨hentry, hkept⟩ := Option.filter_eq_some_iff.1 kept
    have h := valid entry hentry
    obtain ⟨hfailure, hread⟩ : failure ≠ .unsupported ∧ entry.usage.isSome = true := by simpa using hkept
    refine ⟨h.observed, ?_, order, bounded, h.expires, by simp, h.codexVersion, h.adapterVersion, h.usage,
      h.unread, fun unsupported => ?_, h.exhausted⟩
    · exact h.event.trans (inOrder entry hentry)
    · rw [(h.unsupported unsupported).2] at hread
      exact absurd hread (by simp)
  next =>
    refine ⟨observed, le_rfl, order, bounded, by simp, by simp, version, validateVersion_cargoPkgVersion,
      by simp, fun _ => ?_, fun unsupported => ?_, fun exhausted => ?_⟩
    all_goals by_cases hfailure : failure = .unsupported
    all_goals simp_all

end

namespace CacheOp

variable {policy : ObservationPolicy} {op : CacheOp} {d d' : CacheDocument} {placed : CacheEntry}

/-- The entry that an operation places is valid when the one before it is. -/
theorem entry_valid (valid : ∀ profileId, ∀ entry ∈ d.entry profileId, entry.Valid)
    (inOrder : d.isOutOfOrder op.profileId op.observedAt = false)
    (h : op.entry policy d = .ok placed) : placed.Valid := by
  have earlier : ∀ entry ∈ d.entry op.profileId, entry.latestEventAt ≤ op.observedAt := by
    intro entry hentry
    by_contra hlt
    have late : d.isOutOfOrder op.profileId op.observedAt = true := by
      rw [CacheDocument.isOutOfOrder, Option.mem_def.1 hentry]
      simpa using hlt
    rw [late] at inOrder
    exact absurd inOrder (by decide)
  cases op with
  | observeUsage profileId source codexVersion usage observedAt =>
    simp only [entry, check_bind_eq_ok, validateTimestamp_eq_ok, bind_eq_ok (α := ℤ), pure_eq_ok] at h
    obtain ⟨-, ⟨observed, -⟩, version, usageValid, hpolicy, expiresAt, hexpiry, rfl⟩ := h
    obtain ⟨ttl, -⟩ := ObservationPolicy.validate_eq_ok hpolicy
    obtain ⟨hexpires, bounded⟩ := ObservationPolicy.expiry_eq_ok hexpiry
    exact usageEntry_valid observed version usageValid (by omega) bounded
  | observeFailure profileId source codexVersion compatibility failure observedAt =>
    simp only [entry, check_bind_eq_ok, validateTimestamp_eq_ok, validateSome_eq_ok,
      bind_eq_ok (α := ℤ), pure_eq_ok] at h
    obtain ⟨-, ⟨observed, -⟩, version, hpolicy, nextRefreshAt, hretry, rfl⟩ := h
    obtain ⟨order, -, bounded⟩ := ObservationPolicy.retryAt_eq_ok hpolicy hretry
    exact failureEntry_valid observed version order.le bounded (valid profileId) earlier
  | requireRevalidation profileId observedAt =>
    simp only [entry, check_bind_eq_ok, validateTimestamp_eq_ok, pure_eq_ok] at h
    obtain ⟨-, ⟨observed, bounded⟩, -, rfl⟩ := h
    exact signalEntry_valid observed bounded (valid profileId)

end CacheOp

/-! ## The audit log -/

/-- `d'` has one more event in its log, of a profile at a time, and the latest of those before it. -/
structure CacheDocument.Logged (d : CacheDocument) (profileId : String) (observedAt : ℤ)
    (d' : CacheDocument) : Prop where
  schema : d'.schemaVersion = d.schemaVersion
  revision : d'.revision = d.revision + 1
  audit : ∃ event : AuditEvent, event.revision = d'.revision ∧ event.profileId = profileId ∧
    event.observedAt = observedAt ∧
    d'.audit = (d.audit ++ [event]).drop ((d.audit ++ [event]).length - maxAuditEvents)

section

variable {policy : ObservationPolicy} {op : CacheOp} {d d' : CacheDocument} {profileId : String}
  {source : ObservationSource} {observedAt : ℤ} {kind : AuditKind}

/-- A check that is passed. -/
theorem check_run_ok {α : Type} {x : Except ObservationError α} {f : α → CacheM Unit}
    (h : (check x >>= f).run d = (.ok (), d')) : ∃ a, x = .ok a ∧ (f a).run d = (.ok (), d') := by
  obtain ⟨e, -, he, -⟩ | passed := check_run h
  · exact absurd he (by simp)
  · exact passed

theorem pushAudit_logged {availability : StoredAvailability}
    (h : (pushAudit profileId source observedAt kind availability).run d = (.ok (), d')) :
    d.Logged profileId observedAt d' := by
  unfold pushAudit at h
  rw [get_run] at h
  obtain ⟨_, -, hset⟩ := check_run_ok h
  let event : AuditEvent := ⟨d.revision + 1, profileId, observedAt, source, kind, availability⟩
  have hd' : d' = { d with
      revision := d.revision + 1
      audit := (d.audit ++ [event]).drop ((d.audit ++ [event]).length - maxAuditEvents) } :=
    (Prod.mk.inj hset).2.symm
  rw [hd']
  exact ⟨rfl, rfl, event, rfl, rfl, rfl, by with_reducible rfl⟩

theorem auditIgnored_logged (h : (auditIgnored profileId source observedAt).run d = (.ok (), d')) :
    d.Logged profileId observedAt d' := by
  unfold auditIgnored at h
  rw [get_run] at h
  exact pushAudit_logged h

/-- Placing an entry leaves the log alone. -/
theorem replaceEntry_log {entry : CacheEntry} (h : (replaceEntry entry).run d = (.ok (), d')) :
    d'.schemaVersion = d.schemaVersion ∧ d'.revision = d.revision ∧ d'.audit = d.audit := by
  unfold replaceEntry at h
  rw [get_run] at h
  cases hold : d.entry entry.profileId with
  | some old =>
    rw [hold] at h
    obtain ⟨-, rfl⟩ := Prod.mk.inj h
    exact ⟨rfl, rfl, rfl⟩
  | none =>
    rw [hold] at h
    obtain ⟨_, -, hset⟩ := check_run_ok h
    obtain ⟨-, rfl⟩ := Prod.mk.inj hset
    exact ⟨rfl, rfl, rfl⟩

theorem accept_logged {entry : CacheEntry}
    (h : (accept entry source observedAt kind).run d = (.ok (), d')) :
    d.Logged entry.profileId observedAt d' := by
  obtain ⟨e, -, he⟩ | ⟨_, d₁, hreplace, hpush⟩ := bind_run h
  · exact absurd he (by simp)
  · obtain ⟨schema, revision, audit⟩ := replaceEntry_log hreplace
    have logged := pushAudit_logged hpush
    refine ⟨logged.schema.trans schema, by rw [logged.revision, revision], ?_⟩
    rw [← audit]
    exact logged.audit

/-- An operation that succeeds has checked its profile and its time, and logs one event. -/
theorem CacheOp.run_logged (h : (op.run policy).run d = (.ok (), d')) :
    validateProfileId op.profileId = .ok () ∧ validateTimestamp op.observedAt = .ok () ∧
      d.Logged op.profileId op.observedAt d' := by
  cases op with
  | observeUsage profileId source codexVersion usage observedAt =>
    simp only [run, Usage.observeUsage] at h
    obtain ⟨_, id, h⟩ := check_run_ok h
    obtain ⟨_, time, h⟩ := check_run_ok h
    obtain ⟨_, -, h⟩ := check_run_ok h
    obtain ⟨_, -, h⟩ := check_run_ok h
    obtain ⟨_, -, h⟩ := check_run_ok h
    rw [get_run] at h
    refine ⟨id, time, ?_⟩
    split_ifs at h
    · exact auditIgnored_logged h
    · obtain ⟨_, -, h⟩ := check_run_ok h
      exact accept_logged h
  | observeFailure profileId source codexVersion compatibility failure observedAt =>
    simp only [run, Usage.observeFailure] at h
    obtain ⟨_, id, h⟩ := check_run_ok h
    obtain ⟨_, time, h⟩ := check_run_ok h
    obtain ⟨_, -, h⟩ := check_run_ok h
    obtain ⟨_, -, h⟩ := check_run_ok h
    rw [get_run] at h
    refine ⟨id, time, ?_⟩
    split_ifs at h
    · exact auditIgnored_logged h
    · obtain ⟨nextRefreshAt, -, h⟩ := check_run_ok h
      have logged := accept_logged h
      rw [profileId_of_failure rfl] at logged
      exact logged
  | requireRevalidation profileId observedAt =>
    simp only [run, Usage.requireRevalidation] at h
    obtain ⟨_, id, h⟩ := check_run_ok h
    obtain ⟨_, time, h⟩ := check_run_ok h
    obtain ⟨_, -, h⟩ := check_run_ok h
    rw [get_run] at h
    refine ⟨id, time, ?_⟩
    split_ifs at h
    · exact auditIgnored_logged h
    · exact accept_logged h

end

/-! ## The law -/

namespace CacheDocument

variable {policy : ObservationPolicy} {op : CacheOp} {d d' : CacheDocument} {placed entry : CacheEntry}

/-- An entry of the document after a placing is the one that was placed or an older one. -/
theorem Placed.mem (h : d.Placed placed d') (hmem : entry ∈ d'.entries) :
    entry = placed ∨ entry ∈ d.entries := by
  have hentry := (entry_eq_some_iff h.distinct).2 ⟨hmem, rfl⟩
  by_cases hid : entry.profileId = placed.profileId
  · rw [hid, h.own] at hentry
    exact Or.inl (Option.some.inj hentry).symm
  · rw [h.others _ hid] at hentry
    exact Or.inr (List.mem_of_find?_eq_some hentry)

/-- A placing makes a document no longer than it has room for. -/
theorem Placed.length_le (h : d.Placed placed d') (room : d.hasRoom placed.profileId = true)
    (few : d.entries.length ≤ maxEntries) : d'.entries.length ≤ maxEntries := by
  have subset : ∀ ids : List String, (∀ other ∈ d.entries, other.profileId ∈ ids) →
      placed.profileId ∈ ids → d'.entries.length ≤ ids.length := by
    intro ids hold hplaced
    rw [← List.length_map (·.profileId)]
    apply (List.Nodup.subperm h.distinct _).length_le
    intro id hid
    obtain ⟨other, hother, rfl⟩ := List.mem_map.1 hid
    obtain rfl | hother := h.mem hother
    · exact hplaced
    · exact hold other hother
  have old : ∀ other ∈ d.entries, other.profileId ∈ d.entries.map (·.profileId) :=
    fun other hother => List.mem_map_of_mem hother
  simp only [hasRoom, decide_eq_true_eq] at room
  obtain stored | room := room
  · obtain ⟨other, hother⟩ := Option.isSome_iff_exists.1 stored
    have hid : other.profileId = placed.profileId := by simpa using List.find?_some hother
    have hle := subset _ old (hid ▸ old other (List.mem_of_find?_eq_some hother))
    rw [List.length_map] at hle
    omega
  · have hle := subset (placed.profileId :: d.entries.map (·.profileId))
      (fun other hother => List.mem_cons_of_mem _ (old other hother)) List.mem_cons_self
    rw [List.length_cons, List.length_map] at hle
    omega

theorem Logged.subset {profileId : String} {observedAt : ℤ} (h : d.Logged profileId observedAt d')
    {event : AuditEvent} (hmem : event ∈ d'.audit) : event ∈ d.audit ∨
      event.revision = d'.revision ∧ event.profileId = profileId ∧ event.observedAt = observedAt := by
  obtain ⟨latest, revision, id, time, audit⟩ := h.audit
  rw [audit] at hmem
  obtain hmem | hmem := List.mem_append.1 (List.mem_of_mem_drop hmem)
  · exact Or.inl hmem
  · obtain rfl := List.mem_singleton.1 hmem
    exact Or.inr ⟨revision, id, time⟩

/-- A new event is later than all that were logged before it. -/
theorem Logged.revisions {profileId : String} {observedAt : ℤ} (h : d.Logged profileId observedAt d')
    (valid : d.Valid) : (d'.audit.map (·.revision)).Pairwise (· < ·) := by
  obtain ⟨latest, revision, -, -, audit⟩ := h.audit
  rw [audit, List.map_drop]
  apply List.Pairwise.drop
  rw [List.map_append, List.pairwise_append]
  refine ⟨valid.revisions, List.pairwise_singleton _ _, ?_⟩
  intro old hold new hnew
  obtain ⟨event, hevent, rfl⟩ := List.mem_map.1 hold
  obtain rfl : new = latest.revision := by simpa using hnew
  have := (valid.logged event hevent).2
  have := h.revision
  omega

/-- An operation that succeeds keeps the document valid. -/
theorem Valid.step (valid : d.Valid) (h : (op.run policy).run d = (.ok (), d')) : d'.Valid := by
  obtain ⟨id, time, logged⟩ := CacheOp.run_logged h
  have entries : d'.entries.length ≤ maxEntries ∧ d'.Distinct ∧
      ∀ entry ∈ d'.entries, validateProfileId entry.profileId = .ok () ∧ entry.Valid := by
    obtain ⟨-, same, -⟩ | ⟨accepted, placed, hentry, hid, hplaced⟩ :=
      CacheOp.run_merged valid.distinct h
    · rw [Distinct, same]
      exact ⟨valid.fewEntries, valid.distinct, valid.entries⟩
    · simp only [CacheOp.accepted, decide_eq_true_eq, Bool.not_eq_true] at accepted
      refine ⟨hplaced.length_le (hid ▸ accepted.2.2) valid.fewEntries, hplaced.distinct, ?_⟩
      intro entry hmem
      obtain rfl | hmem := hplaced.mem hmem
      · have stored : ∀ profileId, ∀ old ∈ d.entry profileId, old.Valid := fun profileId old hold =>
          (valid.entries old (List.mem_of_find?_eq_some hold)).2
        exact ⟨hid ▸ id, CacheOp.entry_valid stored accepted.2.1 hentry⟩
      · exact valid.entries entry hmem
  refine ⟨logged.schema.trans valid.schema, entries.1, ?_, entries.2.1, entries.2.2, ?_,
    logged.revisions valid, ?_⟩
  · obtain ⟨_, -, -, -, audit⟩ := logged.audit
    rw [audit, List.length_drop]
    omega
  · intro event hmem
    obtain hmem | ⟨-, hid, htime⟩ := logged.subset hmem
    · exact valid.events event hmem
    · rw [hid, htime]
      exact ⟨id, time⟩
  · intro event hmem
    have next := logged.revision
    obtain hmem | ⟨revision, -, -⟩ := logged.subset hmem
    · have := valid.logged event hmem
      omega
    · omega

/-- An operation leaves the entries of the other profiles alone. -/
theorem entry_of_ne {r : Except ObservationError Unit} (distinct : d.Distinct)
    (h : (op.run policy).run d = (r, d')) {profileId : String} (hne : profileId ≠ op.profileId) :
    d'.entry profileId = d.entry profileId := by
  obtain ⟨-, same, -⟩ | ⟨-, placed, -, hid, hplaced⟩ := CacheOp.run_merged distinct h
  · exact congrArg (List.find? _) same
  · exact hplaced.others profileId (hid ▸ hne)

end CacheDocument

theorem ObservationStore.viewAfter_run {operation : CacheM Unit} {profileId : String} {observedAt : ℤ}
    {view : UsageView} {stored document : CacheDocument}
    (h : (ObservationStore.viewAfter operation profileId observedAt).run stored = (.ok view, document)) :
    operation.run stored = (.ok (), document) ∧ document.view profileId observedAt = some view := by
  unfold ObservationStore.viewAfter at h
  obtain ⟨e, -, he⟩ | ⟨_, d, hop, hview⟩ := bind_run h
  · exact absurd he (by simp)
  · have hrun : (okOr (d.view profileId observedAt) ObservationError.invalidDocument, d) =
        (.ok view, document) := hview
    obtain ⟨hview, hdocument⟩ := Prod.mk.inj hrun
    rw [← hdocument]
    exact ⟨hop, okOr_eq_ok.1 hview⟩

/-- Under a valid policy an operation on a valid document that succeeds leaves a valid one, in order and
with a bounded log, and the other profiles as they were; so does a transaction before its own check.
A retry comes after its event, within the longest delay. -/
theorem cacheOp_keeps_valid {policy : ObservationPolicy} {d : CacheDocument}
    (hpolicy : policy.validate = .ok ()) (h : d.validate = .ok ()) :
    (∀ op d', (CacheOp.run policy op).run d = (.ok (), d') →
      d'.validate = .ok () ∧
      (∀ entry ∈ d'.entries,
        entry.observedAt ≤ entry.latestEventAt ∧ entry.latestEventAt ≤ entry.nextRefreshAt) ∧
      (d'.entries.map (·.profileId)).Nodup ∧
      (d'.audit.length ≤ 512 ∧ (d'.audit.map (·.revision)).Pairwise (· < ·) ∧
        ∀ event ∈ d'.audit, event.revision ≤ d'.revision) ∧
      ∀ profileId, profileId ≠ op.profileId → d'.entry profileId = d.entry profileId) ∧
    (∀ op profileId observedAt view d',
      (ObservationStore.viewAfter (CacheOp.run policy op) profileId observedAt).run d = (.ok view, d') →
        d'.validate = .ok ()) ∧
    ∀ observedAt failures, ∃ delay, 1 ≤ delay ∧ delay ≤ policy.retryMaxSeconds ∧
      (maxProviderTimestampSeconds < observedAt + delay ∧
          policy.retryAt observedAt failures = .error .invalidInput ∨
        observedAt + delay ≤ maxProviderTimestampSeconds ∧
          policy.retryAt observedAt failures = .ok (observedAt + delay)) := by
  have valid := CacheDocument.validate_iff.1 h
  refine ⟨fun op d' run => ?_, fun op profileId observedAt view d' run => ?_,
    ObservationPolicy.retryAt_delay hpolicy⟩
  · have valid' := valid.step run
    exact ⟨CacheDocument.validate_iff.2 valid', fun entry hentry =>
      ⟨(valid'.entries entry hentry).2.event, (valid'.entries entry hentry).2.refresh⟩,
      valid'.distinct, ⟨valid'.fewEvents, valid'.revisions, fun event hevent =>
        (valid'.logged event hevent).2⟩,
      fun profileId hne => CacheDocument.entry_of_ne valid.distinct run hne⟩
  · exact CacheDocument.validate_iff.2 (valid.step (ObservationStore.viewAfter_run run).1)

/-- A usage limit that is reported for the first time. -/
theorem cacheOp_keeps_valid_sample :
    (((CacheOp.requireRevalidation "11111111-1111-4111-8111-111111111111" 7).run {}).run {}).2.validate =
      .ok () := by
  have hok : (((CacheOp.requireRevalidation "11111111-1111-4111-8111-111111111111" 7).run {}).run {}).1 =
      .ok () := by decide +kernel
  exact ((@cacheOp_keeps_valid {} {} (by decide) (by decide)).1 _ _
    (Prod.ext hok rfl)).1

end Calcifer.Usage
