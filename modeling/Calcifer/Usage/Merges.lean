import Calcifer.Usage.Observations

/-!
# What an event does to the cache

An operation on the document is refused, ignored as out of order, or puts one entry in the place of its
profile's. `CacheOp.run_merged` says so once for the three operations, and the law of the views of a
whole sequence of them follows from the entries that the accepted events leave.
-/

namespace Calcifer.Usage

open Checks Lists

/-! ## Running operations -/

section

variable {α β : Type} {x : CacheM α} {f : α → CacheM β} {d d' : CacheDocument}
  {r : Except ObservationError β}

/-- The first half of a sequence fails, or the second half goes on with the document it left. -/
theorem bind_run (h : (x >>= f).run d = (r, d')) :
    (∃ e, x.run d = (.error e, d') ∧ r = .error e) ∨
      ∃ a d₁, x.run d = (.ok a, d₁) ∧ (f a).run d₁ = (r, d') := by
  have hrun : (x >>= f).run d = ExceptT.bindCont f (x.run d).1 (x.run d).2 := rfl
  rcases hx : x.run d with ⟨e | a, d₁⟩
  · rw [hrun, hx] at h
    obtain ⟨rfl, rfl⟩ := Prod.mk.inj (show (Except.error e, d₁) = (r, d') from h)
    exact Or.inl ⟨e, rfl, rfl⟩
  · rw [hrun, hx] at h
    exact Or.inr ⟨a, d₁, rfl, h⟩

/-- A check fails, or the rest goes on with the same document. -/
theorem check_run {x : Except ObservationError α} (h : (check x >>= f).run d = (r, d')) :
    (∃ e, x = .error e ∧ r = .error e ∧ d' = d) ∨ ∃ a, x = .ok a ∧ (f a).run d = (r, d') := by
  cases x with
  | error e =>
    cases h
    exact Or.inl ⟨e, rfl, rfl, rfl⟩
  | ok a => exact Or.inr ⟨a, rfl, h⟩

theorem get_run {f : CacheDocument → CacheM β} : ((get : CacheM CacheDocument) >>= f).run d = (f d).run d :=
  rfl

end

/-! ## Entries by profile -/

namespace CacheDocument

variable {d d' : CacheDocument} {profileId : String} {entry : CacheEntry}

/-- Every profile has one entry at most. -/
def Distinct (d : CacheDocument) : Prop := (d.entries.map (·.profileId)).Nodup

theorem entry_eq_some_iff (h : d.Distinct) :
    d.entry profileId = some entry ↔ entry ∈ d.entries ∧ entry.profileId = profileId := by
  constructor
  · intro he
    exact ⟨List.mem_of_find?_eq_some he, by simpa using List.find?_some he⟩
  · rintro ⟨hmem, rfl⟩
    cases he : d.entry entry.profileId with
    | none => exact absurd (List.find?_eq_none.1 he entry hmem) (by simp)
    | some other =>
      have hid : other.profileId = entry.profileId := by simpa using List.find?_some he
      exact congrArg some (List.inj_on_of_nodup_map h (List.mem_of_find?_eq_some he) hmem hid)

/-- `d'` is `d` with an entry in the place of its profile's. -/
structure Placed (d : CacheDocument) (entry : CacheEntry) (d' : CacheDocument) : Prop where
  distinct : d'.Distinct
  own : d'.entry entry.profileId = some entry
  others : ∀ profileId, profileId ≠ entry.profileId → d'.entry profileId = d.entry profileId

theorem Placed.congr {d₁ : CacheDocument} (h : Placed d entry d₁) (same : d'.entries = d₁.entries) :
    Placed d entry d' := by
  have hentry : ∀ profileId, d'.entry profileId = d₁.entry profileId := fun profileId =>
    congrArg (List.find? _) same
  refine ⟨?_, (hentry _).trans h.own, fun profileId hne => (hentry _).trans (h.others profileId hne)⟩
  rw [Distinct, same]
  exact h.distinct

theorem placed_of_update {old : CacheEntry} (h : d.Distinct) (hold : d.entry entry.profileId = some old)
    (hd' : d'.entries = updateFirst (fun existing => existing.profileId = entry.profileId)
      (fun _ => entry) d.entries) : Placed d entry d' := by
  obtain ⟨before, after, hsplit, hid, hbefore, hupdate⟩ := exists_split_of_find? hold
  rw [hupdate] at hd'
  have hids : d'.entries.map (·.profileId) = d.entries.map (·.profileId) := by
    rw [hd', hsplit, List.map_append, List.map_append, List.map_cons, List.map_cons,
      of_decide_eq_true hid]
  have distinct : d'.Distinct := by rwa [Distinct, hids]
  refine ⟨distinct, (entry_eq_some_iff distinct).2 ⟨by simp [hd'], rfl⟩, fun profileId hne => ?_⟩
  have hold' : old.profileId ≠ profileId := fun h => hne (h.symm.trans (of_decide_eq_true hid))
  rw [CacheDocument.entry, CacheDocument.entry, hd', hsplit, List.find?_append, List.find?_append,
    List.find?_cons_of_neg (by simpa using hne.symm), List.find?_cons_of_neg (by simpa using hold')]

theorem placed_of_insert (h : d.Distinct) (hnew : d.entry entry.profileId = none)
    (hd' : d'.entries.Perm (entry :: d.entries)) : Placed d entry d' := by
  have fresh : ∀ old ∈ d.entries, old.profileId ≠ entry.profileId := by
    intro old hold
    simpa using List.find?_eq_none.1 hnew old hold
  have distinct : d'.Distinct := by
    have hids : (d'.entries.map (·.profileId)).Perm
        (entry.profileId :: d.entries.map (·.profileId)) := hd'.map _
    refine hids.nodup_iff.2 (List.nodup_cons.2 ⟨?_, h⟩)
    intro hmem
    obtain ⟨old, hold, hid⟩ := List.mem_map.1 hmem
    exact fresh old hold hid
  refine ⟨distinct, (entry_eq_some_iff distinct).2 ⟨hd'.mem_iff.2 List.mem_cons_self, rfl⟩, ?_⟩
  intro profileId hne
  refine Option.ext fun other => ?_
  rw [entry_eq_some_iff distinct, entry_eq_some_iff h, hd'.mem_iff, List.mem_cons]
  constructor
  · rintro ⟨rfl | hmem, rfl⟩
    · exact absurd rfl hne
    · exact ⟨hmem, rfl⟩
  · rintro ⟨hmem, rfl⟩
    exact ⟨Or.inr hmem, rfl⟩

end CacheDocument

section

variable {d d' : CacheDocument} {entry : CacheEntry} {r : Except ObservationError Unit}

/-- The cache has room for an entry of a profile. -/
def CacheDocument.hasRoom (d : CacheDocument) (profileId : String) : Bool :=
  (d.entry profileId).isSome ∨ d.entries.length < maxEntries

theorem replaceEntry_run (h : (replaceEntry entry).run d = (r, d')) :
    (d.hasRoom entry.profileId = false ∧ d' = d ∧ r = .error .limitExceeded) ∨
      d.hasRoom entry.profileId = true ∧ r = .ok () ∧ (d.Distinct → d.Placed entry d') := by
  unfold replaceEntry at h
  rw [get_run] at h
  cases hold : d.entry entry.profileId with
  | some old =>
    rw [hold] at h
    obtain ⟨rfl, rfl⟩ := Prod.mk.inj h
    exact Or.inr ⟨by simp [CacheDocument.hasRoom, hold], rfl,
      fun distinct => CacheDocument.placed_of_update distinct hold rfl⟩
  | none =>
    rw [hold] at h
    obtain ⟨e, he, rfl, rfl⟩ | ⟨_, hroom, hset⟩ := check_run h
    · obtain ⟨full, rfl⟩ := rejectIf_eq_error.1 he
      exact Or.inl ⟨by simpa [CacheDocument.hasRoom, hold] using full, rfl, rfl⟩
    · obtain ⟨rfl, rfl⟩ := Prod.mk.inj hset
      have hroom := rejectIf_eq_ok.1 hroom
      refine Or.inr ⟨by simpa [CacheDocument.hasRoom, hold] using hroom, rfl, fun distinct => ?_⟩
      refine CacheDocument.placed_of_insert distinct hold ?_
      exact (List.perm_insertionSort _ _).trans (List.perm_append_singleton _ _)

/-- The audit log has no influence on the entries. -/
theorem pushAudit_run {profileId : String} {source : ObservationSource} {observedAt : ℤ}
    {kind : AuditKind} {availability : StoredAvailability}
    (h : (pushAudit profileId source observedAt kind availability).run d = (r, d')) :
    d'.entries = d.entries := by
  unfold pushAudit at h
  rw [get_run] at h
  obtain ⟨e, -, -, rfl⟩ | ⟨_, -, hset⟩ := check_run h
  · rfl
  · obtain ⟨-, rfl⟩ := Prod.mk.inj hset
    rfl

theorem auditIgnored_run {profileId : String} {source : ObservationSource} {observedAt : ℤ}
    (h : (auditIgnored profileId source observedAt).run d = (r, d')) : d'.entries = d.entries := by
  unfold auditIgnored at h
  rw [get_run] at h
  exact pushAudit_run h

/-- An entry is put in its place, or there is no room for it. -/
theorem accept_run {source : ObservationSource} {observedAt : ℤ} {kind : AuditKind}
    (h : (accept entry source observedAt kind).run d = (r, d')) :
    (d.hasRoom entry.profileId = false ∧ d' = d ∧ ∃ e, r = .error e) ∨
      d.hasRoom entry.profileId = true ∧ (d.Distinct → d.Placed entry d') := by
  obtain ⟨e, hreplace, rfl⟩ | ⟨_, d₁, hreplace, hpush⟩ := bind_run h
  · obtain ⟨full, rfl, -⟩ | ⟨-, hr, -⟩ := replaceEntry_run hreplace
    · exact Or.inl ⟨full, rfl, e, rfl⟩
    · exact absurd hr (by simp)
  · obtain ⟨-, -, hr⟩ | ⟨room, -, placed⟩ := replaceEntry_run hreplace
    · exact absurd hr (by simp)
    · exact Or.inr ⟨room, fun distinct => (placed distinct).congr (pushAudit_run hpush)⟩

end

/-! ## Operations -/

/-- An operation on the cache with its arguments. -/
inductive CacheOp where
  | observeUsage (profileId : String) (source : ObservationSource) (codexVersion : String)
    (usage : CodexUsage) (observedAt : ℤ)
  | observeFailure (profileId : String) (source : ObservationSource) (codexVersion : Option String)
    (compatibility : CodexCompatibilityStatus) (failure : CodexUsageError) (observedAt : ℤ)
  | requireRevalidation (profileId : String) (observedAt : ℤ)
deriving DecidableEq, Repr

namespace CacheOp

def profileId : CacheOp → String
  | observeUsage profileId .. | observeFailure profileId .. | requireRevalidation profileId _ => profileId

def observedAt : CacheOp → ℤ
  | observeUsage _ _ _ _ observedAt | observeFailure _ _ _ _ _ observedAt
  | requireRevalidation _ observedAt => observedAt

def run (policy : ObservationPolicy) : CacheOp → CacheM Unit
  | observeUsage profileId source codexVersion usage observedAt =>
    Usage.observeUsage profileId source codexVersion usage observedAt policy
  | observeFailure profileId source codexVersion compatibility failure observedAt =>
    Usage.observeFailure profileId source codexVersion compatibility failure observedAt policy
  | requireRevalidation profileId observedAt => Usage.requireRevalidation profileId observedAt policy

/-- The entry that an operation has for its profile, unless one of its checks fails. -/
def entry (policy : ObservationPolicy) (document : CacheDocument) :
    CacheOp → Except ObservationError CacheEntry
  | observeUsage profileId source codexVersion usage observedAt => do
    validateProfileId profileId
    validateTimestamp observedAt
    validateVersion codexVersion
    validateUsage usage
    policy.validate
    let expiresAt ← policy.expiry observedAt
    return usageEntry profileId source codexVersion usage observedAt expiresAt
  | observeFailure profileId source codexVersion compatibility failure observedAt => do
    validateProfileId profileId
    validateTimestamp observedAt
    validateSome validateVersion codexVersion
    policy.validate
    let previous := document.entry profileId
    let failures := (previous.map fun entry => min (entry.consecutiveFailures + 1) 255).getD 1
    let nextRefreshAt ← policy.retryAt observedAt failures
    return failureEntry previous profileId source codexVersion compatibility (.ofError failure)
      observedAt nextRefreshAt failures
  | requireRevalidation profileId observedAt => do
    validateProfileId profileId
    validateTimestamp observedAt
    policy.validate
    return signalEntry (document.entry profileId) profileId observedAt

/-- The operation passes its checks, is not out of order and finds room. -/
def accepted (policy : ObservationPolicy) (document : CacheDocument) (op : CacheOp) : Bool :=
  (op.entry policy document).isOk ∧ ¬document.isOutOfOrder op.profileId op.observedAt ∧
    document.hasRoom op.profileId

variable {policy : ObservationPolicy} {op : CacheOp} {d d' : CacheDocument}

theorem not_accepted_of_error {e : ObservationError} (h : op.entry policy d = .error e) :
    op.accepted policy d = false := by
  simp [accepted, h, Except.isOk, Except.toBool]

theorem not_accepted_of_late (h : d.isOutOfOrder op.profileId op.observedAt = true) :
    op.accepted policy d = false := by
  simp [accepted, h]

/-- What an operation with the result `r` does to the entries. -/
def Merged (policy : ObservationPolicy) (d : CacheDocument) (op : CacheOp)
    (r : Except ObservationError Unit) (d' : CacheDocument) : Prop :=
  (op.accepted policy d = false ∧ d'.entries = d.entries ∧
      (d.isOutOfOrder op.profileId op.observedAt ∨ ∃ e, r = .error e)) ∨
    op.accepted policy d = true ∧ ∃ placed, op.entry policy d = .ok placed ∧
      placed.profileId = op.profileId ∧ d.Placed placed d'

/-- The last step of an operation that is in order. -/
theorem merged_of_accept {placed : CacheEntry} {source : ObservationSource} {observedAt : ℤ}
    {kind : AuditKind} {r : Except ObservationError Unit} (distinct : d.Distinct)
    (hentry : op.entry policy d = .ok placed) (hid : placed.profileId = op.profileId)
    (order : d.isOutOfOrder op.profileId op.observedAt = false)
    (h : (accept placed source observedAt kind).run d = (r, d')) : Merged policy d op r d' := by
  obtain ⟨full, rfl, he⟩ | ⟨room, hplaced⟩ := accept_run h
  · rw [hid] at full
    exact Or.inl ⟨by simp [accepted, full], rfl, Or.inr he⟩
  · rw [hid] at room
    refine Or.inr ⟨?_, placed, hentry, hid, hplaced distinct⟩
    simp [accepted, hentry, order, room, Except.isOk, Except.toBool]

theorem profileId_of_failure {previous : Option CacheEntry} {profileId : String}
    (h : previous = d.entry profileId) {source : ObservationSource} {codexVersion : Option String}
    {compatibility : CodexCompatibilityStatus} {failure : StoredFailure} {observedAt nextRefreshAt : ℤ}
    {failures : ℕ} : (failureEntry previous profileId source codexVersion compatibility failure
      observedAt nextRefreshAt failures).profileId = profileId := by
  unfold failureEntry
  split
  next old hold =>
    rw [h, Option.filter_eq_some_iff] at hold
    simpa using List.find?_some hold.1
  next => rfl

/-- A check of an operation is one of its entry. -/
theorem merged_check {α : Type} {x : Except ObservationError α} {f : α → CacheM Unit}
    {g : α → Except ObservationError CacheEntry} {r : Except ObservationError Unit}
    (hentry : op.entry policy d = x >>= g) (h : (check x >>= f).run d = (r, d'))
    (rest : ∀ a, op.entry policy d = g a → (f a).run d = (r, d') → Merged policy d op r d') :
    Merged policy d op r d' := by
  obtain ⟨e, rfl, rfl, rfl⟩ | ⟨a, rfl, hf⟩ := check_run h
  · exact Or.inl ⟨not_accepted_of_error hentry, rfl, Or.inr ⟨e, rfl⟩⟩
  · exact rest a hentry hf

/-- An event that is out of order is only audited. -/
theorem merged_order {late inOrder : CacheM Unit} {r : Except ObservationError Unit}
    (h : (if d.isOutOfOrder op.profileId op.observedAt then late else inOrder).run d = (r, d'))
    (hlate : late.run d = (r, d') → d'.entries = d.entries)
    (rest : d.isOutOfOrder op.profileId op.observedAt = false → inOrder.run d = (r, d') →
      Merged policy d op r d') : Merged policy d op r d' := by
  split_ifs at h with order
  · exact Or.inl ⟨not_accepted_of_late order, hlate h, Or.inl order⟩
  · exact rest (by simpa using order) h

/-- An operation is refused or ignored, or it puts its entry in the place of the profile's. -/
theorem run_merged {r : Except ObservationError Unit} (distinct : d.Distinct)
    (h : (op.run policy).run d = (r, d')) : Merged policy d op r d' := by
  cases op with
  | observeUsage profileId source codexVersion usage observedAt =>
    simp only [run, Usage.observeUsage] at h
    refine merged_check rfl h fun _ hentry h => ?_
    refine merged_check hentry h fun _ hentry h => ?_
    refine merged_check hentry h fun _ hentry h => ?_
    refine merged_check hentry h fun _ hentry h => ?_
    refine merged_check hentry h fun _ hentry h => ?_
    rw [get_run] at h
    refine merged_order h auditIgnored_run fun order h => ?_
    refine merged_check hentry h fun expiresAt hentry h => ?_
    exact merged_of_accept distinct hentry rfl order h
  | observeFailure profileId source codexVersion compatibility failure observedAt =>
    simp only [run, Usage.observeFailure] at h
    refine merged_check rfl h fun _ hentry h => ?_
    refine merged_check hentry h fun _ hentry h => ?_
    refine merged_check hentry h fun _ hentry h => ?_
    refine merged_check hentry h fun _ hentry h => ?_
    rw [get_run] at h
    refine merged_order h auditIgnored_run fun order h => ?_
    refine merged_check hentry h fun nextRefreshAt hentry h => ?_
    exact merged_of_accept distinct hentry (profileId_of_failure rfl) order h
  | requireRevalidation profileId observedAt =>
    simp only [run, Usage.requireRevalidation] at h
    refine merged_check rfl h fun _ hentry h => ?_
    refine merged_check hentry h fun _ hentry h => ?_
    refine merged_check hentry h fun _ hentry h => ?_
    rw [get_run] at h
    refine merged_order h auditIgnored_run fun order h => ?_
    exact merged_of_accept distinct hentry rfl order h

end CacheOp

end Calcifer.Usage
