import Calcifer.Routing.Valid

/-!
# Runs of mutations

What one mutation does to the pools (`PoolsEdit`), and what a run of any mutations keeps: every document
on the way is valid, its revision counts the changes, and a pool that is enabled keeps its members and
its trust domain.
-/

namespace Calcifer.Routing

open Checks Lists

/-! ## One mutation -/

/-- What a mutation can do to the list of pools. -/
inductive PoolsEdit (pools : List PoolDefinition) : List PoolDefinition → Prop
  | keep : PoolsEdit pools pools
  | add {pools' : List PoolDefinition} (pool : PoolDefinition) (h : pools'.Perm (pools ++ [pool])) :
      PoolsEdit pools pools'
  /-- The members change only while the pool is disabled. -/
  | change {id : String} {pool : PoolDefinition} (f : PoolDefinition → PoolDefinition)
      (found : pools.find? (·.id = id) = some pool)
      (same : (f pool).id = pool.id ∧ (f pool).trustDomainId = pool.trustDomainId)
      (members : pool.activation = .enabled → (f pool).profileIds = pool.profileIds) :
      PoolsEdit pools (updateFirst (·.id = id) f pools)
  | remove {id : String} {pool : PoolDefinition} (found : pools.find? (·.id = id) = some pool)
      (disabled : pool.activation ≠ .enabled) : PoolsEdit pools (pools.eraseP (·.id = id))

/-- What a mutation does besides: the revision is left to `apply`, and nothing changes unless it says
so. -/
structure Edits (definitions : Definitions) (changed : Bool) (next : Definitions) : Prop where
  revision : next.revision = definitions.revision
  unchanged : changed = false → next = definitions
  pools : PoolsEdit definitions.pools next.pools

theorem Edits.none (definitions : Definitions) : Edits definitions false definitions :=
  ⟨rfl, fun _ => rfl, .keep⟩

theorem Edits.of_pools {definitions next : Definitions} (revision : next.revision = definitions.revision)
    (pools : PoolsEdit definitions.pools next.pools) : Edits definitions true next := by
  refine ⟨revision, ?_, pools⟩
  intro h
  cases h

theorem Edits.domains (definitions : Definitions) (trustDomains : List TrustDomainDefinition) :
    Edits definitions true { definitions with trustDomains } :=
  Edits.of_pools rfl (.keep)

namespace Definitions

variable {definitions next : Definitions} {changed : Bool} {id aliasName : String}
  {profileIds : List String}

theorem createDomain_edits {provider : Provider}
    (h : definitions.createDomain id aliasName provider profileIds = .ok (changed, next)) :
    Edits definitions changed next := by
  simp only [createDomain, check_bind_eq_ok, bind_eq_ok (α := List String), pure_eq_ok,
    Prod.mk.injEq] at h
  obtain ⟨-, -, _, -, -, rfl, rfl⟩ := h
  exact Edits.domains definitions _

theorem renameDomain_edits (h : definitions.renameDomain id aliasName = .ok (changed, next)) :
    Edits definitions changed next := by
  simp only [renameDomain, check_bind_eq_ok, bind_eq_ok (α := TrustDomainDefinition)] at h
  obtain ⟨-, -, domain, -, h⟩ := h
  split_ifs at h with same
  · cases h
    exact Edits.none definitions
  · simp only [check_bind_eq_ok, pure_eq_ok, Prod.mk.injEq] at h
    obtain ⟨-, rfl, rfl⟩ := h
    exact Edits.domains definitions _

theorem replaceDomainMembers_edits
    (h : definitions.replaceDomainMembers id profileIds = .ok (changed, next)) :
    Edits definitions changed next := by
  simp only [replaceDomainMembers, check_bind_eq_ok, bind_eq_ok (α := List String),
    bind_eq_ok (α := TrustDomainDefinition)] at h
  obtain ⟨-, members, -, domain, -, h⟩ := h
  split_ifs at h with same
  · cases h
    exact Edits.none definitions
  · cases h
    exact Edits.domains definitions _

theorem removeDomain_edits (h : definitions.removeDomain id = .ok (changed, next)) :
    Edits definitions changed next := by
  simp only [removeDomain, check_bind_eq_ok, bind_eq_ok (α := TrustDomainDefinition), pure_eq_ok,
    Prod.mk.injEq] at h
  obtain ⟨-, _, -, -, rfl, rfl⟩ := h
  exact Edits.domains definitions _

theorem createPool_edits {trustDomainId : String}
    (h : definitions.createPool id aliasName trustDomainId profileIds = .ok (changed, next)) :
    Edits definitions changed next := by
  simp only [createPool, check_bind_eq_ok, bind_eq_ok (α := List String), bind_eq_ok (α := Provider),
    pure_eq_ok, Prod.mk.injEq] at h
  obtain ⟨-, -, -, members, -, provider, -, -, rfl, rfl⟩ := h
  exact Edits.of_pools rfl (.add _ (List.perm_insertionSort _ _))

theorem renamePool_edits (h : definitions.renamePool id aliasName = .ok (changed, next)) :
    Edits definitions changed next := by
  simp only [renamePool, check_bind_eq_ok, bind_eq_ok (α := PoolDefinition), okOr_eq_ok] at h
  obtain ⟨-, -, pool, found, h⟩ := h
  split_ifs at h with same
  · cases h
    exact Edits.none definitions
  · simp only [bind_eq_ok (α := Provider), check_bind_eq_ok, pure_eq_ok, Prod.mk.injEq] at h
    obtain ⟨provider, -, -, rfl, rfl⟩ := h
    exact Edits.of_pools rfl (.change _ found ⟨rfl, rfl⟩ fun _ => rfl)

theorem replacePoolMembers_edits
    (h : definitions.replacePoolMembers id profileIds = .ok (changed, next)) :
    Edits definitions changed next := by
  simp only [replacePoolMembers, check_bind_eq_ok, bind_eq_ok (α := List String),
    bind_eq_ok (α := PoolDefinition), okOr_eq_ok, rejectIf_eq_ok] at h
  obtain ⟨-, members, -, pool, found, disabled, h⟩ := h
  split_ifs at h with same
  · cases h
    exact Edits.none definitions
  · cases h
    exact Edits.of_pools rfl (.change _ found ⟨rfl, rfl⟩ fun enabled => absurd enabled disabled)

theorem setPoolActivation_edits {enabled : Bool}
    (h : definitions.setPoolActivation id enabled = .ok (changed, next)) :
    Edits definitions changed next := by
  simp only [setPoolActivation, check_bind_eq_ok, bind_eq_ok (α := PoolDefinition), okOr_eq_ok] at h
  obtain ⟨-, pool, found, h⟩ := h
  generalize (if enabled = true then Activation.enabled else .disabled) = activation at h
  split_ifs at h with same
  · cases h
    exact Edits.none definitions
  · cases h
    exact Edits.of_pools rfl (.change _ found ⟨rfl, rfl⟩ fun _ => rfl)

theorem removePool_edits (h : definitions.removePool id = .ok (changed, next)) :
    Edits definitions changed next := by
  simp only [removePool, check_bind_eq_ok, bind_eq_ok (α := PoolDefinition), okOr_eq_ok,
    rejectIf_eq_ok, pure_eq_ok, Prod.mk.injEq] at h
  obtain ⟨-, pool, found, disabled, rfl, rfl⟩ := h
  exact Edits.of_pools rfl (.remove found disabled)

/-- What any mutation does. -/
theorem applyMutation_edits {mutation : DefinitionMutation}
    (h : definitions.applyMutation mutation = .ok (changed, next)) :
    Edits definitions changed next := by
  cases mutation with
  | createDomain => exact createDomain_edits h
  | renameDomain => exact renameDomain_edits h
  | replaceDomainMembers => exact replaceDomainMembers_edits h
  | removeDomain => exact removeDomain_edits h
  | createPool => exact createPool_edits h
  | renamePool => exact renamePool_edits h
  | replacePoolMembers => exact replacePoolMembers_edits h
  | setPoolActivation => exact setPoolActivation_edits h
  | removePool => exact removePool_edits h

/-- What `apply` does: nothing, or a change to a valid document with the next revision. -/
theorem apply_eq_ok {revision : ℕ} {mutation : DefinitionMutation} {outcome : MutationOutcome}
    (h : definitions.apply revision mutation = .ok (outcome, next)) :
    definitions.revision = revision ∧ outcome.revision = next.revision ∧
      (outcome.changed = false ∧ next = definitions ∨
        outcome.changed = true ∧ next.Valid ∧ next.revision = definitions.revision + 1 ∧
          PoolsEdit definitions.pools next.pools) := by
  rw [apply, check_bind_eq_ok, rejectIf_eq_ok, not_not, bind_eq_ok] at h
  obtain ⟨hrev, ⟨changed, candidate⟩, hm, h⟩ := h
  have edits := applyMutation_edits hm
  cases changed with
  | false =>
    simp only [check_bind_eq_ok, Bool.false_eq_true, not_false_eq_true, if_true, pure_eq_ok,
      Prod.mk.injEq] at h
    obtain ⟨-, rfl, rfl⟩ := h
    exact ⟨hrev, rfl, Or.inl ⟨rfl, rfl⟩⟩
  | true =>
    simp only [check_bind_eq_ok, not_true_eq_false, if_false, pure_eq_ok, Prod.mk.injEq] at h
    obtain ⟨-, hvalid, rfl, rfl⟩ := h
    refine ⟨hrev, rfl, Or.inr ⟨rfl, validate_iff.1 hvalid, ?_, edits.pools⟩⟩
    show candidate.revision + 1 = _
    rw [edits.revision]

end Definitions

/-! ## Enabled pools -/

/-- The pool that keeps its place, with its members and its trust domain. -/
structure Kept (pool pool' : PoolDefinition) : Prop where
  id : pool'.id = pool.id
  trustDomainId : pool'.trustDomainId = pool.trustDomainId
  profileIds : pool'.profileIds = pool.profileIds

theorem Kept.trans {a b c : PoolDefinition} (h : Kept a b) (h' : Kept b c) : Kept a c :=
  ⟨h'.id.trans h.id, h'.trustDomainId.trans h.trustDomainId, h'.profileIds.trans h.profileIds⟩

/-- No mutation removes an enabled pool or changes its members or its trust domain. -/
theorem PoolsEdit.kept {pools pools' : List PoolDefinition} (edit : PoolsEdit pools pools')
    (sorted : (pools.map (·.id)).Nodup) {pool : PoolDefinition} (hpool : pool ∈ pools)
    (enabled : pool.activation = .enabled) : ∃ pool' ∈ pools', Kept pool pool' := by
  cases edit with
  | keep => exact ⟨pool, hpool, rfl, rfl, rfl⟩
  | add new h => exact ⟨pool, h.mem_iff.2 (List.mem_append_left _ hpool), rfl, rfl, rfl⟩
  | @change id found f hfound same members =>
    obtain ⟨l₁, l₂, rfl, hp, hbefore, hupdate⟩ := exists_split_of_find? hfound
    rw [hupdate]
    by_cases heq : pool = found
    · subst heq
      exact ⟨f pool, by simp, same.1, same.2, members enabled⟩
    · refine ⟨pool, ?_, rfl, rfl, rfl⟩
      simp only [List.mem_append, List.mem_cons, heq, false_or] at hpool ⊢
      exact hpool.imp_right Or.inr
  | @remove id found hfound disabled =>
    have hid : found.id = id := by simpa using List.find?_some hfound
    have hne : ¬pool.id = id := by
      rintro rfl
      have hsame := find?_of_nodup_map sorted hpool
      rw [hsame] at hfound
      cases hfound
      exact disabled enabled
    exact ⟨pool, (List.mem_eraseP_of_neg (by simpa using hne)).2 hpool, rfl, rfl, rfl⟩

/-! ## Runs -/

namespace Definitions

/-- The definitions after a call of `apply`, which are the old ones when it fails. -/
def step (definitions : Definitions) (request : ℕ × DefinitionMutation) : Definitions :=
  match definitions.apply request.1 request.2 with
  | .ok (_, next) => next
  | .error _ => definitions

/-- The definitions after calls of `apply`. -/
def run (definitions : Definitions) (requests : List (ℕ × DefinitionMutation)) : Definitions :=
  requests.foldl step definitions

/-- A call of `apply` reports a change. -/
def Changes (definitions : Definitions) (request : ℕ × DefinitionMutation) : Prop :=
  ∃ outcome next, definitions.apply request.1 request.2 = .ok (outcome, next) ∧ outcome.changed = true

variable {definitions : Definitions} {request : ℕ × DefinitionMutation}
  {requests : List (ℕ × DefinitionMutation)}

theorem step_of_changes (h : definitions.Changes request) :
    (definitions.step request).Valid ∧
      (definitions.step request).revision = definitions.revision + 1 ∧
      PoolsEdit definitions.pools (definitions.step request).pools := by
  obtain ⟨outcome, next, happly, hchanged⟩ := h
  obtain ⟨-, -, ⟨hsame, -⟩ | ⟨-, hnext⟩⟩ := apply_eq_ok happly
  · rw [hsame] at hchanged
    cases hchanged
  · simp only [step, happly]
    exact hnext

theorem step_of_not_changes (h : ¬definitions.Changes request) :
    definitions.step request = definitions := by
  unfold step
  split
  · rename_i outcome next happly
    obtain ⟨-, -, ⟨-, hsame⟩ | ⟨hchanged, -⟩⟩ := apply_eq_ok happly
    · exact hsame
    · exact absurd ⟨outcome, next, happly, hchanged⟩ h
  · rfl

theorem Valid.step (h : definitions.Valid) : (definitions.step request).Valid := by
  by_cases hc : definitions.Changes request
  · exact (step_of_changes hc).1
  · rwa [step_of_not_changes hc]

theorem Valid.run (h : definitions.Valid) : (definitions.run requests).Valid := by
  induction requests generalizing definitions with
  | nil => exact h
  | cons request requests ih => exact ih h.step

theorem run_append {before after : List (ℕ × DefinitionMutation)} :
    definitions.run (before ++ after) = (definitions.run before).run after := List.foldl_append

/-- The definitions of a fresh installation. -/
theorem valid_default : ({} : Definitions).Valid := validate_iff.1 (by decide +kernel)

theorem valid_of_fromJson {fromSlice : List UInt8 → Option Json} {bytes : List UInt8}
    (h : fromJson fromSlice bytes = .ok definitions) : definitions.Valid := by
  simp only [fromJson, check_bind_eq_ok, bind_eq_ok (α := Definitions), pure_eq_ok] at h
  obtain ⟨-, _, -, hvalid, rfl⟩ := h
  exact validate_iff.1 hvalid

/-- The pool is kept by a step that finds it enabled. -/
theorem Valid.step_kept (h : definitions.Valid) {pool : PoolDefinition}
    (hpool : pool ∈ definitions.pools) (enabled : pool.activation = .enabled) :
    ∃ pool' ∈ (definitions.step request).pools, Kept pool pool' := by
  by_cases hc : definitions.Changes request
  · exact (step_of_changes hc).2.2.kept (nodup_of_sorted h.poolsSorted) hpool enabled
  · rw [step_of_not_changes hc]
    exact ⟨pool, hpool, rfl, rfl, rfl⟩

/-- The pool is kept by a run in which no step finds it disabled. -/
theorem Valid.run_kept (h : definitions.Valid) {pool : PoolDefinition}
    (hpool : pool ∈ definitions.pools)
    (stays : ∀ k < requests.length, ∀ other ∈ (definitions.run (requests.take k)).pools,
      other.id = pool.id → other.activation = .enabled) :
    ∃ pool' ∈ (definitions.run requests).pools, Kept pool pool' := by
  induction requests generalizing definitions pool with
  | nil => exact ⟨pool, hpool, rfl, rfl, rfl⟩
  | cons request requests ih =>
    have enabled := stays 0 (by simp) pool hpool rfl
    obtain ⟨pool₁, hpool₁, kept⟩ := @Valid.step_kept definitions request h pool hpool enabled
    obtain ⟨pool', hpool', kept'⟩ := ih h.step hpool₁ fun k hk other hother hid =>
      stays (k + 1) (by simpa using hk) other hother (hid.trans kept.id)
    exact ⟨pool', hpool', kept.trans kept'⟩

theorem Valid.pool_domain (h : definitions.Valid) {pool : PoolDefinition}
    (hpool : pool ∈ definitions.pools) : ∃ domain ∈ definitions.trustDomains,
      domain.id = pool.trustDomainId ∧ ∀ id ∈ pool.profileIds, id ∈ domain.profileIds := by
  obtain ⟨domain, hfind, hmembers⟩ := (h.pools pool hpool).domain
  exact ⟨domain, List.mem_of_find?_eq_some hfind, by simpa using List.find?_some hfind, hmembers⟩

end Definitions

/-! ## What holds in every document -/

/-- The rules that tie domains, pools and profiles together. -/
structure Coherent (definitions : Definitions) : Prop where
  ids : (definitions.trustDomains.map (·.id) ++ definitions.pools.map (·.id)).Nodup
  domainsSorted : (definitions.trustDomains.map (·.id)).Pairwise (· < ·)
  poolsSorted : (definitions.pools.map (·.id)).Pairwise (· < ·)
  exclusive : ∀ a ∈ definitions.trustDomains, ∀ b ∈ definitions.trustDomains,
    ∀ id ∈ a.profileIds, id ∈ b.profileIds → a = b
  members : ∀ pool ∈ definitions.pools, 2 ≤ pool.profileIds.length ∧ pool.profileIds.Nodup ∧
    ∃ domain ∈ definitions.trustDomains, domain.id = pool.trustDomainId ∧
      ∀ id ∈ pool.profileIds, id ∈ domain.profileIds
  domainAliases : ∀ a ∈ definitions.trustDomains, ∀ b ∈ definitions.trustDomains,
    a.provider = b.provider → a.aliasName = b.aliasName → a = b
  poolAliases : ∀ a ∈ definitions.pools, ∀ b ∈ definitions.pools,
    definitions.domainProvider a.trustDomainId = definitions.domainProvider b.trustDomainId →
      a.aliasName = b.aliasName → a = b

instance symm_domainsApart : Std.Symm DomainsApart :=
  ⟨fun _ _ h hsame => h ⟨hsame.1.symm, hsame.2.symm⟩⟩

instance symm_poolsApart (definitions : Definitions) : Std.Symm (PoolsApart definitions) :=
  ⟨fun _ _ h hsame => h ⟨hsame.1.symm, hsame.2.symm⟩⟩

theorem Definitions.Valid.coherent {definitions : Definitions} (h : definitions.Valid) :
    Coherent definitions where
  ids := by
    refine List.nodup_append.2 ⟨nodup_of_sorted h.domainsSorted, nodup_of_sorted h.poolsSorted, ?_⟩
    intro a ha b hb
    obtain ⟨domain, hdomain, rfl⟩ := List.mem_map.1 ha
    obtain ⟨pool, hpool, rfl⟩ := List.mem_map.1 hb
    exact h.kinds domain hdomain pool hpool
  domainsSorted := h.domainsSorted
  poolsSorted := h.poolsSorted
  exclusive := by
    intro a ha b hb id hida hidb
    by_contra hne
    have : Std.Symm (Function.onFun List.Disjoint fun d : TrustDomainDefinition => d.profileIds) :=
      ⟨fun _ _ h => h.symm⟩
    have hdisjoint := (List.nodup_flatMap.1 h.exclusive).2.forall ha hb hne
    exact hdisjoint hida hidb
  members := by
    intro pool hpool
    have valid := h.pools pool hpool
    exact ⟨valid.many, valid.nodup, h.pool_domain hpool⟩
  domainAliases := by
    intro a ha b hb hprovider halias
    by_contra hne
    exact h.domainsApart.forall ha hb hne ⟨hprovider, halias⟩
  poolAliases := by
    intro a ha b hb hprovider halias
    by_contra hne
    exact h.poolsApart.forall ha hb hne ⟨halias, hprovider⟩

/-- Whatever mutations are applied, every document on the way is coherent, its revision counts the
changes, and while a pool stays enabled its members and its trust domain stay as they are. -/
theorem mutations_keep_definitions (fromSlice : List UInt8 → Option Json) {start : Definitions}
    (hstart : start = {} ∨ ∃ bytes, Definitions.fromJson fromSlice bytes = .ok start)
    (requests : List (ℕ × DefinitionMutation)) :
    Coherent (start.run requests) ∧
    (∀ request,
      ((start.run requests).Changes request →
        ((start.run requests).step request).revision = (start.run requests).revision + 1) ∧
      (¬(start.run requests).Changes request →
        (start.run requests).step request = start.run requests)) ∧
    ∀ before during, requests = before ++ during →
      ∀ pool ∈ (start.run before).pools, pool.activation = .enabled →
        (∀ k < during.length, ∀ other ∈ (start.run (before ++ during.take k)).pools,
          other.id = pool.id → other.activation = .enabled) →
        ∃ pool' ∈ (start.run requests).pools, Kept pool pool' ∧
          ∃ domain ∈ (start.run requests).trustDomains, domain.id = pool.trustDomainId ∧
            ∀ id ∈ pool.profileIds, id ∈ domain.profileIds := by
  have hvalid : start.Valid := by
    obtain rfl | ⟨bytes, h⟩ := hstart
    · exact Definitions.valid_default
    · exact Definitions.valid_of_fromJson h
  refine ⟨hvalid.run.coherent, fun request => ⟨fun h => (Definitions.step_of_changes h).2.1,
    Definitions.step_of_not_changes⟩, ?_⟩
  rintro before during rfl pool hpool - stays
  simp only [Definitions.run_append] at stays ⊢
  obtain ⟨pool', hpool', kept⟩ := (@Definitions.Valid.run start before hvalid).run_kept hpool stays
  refine ⟨pool', hpool', kept, ?_⟩
  obtain ⟨domain, hdomain, hid, hmembers⟩ :=
    (@Definitions.Valid.run start before hvalid).run.pool_domain hpool'
  exact ⟨domain, hdomain, hid.trans kept.trustDomainId, fun id h => hmembers id (kept.profileIds ▸ h)⟩

/-- Make a domain of three profiles and a pool of two of them, and enable the pool. -/
def sampleRequests : List (ℕ × DefinitionMutation) :=
  [(0, .createDomain "aaaaaaaa-aaaa-4aaa-8aaa-aaaaaaaaaaaa" "work" .codex
      ["33333333-3333-4333-8333-333333333333", "11111111-1111-4111-8111-111111111111",
        "22222222-2222-4222-8222-222222222222"]),
    (1, .createPool "bbbbbbbb-bbbb-4bbb-8bbb-bbbbbbbbbbbb" "daily" "aaaaaaaa-aaaa-4aaa-8aaa-aaaaaaaaaaaa"
      ["22222222-2222-4222-8222-222222222222", "11111111-1111-4111-8111-111111111111"]),
    (2, .setPoolActivation "bbbbbbbb-bbbb-4bbb-8bbb-bbbbbbbbbbbb" true)]

/-- The pool of the sample requests. -/
def samplePool : PoolDefinition where
  id := "bbbbbbbb-bbbb-4bbb-8bbb-bbbbbbbbbbbb"
  aliasName := "daily"
  trustDomainId := "aaaaaaaa-aaaa-4aaa-8aaa-aaaaaaaaaaaa"
  activation := .enabled
  profileIds := ["22222222-2222-4222-8222-222222222222", "11111111-1111-4111-8111-111111111111"]

/-- Try to remove the pool, and to take a member from its domain. -/
def sampleRemovals : List (ℕ × DefinitionMutation) :=
  [(3, .removePool "bbbbbbbb-bbbb-4bbb-8bbb-bbbbbbbbbbbb"),
    (3, .replaceDomainMembers "aaaaaaaa-aaaa-4aaa-8aaa-aaaaaaaaaaaa"
      ["22222222-2222-4222-8222-222222222222"])]

/-- The enabled pool of the sample outlives both. -/
theorem mutations_keep_samplePool :
    ∃ pool' ∈ (({} : Definitions).run (sampleRequests ++ sampleRemovals)).pools,
      Kept samplePool pool' := by
  have hpool : samplePool ∈ (({} : Definitions).run sampleRequests).pools := by decide +kernel
  have stays : ∀ k < sampleRemovals.length, ∀ other ∈
      (({} : Definitions).run (sampleRequests ++ sampleRemovals.take k)).pools,
      other.id = samplePool.id → other.activation = .enabled := by decide +kernel
  obtain ⟨pool', hpool', kept, -⟩ := (mutations_keep_definitions (fun _ => none) (Or.inl rfl)
    _).2.2 sampleRequests sampleRemovals rfl samplePool hpool rfl stays
  exact ⟨pool', hpool', kept⟩

end Calcifer.Routing
