import Calcifer.Routing.Mutations

/-!
# Who may hand off to whom

`Definitions.Authorizes` is the authority that a document grants: two different members of one trust
domain, under its provider. `authorizeHandoff` looks both up by binary search, which finds the members
of a domain because a valid document keeps them sorted. A pool gets its authority from its domain, and
since no profile is in two domains, no two domains share any.
-/

namespace Calcifer.Routing

open Checks Lists

variable {definitions : Definitions}

/-- Two different profiles are members of a domain of a provider. -/
def Definitions.Authorizes (definitions : Definitions)
    (trustDomainId sourceProfileId targetProfileId : String) (provider : Provider) : Prop :=
  ∃ domain ∈ definitions.trustDomains, domain.id = trustDomainId ∧ domain.provider = provider ∧
    sourceProfileId ≠ targetProfileId ∧ sourceProfileId ∈ domain.profileIds ∧
    targetProfileId ∈ domain.profileIds

namespace Definitions.Valid

variable (valid : definitions.Valid)
include valid

theorem binarySearch_members {domain : TrustDomainDefinition} (h : domain ∈ definitions.trustDomains)
    (id : String) : binarySearch domain.profileIds id = true ↔ id ∈ domain.profileIds :=
  binarySearch_iff (valid.domains domain h).sorted

theorem find?_domain {domain : TrustDomainDefinition} (h : domain ∈ definitions.trustDomains) :
    definitions.trustDomains.find? (·.id = domain.id) = some domain :=
  find?_of_nodup_map (nodup_of_sorted valid.domainsSorted) h

/-- A profile is a member of one domain at most. -/
theorem domain_unique {domain other : TrustDomainDefinition} (h : domain ∈ definitions.trustDomains)
    (h' : other ∈ definitions.trustDomains) {id : String} (member : id ∈ domain.profileIds)
    (member' : id ∈ other.profileIds) : domain.id = other.id := by
  by_contra hne
  have disjoint : definitions.trustDomains.Pairwise fun a b => a.profileIds.Disjoint b.profileIds :=
    (List.nodup_flatMap.1 valid.exclusive).2
  have : Std.Symm fun a b : TrustDomainDefinition => a.profileIds.Disjoint b.profileIds :=
    ⟨fun _ _ hd => hd.symm⟩
  have apart : domain.profileIds.Disjoint other.profileIds := by
    apply disjoint.forall h h'
    rintro rfl
    exact hne rfl
  exact apart member member'

/-- A handoff is authorized exactly when the document grants it. -/
theorem authorizeHandoff_eq_ok {trustDomainId sourceProfileId targetProfileId : String}
    {provider : Provider} {authorization : HandoffAuthorization} :
    definitions.authorizeHandoff trustDomainId sourceProfileId targetProfileId provider =
      .ok authorization ↔
    authorization = ⟨trustDomainId⟩ ∧
      definitions.Authorizes trustDomainId sourceProfileId targetProfileId provider := by
  simp only [authorizeHandoff, check_bind_eq_ok, bind_eq_ok (α := TrustDomainDefinition), okOr_eq_ok,
    rejectIf_eq_ok, not_or, Decidable.not_not, pure_eq_ok]
  constructor
  · rintro ⟨-, -, -, domain, hdomain, ⟨hne, hprovider, hsource, htarget⟩, rfl⟩
    have hmem := List.mem_of_find?_eq_some hdomain
    have hid : domain.id = trustDomainId := by simpa using List.find?_some hdomain
    rw [valid.binarySearch_members hmem] at hsource htarget
    exact ⟨by rw [hid], domain, hmem, hid, hprovider, hne, hsource, htarget⟩
  · rintro ⟨rfl, domain, hmem, rfl, hprovider, hne, hsource, htarget⟩
    have hdomain := valid.domains domain hmem
    refine ⟨hdomain.id, hdomain.members _ hsource, hdomain.members _ htarget, domain,
      valid.find?_domain hmem, ⟨hne, hprovider, ?_, ?_⟩, rfl⟩
    · rwa [valid.binarySearch_members hmem]
    · rwa [valid.binarySearch_members hmem]

end Definitions.Valid

theorem enabledPoolForSource_eq_ok {poolId sourceProfileId : String} {provider : Provider}
    {pool : EnabledPool}
    (h : definitions.enabledPoolForSource poolId sourceProfileId provider = .ok pool) :
    ∃ stored domain, definitions.pools.find? (·.id = poolId) = some stored ∧
      definitions.trustDomains.find? (·.id = stored.trustDomainId) = some domain ∧
      stored.activation = .enabled ∧ domain.provider = provider ∧
      sourceProfileId ∈ stored.profileIds ∧
      pool = ⟨stored.id, stored.aliasName, stored.trustDomainId, domain.aliasName, provider,
        stored.profileIds⟩ := by
  simp only [Definitions.enabledPoolForSource, check_bind_eq_ok, bind_eq_ok (α := PoolDefinition),
    bind_eq_ok (α := TrustDomainDefinition), okOr_eq_ok, rejectIf_eq_ok, not_or, Decidable.not_not,
    pure_eq_ok] at h
  obtain ⟨-, -, stored, hstored, henabled, domain, hdomain, ⟨hprovider, hmem⟩, rfl⟩ := h
  exact ⟨stored, domain, hstored, hdomain, henabled, hprovider, hmem, rfl⟩

/-- An enabled pool is granted what its domain is. -/
theorem Definitions.Valid.pool_authorizes (valid : definitions.Valid)
    {poolId sourceProfileId : String} {provider : Provider} {pool : EnabledPool}
    (h : definitions.enabledPoolForSource poolId sourceProfileId provider = .ok pool)
    {a b : String} (ha : a ∈ pool.profileIds) (hb : b ∈ pool.profileIds) (hne : a ≠ b) :
    definitions.Authorizes pool.trustDomainId a b pool.provider := by
  obtain ⟨stored, domain, hstored, hdomain, -, hprovider, -, rfl⟩ := enabledPoolForSource_eq_ok h
  obtain ⟨domain', hdomain', members⟩ :=
    (valid.pools stored (List.mem_of_find?_eq_some hstored)).domain
  obtain rfl : domain = domain' := Option.some.inj (hdomain.symm.trans hdomain')
  exact ⟨domain, List.mem_of_find?_eq_some hdomain, by simpa using List.find?_some hdomain, hprovider,
    hne, members a ha, members b hb⟩

/-- In a valid document the searches decide membership, a handoff is authorized exactly when the
document grants it, every two members of an enabled pool are authorized in its domain, and profiles of
two domains in none. -/
theorem authorizeHandoff_iff (h : definitions.validate = .ok ()) :
    (∀ domain ∈ definitions.trustDomains, ∀ id,
      binarySearch domain.profileIds id = true ↔ id ∈ domain.profileIds) ∧
    (∀ d s t p authorization, definitions.authorizeHandoff d s t p = .ok authorization ↔
      authorization = ⟨d⟩ ∧ definitions.Authorizes d s t p) ∧
    (∀ poolId source p pool, definitions.enabledPoolForSource poolId source p = .ok pool →
      pool.provider = p ∧ ∀ a ∈ pool.profileIds, ∀ b ∈ pool.profileIds, a ≠ b →
        definitions.authorizeHandoff pool.trustDomainId a b p = .ok ⟨pool.trustDomainId⟩) ∧
    ∀ domain ∈ definitions.trustDomains, ∀ other ∈ definitions.trustDomains, domain.id ≠ other.id →
      ∀ a ∈ domain.profileIds, ∀ b ∈ other.profileIds, ∀ d p authorization,
        definitions.authorizeHandoff d a b p ≠ .ok authorization := by
  have valid := Definitions.validate_iff.1 h
  refine ⟨fun domain hdomain => valid.binarySearch_members hdomain,
    fun d s t p authorization => valid.authorizeHandoff_eq_ok, ?_, ?_⟩
  · intro poolId source p pool hpool
    have hprovider : pool.provider = p := by
      obtain ⟨_, _, _, _, _, _, _, rfl⟩ := enabledPoolForSource_eq_ok hpool
      rfl
    refine ⟨hprovider, fun a ha b hb hne => valid.authorizeHandoff_eq_ok.2 ⟨rfl, ?_⟩⟩
    rw [← hprovider]
    exact valid.pool_authorizes hpool ha hb hne
  · intro domain hdomain other hother hne a ha b hb d p authorization hgranted
    obtain ⟨-, granted, hmem, -, -, -, hsource, htarget⟩ := valid.authorizeHandoff_eq_ok.1 hgranted
    apply hne
    calc domain.id = granted.id := valid.domain_unique hdomain hmem ha hsource
      _ = other.id := valid.domain_unique hmem hother htarget hb

/-- The sample pool of two members. -/
theorem authorizeHandoff_iff_sample :
    (({} : Definitions).run sampleRequests).authorizeHandoff samplePool.trustDomainId
      "22222222-2222-4222-8222-222222222222" "11111111-1111-4111-8111-111111111111" .codex =
        .ok ⟨samplePool.trustDomainId⟩ := by
  have hvalid : (({} : Definitions).run sampleRequests).validate = .ok () := by decide +kernel
  have hpool : (({} : Definitions).run sampleRequests).enabledPoolForSource samplePool.id
      "22222222-2222-4222-8222-222222222222" .codex = .ok ⟨samplePool.id, samplePool.aliasName,
        samplePool.trustDomainId, "work", .codex, samplePool.profileIds⟩ := by decide +kernel
  exact ((authorizeHandoff_iff hvalid).2.2.1 _ _ _ _ hpool).2 _ (by decide) _ (by decide) (by decide)

end Calcifer.Routing
