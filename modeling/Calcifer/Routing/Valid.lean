import Calcifer.Library.Folds
import Calcifer.Routing.Definitions

/-!
# Valid definitions

What `Definitions.validate` admits, as one property, `Definitions.Valid`. The loops of `validate`
carry a `Tally`; after some domains and pools it is `tallyOf` of them, and `validate_iff` puts the
loops together.
-/

namespace Calcifer.Routing

open Checks Lists

/-! ## The checks -/

theorem insertNew_eq_ok {seen s : List String} {entry : String} {e : DefinitionError} :
    insertNew seen entry e = .ok s ↔ entry ∉ seen ∧ s = entry :: seen := by
  rw [insertNew, check_bind_eq_ok, rejectIf_eq_ok, pure_eq_ok, eq_comm (a := s)]

theorem strictlySortedStrings_iff {values : List String} :
    strictlySortedStrings values = true ↔ values.Pairwise (· < ·) := by
  rw [strictlySortedStrings, decide_eq_true_iff, List.isChain_iff_pairwise]

/-- Sorting a list of distinct ids. -/
theorem canonicalMemberSet_eq_ok {profileIds sorted : List String} {maximum : ℕ} :
    canonicalMemberSet profileIds maximum = .ok sorted ↔
      profileIds.length ≤ maximum ∧ (∀ id ∈ profileIds, validateUuid id = .ok ()) ∧
        sorted = profileIds.insertionSort (· ≤ ·) ∧ sorted.Pairwise (· < ·) := by
  simp only [canonicalMemberSet, check_bind_eq_ok, rejectIf_eq_ok, forEach_const_eq_ok, pure_eq_ok,
    not_not, strictlySortedStrings_iff, not_lt]
  constructor
  · rintro ⟨hlen, hids, hsorted, rfl⟩
    exact ⟨hlen, hids, rfl, hsorted⟩
  · rintro ⟨hlen, hids, rfl, hsorted⟩
    exact ⟨hlen, hids, hsorted, rfl⟩

theorem orderedPoolMembers_eq_ok {profileIds members : List String} :
    orderedPoolMembers profileIds = .ok members ↔
      members = profileIds ∧ 2 ≤ profileIds.length ∧ profileIds.length ≤ maxPoolProfileIds ∧
        profileIds.Nodup ∧ ∀ id ∈ profileIds, validateUuid id = .ok () := by
  have hloop : ∀ seen entry s, (do
      validateUuid entry
      insertNew seen entry .invalidMembership) = Except.ok s ↔
        validateUuid entry = .ok () ∧ entry ∉ seen ∧ s = entry :: seen := by
    intro seen entry s
    rw [check_bind_eq_ok, insertNew_eq_ok]
  simp only [orderedPoolMembers, check_bind_eq_ok, rejectIf_eq_ok, not_lt, bind_eq_ok (α := List String),
    foldlM_collect hloop, pure_eq_ok]
  constructor
  · rintro ⟨hfew, hmany, _, ⟨hids, hnodup, -⟩, rfl⟩
    exact ⟨rfl, hmany, hfew, hnodup, hids⟩
  · rintro ⟨rfl, hmany, hfew, hnodup, hids⟩
    exact ⟨hfew, hmany, _, ⟨hids, hnodup, by simp, rfl⟩, rfl⟩

theorem Definitions.domainProvider_eq_ok {definitions : Definitions} {id : String}
    {provider : Provider} :
    definitions.domainProvider id = .ok provider ↔
      ∃ domain, definitions.trustDomains.find? (·.id = id) = some domain ∧
        domain.provider = provider := by
  rw [domainProvider, okOr_eq_ok, Option.map_eq_some_iff]

/-! ## Valid domains and pools -/

/-- What is checked on a domain by itself. -/
structure DomainValid (domain : TrustDomainDefinition) : Prop where
  id : validateUuid domain.id = .ok ()
  aliasName : validateDefinitionAlias domain.aliasName = .ok ()
  few : domain.profileIds.length ≤ maxDomainProfileIds
  sorted : domain.profileIds.Pairwise (· < ·)
  members : ∀ id ∈ domain.profileIds, validateUuid id = .ok ()

/-- What is checked on a pool and its domain. -/
structure PoolValid (definitions : Definitions) (pool : PoolDefinition) : Prop where
  id : validateUuid pool.id = .ok ()
  aliasName : validateDefinitionAlias pool.aliasName = .ok ()
  trustDomainId : validateUuid pool.trustDomainId = .ok ()
  few : pool.profileIds.length ≤ maxPoolProfileIds
  many : 2 ≤ pool.profileIds.length
  nodup : pool.profileIds.Nodup
  members : ∀ id ∈ pool.profileIds, validateUuid id = .ok ()
  domain : ∃ domain, definitions.trustDomains.find? (·.id = pool.trustDomainId) = some domain ∧
    ∀ id ∈ pool.profileIds, id ∈ domain.profileIds

/-- Two domains that do not share an alias under one provider. -/
def DomainsApart (a b : TrustDomainDefinition) : Prop :=
  ¬(a.provider = b.provider ∧ a.aliasName = b.aliasName)

/-- Two pools that do not share an alias under one provider. -/
def PoolsApart (definitions : Definitions) (a b : PoolDefinition) : Prop :=
  ¬(a.aliasName = b.aliasName ∧
    definitions.domainProvider a.trustDomainId = definitions.domainProvider b.trustDomainId)

namespace Definitions

/-- The number of memberships in domains and pools. -/
def membershipEdges (definitions : Definitions) : ℕ :=
  (definitions.trustDomains.map (·.profileIds.length)).sum +
    (definitions.pools.map (·.profileIds.length)).sum

/-- What `validate` admits. -/
structure Valid (definitions : Definitions) : Prop where
  schema : definitions.schemaVersion = Routing.schemaVersion
  fewDomains : definitions.trustDomains.length ≤ maxTrustDomains
  fewPools : definitions.pools.length ≤ maxPools
  domainsSorted : (definitions.trustDomains.map (·.id)).Pairwise (· < ·)
  poolsSorted : (definitions.pools.map (·.id)).Pairwise (· < ·)
  kinds : ∀ domain ∈ definitions.trustDomains, ∀ pool ∈ definitions.pools, domain.id ≠ pool.id
  domains : ∀ domain ∈ definitions.trustDomains, DomainValid domain
  domainsApart : definitions.trustDomains.Pairwise DomainsApart
  exclusive : (definitions.trustDomains.flatMap (·.profileIds)).Nodup
  pools : ∀ pool ∈ definitions.pools, PoolValid definitions pool
  poolsApart : definitions.pools.Pairwise (PoolsApart definitions)
  edges : definitions.membershipEdges ≤ maxMembershipEdges
  size : definitions.serializeDocument.length ≤ maxSerializedBytes

variable {definitions : Definitions}

/-- The tally after some domains and pools. -/
def tallyOf (domains : List TrustDomainDefinition) (pools : List PoolDefinition) : Tally where
  definitionIds := (pools.map (·.id)).reverse ++ (domains.map (·.id)).reverse
  assignedProfiles := (domains.flatMap (·.profileIds)).reverse
  membershipEdges := (domains.map (·.profileIds.length)).sum + (pools.map (·.profileIds.length)).sum

theorem validateDomain_eq_ok {before : List TrustDomainDefinition} {tally : Tally}
    {domain : TrustDomainDefinition} {index : ℕ} :
    definitions.validateDomain (tallyOf before []) domain index = .ok tally ↔
      (DomainValid domain ∧
        (∀ previous ∈ definitions.trustDomains.take index, DomainsApart previous domain) ∧
        (∀ previous ∈ before, previous.id ≠ domain.id) ∧ domain.profileIds.Nodup ∧
        ∀ previous ∈ before, previous.profileIds.Disjoint domain.profileIds) ∧
      tally = tallyOf (before ++ [domain]) [] := by
  have hloop : ∀ seen entry s, (do
      validateUuid entry
      insertNew seen entry .exclusiveMembership) = Except.ok s ↔
        validateUuid entry = .ok () ∧ entry ∉ seen ∧ s = entry :: seen := by
    intro seen entry s
    rw [check_bind_eq_ok, insertNew_eq_ok]
  have hids : domain.id ∉ (tallyOf before []).definitionIds ↔
      ∀ previous ∈ before, previous.id ≠ domain.id := by
    simp [tallyOf]
  have hprofiles : (∀ id ∈ domain.profileIds, id ∉ (tallyOf before []).assignedProfiles) ↔
      ∀ previous ∈ before, previous.profileIds.Disjoint domain.profileIds := by
    simp only [tallyOf, List.mem_reverse, List.mem_flatMap, not_exists, not_and]
    exact ⟨fun h a ha id hid hd => h id hd a ha hid, fun h id hid a ha hm => h a ha hm hid⟩
  have htally : tallyOf (before ++ [domain]) [] = ⟨domain.id :: (tallyOf before []).definitionIds,
      domain.profileIds.reverse ++ (tallyOf before []).assignedProfiles,
      (tallyOf before []).membershipEdges + domain.profileIds.length⟩ := by
    simp [tallyOf]
  rw [htally]
  simp only [validateDomain, check_bind_eq_ok, rejectIf_eq_ok, not_lt, bind_eq_ok (α := List String),
    insertNew_eq_ok, foldlM_collect hloop, pure_eq_ok, not_not, strictlySortedStrings_iff,
    List.any_eq_true, decide_eq_true_eq, not_exists, not_and]
  constructor
  · rintro ⟨hid, _, ⟨hnew, rfl⟩, halias, hfew, hsorted, hapart, _, ⟨hmembers, hnodup, hnews, rfl⟩, rfl⟩
    exact ⟨⟨⟨hid, halias, hfew, hsorted, hmembers⟩, fun a ha same => hapart a ha same.1 same.2,
      hids.1 hnew, hnodup, hprofiles.1 hnews⟩, rfl⟩
  · rintro ⟨⟨⟨hid, halias, hfew, hsorted, hmembers⟩, hapart, hnew, hnodup, hnews⟩, rfl⟩
    exact ⟨hid, _, ⟨hids.2 hnew, rfl⟩, halias, hfew, hsorted, fun a ha hp hn => hapart a ha ⟨hp, hn⟩, _,
      ⟨hmembers, hnodup, hprofiles.2 hnews, rfl⟩, rfl⟩

theorem validatePool_eq_ok {domains : List TrustDomainDefinition} {before : List PoolDefinition}
    {tally : Tally} {pool : PoolDefinition} {index : ℕ}
    (sorted : ∀ domain ∈ definitions.trustDomains, domain.profileIds.Pairwise (· < ·)) :
    definitions.validatePool (tallyOf domains before) pool index = .ok tally ↔
      (PoolValid definitions pool ∧
        (∀ previous ∈ definitions.pools.take index, PoolsApart definitions previous pool) ∧
        (∀ domain ∈ domains, domain.id ≠ pool.id) ∧ ∀ previous ∈ before, previous.id ≠ pool.id) ∧
      tally = tallyOf domains (before ++ [pool]) := by
  have hloop : ∀ domain ∈ definitions.trustDomains, ∀ seen entry s, (do
      validateUuid entry
      let seen ← insertNew seen entry .invalidMembership
      rejectIf (¬binarySearch domain.profileIds entry) .invalidMembership
      return seen) = Except.ok s ↔
        (validateUuid entry = .ok () ∧ entry ∈ domain.profileIds) ∧ entry ∉ seen ∧
          s = entry :: seen := by
    intro domain hdomain seen entry s
    simp only [check_bind_eq_ok, bind_eq_ok (α := List String), insertNew_eq_ok, rejectIf_eq_ok,
      not_not, binarySearch_iff (sorted domain hdomain), pure_eq_ok]
    constructor
    · rintro ⟨hid, _, ⟨hnew, rfl⟩, hmem, rfl⟩
      exact ⟨⟨hid, hmem⟩, hnew, rfl⟩
    · rintro ⟨⟨hid, hmem⟩, hnew, rfl⟩
      exact ⟨hid, _, ⟨hnew, rfl⟩, hmem, rfl⟩
  have hids : pool.id ∉ (tallyOf domains before).definitionIds ↔
      (∀ domain ∈ domains, domain.id ≠ pool.id) ∧ ∀ previous ∈ before, previous.id ≠ pool.id := by
    simp only [tallyOf, List.mem_append, List.mem_reverse, List.mem_map, not_or, not_exists, not_and]
    exact and_comm
  have htally : tallyOf domains (before ++ [pool]) = { tallyOf domains before with
      definitionIds := pool.id :: (tallyOf domains before).definitionIds
      membershipEdges := (tallyOf domains before).membershipEdges + pool.profileIds.length } := by
    simp [tallyOf, Nat.add_assoc]
  have hapart : ∀ domain, definitions.trustDomains.find? (·.id = pool.trustDomainId) = some domain →
      ((∀ previous ∈ definitions.pools.take index,
          ¬definitions.namesPool previous pool.aliasName domain.provider = true) ↔
        ∀ previous ∈ definitions.pools.take index, PoolsApart definitions previous pool) := by
    intro domain hdomain
    have hprovider : definitions.domainProvider pool.trustDomainId = .ok domain.provider :=
      domainProvider_eq_ok.2 ⟨domain, hdomain, rfl⟩
    simp only [namesPool, PoolsApart, hprovider, decide_eq_true_eq]
  rw [htally]
  simp only [validatePool, check_bind_eq_ok, rejectIf_eq_ok, not_lt, bind_eq_ok (α := List String),
    bind_eq_ok (α := TrustDomainDefinition), okOr_eq_ok, insertNew_eq_ok, pure_eq_ok, List.any_eq_true,
    not_exists, not_and]
  constructor
  · rintro ⟨hid, _, ⟨hnew, rfl⟩, halias, htrust, hfew, hmany, domain, hdomain, hnames, _, hfold, rfl⟩
    obtain ⟨hmembers, hnodup, -, -⟩ :=
      (foldlM_collect (hloop domain (List.mem_of_find?_eq_some hdomain))).1 hfold
    exact ⟨⟨⟨hid, halias, htrust, hfew, hmany, hnodup, fun id h => (hmembers id h).1, domain, hdomain,
      fun id h => (hmembers id h).2⟩, (hapart domain hdomain).1 hnames, hids.1 hnew⟩, rfl⟩
  · rintro ⟨⟨⟨hid, halias, htrust, hfew, hmany, hnodup, hmembers, domain, hdomain, hin⟩, hnames, hnew⟩,
      rfl⟩
    exact ⟨hid, _, ⟨hids.2 hnew, rfl⟩, halias, htrust, hfew, hmany, domain, hdomain,
      (hapart domain hdomain).2 hnames, _, (foldlM_collect (hloop domain
        (List.mem_of_find?_eq_some hdomain))).2 ⟨fun id h => ⟨hmembers id h, hin id h⟩, hnodup, by simp,
          rfl⟩, rfl⟩

/-- The loop over the domains. -/
theorem foldDomains_eq_ok {tally : Tally} :
    definitions.trustDomains.zipIdx.foldlM
        (fun tally (domain, index) => definitions.validateDomain tally domain index) {} = .ok tally ↔
      ((∀ domain ∈ definitions.trustDomains, DomainValid domain) ∧
        definitions.trustDomains.Pairwise DomainsApart ∧
        (definitions.trustDomains.map (·.id)).Nodup ∧
        (definitions.trustDomains.flatMap (·.profileIds)).Nodup) ∧
      tally = tallyOf definitions.trustDomains [] := by
  have hfold := @foldlM_zipIdx_eq_ok _ _ _
    (fun tally (domain, index) => definitions.validateDomain tally domain index)
    (fun before => tallyOf before []) _ (fun before a s => validateDomain_eq_ok) []
    definitions.trustDomains tally
  have htake : ∀ i a, definitions.trustDomains[i]? = some a →
      definitions.trustDomains.take (definitions.trustDomains.take i).length =
        definitions.trustDomains.take i := by
    intro i a ha
    obtain ⟨hi, -⟩ := List.getElem?_eq_some_iff.1 ha
    rw [List.length_take_of_le (Nat.le_of_lt hi)]
  refine hfold.trans (and_congr_left' ?_)
  simp only [List.nil_append]
  rw [← pairwise_ne_iff_nodup_map, List.nodup_flatMap, ← forall_take_iff_pairwise, ← forall_take_iff_pairwise, ← forall_take_iff_pairwise]
  constructor
  · intro h
    refine ⟨fun domain hd => ?_, fun i a ha => ?_, fun i a ha => ?_, fun domain hd => ?_,
      fun i a ha => ?_⟩
    · obtain ⟨i, hi⟩ := List.mem_iff_getElem?.1 hd
      exact (h i domain hi).1
    · rw [← htake i a ha]
      exact (h i a ha).2.1
    · exact (h i a ha).2.2.1
    · obtain ⟨i, hi⟩ := List.mem_iff_getElem?.1 hd
      exact (h i domain hi).2.2.2.1
    · exact (h i a ha).2.2.2.2
  · rintro ⟨hvalid, hapart, hids, hnodup, hdisjoint⟩ i a ha
    have hmem := List.mem_of_getElem? ha
    refine ⟨hvalid a hmem, ?_, hids i a ha, hnodup a hmem, hdisjoint i a ha⟩
    rw [htake i a ha]
    exact hapart i a ha

/-- The loop over the pools. -/
theorem foldPools_eq_ok {tally : Tally}
    (sorted : ∀ domain ∈ definitions.trustDomains, domain.profileIds.Pairwise (· < ·)) :
    definitions.pools.zipIdx.foldlM
        (fun tally (pool, index) => definitions.validatePool tally pool index)
        (tallyOf definitions.trustDomains []) = .ok tally ↔
      ((∀ pool ∈ definitions.pools, PoolValid definitions pool) ∧
        definitions.pools.Pairwise (PoolsApart definitions) ∧
        (∀ domain ∈ definitions.trustDomains, ∀ pool ∈ definitions.pools, domain.id ≠ pool.id) ∧
        (definitions.pools.map (·.id)).Nodup) ∧
      tally = tallyOf definitions.trustDomains definitions.pools := by
  have hfold := @foldlM_zipIdx_eq_ok _ _ _
    (fun tally (pool, index) => definitions.validatePool tally pool index)
    (fun before => tallyOf definitions.trustDomains before) _
    (fun before a s => validatePool_eq_ok sorted) [] definitions.pools tally
  have htake : ∀ i a, definitions.pools[i]? = some a →
      definitions.pools.take (definitions.pools.take i).length = definitions.pools.take i := by
    intro i a ha
    obtain ⟨hi, -⟩ := List.getElem?_eq_some_iff.1 ha
    rw [List.length_take_of_le (Nat.le_of_lt hi)]
  refine hfold.trans (and_congr_left' ?_)
  simp only [List.nil_append]
  rw [← pairwise_ne_iff_nodup_map, ← forall_take_iff_pairwise,
    ← forall_take_iff_pairwise]
  constructor
  · intro h
    refine ⟨fun pool hp => ?_, fun i a ha => ?_, fun domain hd pool hp => ?_, fun i a ha => ?_⟩
    · obtain ⟨i, hi⟩ := List.mem_iff_getElem?.1 hp
      exact (h i pool hi).1
    · rw [← htake i a ha]
      exact (h i a ha).2.1
    · obtain ⟨i, hi⟩ := List.mem_iff_getElem?.1 hp
      exact (h i pool hi).2.2.1 domain hd
    · exact (h i a ha).2.2.2
  · rintro ⟨hvalid, hapart, hkinds, hids⟩ i a ha
    have hmem := List.mem_of_getElem? ha
    refine ⟨hvalid a hmem, ?_, fun domain hd => hkinds domain hd a hmem, hids i a ha⟩
    rw [htake i a ha]
    exact hapart i a ha

/-- Sorted ids are not repeated. -/
theorem nodup_of_sorted {ids : List String} (sorted : ids.Pairwise (· < ·)) : ids.Nodup :=
  sorted.imp fun h => ne_of_lt h

/-- `validate` admits exactly the valid definitions. -/
theorem validate_iff : definitions.validate = .ok () ↔ definitions.Valid := by
  simp only [validate, check_bind_eq_ok, rejectIf_eq_ok, not_or, not_not, not_lt,
    strictlySortedStrings_iff, bind_eq_ok (α := Tally), foldDomains_eq_ok]
  constructor
  · rintro ⟨hschema, ⟨hdomains, hpools⟩, ⟨hds, hps⟩, _, ⟨⟨hvalid, hapart, -, hexclusive⟩, rfl⟩, _,
      hfold, hedges, hsize⟩
    obtain ⟨⟨hpvalid, hpapart, hkinds, -⟩, rfl⟩ :=
      (foldPools_eq_ok fun domain hd => (hvalid domain hd).sorted).1 hfold
    exact ⟨hschema, hdomains, hpools, hds, hps, hkinds, hvalid, hapart, hexclusive, hpvalid, hpapart,
      hedges, hsize⟩
  · intro h
    exact ⟨h.schema, ⟨h.fewDomains, h.fewPools⟩, ⟨h.domainsSorted, h.poolsSorted⟩, _,
      ⟨⟨h.domains, h.domainsApart, nodup_of_sorted h.domainsSorted, h.exclusive⟩, rfl⟩, _,
      (foldPools_eq_ok fun domain hd => (h.domains domain hd).sorted).2
        ⟨⟨h.pools, h.poolsApart, h.kinds, nodup_of_sorted h.poolsSorted⟩, rfl⟩, h.edges, h.size⟩

end Definitions

end Calcifer.Routing
