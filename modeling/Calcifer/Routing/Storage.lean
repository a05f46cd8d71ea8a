import Calcifer.Routing.Mutations

/-!
# Storing routing definitions

`mutateSnapshot` validates the members of a mutation against a snapshot and commits it against the
revision of the snapshot. The commit runs under the lock of the store: it reads the stored definitions
again, applies the mutation to them and writes them back. What it can do is `Ends`.
-/

namespace Calcifer.Routing

open Checks Lists

inductive RoutingError where
  | definition (error : DefinitionError)
  | storageInvalid
  | storageUnavailable
  | commitUncertain
  | unsupportedPlatform
  | profileMissing
  | profileProviderMismatch
  | profileBusy
  | profileInvalid
  | profileUnavailable
  | identityUnverified
  | identityUnsupported
  | identityInvalid
  | identityMismatch
  | identityKeyUnavailable
  | identityCommitUncertain
  | duplicateProviderIdentity
deriving DecidableEq, Repr

/-! ## Members -/

/-- What the profiles of the members are, and the proofs of their identities. -/
structure MembershipSource (Proof : Type) where
  resolve : String → Except RoutingError Profile
  verify : Profile → Except RoutingError Proof
  sameProviderIdentity : Proof → Proof → Bool

structure MembershipValidation where
  provider : Provider
  profileIds : List String
deriving DecidableEq, Repr

/-- The domain or the pool whose members a mutation puts in force. -/
inductive MembershipTarget where
  | domain (id : String)
  | pool (id : String)
deriving DecidableEq, Repr

def membershipTarget : DefinitionMutation → Option MembershipTarget
  | .createDomain id _ _ _ | .replaceDomainMembers id _ => some (.domain id)
  | .createPool id _ _ _ | .replacePoolMembers id _ => some (.pool id)
  | .setPoolActivation id true => some (.pool id)
  | .renameDomain .. | .removeDomain _ | .renamePool .. | .setPoolActivation _ false | .removePool _ =>
    none

/-- The members of a domain or a pool, with their provider. -/
def Definitions.membersOf (definitions : Definitions) :
    MembershipTarget → Except DefinitionError MembershipValidation
  | .domain id => do
    let domain ← okOr (definitions.trustDomains.find? (·.id = id)) .notFound
    return { provider := domain.provider, profileIds := domain.profileIds }
  | .pool id => do
    let pool ← okOr (definitions.pools.find? (·.id = id)) .notFound
    let provider ← definitions.domainProvider pool.trustDomainId
    return { provider, profileIds := pool.profileIds }

/-- The members that a mutation of these definitions would put in force. -/
def membershipValidation (definitions : Definitions) (mutation : DefinitionMutation) :
    Except DefinitionError (Option MembershipValidation) :=
  match membershipTarget mutation with
  | none => return none
  | some target => do
    let (_, candidate) ← definitions.apply definitions.revision mutation
    let validation ← candidate.membersOf target
    return some validation

variable {Proof : Type}

/-- Verify the profiles one by one, each against those before it. -/
def verifyProfiles (source : MembershipSource Proof) (proofs : List Proof) :
    List Profile → Except RoutingError (List Proof)
  | [] => return proofs
  | profile :: profiles => do
    let proof ← source.verify profile
    rejectIf (proofs.any fun existing => source.sameProviderIdentity existing proof)
      .duplicateProviderIdentity
    verifyProfiles source (proofs ++ [proof]) profiles

def validateMembers (source : MembershipSource Proof) (validation : MembershipValidation) :
    Except RoutingError (List Proof) := do
  let profiles ← (validation.profileIds.insertionSort (· ≤ ·)).mapM source.resolve
  rejectIf (profiles.any fun profile => profile.provider ≠ validation.provider) .profileProviderMismatch
  verifyProfiles source [] profiles

/-! ## The store -/

/-- What can go wrong with the files of the store, of which one may hold no document. -/
inductive StorageFailure where
  | unsupportedPlatform
  | invalid
  | unavailable
  | document (error : DefinitionError)
deriving DecidableEq, Repr

def StorageFailure.toError : StorageFailure → RoutingError
  | .unsupportedPlatform => .unsupportedPlatform
  | .invalid => .storageInvalid
  | .unavailable => .storageUnavailable
  | .document error => .definition error

/-- Where it goes wrong: before the definitions are read, before the new ones are in place, or when the
directory is synchronized afterwards. -/
inductive StorageFault where
  | beforeLoad (failure : StorageFailure)
  | beforeRename (failure : StorageFailure)
  | afterRename
deriving DecidableEq, Repr

namespace Store

/-- Read the stored definitions under the lock, which are the default ones before the first commit. -/
def load (fault : Option StorageFault) (stored : Definitions) : Except RoutingError Definitions :=
  match fault with
  | some (.beforeLoad failure) => throw failure.toError
  | _ => do
    stored.validate.mapError .definition
    return stored

/-- Write new definitions in the place of the stored ones. -/
def save (fault : Option StorageFault) (stored definitions : Definitions) :
    Except RoutingError Unit × Definitions :=
  match definitions.toJson with
  | .error error => (throw (.definition error), stored)
  | .ok _ =>
    match fault with
    | some (.beforeRename failure) => (throw failure.toError, stored)
    | some .afterRename => (throw .commitUncertain, definitions)
    | _ => (return, definitions)

/-- Apply a mutation that was made for a revision. -/
def commit (fault : Option StorageFault) (stored : Definitions) (expectedRevision : ℕ)
    (mutation : DefinitionMutation) : Except RoutingError MutationOutcome × Definitions :=
  match load fault stored with
  | .error error => (throw error, stored)
  | .ok definitions =>
    match definitions.apply expectedRevision mutation with
    | .error error => (throw (.definition error), stored)
    | .ok (outcome, definitions) =>
      if outcome.changed then
        let (result, stored) := save fault stored definitions
        (result.map fun _ => outcome, stored)
      else (return outcome, stored)

end Store

/-- The members of a mutation are valid, with the proofs of their identities. -/
def validateSnapshot (source : MembershipSource Proof) (snapshot : Definitions)
    (mutation : DefinitionMutation) : Except RoutingError (Option (List Proof)) := do
  match ← (membershipValidation snapshot mutation).mapError .definition with
  | none => return none
  | some validation => do
    let proofs ← validateMembers source validation
    return some proofs

/-- Validate and commit a mutation. The proofs are kept until it is committed. -/
def mutateSnapshot (source : MembershipSource Proof) (fault : Option StorageFault)
    (stored snapshot : Definitions) (mutation : DefinitionMutation) :
    Except RoutingError MutationOutcome × Definitions :=
  match validateSnapshot source snapshot mutation with
  | .error error => (throw error, stored)
  | .ok _ => Store.commit fault stored snapshot.revision mutation

/-! ## What a mutation does -/

section Cases

variable {source : MembershipSource Proof} {proofs verified : List Proof} {profiles : List Profile}
  {validation : MembershipValidation} {fault : Option StorageFault}
  {stored snapshot next : Definitions} {mutation : DefinitionMutation}

/-- Every profile of a verified list has a proof, and each proof differs from those before it. -/
theorem verifyProfiles_eq_ok :
    verifyProfiles source proofs profiles = .ok verified ↔
      ∃ new, verified = proofs ++ new ∧
        List.Forall₂ (fun profile proof => source.verify profile = .ok proof) profiles new ∧
        new.Pairwise (fun a b => source.sameProviderIdentity a b = false) ∧
        ∀ a ∈ proofs, ∀ b ∈ new, source.sameProviderIdentity a b = false := by
  induction profiles generalizing proofs with
  | nil =>
    rw [verifyProfiles, pure_eq_ok]
    constructor
    · rintro rfl
      exact ⟨[], by simp, .nil, .nil, by simp⟩
    · rintro ⟨new, rfl, hnew, -, -⟩
      cases hnew
      rw [List.append_nil]
  | cons profile profiles ih =>
    simp only [verifyProfiles, bind_eq_ok (α := Proof), check_bind_eq_ok, rejectIf_eq_ok, ih]
    constructor
    · rintro ⟨proof, hproof, hnew, new, rfl, hall, hapart, hbefore⟩
      simp only [List.any_eq_true, not_exists, not_and, Bool.not_eq_true] at hnew
      refine ⟨proof :: new, by simp, .cons hproof hall, .cons (fun b hb => ?_) hapart,
        fun a ha b hb => ?_⟩
      · exact hbefore proof (by simp) b hb
      · obtain rfl | hb := List.mem_cons.1 hb
        · exact hnew a ha
        · exact hbefore a (List.mem_append_left _ ha) b hb
    · rintro ⟨_, rfl, _ | ⟨hproof, hall⟩, hapart, hbefore⟩
      rename_i proof new
      obtain ⟨hfirst, hapart⟩ := List.pairwise_cons.1 hapart
      refine ⟨proof, hproof, ?_, new, by simp, hall, hapart, fun a ha b hb => ?_⟩
      · simp only [List.any_eq_true, not_exists, not_and, Bool.not_eq_true]
        exact fun a ha => hbefore a ha proof (by simp)
      · obtain ha | ha := List.mem_append.1 ha
        · exact hbefore a ha b (by simp [hb])
        · rw [List.mem_singleton.1 ha]
          exact hfirst b hb

/-- Each member has a profile of the provider and a proof, and no two proofs are of one identity. -/
structure Verified (source : MembershipSource Proof) (validation : MembershipValidation)
    (proofs : List Proof) : Prop where
  members : List.Forall₂ (fun id proof => ∃ profile, source.resolve id = .ok profile ∧
    profile.provider = validation.provider ∧ source.verify profile = .ok proof)
    (validation.profileIds.insertionSort (· ≤ ·)) proofs
  distinct : proofs.Pairwise fun a b => source.sameProviderIdentity a b = false

theorem validateMembers_verified (h : validateMembers source validation = .ok proofs) :
    Verified source validation proofs := by
  simp only [validateMembers, bind_eq_ok (α := List Profile), check_bind_eq_ok, rejectIf_eq_ok,
    verifyProfiles_eq_ok] at h
  obtain ⟨profiles, hprofiles, hprovider, new, rfl, hall, hapart, -⟩ := h
  simp only [List.any_eq_true, decide_eq_true_eq, not_exists, not_and, not_not] at hprovider
  refine ⟨?_, hapart⟩
  have hresolved := mapM_eq_ok.1 hprofiles
  clear hprofiles hapart
  generalize validation.profileIds.insertionSort (· ≤ ·) = ids at hresolved ⊢
  induction hresolved generalizing proofs with
  | nil =>
    cases hall
    exact .nil
  | @cons id profile ids profiles hprofile hrest ih =>
    obtain - | ⟨hproof, hall⟩ := hall
    exact .cons ⟨profile, hprofile, hprovider profile (by simp), hproof⟩
      (ih hall fun p hp => hprovider p (List.mem_cons_of_mem _ hp))

/-- The members that a mutation puts in force are the ones that were verified. -/
theorem validateSnapshot_verified {target : MembershipTarget} {outcome : MutationOutcome}
    {proofs : Option (List Proof)} (h : validateSnapshot source snapshot mutation = .ok proofs)
    (htarget : membershipTarget mutation = some target)
    (happly : snapshot.apply snapshot.revision mutation = .ok (outcome, next)) :
    ∃ validation verified, next.membersOf target = .ok validation ∧ proofs = some verified ∧
      Verified source validation verified := by
  have hvalidation : membershipValidation snapshot mutation =
      (next.membersOf target).bind fun validation => .ok (some validation) := by
    simp only [membershipValidation, htarget, happly]
    rfl
  rw [validateSnapshot, hvalidation] at h
  cases hmembers : next.membersOf target with
  | error error =>
    rw [hmembers] at h
    cases h
  | ok validation =>
    rw [hmembers] at h
    change (validateMembers source validation >>= fun proofs => pure (some proofs)) = _ at h
    obtain ⟨verified, hverified, hproofs⟩ := bind_eq_ok.1 h
    cases hproofs
    exact ⟨validation, verified, rfl, rfl, validateMembers_verified hverified⟩

theorem Store.load_eq_ok (h : Store.load fault stored = .ok next) : next = stored := by
  unfold Store.load at h
  split at h
  · cases h
  · rw [check_bind_eq_ok] at h
    exact (pure_eq_ok.1 h.2).symm

/-- Writing fails and leaves the stored definitions, or the new ones are in place. -/
theorem Store.save_ends (definitions : Definitions) :
    (∃ error, Store.save fault stored definitions = (.error error, stored)) ∨
      Store.save fault stored definitions = (.ok (), definitions) ∨
      Store.save fault stored definitions = (.error .commitUncertain, definitions) := by
  unfold Store.save
  split
  · exact .inl ⟨_, rfl⟩
  · split
    · exact .inl ⟨_, rfl⟩
    · exact .inr (.inr rfl)
    · exact .inr (.inl rfl)

/-- What a mutation can do: it is refused by the members, the files or the definitions, it changes nothing,
or the new definitions are in place. -/
inductive Ends (source : MembershipSource Proof) (fault : Option StorageFault)
    (stored snapshot : Definitions) (mutation : DefinitionMutation) :
    Except RoutingError MutationOutcome → Definitions → Prop
  | refused {error : RoutingError} (h : validateSnapshot source snapshot mutation = .error error) :
    Ends source fault stored snapshot mutation (.error error) stored
  | unread {error : RoutingError} (h : Store.load fault stored = .error error) :
    Ends source fault stored snapshot mutation (.error error) stored
  | rejected {error : DefinitionError} (h : stored.apply snapshot.revision mutation = .error error) :
    Ends source fault stored snapshot mutation (.error (.definition error)) stored
  | unchanged {outcome : MutationOutcome} (hchanged : outcome.changed = false)
    (h : stored.apply snapshot.revision mutation = .ok (outcome, stored)) :
    Ends source fault stored snapshot mutation (.ok outcome) stored
  | unsaved {outcome : MutationOutcome} {next : Definitions} (error : RoutingError)
    (h : stored.apply snapshot.revision mutation = .ok (outcome, next)) :
    Ends source fault stored snapshot mutation (.error error) stored
  | saved {proofs : Option (List Proof)} {outcome : MutationOutcome} {next : Definitions}
    {result : Except RoutingError MutationOutcome} (hchanged : outcome.changed = true)
    (hproofs : validateSnapshot source snapshot mutation = .ok proofs)
    (h : stored.apply snapshot.revision mutation = .ok (outcome, next))
    (hresult : result = .ok outcome ∨ result = .error .commitUncertain) :
    Ends source fault stored snapshot mutation result next

theorem Store.commit_ends {result : Except RoutingError MutationOutcome} {proofs : Option (List Proof)}
    (hproofs : validateSnapshot source snapshot mutation = .ok proofs)
    (h : Store.commit fault stored snapshot.revision mutation = (result, next)) :
    Ends source fault stored snapshot mutation result next := by
  unfold Store.commit at h
  split at h
  · rename_i error hload
    cases h
    exact .unread hload
  · rename_i loaded hload
    rw [Store.load_eq_ok hload] at h
    split at h
    · rename_i error happly
      cases h
      exact .rejected happly
    · rename_i outcome definitions happly
      split at h
      · rename_i hchanged
        obtain ⟨error, hsave⟩ | hsave | hsave := @Store.save_ends fault stored definitions
        all_goals
          rw [hsave] at h
          cases h
        · exact .unsaved error happly
        · exact .saved hchanged hproofs happly (.inl rfl)
        · exact .saved hchanged hproofs happly (.inr rfl)
      · rename_i hchanged
        cases h
        obtain ⟨-, -, ⟨hsame, rfl⟩ | ⟨hchanges, -⟩⟩ := Definitions.apply_eq_ok happly
        · exact .unchanged hsame happly
        · exact absurd hchanges hchanged

/-- A mutation that changes the stored definitions had valid members and was applied to them. -/
theorem Ends.of_ne {result : Except RoutingError MutationOutcome}
    (h : Ends source fault stored snapshot mutation result next) (hne : next ≠ stored) :
    ∃ proofs outcome, validateSnapshot source snapshot mutation = .ok proofs ∧
      outcome.changed = true ∧ stored.apply snapshot.revision mutation = .ok (outcome, next) ∧
      (result = .ok outcome ∨ result = .error .commitUncertain) := by
  cases h with
  | refused | unread | rejected | unchanged | unsaved => exact absurd rfl hne
  | saved hchanged hproofs happly hresult => exact ⟨_, _, hproofs, hchanged, happly, hresult⟩

/-- A mutation that succeeds was applied to the stored definitions. -/
theorem Ends.of_ok {outcome : MutationOutcome}
    (h : Ends source fault stored snapshot mutation (.ok outcome) next) :
    stored.apply snapshot.revision mutation = .ok (outcome, next) := by
  cases h with
  | unchanged _ happly => exact happly
  | saved _ _ happly hresult =>
    obtain hresult | hresult := hresult
    · cases hresult
      exact happly
    · cases hresult

/-- A mutation for another revision than the stored one is refused. -/
theorem Ends.of_revision_ne {result : Except RoutingError MutationOutcome}
    (h : Ends source fault stored snapshot mutation result next)
    (hne : stored.revision ≠ snapshot.revision) :
    next = stored ∧ (result = .error (.definition .revisionConflict) ∨
      ∃ error, result = .error error ∧ (validateSnapshot source snapshot mutation = .error error ∨
        Store.load fault stored = .error error)) := by
  cases h with
  | refused hrefused => exact ⟨rfl, .inr ⟨_, rfl, .inl hrefused⟩⟩
  | unread hload => exact ⟨rfl, .inr ⟨_, rfl, .inr hload⟩⟩
  | rejected happly =>
    have hconflict : stored.apply snapshot.revision mutation = .error .revisionConflict := by
      rw [Definitions.apply, rejectIf, if_pos hne]
      rfl
    rw [hconflict] at happly
    cases happly
    exact ⟨rfl, .inl rfl⟩
  | unchanged _ happly => exact absurd (Definitions.apply_eq_ok happly).1 hne
  | unsaved _ happly => exact absurd (Definitions.apply_eq_ok happly).1 hne
  | saved _ _ happly => exact absurd (Definitions.apply_eq_ok happly).1 hne

theorem mutateSnapshot_ends {result : Except RoutingError MutationOutcome}
    (h : mutateSnapshot source fault stored snapshot mutation = (result, next)) :
    Ends source fault stored snapshot mutation result next := by
  unfold mutateSnapshot at h
  split at h
  · rename_i error hrefused
    cases h
    exact .refused hrefused
  · rename_i proofs hproofs
    exact Store.commit_ends hproofs h

end Cases

end Calcifer.Routing
