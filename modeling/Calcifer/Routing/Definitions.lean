import Calcifer.Library.Serde
import Calcifer.Profiles.Document

/-!
# Routing definitions

Trust domains and pools of profiles. `Definitions.apply` is one mutation against the revision it was
made for, `Definitions.validate` the checks on a whole document, and `enabledPoolForSource` and
`authorizeHandoff` are what a selection asks of it.
-/

namespace Calcifer.Routing

open Checks Lists Json Serde

def schemaVersion : ℕ := 1
def maxSerializedBytes : ℕ := 512 * 1024
def maxTrustDomains : ℕ := 128
def maxPools : ℕ := 256
def maxDomainProfileIds : ℕ := 64
def maxPoolProfileIds : ℕ := 32
def maxMembershipEdges : ℕ := 4096

inductive DefinitionError where
  | invalidSchema
  | invalidId
  | invalidAlias
  | invalidMembership
  | exclusiveMembership
  | alreadyExists
  | notFound
  | domainInUse
  | poolDisabled
  | poolEnabled
  | limitExceeded
  | revisionConflict
  | revisionOverflow
  | serializationFailed
deriving DecidableEq, Repr

inductive Activation where
  | disabled
  | enabled
deriving DecidableEq, Repr

structure TrustDomainDefinition where
  id : String
  aliasName : String
  provider : Provider
  profileIds : List String
deriving DecidableEq, Repr

structure PoolDefinition where
  id : String
  aliasName : String
  trustDomainId : String
  activation : Activation
  profileIds : List String
deriving DecidableEq, Repr

structure Definitions where
  schemaVersion : ℕ := Routing.schemaVersion
  revision : ℕ := 0
  trustDomains : List TrustDomainDefinition := []
  pools : List PoolDefinition := []
deriving DecidableEq, Repr

/-- Proof that two profiles are members of one trust domain. -/
structure HandoffAuthorization where
  trustDomainId : String
deriving DecidableEq, Repr

/-- An enabled pool as it was when a selection began. -/
structure EnabledPool where
  id : String
  aliasName : String
  trustDomainId : String
  trustDomainAlias : String
  provider : Provider
  profileIds : List String
deriving DecidableEq, Repr

inductive DefinitionMutation where
  | createDomain (id aliasName : String) (provider : Provider) (profileIds : List String)
  | renameDomain (id aliasName : String)
  | replaceDomainMembers (id : String) (profileIds : List String)
  | removeDomain (id : String)
  | createPool (id aliasName trustDomainId : String) (profileIds : List String)
  | renamePool (id aliasName : String)
  | replacePoolMembers (id : String) (profileIds : List String)
  | setPoolActivation (id : String) (enabled : Bool)
  | removePool (id : String)
deriving DecidableEq, Repr

structure MutationOutcome where
  changed : Bool
  revision : ℕ
deriving DecidableEq, Repr

/-! ## Checks on texts and lists -/

def validateDefinitionAlias (aliasName : String) : Except DefinitionError Unit :=
  (validateAlias aliasName).mapError fun _ => .invalidAlias

def validateUuid (value : String) : Except DefinitionError Unit := do
  let parsed ← okOr (Uuid.parseStr value) .invalidId
  rejectIf (parsed.toString ≠ value) .invalidId

/-- Whether each entry is less than the next. -/
def strictlySortedStrings (values : List String) : Bool := values.IsChain (· < ·)

/-- Note an entry that was not seen before, or fail. -/
def insertNew (seen : List String) (entry : String) (e : DefinitionError) :
    Except DefinitionError (List String) := do
  rejectIf (entry ∈ seen) e
  return entry :: seen

def canonicalMemberSet (profileIds : List String) (maximum : ℕ) :
    Except DefinitionError (List String) := do
  rejectIf (maximum < profileIds.length) .limitExceeded
  forEach profileIds fun _ profileId => validateUuid profileId
  let profileIds := profileIds.insertionSort (· ≤ ·)
  rejectIf (¬strictlySortedStrings profileIds) .invalidMembership
  return profileIds

def orderedPoolMembers (profileIds : List String) : Except DefinitionError (List String) := do
  rejectIf (maxPoolProfileIds < profileIds.length) .limitExceeded
  rejectIf (profileIds.length < 2) .invalidMembership
  let _ ← profileIds.foldlM (fun seen profileId => do
    validateUuid profileId
    insertNew seen profileId .invalidMembership) []
  return profileIds

/-! ## The stored document -/

def Activation.toJson : Activation → Json
  | .disabled => .str "disabled"
  | .enabled => .str "enabled"

def TrustDomainDefinition.toJson (domain : TrustDomainDefinition) : Json :=
  .obj [("id", .str domain.id), ("alias", .str domain.aliasName),
    ("provider", domain.provider.toJson), ("profile_ids", .arr (domain.profileIds.map .str))]

def PoolDefinition.toJson (pool : PoolDefinition) : Json :=
  .obj [("id", .str pool.id), ("alias", .str pool.aliasName),
    ("trust_domain_id", .str pool.trustDomainId), ("activation", pool.activation.toJson),
    ("profile_ids", .arr (pool.profileIds.map .str))]

def Definitions.toDocument (definitions : Definitions) : Json :=
  .obj [("schema_version", .int definitions.schemaVersion), ("revision", .int definitions.revision),
    ("trust_domains", .arr (definitions.trustDomains.map TrustDomainDefinition.toJson)),
    ("pools", .arr (definitions.pools.map PoolDefinition.toJson))]

def Definitions.serializeDocument (definitions : Definitions) : List UInt8 :=
  pretty 0 definitions.toDocument

def decodeProvider (value : Json) : Option Provider :=
  match variant value with
  | some ("claude", content) => if isUnit content then some .claude else none
  | some ("codex", content) => if isUnit content then some .codex else none
  | _ => none

def decodeActivation (value : Json) : Option Activation :=
  match variant value with
  | some ("disabled", content) => if isUnit content then some .disabled else none
  | some ("enabled", content) => if isUnit content then some .enabled else none
  | _ => none

def decodeTrustDomain (value : Json) : Option TrustDomainDefinition := do
  let wire ← strictFields ["id", "alias", "provider", "profile_ids"] value
  return {
    id := ← wire.required asStr 0 "id"
    aliasName := ← wire.required asStr 1 "alias"
    provider := ← wire.required decodeProvider 2 "provider"
    profileIds := ← wire.required (list asStr) 3 "profile_ids" }

def decodePool (value : Json) : Option PoolDefinition := do
  let wire ← strictFields ["id", "alias", "trust_domain_id", "activation", "profile_ids"] value
  return {
    id := ← wire.required asStr 0 "id"
    aliasName := ← wire.required asStr 1 "alias"
    trustDomainId := ← wire.required asStr 2 "trust_domain_id"
    activation := ← wire.required decodeActivation 3 "activation"
    profileIds := ← wire.required (list asStr) 4 "profile_ids" }

def decodeDefinitions (value : Json) : Option Definitions := do
  let wire ← strictFields ["schema_version", "revision", "trust_domains", "pools"] value
  return {
    schemaVersion := ← wire.required (unsigned 8) 0 "schema_version"
    revision := ← wire.required (unsigned 64) 1 "revision"
    trustDomains := ← wire.required (list decodeTrustDomain) 2 "trust_domains"
    pools := ← wire.required (list decodePool) 3 "pools" }

/-! ## Validation -/

def Definitions.domainProvider (definitions : Definitions) (domainId : String) :
    Except DefinitionError Provider :=
  okOr ((definitions.trustDomains.find? (·.id = domainId)).map (·.provider)) .notFound

/-- Whether a pool has an alias under a provider. -/
def Definitions.namesPool (definitions : Definitions) (pool : PoolDefinition) (aliasName : String)
    (provider : Provider) : Bool :=
  pool.aliasName = aliasName ∧ definitions.domainProvider pool.trustDomainId = .ok provider

/-- What the loops of `validate` have seen. -/
structure Tally where
  definitionIds : List String := []
  assignedProfiles : List String := []
  membershipEdges : ℕ := 0

def Definitions.validateDomain (definitions : Definitions) (tally : Tally)
    (domain : TrustDomainDefinition) (index : ℕ) : Except DefinitionError Tally := do
  validateUuid domain.id
  let definitionIds ← insertNew tally.definitionIds domain.id .alreadyExists
  validateDefinitionAlias domain.aliasName
  rejectIf (maxDomainProfileIds < domain.profileIds.length) .limitExceeded
  rejectIf (¬strictlySortedStrings domain.profileIds) .invalidMembership
  rejectIf ((definitions.trustDomains.take index).any fun previous =>
    previous.provider = domain.provider ∧ previous.aliasName = domain.aliasName) .alreadyExists
  let assignedProfiles ← domain.profileIds.foldlM (fun assigned profileId => do
    validateUuid profileId
    insertNew assigned profileId .exclusiveMembership) tally.assignedProfiles
  return {
    definitionIds, assignedProfiles
    membershipEdges := tally.membershipEdges + domain.profileIds.length }

def Definitions.validatePool (definitions : Definitions) (tally : Tally) (pool : PoolDefinition)
    (index : ℕ) : Except DefinitionError Tally := do
  validateUuid pool.id
  let definitionIds ← insertNew tally.definitionIds pool.id .alreadyExists
  validateDefinitionAlias pool.aliasName
  validateUuid pool.trustDomainId
  rejectIf (maxPoolProfileIds < pool.profileIds.length) .limitExceeded
  rejectIf (pool.profileIds.length < 2) .invalidMembership
  let domain ← okOr (definitions.trustDomains.find? (·.id = pool.trustDomainId)) .invalidMembership
  rejectIf ((definitions.pools.take index).any fun previous =>
    definitions.namesPool previous pool.aliasName domain.provider) .alreadyExists
  let _ ← pool.profileIds.foldlM (fun seen profileId => do
    validateUuid profileId
    let seen ← insertNew seen profileId .invalidMembership
    rejectIf (¬binarySearch domain.profileIds profileId) .invalidMembership
    return seen) []
  return { tally with
    definitionIds, membershipEdges := tally.membershipEdges + pool.profileIds.length }

def Definitions.validate (definitions : Definitions) : Except DefinitionError Unit := do
  rejectIf (definitions.schemaVersion ≠ Routing.schemaVersion) .invalidSchema
  rejectIf (maxTrustDomains < definitions.trustDomains.length ∨
    maxPools < definitions.pools.length) .limitExceeded
  rejectIf (¬strictlySortedStrings (definitions.trustDomains.map (·.id)) ∨
    ¬strictlySortedStrings (definitions.pools.map (·.id))) .invalidSchema
  let tally ← definitions.trustDomains.zipIdx.foldlM
    (fun tally (domain, index) => definitions.validateDomain tally domain index) {}
  let tally ← definitions.pools.zipIdx.foldlM
    (fun tally (pool, index) => definitions.validatePool tally pool index) tally
  rejectIf (maxMembershipEdges < tally.membershipEdges) .limitExceeded
  rejectIf (maxSerializedBytes < definitions.serializeDocument.length) .limitExceeded

/-- Read a stored document, of which `fromSlice` is the parser. -/
def Definitions.fromJson (fromSlice : List UInt8 → Option Json) (bytes : List UInt8) :
    Except DefinitionError Definitions := do
  rejectIf (maxSerializedBytes < bytes.length) .limitExceeded
  let definitions ← okOr ((fromSlice bytes).bind decodeDefinitions) .invalidSchema
  definitions.validate
  return definitions

def Definitions.toJson (definitions : Definitions) : Except DefinitionError (List UInt8) := do
  definitions.validate
  rejectIf (maxSerializedBytes < definitions.serializeDocument.length) .limitExceeded
  return definitions.serializeDocument

/-! ## Questions of a selection -/

def Definitions.authorizeHandoff (definitions : Definitions)
    (trustDomainId sourceProfileId targetProfileId : String) (provider : Provider) :
    Except DefinitionError HandoffAuthorization := do
  validateUuid trustDomainId
  validateUuid sourceProfileId
  validateUuid targetProfileId
  let domain ← okOr (definitions.trustDomains.find? (·.id = trustDomainId)) .notFound
  rejectIf (sourceProfileId = targetProfileId ∨ domain.provider ≠ provider ∨
    ¬binarySearch domain.profileIds sourceProfileId ∨
    ¬binarySearch domain.profileIds targetProfileId) .invalidMembership
  return { trustDomainId := domain.id }

def Definitions.enabledPoolForSource (definitions : Definitions) (poolId sourceProfileId : String)
    (provider : Provider) : Except DefinitionError EnabledPool := do
  validateUuid poolId
  validateUuid sourceProfileId
  let pool ← okOr (definitions.pools.find? (·.id = poolId)) .notFound
  rejectIf (pool.activation ≠ .enabled) .poolDisabled
  let domain ← okOr (definitions.trustDomains.find? (·.id = pool.trustDomainId)) .invalidMembership
  rejectIf (domain.provider ≠ provider ∨ sourceProfileId ∉ pool.profileIds) .invalidMembership
  return {
    id := pool.id, aliasName := pool.aliasName, trustDomainId := pool.trustDomainId
    trustDomainAlias := domain.aliasName, provider, profileIds := pool.profileIds }

/-! ## Mutations

Each of them gives back whether the definitions change, and the definitions after it. -/

namespace Definitions

def createDomain (definitions : Definitions) (id aliasName : String) (provider : Provider)
    (profileIds : List String) : Except DefinitionError (Bool × Definitions) := do
  validateUuid id
  validateDefinitionAlias aliasName
  let profileIds ← canonicalMemberSet profileIds maxDomainProfileIds
  rejectIf ((definitions.trustDomains.any fun domain => domain.id = id) ∨
    (definitions.pools.any fun pool => pool.id = id) ∨
    definitions.trustDomains.any fun domain =>
      domain.provider = provider ∧ domain.aliasName = aliasName) .alreadyExists
  let domain : TrustDomainDefinition := { id, aliasName, provider, profileIds }
  return (true, { definitions with
    trustDomains := (definitions.trustDomains ++ [domain]).insertionSort (·.id ≤ ·.id) })

def renameDomain (definitions : Definitions) (id aliasName : String) :
    Except DefinitionError (Bool × Definitions) := do
  validateUuid id
  validateDefinitionAlias aliasName
  let domain ← okOr (definitions.trustDomains.find? (·.id = id)) .notFound
  if domain.aliasName = aliasName then
    return (false, definitions)
  rejectIf ((definitions.trustDomains.eraseP (·.id = id)).any fun other =>
    other.provider = domain.provider ∧ other.aliasName = aliasName) .alreadyExists
  return (true, { definitions with
    trustDomains := updateFirst (·.id = id) ({ · with aliasName }) definitions.trustDomains })

def replaceDomainMembers (definitions : Definitions) (id : String) (profileIds : List String) :
    Except DefinitionError (Bool × Definitions) := do
  validateUuid id
  let profileIds ← canonicalMemberSet profileIds maxDomainProfileIds
  let domain ← okOr (definitions.trustDomains.find? (·.id = id)) .notFound
  if domain.profileIds = profileIds then
    return (false, definitions)
  return (true, { definitions with
    trustDomains := updateFirst (·.id = id) ({ · with profileIds }) definitions.trustDomains })

def removeDomain (definitions : Definitions) (id : String) :
    Except DefinitionError (Bool × Definitions) := do
  validateUuid id
  let _ ← okOr (definitions.trustDomains.find? (·.id = id)) .notFound
  rejectIf (definitions.pools.any fun pool => pool.trustDomainId = id) .domainInUse
  return (true, { definitions with trustDomains := definitions.trustDomains.eraseP (·.id = id) })

def createPool (definitions : Definitions) (id aliasName trustDomainId : String)
    (profileIds : List String) : Except DefinitionError (Bool × Definitions) := do
  validateUuid id
  validateUuid trustDomainId
  validateDefinitionAlias aliasName
  let profileIds ← orderedPoolMembers profileIds
  let provider ← definitions.domainProvider trustDomainId
  rejectIf ((definitions.pools.any fun pool => pool.id = id) ∨
    (definitions.trustDomains.any fun domain => domain.id = id) ∨
    definitions.pools.any fun pool => definitions.namesPool pool aliasName provider) .alreadyExists
  let pool : PoolDefinition := { id, aliasName, trustDomainId, activation := .disabled, profileIds }
  return (true, { definitions with
    pools := (definitions.pools ++ [pool]).insertionSort (·.id ≤ ·.id) })

def renamePool (definitions : Definitions) (id aliasName : String) :
    Except DefinitionError (Bool × Definitions) := do
  validateUuid id
  validateDefinitionAlias aliasName
  let pool ← okOr (definitions.pools.find? (·.id = id)) .notFound
  if pool.aliasName = aliasName then
    return (false, definitions)
  let provider ← definitions.domainProvider pool.trustDomainId
  rejectIf ((definitions.pools.eraseP (·.id = id)).any fun other =>
    definitions.namesPool other aliasName provider) .alreadyExists
  return (true, { definitions with
    pools := updateFirst (·.id = id) ({ · with aliasName }) definitions.pools })

def replacePoolMembers (definitions : Definitions) (id : String) (profileIds : List String) :
    Except DefinitionError (Bool × Definitions) := do
  validateUuid id
  let profileIds ← orderedPoolMembers profileIds
  let pool ← okOr (definitions.pools.find? (·.id = id)) .notFound
  rejectIf (pool.activation = .enabled) .poolEnabled
  if pool.profileIds = profileIds then
    return (false, definitions)
  return (true, { definitions with
    pools := updateFirst (·.id = id) ({ · with profileIds }) definitions.pools })

def setPoolActivation (definitions : Definitions) (id : String) (enabled : Bool) :
    Except DefinitionError (Bool × Definitions) := do
  validateUuid id
  let pool ← okOr (definitions.pools.find? (·.id = id)) .notFound
  let activation := if enabled then Activation.enabled else .disabled
  if pool.activation = activation then
    return (false, definitions)
  return (true, { definitions with
    pools := updateFirst (·.id = id) ({ · with activation }) definitions.pools })

def removePool (definitions : Definitions) (id : String) :
    Except DefinitionError (Bool × Definitions) := do
  validateUuid id
  let pool ← okOr (definitions.pools.find? (·.id = id)) .notFound
  rejectIf (pool.activation = .enabled) .poolEnabled
  return (true, { definitions with pools := definitions.pools.eraseP (·.id = id) })

def applyMutation (definitions : Definitions) :
    DefinitionMutation → Except DefinitionError (Bool × Definitions)
  | .createDomain id aliasName provider profileIds =>
    definitions.createDomain id aliasName provider profileIds
  | .renameDomain id aliasName => definitions.renameDomain id aliasName
  | .replaceDomainMembers id profileIds => definitions.replaceDomainMembers id profileIds
  | .removeDomain id => definitions.removeDomain id
  | .createPool id aliasName trustDomainId profileIds =>
    definitions.createPool id aliasName trustDomainId profileIds
  | .renamePool id aliasName => definitions.renamePool id aliasName
  | .replacePoolMembers id profileIds => definitions.replacePoolMembers id profileIds
  | .setPoolActivation id enabled => definitions.setPoolActivation id enabled
  | .removePool id => definitions.removePool id

/-- One mutation that was made for a revision, with the definitions after it. An error leaves the
definitions as they are. -/
def apply (definitions : Definitions) (expectedRevision : ℕ) (mutation : DefinitionMutation) :
    Except DefinitionError (MutationOutcome × Definitions) := do
  rejectIf (definitions.revision ≠ expectedRevision) .revisionConflict
  let (changed, candidate) ← definitions.applyMutation mutation
  if ¬changed then
    candidate.validate
    return ({ changed := false, revision := definitions.revision }, definitions)
  rejectIf (2 ^ 64 ≤ candidate.revision + 1) .revisionOverflow
  let candidate := { candidate with revision := candidate.revision + 1 }
  candidate.validate
  return ({ changed := true, revision := candidate.revision }, candidate)

end Definitions

end Calcifer.Routing
