import Calcifer.Profiles.PrivateFiles

/-!
# Reauthentication

A new login is staged beside its profile and then takes the place of the credential. The old
credential is first renamed to a backup and the new one then to its name, under a journal that is
published before and removed after everything else, so that a recovery can tell from the digests of
what is there whether to go back or forward. Everything here runs under the lease of the profile.
-/

namespace Calcifer.Profiles

open Checks Text Files

def reauthJournalFile : String := ".calcifer-reauth.json"
def reauthJournalSchemaVersion : ℕ := 2
def legacyReauthJournalSchemaVersion : ℕ := 1
def maxReauthJournalBytes : ℕ := 16 * 1024
def maxManagedCodexConfigBytes : ℕ := 1024 * 1024

def credentialName : Provider → String
  | .claude => ".credentials.json"
  | .codex => "auth.json"

/-- The dot that hides a file derived from a credential whose own name has none. -/
def hidden (credential : String) : String := if credential.toList.head? = some '.' then "" else "."

def credentialTemporaryName (credential transactionId : String) : String :=
  hidden credential ++ (credential ++ (".reauth-new-" ++ transactionId))

def credentialBackupName (credential transactionId : String) : String :=
  hidden credential ++ (credential ++ (".reauth-old-" ++ transactionId))

def reauthStagingName (profileId transactionId : String) : String :=
  ".reauth-" ++ (profileId ++ ("-" ++ transactionId))

/-- What the providers accept of their own files: the policy for a managed configuration and the
schema of linux credentials. -/
class ProviderFiles where
  managedCodexConfig : List UInt8 → Bool
  linuxCredentials : List UInt8 → Bool

/-! ## Profile directories -/

def verifyOwnedProfileDirectory (path : Path) (id : String) : ProfileAttempt Unit := do
  verifyPrivateDirectory path
  let marker ← readPrivate (path ++ [ownerMarker])
  check (rejectIf (marker.raw ≠ bytes id)
    (.unsafeState "profile ownership marker does not match its registry entry"))

def profileDirectory (profile : Profile) : ProfileAttempt Path := do
  check (validateProfileId profile.id)
  verifyPrivateDirectory []
  verifyPrivateDirectory ["profiles"]
  verifyPrivateDirectory (providerRoot profile.provider)
  verifyOwnedProfileDirectory profile.directory profile.id
  pure profile.directory

section Homes

variable [ProviderFiles]

def managedCodexConfigPolicyError : ProfileError :=
  .unsafeState "managed Codex profile violates the supported compatibility policy"

def verifyManagedCodexConfig (path : Path) : ProfileAttempt Unit := do
  let config ← readPrivate path
  check (rejectIf (config.raw.length > maxManagedCodexConfigBytes ∨
    ¬ ProviderFiles.managedCodexConfig config.raw) managedCodexConfigPolicyError)

def verifyManagedCodexHome (home : Path) : ProfileAttempt Unit := do
  verifyPrivateDirectory home
  match ← attempt (.stat (home ++ ["agents"])) managedCodexConfigPolicyError with
  | none => pure ()
  | some _ => throw managedCodexConfigPolicyError
  verifyManagedCodexConfig (home ++ ["config.toml"])
  verifyPrivateSingleLinkRegularFile (home ++ ["auth.json"])

def validateLinuxCredentials (configDir : Path) : ProfileAttempt Unit := do
  verifyPrivateDirectory configDir
  let credentials ← readPrivate (configDir ++ [".credentials.json"])
  check (rejectIf (¬ ProviderFiles.linuxCredentials credentials.raw) .claude)

def profileHome (profile : Profile) : ProfileAttempt Path := do
  let _ ← profileDirectory profile
  match profile.provider with
  | .claude => validateLinuxCredentials profile.home
  | .codex => verifyManagedCodexHome profile.home
  pure profile.home

end Homes

/-! ## The staging tree -/

/-- Check the entries of one directory of a staging tree. Directories among them are still to be
visited. -/
def validateReauthEntries (directory : Path) :
    List String → List Path → ℕ → ProfileAttempt (List Path × ℕ)
  | [], pending, entries => pure (pending, entries)
  | name :: names, pending, entries => do
    check (rejectIf (entries + 1 > maxReauthTreeEntries) .reauthRecoveryRequired)
    match ← attempt (.read (directory ++ [name])) .io with
    | .directory _ =>
      validateReauthEntries directory names ((directory ++ [name]) :: pending) (entries + 1)
    | .file _ _ =>
      mapErr (verifyPrivateSingleLinkRegularFile (directory ++ [name])) fun _ =>
        .reauthRecoveryRequired
      validateReauthEntries directory names pending (entries + 1)
    | .other => throw .reauthRecoveryRequired

/-- Visit the directories of a staging tree. Every one but the first is an entry, so that the limit
on these bounds the visits. -/
def validateReauthDirectories : ℕ → List Path → ℕ → ProfileAttempt Unit
  | _, [], _ => pure ()
  | 0, _ :: _, _ => throw .reauthRecoveryRequired
  | visits + 1, directory :: pending, entries => do
    mapErr (verifyPrivateDirectory directory) fun _ => .reauthRecoveryRequired
    let names ← attempt (.list directory) .io
    let (pending, entries) ← validateReauthEntries directory names pending entries
    validateReauthDirectories visits pending entries

def validateReauthTree (staging : Path) (profileId : String) : ProfileAttempt Unit := do
  mapErr (verifyPrivateDirectory staging) fun _ => .reauthRecoveryRequired
  let marker ← mapErr (readPrivate (staging ++ [ownerMarker])) fun _ => .reauthRecoveryRequired
  check (rejectIf (marker.raw ≠ bytes profileId) .reauthRecoveryRequired)
  validateReauthDirectories (maxReauthTreeEntries + 1) [staging] 0

def safeRemoveReauthStaging (provider : Provider) (stagingName profileId transactionId : String) :
    ProfileAttempt Unit := do
  check (rejectIf (stagingName ≠ reauthStagingName profileId transactionId) .reauthRecoveryRequired)
  let staging := providerRoot provider ++ [stagingName]
  validateReauthTree staging profileId
  mapErr (do
    verifyPrivateDirectory (providerRoot provider)
    removeOwnedDirectory staging maxReauthTreeEntries maxRemovalTreeDepth) fun _ =>
      .reauthRecoveryRequired

def removeReauthStagingIfPresent (provider : Provider)
    (stagingName profileId transactionId : String) : ProfileAttempt Unit := do
  match ← attempt (.stat (providerRoot provider ++ [stagingName])) .io with
  | none => pure ()
  | some _ => safeRemoveReauthStaging provider stagingName profileId transactionId

/-- A canonical transaction id. -/
def isTransactionId (value : String) : Bool :=
  (Uuid.parseStr value).any fun id => id.toString = value

/-- Remove the staging trees of a profile among the entries of its provider root. -/
def cleanupOrphans (profile : Profile) : List String → ProfileAttempt Unit
  | [] => pure ()
  | name :: names => do
    match stripPrefix (".reauth-" ++ (profile.id ++ "-")) name with
    | none => pure ()
    | some transactionId =>
      check (rejectIf (¬ isTransactionId transactionId) .reauthRecoveryRequired)
      safeRemoveReauthStaging profile.provider name profile.id transactionId
    cleanupOrphans profile names

def cleanupOrphanReauthStaging (profile : Profile) : ProfileAttempt Unit := do
  verifyPrivateDirectory (providerRoot profile.provider)
  let names ← attempt (.list (providerRoot profile.provider)) .io
  cleanupOrphans profile names
  attempt .sync .io

/-! ## The journal -/

def createNewPrivateFile (path : Path) : ProfileAttempt Unit := do
  attempt (.create path (.file (.bytes []) true)) .io
  onError (verifyPrivateSingleLinkRegularFile path) (attempt (.remove path) .io)

def writeReauthPrivateFile (path : Path) (content : Content) : ProfileAttempt Unit := do
  createNewPrivateFile path
  onError (do
    attempt (.write path (.file content true)) .io
    attempt .sync .io
    verifyPrivateSingleLinkRegularFile path) (attempt (.remove path) .io)

/-- Where a journal is. -/
def journalPath (profile : Profile) : Path := profile.directory ++ [reauthJournalFile]

def publishReauthJournal (profile : Profile) (staging : Path) (journal : ReauthJournal) :
    ProfileAttempt Unit := do
  check (rejectIf (journal.toVec.length > maxReauthJournalBytes) .reauthRecoveryRequired)
  let temporary := staging ++ ["." ++ (reauthJournalFile ++ ("." ++ (journal.transactionId ++ ".tmp")))]
  ensurePathAbsent temporary
  ensurePathAbsent (journalPath profile)
  writeReauthPrivateFile temporary (.journal journal true)
  onError (attempt (.rename temporary (journalPath profile)) .io) (attempt (.remove temporary) .io)
  attempt .sync .reauthRecoveryRequired
  attempt .sync .reauthRecoveryRequired

def isSha256Hex (value : String) : Bool :=
  (bytes value).length = 64 ∧
    (bytes value).all fun b => (48 ≤ b ∧ b ≤ 57) ∨ (97 ≤ b ∧ b ≤ 102)

def readReauthJournal (path : Path) : ProfileAttempt ReauthJournal := do
  let content ← mapErr (readPrivate path) fun _ => .reauthRecoveryRequired
  check (rejectIf (content.raw.length > maxReauthJournalBytes) .reauthRecoveryRequired)
  match content with
  | .journal journal explicitProviderFields =>
    check (rejectIf
      (¬ (journal.schemaVersion = legacyReauthJournalSchemaVersion ∨
          journal.schemaVersion = reauthJournalSchemaVersion) ∨
        (journal.schemaVersion = reauthJournalSchemaVersion ∧ ¬ explicitProviderFields) ∨
        (journal.schemaVersion = legacyReauthJournalSchemaVersion ∧
          (journal.provider ≠ .codex ∨ journal.credentialName ≠ "auth.json")) ∨
        journal.credentialName ≠ credentialName journal.provider ∨
        validateProfileId journal.profileId ≠ .ok () ∨
        ¬ isTransactionId journal.transactionId ∨
        ¬ isSha256Hex journal.oldAuthDigest ∨
        ¬ isSha256Hex journal.newAuthDigest) .reauthRecoveryRequired)
    pure journal
  | _ => throw .reauthRecoveryRequired

def validateJournalPaths (journal : ReauthJournal) : Except ProfileError Unit :=
  rejectIf (journal.stagingName ≠ reauthStagingName journal.profileId journal.transactionId ∨
    journal.temporaryName ≠ credentialTemporaryName journal.credentialName journal.transactionId ∨
    journal.backupName ≠ credentialBackupName journal.credentialName journal.transactionId)
    .reauthRecoveryRequired

/-! ## What only looks -/

theorem readOnly_verifyOwnedProfileDirectory (path : Path) (id : String) :
    ReadOnly (verifyOwnedProfileDirectory path id) :=
  (readOnly_verifyPrivateDirectory path).bind fun _ =>
    (readOnly_readPrivate _).bind fun _ => .check _

theorem readOnly_profileDirectory (profile : Profile) : ReadOnly (profileDirectory profile) :=
  (ReadOnly.check _).bind fun _ => (readOnly_verifyPrivateDirectory _).bind fun _ =>
    (readOnly_verifyPrivateDirectory _).bind fun _ => (readOnly_verifyPrivateDirectory _).bind fun _ =>
      (readOnly_verifyOwnedProfileDirectory _ _).bind fun _ => .pure _

theorem readOnly_verifyManagedCodexConfig [ProviderFiles] (path : Path) :
    ReadOnly (verifyManagedCodexConfig path) :=
  (readOnly_readPrivate path).bind fun _ => .check _

theorem readOnly_profileHome [ProviderFiles] (profile : Profile) : ReadOnly (profileHome profile) := by
  refine (readOnly_profileDirectory profile).bind fun _ => ?_
  cases profile.provider with
  | claude =>
    refine ReadOnly.bind ?_ fun _ => .pure _
    refine (readOnly_verifyPrivateDirectory _).bind fun _ => ?_
    exact (readOnly_readPrivate _).bind fun _ => .check _
  | codex =>
    refine ReadOnly.bind ?_ fun _ => .pure _
    refine (readOnly_verifyPrivateDirectory _).bind fun _ => ?_
    refine (ReadOnly.stat _ _).bind fun agents => ?_
    cases agents with
    | none =>
      refine (readOnly_verifyManagedCodexConfig _).bind fun _ => ?_
      exact readOnly_verifyPrivateSingleLinkRegularFile _
    | some _ => exact .throw _

theorem readOnly_validateReauthEntries (directory : Path) (names : List String)
    (pending : List Path) (entries : ℕ) :
    ReadOnly (validateReauthEntries directory names pending entries) := by
  induction names generalizing pending entries with
  | nil => exact .pure _
  | cons name names ih =>
    refine (ReadOnly.check _).bind fun _ => (ReadOnly.read _ _).bind fun node => ?_
    cases node with
    | directory => exact ih _ _
    | file =>
      refine (readOnly_mapErr (readOnly_verifyPrivateSingleLinkRegularFile _) _).bind fun _ => ?_
      exact ih _ _
    | other => exact .throw _

theorem readOnly_validateReauthDirectories (visits : ℕ) (pending : List Path) (entries : ℕ) :
    ReadOnly (validateReauthDirectories visits pending entries) := by
  induction visits generalizing pending entries with
  | zero =>
    cases pending with
    | nil => exact .pure _
    | cons => exact .throw _
  | succ visits ih =>
    cases pending with
    | nil => exact .pure _
    | cons directory pending =>
      refine (readOnly_mapErr (readOnly_verifyPrivateDirectory _) _).bind fun _ => ?_
      refine (ReadOnly.list _ _).bind fun names => ?_
      exact (readOnly_validateReauthEntries _ _ _ _).bind fun _ => ih _ _

theorem readOnly_validateReauthTree (staging : Path) (profileId : String) :
    ReadOnly (validateReauthTree staging profileId) :=
  (readOnly_mapErr (readOnly_verifyPrivateDirectory _) _).bind fun _ =>
    (readOnly_mapErr (readOnly_readPrivate _) _).bind fun _ => (ReadOnly.check _).bind fun _ =>
      readOnly_validateReauthDirectories _ _ _

/-- A private file is written with its content or not at all, but for what is at its own path. -/
theorem safely_writeReauthPrivateFile {I : ProfileWorld → Prop} {w : ProfileWorld} {path : Path}
    {content : Content} (frame : ∀ w node, I w → I (w.set path node)) (hI : I w) :
    Safely True alone I (writeReauthPrivateFile path content)
      (fun _ w => I w ∧ Holds w path content) (fun _ => I) w := by
  have hremove : ∀ {e : ProfileError} w, I w → Safely True alone I
      (attempt (.remove path) e) (fun _ => I) (fun _ => I) w := by
    intro e w hI
    exact Safely.remove hI (fun _ _ => ⟨frame w none hI, frame w none hI⟩) fun _ => hI
  refine Safely.bind (Safely.bind (Safely.create hI (fun _ => ?_) fun _ => hI))
  have hcreated := frame w (some (.file (.bytes []) true)) hI
  refine ⟨hcreated, Safely.onError ?_⟩
  refine (readOnly_verifyPrivateSingleLinkRegularFile _).safely hcreated (fun _ => ?_)
    fun _ => hremove _ hcreated
  refine Safely.onError (Safely.bind ?_)
  generalize w.set path (some (.file (.bytes []) true)) = w at hcreated
  have hwritten := frame w (some (.file content true)) hcreated
  refine Safely.write hcreated (fun _ => ⟨hwritten, ?_⟩) ?_ fun _ => hremove _ hcreated
  · refine Safely.bind (Safely.sync hwritten ?_ fun _ => hremove _ hwritten)
    exact (readOnly_verifyPrivateSingleLinkRegularFile _).safely hwritten
      (fun _ => ⟨hwritten, by simp [Holds]⟩) fun _ => hremove _ hwritten
  · intro _ _ torn
    have htorn := frame w (some torn) hcreated
    exact ⟨htorn, hremove _ htorn⟩

section Staging

variable {I : ProfileWorld → Prop} {w : ProfileWorld} {provider : Provider}
  {stagingName profileId transactionId : String}

/-- The removal of a staging tree touches nothing else, and a removed tree is gone. -/
theorem safely_safeRemoveReauthStaging
    (frame : ∀ w p, I w → providerRoot provider ++ [stagingName] <+: p → I (w.set p none))
    (hI : I w) :
    Safely True alone I (safeRemoveReauthStaging provider stagingName profileId transactionId)
      (fun _ w => I w ∧ w.at' (providerRoot provider ++ [stagingName]) = none) (fun _ => I) w := by
  refine Safely.bind ((ReadOnly.check _).safely hI (fun _ => ?_) fun _ => hI)
  refine Safely.bind ((readOnly_validateReauthTree _ _).safely hI (fun _ => ?_) fun _ => hI)
  refine safely_mapErr (Safely.bind ?_)
  refine (readOnly_verifyPrivateDirectory _).safely hI (fun _ => ?_) fun _ => hI
  exact safely_removeOwnedDirectory frame hI

theorem safely_removeReauthStagingIfPresent
    (frame : ∀ w p, I w → providerRoot provider ++ [stagingName] <+: p → I (w.set p none))
    (hI : I w) :
    Safely True alone I (removeReauthStagingIfPresent provider stagingName profileId transactionId)
      (fun _ w => I w ∧ w.at' (providerRoot provider ++ [stagingName]) = none) (fun _ => I) w := by
  refine Safely.bind (Safely.stat hI ?_ fun _ => hI)
  cases hnode : w.at' (providerRoot provider ++ [stagingName]) with
  | none => exact Safely.pure ⟨hI, hnode⟩
  | some node => exact safely_safeRemoveReauthStaging frame hI

end Staging

section Transactions

variable [Sha256]

/-! ## Recovery -/

def finishCommittedReauth (profile : Profile) (journal : ReauthJournal) : ProfileAttempt Unit := do
  let home := profile.home
  let digest ← readPrivateDigest (home ++ [journal.credentialName])
  check (rejectIf (digest ≠ journal.newAuthDigest) .reauthRecoveryRequired)
  removeExactPrivateFile (home ++ [journal.backupName]) (some journal.oldAuthDigest)
  removeExactPrivateFile (home ++ [journal.temporaryName]) (some journal.newAuthDigest)
  attempt .sync .io
  removeReauthStagingIfPresent profile.provider journal.stagingName journal.profileId
    journal.transactionId
  attempt .sync .io
  removeExactPrivateFile (journalPath profile) none
  attempt .sync .io

def rollbackUnpublishedReauth (profile : Profile) (journal : ReauthJournal) :
    ProfileAttempt Unit := do
  let home := profile.home
  let digest ← readPrivateDigest (home ++ [journal.credentialName])
  check (rejectIf (digest ≠ journal.oldAuthDigest) .reauthRecoveryRequired)
  removeExactPrivateFile (home ++ [journal.temporaryName]) (some journal.newAuthDigest)
  removeReauthStagingIfPresent profile.provider journal.stagingName journal.profileId
    journal.transactionId
  attempt .sync .io
  removeExactPrivateFile (journalPath profile) none
  attempt .sync .io

def recoverJournaledReauth (profile : Profile) (journal : ReauthJournal) : ProfileAttempt Unit := do
  let current := profile.home ++ [journal.credentialName]
  let temporary := profile.home ++ [journal.temporaryName]
  let currentDigest ← optionalPrivateDigest current
  let temporaryDigest ← optionalPrivateDigest temporary
  let backupDigest ← optionalPrivateDigest (profile.home ++ [journal.backupName])
  check (rejectIf ((∃ digest ∈ backupDigest, digest ≠ journal.oldAuthDigest) ∨
    (∃ digest ∈ temporaryDigest, digest ≠ journal.newAuthDigest)) .reauthRecoveryRequired)
  if currentDigest = some journal.newAuthDigest then
    finishCommittedReauth profile journal
  else if currentDigest = some journal.oldAuthDigest ∧ backupDigest = none ∧
      temporaryDigest = some journal.newAuthDigest then
    rollbackUnpublishedReauth profile journal
  else if currentDigest = some journal.oldAuthDigest ∧ backupDigest = none ∧
      temporaryDigest = none then
    rollbackUnpublishedReauth profile journal
  else if currentDigest = none ∧ backupDigest = some journal.oldAuthDigest ∧
      temporaryDigest = some journal.newAuthDigest then do
    attempt (.rename temporary current) .reauthRecoveryRequired
    let digest ← readPrivateDigest current
    check (rejectIf (digest ≠ journal.newAuthDigest) .reauthRecoveryRequired)
    attempt .sync .reauthCommitUncertain
    finishCommittedReauth profile journal
  else
    throw .reauthRecoveryRequired

def recoverReauthUnderLease [ProviderFiles] (profile : Profile) : ProfileAttempt Unit := do
  match ← attempt (.stat (journalPath profile)) .io with
  | none => cleanupOrphanReauthStaging profile
  | some _ =>
    let journal ← readReauthJournal (journalPath profile)
    check (rejectIf (journal.profileId ≠ profile.id ∨ journal.provider ≠ profile.provider ∨
      journal.credentialName ≠ credentialName profile.provider) .reauthRecoveryRequired)
    mapErr (verifyPrivateDirectory profile.home) fun _ => .reauthRecoveryRequired
    match profile.provider with
    | .codex => mapErr (verifyManagedCodexConfig (profile.home ++ ["config.toml"])) fun _ =>
        .reauthRecoveryRequired
    | .claude => pure ()
    check (validateJournalPaths journal)
    recoverJournaledReauth profile journal

/-! ## The commit -/

/-- A staged login of a profile. -/
structure PendingReauth where
  profile : Profile
  transactionId : String

namespace PendingReauth

variable (pending : PendingReauth)

def credential : String := credentialName pending.profile.provider

def stagingName : String := reauthStagingName pending.profile.id pending.transactionId

def staging : Path := providerRoot pending.profile.provider ++ [pending.stagingName]

def home : Path := pending.staging ++ ["home"]

def currentAuth : Path := pending.profile.home ++ [pending.credential]

def temporary : Path :=
  pending.profile.home ++ [credentialTemporaryName pending.credential pending.transactionId]

def backup : Path :=
  pending.profile.home ++ [credentialBackupName pending.credential pending.transactionId]

def stagingTemporary : Path :=
  pending.staging ++ [".credential-candidate-" ++ pending.transactionId]

/-- The journal of the change from one credential to another. -/
def journal (oldBytes newBytes : List UInt8) : ReauthJournal where
  schemaVersion := reauthJournalSchemaVersion
  provider := pending.profile.provider
  credentialName := pending.credential
  profileId := pending.profile.id
  transactionId := pending.transactionId
  stagingName := pending.stagingName
  temporaryName := credentialTemporaryName pending.credential pending.transactionId
  backupName := credentialBackupName pending.credential pending.transactionId
  oldAuthDigest := authDigest oldBytes
  newAuthDigest := authDigest newBytes

/-- Remove the staging tree, as when the transaction is dropped before its journal is published. -/
def dropStaging : ProfileAttempt Unit :=
  safeRemoveReauthStaging pending.profile.provider pending.stagingName pending.profile.id
    pending.transactionId

/-- The part of a commit whose failure drops the staging tree. -/
def prepareCommit [ProviderFiles] : ProfileAttempt (ReauthJournal × List UInt8) := do
  let _ ← profileHome pending.profile
  let oldBytes ← readPrivateBounded pending.currentAuth maxReauthAuthBytes
  let newBytes ← readPrivateBounded (pending.home ++ [pending.credential]) maxReauthAuthBytes
  ensurePathAbsent pending.temporary
  ensurePathAbsent pending.backup
  ensurePathAbsent pending.stagingTemporary
  let journal := pending.journal oldBytes newBytes
  publishReauthJournal pending.profile pending.staging journal
  pure (journal, newBytes)

/-- The part of a commit that leaves everything to a recovery when it fails. -/
def exchangeCredentials (journal : ReauthJournal) (newBytes : List UInt8) : ProfileAttempt Unit := do
  writeReauthPrivateFile pending.stagingTemporary (.bytes newBytes)
  attempt (.rename pending.stagingTemporary pending.temporary) .reauthRecoveryRequired
  attempt .sync .reauthRecoveryRequired
  let digest ← readPrivateDigest pending.temporary
  check (rejectIf (digest ≠ journal.newAuthDigest) .reauthRecoveryRequired)
  let digest ← readPrivateDigest pending.currentAuth
  check (rejectIf (digest ≠ journal.oldAuthDigest) .reauthRecoveryRequired)
  attempt (.rename pending.currentAuth pending.backup) .reauthRecoveryRequired
  attempt (.rename pending.temporary pending.currentAuth) .reauthRecoveryRequired
  let digest ← readPrivateDigest pending.currentAuth
  check (rejectIf (digest ≠ journal.newAuthDigest) .reauthRecoveryRequired)
  attempt .sync .reauthCommitUncertain
  mapErr (finishCommittedReauth pending.profile journal) fun _ => .reauthCommitUncertain

def commitCredential [ProviderFiles] : ProfileAttempt Profile := do
  let (journal, newBytes) ← onError pending.prepareCommit pending.dropStaging
  pending.exchangeCredentials journal newBytes
  pure pending.profile

end PendingReauth

end Transactions

end Calcifer.Profiles
