import Calcifer.Library.Checks
import Calcifer.Library.Serde

/-!
# Release metadata

The metadata of a published release: the releases and assets that the API lists, the manifest and the
checksums. `parseManifest` and `validateManifest` admit one form of the manifest of a version, and
`parseChecksums` one form of the checksums of a set of files.
-/

namespace Calcifer.Update

open Checks Json Serde

def repository : String := "kazu-42/calcifer"
def releaseWorkflow : String := ".github/workflows/release.yml"
def manifestSchema : String := "calcifer-release-manifest-v1"
def manifestName : String := "calcifer-release-manifest-v1.json"
def checksumName : String := "SHA256SUMS"
def maxChecksumBytes : ℕ := 4 * 1024
def supportedTargets : List String :=
  ["aarch64-apple-darwin", "aarch64-unknown-linux-gnu", "x86_64-apple-darwin", "x86_64-pc-windows-msvc",
    "x86_64-unknown-linux-gnu"]

inductive UpdateError where
  | integrity
  | network
  | paginationLimit
  | rateLimited
  | redirectRejected
  | responseTooLarge
  | schema
deriving DecidableEq, Repr

inductive Channel where
  | stable
  | preview
deriving DecidableEq, Repr

def Channel.label : Channel → String
  | .stable => "stable"
  | .preview => "preview"

/-! ## Libraries -/

structure Uri where
  scheme : Option String
  authority : Option String
  path : String
deriving DecidableEq, Repr

/-- What the update check takes from its libraries: versions, a hash, and readers of JSON and URIs. -/
structure Crates (Version : Type) where
  parse : String → Option Version
  display : Version → String
  preIsEmpty : Version → Bool
  buildIsEmpty : Version → Bool
  sha256 : List UInt8 → List UInt8
  fromSlice : List UInt8 → Option Json
  parseUri : String → Option Uri

variable {Version : Type} (crates : Crates Version)

def parseVersion (value : String) : Except UpdateError Version := do
  let version ← okOr (crates.parse value) .schema
  rejectIf (¬crates.buildIsEmpty version ∨ crates.display version ≠ value) .schema
  return version

theorem parseVersion_eq_ok {crates : Crates Version} {value : String} {version : Version} :
    parseVersion crates value = .ok version ↔ crates.parse value = some version ∧
      crates.buildIsEmpty version = true ∧ crates.display version = value := by
  rw [parseVersion, bind_eq_ok]
  simp only [okOr_eq_ok, check_bind_eq_ok, rejectIf_eq_ok, pure_eq_ok, not_or, Decidable.not_not]
  constructor
  · rintro ⟨version, hparse, ⟨hbuild, hdisplay⟩, rfl⟩
    exact ⟨hparse, hbuild, hdisplay⟩
  · rintro ⟨hparse, hbuild, hdisplay⟩
    exact ⟨version, hparse, ⟨hbuild, hdisplay⟩, rfl⟩

def channelOf (version : Version) : Channel :=
  if crates.preIsEmpty version then .stable else .preview

def isLowerHex (value : String) (length : ℕ) : Bool :=
  (Text.bytes value).length = length ∧
    (Text.bytes value).all fun byte => (48 ≤ byte ∧ byte ≤ 57) ∨ (97 ≤ byte ∧ byte ≤ 102)

/-- A byte as two hexadecimal digits. -/
def hexByte (byte : UInt8) : List Char :=
  [Uuid.hexDigit (Fin.ofNat 16 (byte.toNat / 16)), Uuid.hexDigit (Fin.ofNat 16 byte.toNat)]

def sha256Hex (bytes : List UInt8) : String :=
  String.ofList ((crates.sha256 bytes).flatMap hexByte)

/-! ## Releases of the API -/

structure ReleaseAsset where
  id : ℕ
  url : String
  browserDownloadUrl : String
  name : String
  state : String
  size : ℕ
  digest : Option String
deriving DecidableEq, Repr

structure ApiRelease where
  id : ℕ
  tagName : String
  htmlUrl : String
  draft : Bool
  prerelease : Bool
  immutable : Bool
  publishedAt : Option String
  assets : List ReleaseAsset
deriving DecidableEq, Repr

def ReleaseAsset.ofJson (value : Json) : Option ReleaseAsset := do
  let wire ← knownFields ["id", "url", "browser_download_url", "name", "state", "size", "digest"] value
  return {
    id := ← wire.required (unsigned 64) 0 "id"
    url := ← wire.required asStr 1 "url"
    browserDownloadUrl := ← wire.required asStr 2 "browser_download_url"
    name := ← wire.required asStr 3 "name"
    state := ← wire.required asStr 4 "state"
    size := ← wire.required (unsigned 64) 5 "size"
    digest := ← wire.optional asStr 6 "digest" }

def ApiRelease.ofJson (value : Json) : Option ApiRelease := do
  let wire ← knownFields ["id", "tag_name", "html_url", "draft", "prerelease", "immutable",
    "published_at", "assets"] value
  return {
    id := ← wire.required (unsigned 64) 0 "id"
    tagName := ← wire.required asStr 1 "tag_name"
    htmlUrl := ← wire.required asStr 2 "html_url"
    draft := ← wire.required asBool 3 "draft"
    prerelease := ← wire.required asBool 4 "prerelease"
    immutable := ← wire.required asBool 5 "immutable"
    publishedAt := ← wire.optional asStr 6 "published_at"
    assets := ← wire.required (list ReleaseAsset.ofJson) 7 "assets" }

/-! ## The manifest -/

structure ArtifactAttestation where
  job : String
  kind : String
  subjects : String
  workflow : String
deriving DecidableEq, Repr

structure ImmutableReleaseAttestation where
  kind : String
  required : Bool
deriving DecidableEq, Repr

structure SignerWorkflow where
  repository : String
  workflow : String
deriving DecidableEq, Repr

structure ManifestAttestations where
  artifact : ArtifactAttestation
  immutableRelease : ImmutableReleaseAttestation
  signerWorkflow : SignerWorkflow
deriving DecidableEq, Repr

structure ArchiveDescriptor where
  format : String
  name : String
  sha256 : String
  size : ℕ
deriving DecidableEq, Repr

structure BinaryDescriptor where
  path : String
  sha256 : String
deriving DecidableEq, Repr

structure RuntimeRequirement where
  kind : String
  minimumVersion : Option String
  name : String
deriving DecidableEq, Repr

structure TargetDescriptor where
  architecture : String
  archive : ArchiveDescriptor
  binary : BinaryDescriptor
  libc : Option String
  os : String
  runtimeRequirements : List RuntimeRequirement
  target : String
deriving DecidableEq, Repr

structure ReleaseManifest where
  attestations : ManifestAttestations
  product : String
  releaseChannel : String
  repository : String
  schema : String
  sourceCommit : String
  tag : String
  tagRefDigest : String
  targets : List TargetDescriptor
  version : String
deriving DecidableEq, Repr

/-! ### Reading -/

def ArtifactAttestation.ofJson (value : Json) : Option ArtifactAttestation := do
  let wire ← strictFields ["job", "kind", "subjects", "workflow"] value
  return {
    job := ← wire.required asStr 0 "job"
    kind := ← wire.required asStr 1 "kind"
    subjects := ← wire.required asStr 2 "subjects"
    workflow := ← wire.required asStr 3 "workflow" }

def ImmutableReleaseAttestation.ofJson (value : Json) : Option ImmutableReleaseAttestation := do
  let wire ← strictFields ["kind", "required"] value
  return {
    kind := ← wire.required asStr 0 "kind"
    required := ← wire.required asBool 1 "required" }

def SignerWorkflow.ofJson (value : Json) : Option SignerWorkflow := do
  let wire ← strictFields ["repository", "workflow"] value
  return {
    repository := ← wire.required asStr 0 "repository"
    workflow := ← wire.required asStr 1 "workflow" }

def ManifestAttestations.ofJson (value : Json) : Option ManifestAttestations := do
  let wire ← strictFields ["artifact", "immutable_release", "signer_workflow"] value
  return {
    artifact := ← wire.required ArtifactAttestation.ofJson 0 "artifact"
    immutableRelease := ← wire.required ImmutableReleaseAttestation.ofJson 1 "immutable_release"
    signerWorkflow := ← wire.required SignerWorkflow.ofJson 2 "signer_workflow" }

def ArchiveDescriptor.ofJson (value : Json) : Option ArchiveDescriptor := do
  let wire ← strictFields ["format", "name", "sha256", "size"] value
  return {
    format := ← wire.required asStr 0 "format"
    name := ← wire.required asStr 1 "name"
    sha256 := ← wire.required asStr 2 "sha256"
    size := ← wire.required (unsigned 64) 3 "size" }

def BinaryDescriptor.ofJson (value : Json) : Option BinaryDescriptor := do
  let wire ← strictFields ["path", "sha256"] value
  return {
    path := ← wire.required asStr 0 "path"
    sha256 := ← wire.required asStr 1 "sha256" }

def RuntimeRequirement.ofJson (value : Json) : Option RuntimeRequirement := do
  let wire ← strictFields ["kind", "minimum_version", "name"] value
  return {
    kind := ← wire.required asStr 0 "kind"
    minimumVersion := ← wire.optional asStr 1 "minimum_version"
    name := ← wire.required asStr 2 "name" }

def TargetDescriptor.ofJson (value : Json) : Option TargetDescriptor := do
  let wire ← strictFields ["architecture", "archive", "binary", "libc", "os", "runtime_requirements",
    "target"] value
  return {
    architecture := ← wire.required asStr 0 "architecture"
    archive := ← wire.required ArchiveDescriptor.ofJson 1 "archive"
    binary := ← wire.required BinaryDescriptor.ofJson 2 "binary"
    libc := ← wire.optional asStr 3 "libc"
    os := ← wire.required asStr 4 "os"
    runtimeRequirements := ← wire.required (list RuntimeRequirement.ofJson) 5 "runtime_requirements"
    target := ← wire.required asStr 6 "target" }

def ReleaseManifest.ofJson (value : Json) : Option ReleaseManifest := do
  let wire ← strictFields ["attestations", "product", "release_channel", "repository", "schema",
    "source_commit", "tag", "tag_ref_digest", "targets", "version"] value
  return {
    attestations := ← wire.required ManifestAttestations.ofJson 0 "attestations"
    product := ← wire.required asStr 1 "product"
    releaseChannel := ← wire.required asStr 2 "release_channel"
    repository := ← wire.required asStr 3 "repository"
    schema := ← wire.required asStr 4 "schema"
    sourceCommit := ← wire.required asStr 5 "source_commit"
    tag := ← wire.required asStr 6 "tag"
    tagRefDigest := ← wire.required asStr 7 "tag_ref_digest"
    targets := ← wire.required (list TargetDescriptor.ofJson) 8 "targets"
    version := ← wire.required asStr 9 "version" }

/-! ### Writing

The names of every object are in order. -/

def ManifestAttestations.toValue (attestations : ManifestAttestations) : Json :=
  .obj [
    ("artifact", .obj [("job", .str attestations.artifact.job), ("kind", .str attestations.artifact.kind),
      ("subjects", .str attestations.artifact.subjects),
      ("workflow", .str attestations.artifact.workflow)]),
    ("immutable_release", .obj [("kind", .str attestations.immutableRelease.kind),
      ("required", .bool attestations.immutableRelease.required)]),
    ("signer_workflow", .obj [("repository", .str attestations.signerWorkflow.repository),
      ("workflow", .str attestations.signerWorkflow.workflow)])]

def RuntimeRequirement.toValue (requirement : RuntimeRequirement) : Json :=
  .obj ([("kind", .str requirement.kind)] ++
    (requirement.minimumVersion.toList.map fun version => ("minimum_version", .str version)) ++
    [("name", .str requirement.name)])

def TargetDescriptor.toValue (descriptor : TargetDescriptor) : Json :=
  .obj [
    ("architecture", .str descriptor.architecture),
    ("archive", .obj [("format", .str descriptor.archive.format), ("name", .str descriptor.archive.name),
      ("sha256", .str descriptor.archive.sha256), ("size", .int descriptor.archive.size)]),
    ("binary", .obj [("path", .str descriptor.binary.path), ("sha256", .str descriptor.binary.sha256)]),
    ("libc", (descriptor.libc.map Json.str).getD .null),
    ("os", .str descriptor.os),
    ("runtime_requirements", .arr (descriptor.runtimeRequirements.map RuntimeRequirement.toValue)),
    ("target", .str descriptor.target)]

def ReleaseManifest.toValue (manifest : ReleaseManifest) : Json :=
  .obj [
    ("attestations", manifest.attestations.toValue),
    ("product", .str manifest.product),
    ("release_channel", .str manifest.releaseChannel),
    ("repository", .str manifest.repository),
    ("schema", .str manifest.schema),
    ("source_commit", .str manifest.sourceCommit),
    ("tag", .str manifest.tag),
    ("tag_ref_digest", .str manifest.tagRefDigest),
    ("targets", .arr (manifest.targets.map TargetDescriptor.toValue)),
    ("version", .str manifest.version)]

def osRequirement (name : String) : RuntimeRequirement :=
  { kind := "operating_system", minimumVersion := none, name }

def libcRequirement : RuntimeRequirement :=
  { kind := "libc", minimumVersion := some "2.35", name := "glibc" }

def abiRequirement : RuntimeRequirement :=
  { kind := "abi", minimumVersion := none, name := "msvc" }

structure TargetMetadata where
  architecture : String
  os : String
  libc : Option String
  format : String
  binaryName : String
  requirements : List RuntimeRequirement
deriving DecidableEq, Repr

def expectedTargetMetadata (target : String) : TargetMetadata :=
  if target = "aarch64-apple-darwin" then
    ⟨"aarch64", "macos", none, "tar.gz", "calcifer", [osRequirement "macos"]⟩
  else if target = "aarch64-unknown-linux-gnu" then
    ⟨"aarch64", "linux", some "glibc", "tar.gz", "calcifer", [osRequirement "linux", libcRequirement]⟩
  else if target = "x86_64-apple-darwin" then
    ⟨"x86_64", "macos", none, "tar.gz", "calcifer", [osRequirement "macos"]⟩
  else if target = "x86_64-pc-windows-msvc" then
    ⟨"x86_64", "windows", none, "zip", "calcifer.exe", [osRequirement "windows", abiRequirement]⟩
  else if target = "x86_64-unknown-linux-gnu" then
    ⟨"x86_64", "linux", some "glibc", "tar.gz", "calcifer", [osRequirement "linux", libcRequirement]⟩
  else ⟨"", "", none, "", "", []⟩

/-- The text of bytes that are ASCII. -/
def asciiText (bytes : List UInt8) : String :=
  String.ofList (bytes.map fun byte => Char.ofNat byte.toNat)

def isAscii (bytes : List UInt8) : Bool := bytes.all (· < 128)

/-- The digest and the name in a line. -/
def readChecksum (checksums : List (String × String)) (line : List UInt8) :
    Except UpdateError (List (String × String)) := do
  rejectIf (line.length < 67 ∨ (line.drop 64).take 2 ≠ [32, 32]) .schema
  let digest := asciiText (line.take 64)
  let name := asciiText (line.drop 66)
  rejectIf (¬isLowerHex digest 64 ∨ name = "" ∨ name ∈ checksums.map Prod.fst) .schema
  return checksums ++ [(name, digest)]

/-- A set of names, in their order. -/
def nameSet (names : List String) : List String := names.dedup.insertionSort (· ≤ ·)

theorem mem_nameSet {names : List String} {name : String} : name ∈ nameSet names ↔ name ∈ names := by
  rw [nameSet, (List.perm_insertionSort _ _).mem_iff, List.mem_dedup]

/-- The digests of a set of names, which are listed in their order. -/
def parseChecksums (bytes : List UInt8) (expectedNames : List String) :
    Except UpdateError (List (String × String)) := do
  rejectIf (bytes = [] ∨ maxChecksumBytes < bytes.length ∨ 13 ∈ bytes ∨ ¬isAscii bytes) .schema
  rejectIf (bytes.getLast? ≠ some 10) .schema
  let content := bytes.dropLast
  rejectIf (content = [] ∨ content.getLast? = some 10) .schema
  let checksums ← (content.splitOn 10).foldlM readChecksum []
  rejectIf (checksums.map Prod.fst ≠ expectedNames) .integrity
  return checksums

end Calcifer.Update
