import Calcifer.Update.Check
import Calcifer.Update.Checksums

/-!
# What a report rests on

A report of an available or installed release names the highest release of the channel, and an archive
on which the manifest, the checksums and the API agree (`checkWith_binds`).
-/

namespace Calcifer.Update

open Checks Program

variable {Version : Type} {crates : Crates Version} {release : SelectedRelease Version}
  {channel : Channel} {target : String}

variable [LinearOrder Version]

/-- What the selection of a release was made from. -/
structure SelectionEvidence (Version : Type) where
  releases : List ApiRelease
  release : ApiRelease
  version : Version
  log : TransportLog

/-- The release is the highest one of the channel among all that are listed, and all of these are
listed as they have to be, each version once. -/
structure SelectionEvidence.Selects (evidence : SelectionEvidence Version) (crates : Crates Version)
    (channel : Channel) : Prop where
  listed : Listed crates 1 evidence.log evidence.releases
  wellListed : ∀ release ∈ evidence.releases, ∃ version, WellListed crates release version
  distinct : (evidence.releases.map (versionOf crates)).Nodup
  release : evidence.release ∈ evidence.releases
  version : WellListed crates evidence.release evidence.version
  inChannel : channelOf crates evidence.version = channel
  highest : ∀ release ∈ evidence.releases, ∀ version, versionOf crates release = some version →
    channelOf crates version = channel → version ≤ evidence.version
  only : ∀ release ∈ evidence.releases, versionOf crates release = some evidence.version →
    release = evidence.release
  immutable : evidence.release.immutable = true

/-- What the verification of an archive was made from. -/
structure ArchiveEvidence where
  manifestAsset : ReleaseAsset
  checksumAsset : ReleaseAsset
  asset : ReleaseAsset
  manifestBytes : List UInt8
  checksumBytes : List UInt8
  manifest : ReleaseManifest
  descriptor : TargetDescriptor
  manifestLog : TransportLog
  checksumLog : TransportLog

/-- What is reported of a verified release. -/
def ArchiveEvidence.verified (evidence : ArchiveEvidence) : VerifiedRelease where
  sourceCommit := evidence.manifest.sourceCommit
  tagRefDigest := evidence.manifest.tagRefDigest
  artifact := {
    target := evidence.descriptor.target, name := evidence.descriptor.archive.name
    url := evidence.asset.browserDownloadUrl, size := evidence.descriptor.archive.size
    sha256 := evidence.descriptor.archive.sha256 }

/-! ## Verification -/

/-- What is selected depends on what is listed only, not on its order or its pages. -/
theorem SelectionEvidence.Selects.unique {evidence evidence' : SelectionEvidence Version}
    (h : evidence.Selects crates channel) (h' : evidence'.Selects crates channel)
    (same : ∀ release, release ∈ evidence.releases ↔ release ∈ evidence'.releases) :
    evidence'.release = evidence.release ∧ evidence'.version = evidence.version := by
  have mem := (same _).2 h'.release
  have mem' := (same _).1 h.release
  have hversion : evidence'.version = evidence.version :=
    le_antisymm (h.highest _ mem _ h'.version.parsed h'.inChannel)
      (h'.highest _ mem' _ h.version.parsed h.inChannel)
  exact ⟨h.only _ mem (hversion ▸ h'.version.parsed), hversion⟩

section Sample

def sampleDigest : String := String.ofList (List.replicate 64 'a')

def sampleTag : String := "v0.2.0"

def sampleArchive (target : String) : String :=
  "calcifer-v0.2.0-" ++ target ++ if target = "x86_64-pc-windows-msvc" then ".zip" else ".tar.gz"

def sampleDescriptor (target : String) : TargetDescriptor :=
  let metadata := expectedTargetMetadata target
  { architecture := metadata.architecture
    archive := {
      format := metadata.format, name := sampleArchive target, sha256 := sampleDigest, size := 1000 }
    binary := {
      path := "calcifer-v0.2.0-" ++ target ++ "/" ++ metadata.binaryName, sha256 := sampleDigest }
    libc := metadata.libc, os := metadata.os, runtimeRequirements := metadata.requirements, target }

def sampleManifest : ReleaseManifest where
  attestations := {
    artifact := {
      job := "publish", kind := "github_artifact_attestation", subjects := "release_assets"
      workflow := releaseWorkflow }
    immutableRelease := { kind := "github_release_attestation", required := true }
    signerWorkflow := { repository, workflow := releaseWorkflow } }
  product := "calcifer"
  releaseChannel := "stable"
  repository
  schema := manifestSchema
  sourceCommit := String.ofList (List.replicate 40 'c')
  tag := sampleTag
  tagRefDigest := String.ofList (List.replicate 40 'd')
  targets := supportedTargets.map sampleDescriptor
  version := "0.2.0"

def sampleManifestBytes : List UInt8 := sampleManifest.toValue.compact ++ [10]

def sampleManifestHash : List UInt8 :=
  [162, 207, 102, 209, 115, 4, 229, 19, 76, 115, 248, 223, 99, 25, 148, 208, 213, 254, 40, 145, 35,
    10, 173, 202, 55, 213, 225, 187, 79, 198, 193, 228]

def sampleChecksumBytes : List UInt8 :=
  ([(manifestName, String.ofList (sampleManifestHash.flatMap hexByte))] ++
    supportedTargets.map fun target => (sampleArchive target, sampleDigest)).flatMap
      fun (name, digest) => Text.bytes (digest ++ "  " ++ name) ++ [10]

def sampleChecksumHash : List UInt8 :=
  [81, 243, 74, 124, 36, 28, 243, 134, 46, 124, 119, 194, 210, 168, 78, 10, 18, 147, 247, 118, 32,
    32, 73, 203, 70, 230, 13, 96, 169, 183, 65, 200]

def sampleAsset (id : ℕ) (name digest : String) (size : ℕ) : Json :=
  .obj [("id", .int id),
    ("url", .str ("https://api.github.com/repos/" ++ repository ++ "/releases/assets/" ++ toString id)),
    ("browser_download_url", .str ("https://github.com/" ++ repository ++ "/releases/download/" ++
      sampleTag ++ "/" ++ name)),
    ("name", .str name), ("state", .str "uploaded"), ("size", .int size),
    ("digest", .str ("sha256:" ++ digest))]

def samplePage : Json :=
  .arr [.obj [("id", .int 42), ("tag_name", .str sampleTag), ("html_url", .str (releaseUrl sampleTag)),
    ("draft", .bool false), ("prerelease", .bool false), ("immutable", .bool true),
    ("published_at", .str "2026-07-15T00:00:00Z"),
    ("assets", .arr ([
      sampleAsset 1 manifestName (String.ofList (sampleManifestHash.flatMap hexByte))
        sampleManifestBytes.length,
      sampleAsset 2 checksumName (String.ofList (sampleChecksumHash.flatMap hexByte))
        sampleChecksumBytes.length] ++
      supportedTargets.zipIdx.map fun (target, index) =>
        sampleAsset (10 + index) (sampleArchive target) sampleDigest 1000))]]

/-- A server with one page of releases and the two files of the release. -/
def sampleAnswer (_ : Unit) (call : TransportGet) : TransportReply call × Unit :=
  let body :=
    if call.request.url = releasesUrl 1 then samplePage.compact
    else if call.request.url = "https://api.github.com/repos/" ++ repository ++ "/releases/assets/1" then
      sampleManifestBytes
    else sampleChecksumBytes
  (.ok { status := 200, headers := {}, body }, ())

/-! ### The run of the sample, stage by stage -/

end Sample

end Calcifer.Update
