import Calcifer.Update.Releases

/-!
# The update check

`verifySelectedRelease` compares what the API, the manifest and the checksums say of the files of a
release, and `checkWith` reports the release of a channel and the archive of a target. What a report
rests on is collected in `Evidence`.
-/

namespace Calcifer.Update

open Checks Program

variable {Version : Type} [LinearOrder Version] (crates : Crates Version)

/-! ## Assets -/

structure ArtifactReport where
  target : String
  name : String
  url : String
  size : ℕ
  sha256 : String
deriving DecidableEq, Repr

structure VerifiedRelease where
  sourceCommit : String
  tagRefDigest : String
  artifact : ArtifactReport
deriving DecidableEq, Repr

inductive UpdateStatus where
  | noReleaseInChannel
  | targetUnsupported
  | upToDate
  | updateAvailable
deriving DecidableEq, Repr

structure ReleaseReport where
  version : String
  tag : String
  url : String
  immutable : Bool
  sourceCommit : String
  tagRefDigest : String
deriving DecidableEq, Repr

structure AttestationEvidence where
  kind : String
  publication : String
  locallyVerified : Bool
deriving DecidableEq, Repr

structure VerificationReport where
  releaseMetadata : String := "verified_immutable"
  manifestBytes : String := "verified"
  checksumsBytes : String := "verified"
  selectedArchiveBytes : String := "not_downloaded"
  artifact : AttestationEvidence :=
    ⟨"github_artifact_attestation", "declared_by_manifest_not_queried", false⟩
  immutableRelease : AttestationEvidence :=
    ⟨"github_release_attestation", "published_by_github_immutable_release", false⟩
deriving DecidableEq, Repr

structure NextAction where
  code : String
  message : String
  url : Option String
deriving DecidableEq, Repr

structure UpdateReport where
  schemaVersion : ℕ := 1
  command : String := "update"
  action : String := "check"
  ok : Bool := true
  status : UpdateStatus
  channel : Channel
  currentVersion : String
  target : String
  release : Option ReleaseReport := none
  artifact : Option ArtifactReport := none
  verification : Option VerificationReport := none
  nextAction : NextAction
deriving DecidableEq, Repr

def UpdateReport.targetUnsupported (channel : Channel) (currentVersion target : String) :
    UpdateReport where
  status := .targetUnsupported
  channel
  currentVersion
  target
  nextAction := {
    code := "build_from_source"
    message := "Build Calcifer from source for exact target " ++ target ++
      "; no other ABI will be substituted."
    url := none }

def nextAction (status : UpdateStatus) (artifact : ArtifactReport) : NextAction :=
  if status = .updateAvailable then {
    code := "download_and_verify_archive"
    message := "Download " ++ artifact.name ++ " and verify sha256:" ++ artifact.sha256 ++
      " before installation; this check did not download the archive."
    url := some artifact.url }
  else {
    code := "none"
    message := "No update is required for this channel and exact target."
    url := none }

end Calcifer.Update
