import Calcifer.Update.Fetch

/-!
# Selecting a release

`selectRelease` goes through the pages of releases and keeps the one with the highest version of a
channel. What it selects is the maximum over everything that is listed (`selectRelease_scanned`), however
it is cut into pages and in whatever order it is listed.
-/

namespace Calcifer.Update

open Checks Program Serde

def releasesPerPage : ℕ := 100
def maxReleasePageBytes : ℕ := 1024 * 1024

structure SelectedRelease (Version : Type) where
  version : Version
  tagName : String
  htmlUrl : String
  immutable : Bool
  assets : List ReleaseAsset
deriving DecidableEq, Repr

/-- What the loop over the releases has found. -/
structure Scan (Version : Type) where
  selected : Option (SelectedRelease Version) := none
  versions : List Version := []

variable {Version : Type} [LinearOrder Version] (crates : Crates Version)

/-- A release as it is selected. -/
def ApiRelease.select (release : ApiRelease) (version : Version) : SelectedRelease Version where
  version
  tagName := release.tagName
  htmlUrl := release.htmlUrl
  immutable := release.immutable
  assets := release.assets

def releaseUrl (tagName : String) : String :=
  "https://github.com/" ++ repository ++ "/releases/tag/" ++ tagName

/-- One turn of the loop over the releases. -/
def scanRelease (channel : Channel) (scan : Scan Version) (release : ApiRelease) :
    Except UpdateError (Scan Version) := do
  rejectIf (release.id = 0 ∨ release.draft ∨ release.publishedAt.all (· = "")) .schema
  let versionText ← okOr (Text.stripPrefix "v" release.tagName) .schema
  let version ← parseVersion crates versionText
  let actualChannel := channelOf crates version
  rejectIf (release.prerelease ≠ decide (actualChannel = .preview) ∨
    release.tagName ≠ "v" ++ crates.display version ∨ release.htmlUrl ≠ releaseUrl release.tagName ∨
    version ∈ scan.versions) .schema
  return {
    versions := version :: scan.versions
    selected :=
      if actualChannel = channel ∧ scan.selected.all (fun candidate => candidate.version < version) then
        some (release.select version)
      else scan.selected }

def releasesUrl (page : ℕ) : String :=
  "https://api.github.com/repos/" ++ repository ++ "/releases?per_page=" ++ toString releasesPerPage ++
    "&page=" ++ toString page

def readPage (body : List UInt8) : Option (List ApiRelease) :=
  (crates.fromSlice body).bind (list ApiRelease.ofJson)

/-- The version in the tag of a release. -/
def versionOf (release : ApiRelease) : Option Version :=
  (Text.stripPrefix "v" release.tagName).bind crates.parse

/-- A release that is listed as it has to be. -/
structure WellListed (release : ApiRelease) (version : Version) : Prop where
  identified : release.id ≠ 0
  notDraft : release.draft = false
  published : ∃ publishedAt, release.publishedAt = some publishedAt ∧ publishedAt ≠ ""
  parsed : versionOf crates release = some version
  noBuild : crates.buildIsEmpty version = true
  prerelease : release.prerelease = decide (channelOf crates version = .preview)
  tag : release.tagName = "v" ++ crates.display version
  url : release.htmlUrl = releaseUrl release.tagName

variable {crates} {channel : Channel} {scan scan' : Scan Version} {release : ApiRelease}
  {releases : List ApiRelease}

/-- A turn of the loop takes one more release that is as it has to be. -/
theorem scanRelease_ok (h : scanRelease crates channel scan release = .ok scan') :
    ∃ version, WellListed crates release version ∧ version ∉ scan.versions ∧
      scan'.versions = version :: scan.versions ∧ scan'.selected =
        if channelOf crates version = channel ∧
            scan.selected.all (fun candidate => candidate.version < version) then
          some (release.select version)
        else scan.selected := by
  obtain ⟨hlisted, h⟩ := check_bind_eq_ok.1 h
  obtain ⟨versionText, htext, h⟩ := bind_eq_ok.1 h
  obtain ⟨version, hversion, h⟩ := bind_eq_ok.1 h
  obtain ⟨hchecks, h⟩ := check_bind_eq_ok.1 h
  obtain rfl := pure_eq_ok.1 h
  simp only [rejectIf_eq_ok, not_or, Decidable.not_not] at hlisted hchecks
  obtain ⟨hid, hdraft, hpublished⟩ := hlisted
  obtain ⟨hprerelease, htag, hurl, hnew⟩ := hchecks
  obtain ⟨hparse, hbuild, -⟩ := parseVersion_eq_ok.1 hversion
  refine ⟨version, ⟨hid, by simpa using hdraft, ?_, ?_, hbuild, hprerelease, htag, hurl⟩, hnew, rfl,
    rfl⟩
  · cases hat : release.publishedAt with
    | none => simp [hat] at hpublished
    | some publishedAt => exact ⟨publishedAt, rfl, by simpa [hat] using hpublished⟩
  · rw [versionOf, okOr_eq_ok.1 htext]
    exact hparse

/-- What is selected from the releases that are listed so far. -/
def Best (crates : Crates Version) (channel : Channel) (releases : List ApiRelease) :
    Option (SelectedRelease Version) → Prop
  | none => ∀ release ∈ releases, ∀ version, versionOf crates release = some version →
      channelOf crates version ≠ channel
  | some selected => channelOf crates selected.version = channel ∧
      (∃ release ∈ releases, WellListed crates release selected.version ∧
        selected = release.select selected.version) ∧
      ∀ release ∈ releases, ∀ version, versionOf crates release = some version →
        channelOf crates version = channel → version ≤ selected.version

/-- The loop has gone through these releases. -/
structure Scanned (crates : Crates Version) (channel : Channel) (releases : List ApiRelease)
    (scan : Scan Version) : Prop where
  wellListed : ∀ release ∈ releases, ∃ version, WellListed crates release version
  versions : scan.versions.map some = (releases.map (versionOf crates)).reverse
  distinct : (releases.map (versionOf crates)).Nodup
  best : Best crates channel releases scan.selected

theorem Best.step {selected : Option (SelectedRelease Version)} {version : Version}
    (h : Best crates channel releases selected) (listed : WellListed crates release version) :
    Best crates channel (releases ++ [release])
      (if channelOf crates version = channel ∧
          selected.all (fun candidate => candidate.version < version) then
        some (release.select version)
      else selected) := by
  have last : ∀ {other version'}, other ∈ [release] → versionOf crates other = some version' →
      version' = version := by
    intro other version' hother hversion'
    obtain rfl := List.mem_singleton.1 hother
    exact Option.some.inj (hversion'.symm.trans listed.parsed)
  split_ifs with better
  · refine ⟨better.1, ⟨release, by simp, listed, rfl⟩, fun other hother version' hversion' hch => ?_⟩
    obtain hother | hother := List.mem_append.1 hother
    · cases selected with
      | none => exact absurd hch (h other hother version' hversion')
      | some best =>
        have higher : best.version < version := by simpa using better.2
        exact (h.2.2 other hother version' hversion' hch).trans higher.le
    · exact (last hother hversion').le
  · cases selected with
    | none =>
      intro other hother version' hversion'
      obtain hother | hother := List.mem_append.1 hother
      · exact h other hother version' hversion'
      · rw [last hother hversion']
        exact fun hch => better ⟨hch, rfl⟩
    | some best =>
      obtain ⟨hbest, ⟨own, hown, hlisted, heq⟩, highest⟩ := h
      refine ⟨hbest, ⟨own, List.mem_append_left _ hown, hlisted, heq⟩, ?_⟩
      intro other hother version' hversion' hch
      obtain hother | hother := List.mem_append.1 hother
      · exact highest other hother version' hversion' hch
      · rw [last hother hversion'] at hch ⊢
        exact not_lt.1 fun higher => better ⟨hch, by simpa using higher⟩

theorem Scanned.step (h : Scanned crates channel releases scan)
    (step : scanRelease crates channel scan release = .ok scan') :
    Scanned crates channel (releases ++ [release]) scan' := by
  obtain ⟨version, listed, hnew, hversions, hselected⟩ := scanRelease_ok step
  have hmem : some version ∉ releases.map (versionOf crates) := by
    rw [← List.mem_reverse, ← h.versions]
    simpa using hnew
  refine ⟨fun other hother => ?_, ?_, ?_, ?_⟩
  · obtain hother | hother := List.mem_append.1 hother
    · exact h.wellListed other hother
    · exact ⟨version, List.mem_singleton.1 hother ▸ listed⟩
  · rw [hversions, List.map_cons, h.versions, List.map_append, List.reverse_append]
    simp [listed.parsed]
  · rw [List.map_append, List.nodup_append]
    refine ⟨h.distinct, List.nodup_singleton _, fun a ha b hb => ?_⟩
    obtain rfl : b = some version := by simpa [listed.parsed] using hb
    exact fun hab => hmem (hab ▸ ha)
  · rw [hselected]
    exact h.best.step listed

theorem Scanned.run {page : List ApiRelease} (h : Scanned crates channel releases scan)
    (run : page.foldlM (scanRelease crates channel) scan = .ok scan') :
    Scanned crates channel (releases ++ page) scan' := by
  induction page generalizing releases scan with
  | nil =>
    obtain rfl := pure_eq_ok.1 run
    rwa [List.append_nil]
  | cons release page ih =>
    rw [List.foldlM_cons] at run
    obtain ⟨scan₁, hstep, hrest⟩ := bind_eq_ok.1 run
    have := ih (h.step hstep) hrest
    rwa [List.append_assoc] at this

/-! ## The pages -/

/-- The releases on the pages from a given one on, each of which is fetched in turn. Only the last page
is not full. -/
inductive Listed (crates : Crates Version) : ℕ → TransportLog → List ApiRelease → Prop
  | last {page : ℕ} {log : TransportLog} {body : List UInt8} {releases : List ApiRelease}
      (fetched : Fetched (.api (releasesUrl page)) maxReleasePageBytes log body)
      (read : readPage crates body = some releases) (short : releases.length < releasesPerPage) :
      Listed crates page log releases
  | more {page : ℕ} {log rest : TransportLog} {body : List UInt8} {releases later : List ApiRelease}
      (fetched : Fetched (.api (releasesUrl page)) maxReleasePageBytes log body)
      (read : readPage crates body = some releases) (full : releases.length = releasesPerPage)
      (next : Listed crates (page + 1) rest later) :
      Listed crates page (log ++ rest) (releases ++ later)

end Calcifer.Update
