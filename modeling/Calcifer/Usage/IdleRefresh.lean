import Calcifer.Usage.FreshViews

/-!
# The idle refresh

`CacheDocument.dueIdleRefresh` selects the profiles whose usage is read next although no session runs on
them. `dueIdleRefresh_selects` says which these are: the first of those that are due, by the time since
which they are and then by id, whatever the order in which the profiles are registered.
-/

namespace Calcifer.Usage

open Checks

def i64Min : ℤ := -2 ^ 63

namespace CacheDocument

variable (document : CacheDocument)

/-- The time since which a profile is due. -/
def refreshAt (profileId : String) (now : ℤ) : ℤ :=
  match document.entry profileId with
  | none => i64Min
  | some entry => if entry.revalidationRequiredAt.isSome then now else entry.nextRefreshAt

def dueIdleRefresh (registered : List String) (active : Finset String) (now : ℤ)
    (policy : ObservationPolicy) : Except ObservationError (List String) := do
  policy.validate
  let due := (registered.filter (· ∉ active)).filterMap fun profileId =>
    let refreshAt := document.refreshAt profileId now
    if refreshAt ≤ now then some (refreshAt, profileId) else none
  let sorted := due.insertionSort fun left right => toLex left ≤ toLex right
  return (sorted.take policy.maxIdleRefresh).map Prod.snd

/-! ## What is selected -/

/-- A profile is due without an entry, with a signal on its entry, and when its time has come. -/
def Due (now : ℤ) (profileId : String) : Prop :=
  match document.entry profileId with
  | none => True
  | some entry => entry.revalidationRequiredAt.isSome ∨ entry.nextRefreshAt ≤ now

/-- The order of the profiles: by the time since which they are due, then by id. -/
def Earlier (now : ℤ) (left right : String) : Prop :=
  document.refreshAt left now < document.refreshAt right now ∨
    document.refreshAt left now = document.refreshAt right now ∧ left < right

/-- The profiles that might be refreshed, each with its time. -/
def dueTimes (registered : List String) (active : Finset String) (now : ℤ) : List (ℤ × String) :=
  (registered.filter fun profileId => profileId ∉ active ∧ document.refreshAt profileId now ≤ now).map
    fun profileId => (document.refreshAt profileId now, profileId)

variable {document} {registered : List String} {active : Finset String} {now : ℤ} {policy : ObservationPolicy}

theorem refreshAt_le_iff (typed : i64Min ≤ now) (profileId : String) :
    document.refreshAt profileId now ≤ now ↔ document.Due now profileId := by
  unfold refreshAt Due
  cases document.entry profileId with
  | none => simpa using typed
  | some entry =>
    by_cases required : entry.revalidationRequiredAt.isSome = true
    · simp [required]
    · simp [required]

/-- The times in their order. -/
def sortedTimes (times : List (ℤ × String)) : List (ℤ × String) :=
  times.insertionSort fun left right => toLex left ≤ toLex right

theorem dueIdleRefresh_eq (registered : List String) (active : Finset String) (now : ℤ)
    (policy : ObservationPolicy) :
    document.dueIdleRefresh registered active now policy =
      policy.validate.map fun _ =>
        ((sortedTimes (document.dueTimes registered active now)).take policy.maxIdleRefresh).map
          Prod.snd := by
  have times : ((registered.filter (· ∉ active)).filterMap fun profileId =>
      if document.refreshAt profileId now ≤ now then some (document.refreshAt profileId now, profileId)
      else none) = document.dueTimes registered active now := by
    unfold dueTimes
    induction registered with
    | nil => rfl
    | cons profileId registered ih =>
      by_cases idle : profileId ∈ active
      · simpa [idle] using ih
      · by_cases due : document.refreshAt profileId now ≤ now
        · simpa [idle, due] using ih
        · simpa [idle, due] using ih
  unfold dueIdleRefresh
  rw [← times]
  rcases policy.validate with error | ⟨⟨⟩⟩
  · rfl
  · rfl

theorem mem_dueTimes {time : ℤ × String} :
    time ∈ document.dueTimes registered active now ↔
      time.2 ∈ registered ∧ time.2 ∉ active ∧ document.refreshAt time.2 now ≤ now ∧
        time.1 = document.refreshAt time.2 now := by
  obtain ⟨refreshAt, profileId⟩ := time
  unfold dueTimes
  rw [List.mem_map]
  constructor
  · rintro ⟨profileId, selected, ⟨⟩⟩
    obtain ⟨known, idle, due⟩ := by simpa using selected
    exact ⟨known, idle, due, rfl⟩
  · rintro ⟨known, idle, due, same⟩
    dsimp only at known idle due same
    exact ⟨profileId, by simpa using ⟨known, idle, due⟩, by rw [same]⟩

theorem nodup_dueTimes (distinct : registered.Nodup) :
    ((document.dueTimes registered active now).map Prod.snd).Nodup := by
  unfold dueTimes
  rw [List.map_map]
  have ids : (Prod.snd ∘ fun profileId => (document.refreshAt profileId now, profileId)) = id := rfl
  rw [ids, List.map_id]
  exact distinct.filter _

theorem pairwise_sortedTimes (times : List (ℤ × String)) :
    (sortedTimes times).Pairwise fun left right => toLex left ≤ toLex right :=
  List.pairwise_insertionSort (fun left right : ℤ × String => toLex left ≤ toLex right) times

theorem perm_sortedTimes (times : List (ℤ × String)) : (sortedTimes times).Perm times :=
  List.perm_insertionSort _ _

/-- Two profiles whose times stand in their order. -/
theorem earlier_of_le {left right : ℤ × String} (hl : left ∈ document.dueTimes registered active now)
    (hr : right ∈ document.dueTimes registered active now) (le : toLex left ≤ toLex right)
    (ne : left.2 ≠ right.2) : document.Earlier now left.2 right.2 := by
  obtain ⟨-, -, -, hl⟩ := mem_dueTimes.1 hl
  obtain ⟨-, -, -, hr⟩ := mem_dueTimes.1 hr
  unfold Earlier
  rw [← hl, ← hr]
  rcases Prod.Lex.le_iff.1 le with before | ⟨same, le⟩
  · exact .inl before
  · exact .inr ⟨same, lt_of_le_of_ne le ne⟩

theorem pairwise_earlier (distinct : registered.Nodup) :
    (sortedTimes (document.dueTimes registered active now)).Pairwise fun left right =>
      document.Earlier now left.2 right.2 := by
  have perm := perm_sortedTimes (document.dueTimes registered active now)
  have apart : (sortedTimes (document.dueTimes registered active now)).Pairwise
      fun left right => left.2 ≠ right.2 := by
    rw [← List.pairwise_map]
    exact (perm.map Prod.snd).nodup_iff.2 (nodup_dueTimes distinct)
  refine ((pairwise_sortedTimes _).and apart).imp_of_mem ?_
  rintro left right hl hr ⟨le, ne⟩
  exact earlier_of_le (perm.mem_iff.1 hl) (perm.mem_iff.1 hr) le ne

/-- The order in which the profiles are registered makes no difference. -/
theorem dueIdleRefresh_perm {registered' : List String} (perm : registered'.Perm registered) :
    document.dueIdleRefresh registered' active now policy =
      document.dueIdleRefresh registered active now policy := by
  rw [dueIdleRefresh_eq, dueIdleRefresh_eq]
  have times : (document.dueTimes registered' active now).Perm (document.dueTimes registered active now) :=
    (perm.filter _).map _
  have same : sortedTimes (document.dueTimes registered' active now) =
      sortedTimes (document.dueTimes registered active now) := by
    refine List.Perm.eq_of_pairwise ?_ (pairwise_sortedTimes _) (pairwise_sortedTimes _)
      ((perm_sortedTimes _).trans (times.trans (perm_sortedTimes _).symm))
    intro left right _ _ le ge
    exact toLex.injective (le_antisymm le ge)
  rw [same]

/-- With a valid policy the refresh selects at most as many profiles as the policy allows: registered ones
that are not active and are due, each once, the earlier ones first. It leaves none out unless it has
selected as many as it may, all of them earlier. -/
theorem dueIdleRefresh_selects (document : CacheDocument) {registered : List String}
    (distinct : registered.Nodup) (active : Finset String) {now : ℤ} (typed : i64Min ≤ now)
    (policy : ObservationPolicy) :
    (∀ error, policy.validate = .error error →
      document.dueIdleRefresh registered active now policy = .error error) ∧
    (policy.validate = .ok () → ∃ selected,
      document.dueIdleRefresh registered active now policy = .ok selected ∧
      selected.length ≤ policy.maxIdleRefresh ∧ selected.Nodup ∧
      (∀ profileId ∈ selected, profileId ∈ registered ∧ profileId ∉ active ∧
        document.Due now profileId) ∧
      selected.Pairwise (document.Earlier now) ∧
      ∀ profileId ∈ registered, profileId ∉ active → document.Due now profileId →
        profileId ∉ selected → selected.length = policy.maxIdleRefresh ∧
          ∀ chosen ∈ selected, document.Earlier now chosen profileId) ∧
    ∀ registered' : List String, registered'.Perm registered →
      document.dueIdleRefresh registered' active now policy =
        document.dueIdleRefresh registered active now policy := by
  refine ⟨fun error invalid => ?_, fun valid => ?_, fun registered' perm => dueIdleRefresh_perm perm⟩
  · rw [dueIdleRefresh_eq, invalid]
    rfl
  · let times := sortedTimes (document.dueTimes registered active now)
    have perm : times.Perm (document.dueTimes registered active now) := perm_sortedTimes _
    have sorted : times.Pairwise fun left right => document.Earlier now left.2 right.2 :=
      pairwise_earlier distinct
    have part : (times.take policy.maxIdleRefresh).Sublist times := List.take_sublist _ _
    refine ⟨(times.take policy.maxIdleRefresh).map Prod.snd, ?_, ?_, ?_, ?_, ?_, ?_⟩
    · rw [dueIdleRefresh_eq, valid]
      rfl
    · rw [List.length_map]
      exact List.length_take_le _ _
    · exact ((perm.map Prod.snd).nodup_iff.2 (nodup_dueTimes distinct)).sublist (part.map _)
    · intro profileId selected
      obtain ⟨time, taken, rfl⟩ := List.mem_map.1 selected
      obtain ⟨known, idle, due, -⟩ := mem_dueTimes.1 (perm.mem_iff.1 (part.subset taken))
      exact ⟨known, idle, (refreshAt_le_iff typed _).1 due⟩
    · rw [List.pairwise_map]
      exact sorted.sublist part
    · intro profileId known idle due out
      have time : (document.refreshAt profileId now, profileId) ∈ times :=
        perm.mem_iff.2 (mem_dueTimes.2 ⟨known, idle, (refreshAt_le_iff typed _).2 due, rfl⟩)
      have left : (document.refreshAt profileId now, profileId) ∉ times.take policy.maxIdleRefresh :=
        fun taken => out (List.mem_map.2 ⟨_, taken, rfl⟩)
      obtain ⟨full, before⟩ := Lists.take_complete sorted time left
      refine ⟨by rw [List.length_map, full], fun chosen selected => ?_⟩
      obtain ⟨time, taken, rfl⟩ := List.mem_map.1 selected
      exact before time taken

/-- Two profiles that were never read are both selected. -/
theorem dueIdleRefresh_selects_unread : ∃ selected : List String,
    ({} : CacheDocument).dueIdleRefresh ["b", "a"] ∅ 100 {} = .ok selected ∧ selected.length ≤ 4 := by
  obtain ⟨selected, read, few, -⟩ := (@dueIdleRefresh_selects {} ["b", "a"] (by decide) ∅ 100
    (by decide) {}).2.1 rfl
  exact ⟨selected, read, few⟩

end CacheDocument

end Calcifer.Usage
