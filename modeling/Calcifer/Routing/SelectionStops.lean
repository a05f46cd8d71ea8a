import Calcifer.Routing.SelectionPass

/-!
# Why a pass stops

What the log of a run says of one candidate depends only on the calls that ask about it. So in a run
over distinct candidates each of them has exactly one verdict, and the counters of a stop tell which
verdicts there are.
-/

namespace Calcifer.Routing

open Lists Usage Program

variable {ρ ε : Type} {pass : Pass} {id : String} {log log' : SelectionLog ρ ε} {verdict other : Verdict}

/-! ## Verdicts -/

/-- The log shows a fresh authoritative exhaustion of the profile. -/
def Exhausts (log : SelectionLog ρ ε) (id : String) : Prop :=
  (∃ view, isFreshAuthoritativeExhaustion view = true ∧
    ⟨.cachedUsage id, (.ok (some view) : Except ε (Option UsageView))⟩ ∈ log) ∨
  ∃ candidate, isFreshAuthoritativeExhaustion candidate.usage = true ∧
    ⟨.reserveAndRevalidate id, (.ok (.ready candidate) : Except ε (ReservationResult ρ))⟩ ∈ log

/-- The profile could not be reserved. -/
def Occupied (log : SelectionLog ρ ε) (id : String) : Prop :=
  ⟨.reserveAndRevalidate id, (.ok .busy : Except ε (ReservationResult ρ))⟩ ∈ log

/-- The reservation of the profile came without a usage that decides. -/
def Pass.Undecided (pass : Pass) (log : SelectionLog ρ ε) (id : String) : Prop :=
  ⟨.reserveAndRevalidate id, (.ok .unknown : Except ε (ReservationResult ρ))⟩ ∈ log ∨
  ∃ candidate, pass.accepts candidate.usage = false ∧
    isFreshAuthoritativeExhaustion candidate.usage = false ∧
    ⟨.reserveAndRevalidate id, (.ok (.ready candidate) : Except ε (ReservationResult ρ))⟩ ∈ log

/-- What the log of a run says of a candidate. -/
def Pass.Tells (pass : Pass) (log : SelectionLog ρ ε) (id : String) : Verdict → Prop
  | .cooldown => id ∈ pass.cooldownProfileIds
  | .exhausted => id ∉ pass.cooldownProfileIds ∧ Exhausts log id
  | .unknown => id ∉ pass.cooldownProfileIds ∧ pass.Undecided log id
  | .busy => id ∉ pass.cooldownProfileIds ∧ Occupied log id

/-- A candidate with fresh exhaustion is not accepted. -/
theorem Pass.accepts_eq_false {usage : UsageView} (h : isFreshAuthoritativeExhaustion usage = true) :
    pass.accepts usage = false := by
  simp only [isFreshAuthoritativeExhaustion, decide_eq_true_eq] at h
  simp [Pass.accepts, isFreshAuthoritativeAvailable, h.1]

/-- Only the calls about a candidate matter to its verdict. -/
theorem Pass.Tells.mono (h : pass.Tells log id verdict)
    (sub : ∀ entry ∈ log, entry.1.asks = some id → entry ∈ log') : pass.Tells log' id verdict := by
  cases verdict with
  | cooldown => exact h
  | busy => exact ⟨h.1, sub _ h.2 rfl⟩
  | exhausted =>
    refine ⟨h.1, h.2.imp ?_ ?_⟩
    · rintro ⟨view, hx, hmem⟩
      exact ⟨view, hx, sub _ hmem rfl⟩
    · rintro ⟨candidate, hx, hmem⟩
      exact ⟨candidate, hx, sub _ hmem rfl⟩
  | unknown =>
    refine ⟨h.1, h.2.imp (fun hmem => sub _ hmem rfl) ?_⟩
    rintro ⟨candidate, no, hx, hmem⟩
    exact ⟨candidate, no, hx, sub _ hmem rfl⟩

/-- The calls about a candidate say its verdict, and no other one. -/
theorem Pass.Judged.tells_iff (h : pass.Judged id log verdict) :
    pass.Tells log id other ↔ other = verdict := by
  cases h with
  | cooldown hc => cases other <;> simp [Pass.Tells, hc]
  | exhausted hc probed =>
    cases probed with
    | cached view hx => cases other <;> simp [Pass.Tells, Exhausts, Occupied, Pass.Undecided, hc, hx]
    | exhausted h candidate no hx =>
      cases other <;> simp [Pass.Tells, Exhausts, Occupied, Pass.Undecided, hc, hx, uncached]
  | unknown hc probed =>
    cases probed with
    | unknown h =>
      cases other <;> simp [Pass.Tells, Exhausts, Occupied, Pass.Undecided, hc, uncached]
      grind
    | undecided h candidate no hx =>
      cases other <;> simp [Pass.Tells, Exhausts, Occupied, Pass.Undecided, hc, hx, no, uncached]
      grind
  | busy hc probed =>
    cases probed with
    | busy h =>
      cases other <;> simp [Pass.Tells, Exhausts, Occupied, Pass.Undecided, hc, uncached]
      grind

variable {ids : List String} {verdicts : List Verdict}

/-- In a log that says the same of the candidates that were passed over, each has its one verdict. -/
theorem Pass.Passed.tells (h : pass.Passed ids log verdicts) (nodup : ids.Nodup)
    (same : ∀ id ∈ ids, ∀ entry, entry.1.asks = some id → (entry ∈ log' ↔ entry ∈ log)) :
    List.Forall₂ (fun id verdict => ∀ other, pass.Tells log' id other ↔ other = verdict)
      ids verdicts := by
  induction h with
  | nil => exact .nil
  | @cons id ids log₁ logs verdict verdicts judged rest ih =>
    rw [List.nodup_cons] at nodup
    refine .cons (fun other => ?_) (ih nodup.2 fun id' hid' entry asks => ?_)
    · have agree : ∀ entry, entry.1.asks = some id → (entry ∈ log' ↔ entry ∈ log₁) := by
        intro entry asks
        rw [same id List.mem_cons_self entry asks, List.mem_append, or_iff_left]
        exact fun hmem => nodup.1 (rest.asks entry hmem id asks)
      refine Iff.trans ?_ judged.tells_iff
      exact ⟨fun h => h.mono fun entry hmem asks => (agree entry asks).1 hmem,
        fun h => h.mono fun entry hmem asks => (agree entry asks).2 hmem⟩
    · rw [same id' (List.mem_cons_of_mem id hid') entry asks, List.mem_append, or_iff_right]
      intro hmem
      rw [judged.asks entry hmem id' asks] at hid'
      exact nodup.1 hid'

/-! ## Counting -/

/-- Every verdict is counted once. -/
theorem count_verdicts (verdicts : List Verdict) :
    verdicts.count .exhausted + verdicts.count .unknown + verdicts.count .busy +
      verdicts.count .cooldown = verdicts.length := by
  induction verdicts with
  | nil => rfl
  | cons verdict verdicts ih =>
    cases verdict <;> simp only [List.count_cons, List.length_cons] <;> simp <;> omega

/-- The outcome is read off the counters. -/
theorem SelectionStop.outcome_iff {stop : SelectionStop}
    (total : stop.candidates = stop.exhausted + stop.unknown + stop.busy + stop.cooldown) :
    (stop.outcome = .noEligible stop ↔ stop.exhausted = 0 ∧ stop.unknown = 0 ∧ stop.busy = 0) ∧
    (stop.outcome = .exhausted stop ↔ 0 < stop.exhausted ∧ stop.unknown = 0 ∧ stop.busy = 0) ∧
    (stop.outcome = .busy stop ↔ 0 < stop.busy) ∧
    (stop.outcome = .allUnknown stop ↔ stop.busy = 0 ∧ 0 < stop.unknown) := by
  have eligible : stop.candidates - stop.cooldown = stop.exhausted + stop.unknown + stop.busy := by
    omega
  simp only [SelectionStop.outcome, eligible]
  split_ifs with none all some
  all_goals simp
  all_goals omega

def SelectionOutcome.stop : SelectionOutcome → Option SelectionStop
  | .selected _ => none
  | .exhausted stop | .allUnknown stop | .busy stop | .noEligible stop => some stop

theorem SelectionStop.stop_outcome (stop : SelectionStop) : stop.outcome.stop = some stop := by
  simp only [SelectionStop.outcome]
  split_ifs
  all_goals rfl

/-- In a list of candidates that have one verdict each, a verdict is counted when a candidate has
it. -/
theorem exists_tells_iff {verdict : Verdict}
    (h : List.Forall₂ (fun id verdict => ∀ other, pass.Tells log id other ↔ other = verdict) ids
      verdicts) :
    (∃ id ∈ ids, pass.Tells log id verdict) ↔ 0 < verdicts.count verdict := by
  rw [List.count_pos_iff]
  induction h with
  | nil => simp
  | cons head _ ih => rw [List.exists_mem_cons_iff, List.mem_cons, ih, head]

theorem tells_of_forall₂ (h : List.Forall₂ (fun id verdict => ∀ other, pass.Tells log id other ↔
    other = verdict) ids verdicts) (hid : id ∈ ids) :
    ∃ verdict, ∀ other, pass.Tells log id other ↔ other = verdict := by
  induction h with
  | nil => cases hid
  | cons head _ ih =>
    obtain rfl | hid := List.mem_cons.1 hid
    · exact ⟨_, head⟩
    · exact ih hid

/-- A stop that accounts for every candidate once, with the outcome that the verdicts call for. -/
structure Pass.Accounts (pass : Pass) (log : SelectionLog ρ ε) (outcome : SelectionOutcome)
    (stop : SelectionStop) : Prop where
  candidates : stop.candidates = pass.pool.profileIds.length - 1
  total : stop.candidates = stop.exhausted + stop.unknown + stop.busy + stop.cooldown
  verdicts : ∃ verdicts, List.Forall₂
      (fun id verdict => ∀ other, pass.Tells log id other ↔ other = verdict) pass.candidates verdicts ∧
    stop.exhausted = verdicts.count .exhausted ∧ stop.unknown = verdicts.count .unknown ∧
    stop.busy = verdicts.count .busy ∧ stop.cooldown = verdicts.count .cooldown
  noEligible : outcome = .noEligible stop ↔ ∀ id ∈ pass.candidates, id ∈ pass.cooldownProfileIds
  exhausted : outcome = .exhausted stop ↔ (∃ id ∈ pass.candidates, id ∉ pass.cooldownProfileIds) ∧
    ∀ id ∈ pass.candidates, id ∉ pass.cooldownProfileIds → Exhausts log id
  busy : outcome = .busy stop ↔
    ∃ id ∈ pass.candidates, id ∉ pass.cooldownProfileIds ∧ Occupied log id
  allUnknown : outcome = .allUnknown stop ↔
    (¬∃ id ∈ pass.candidates, id ∉ pass.cooldownProfileIds ∧ Occupied log id) ∧
    ∃ id ∈ pass.candidates, id ∉ pass.cooldownProfileIds ∧ pass.Undecided log id

theorem Pass.Passed.length_verdicts (h : pass.Passed ids log verdicts) :
    verdicts.length = ids.length := by
  induction h with
  | nil => rfl
  | cons _ _ ih => rw [List.length_cons, List.length_cons, ih]

/-- A pass over all candidates accounts for them. -/
theorem Pass.Checked.accounts (checked : pass.Checked) (valid : pass.definitions.Valid)
    (passed : pass.Passed pass.candidates log verdicts) :
    pass.Accounts log (pass.firstStop.add verdicts).outcome (pass.firstStop.add verdicts) := by
  have each := passed.tells (List.nodup_cons.1 (checked.nodup_candidates valid)).2
    (fun _ _ _ _ => Iff.rfl)
  have counted : ∀ verdict, (∃ id ∈ pass.candidates, pass.Tells log id verdict) ↔
      0 < verdicts.count verdict := fun verdict => exists_tells_iff each
  set stop := pass.firstStop.add verdicts with hstop
  have exhausted : stop.exhausted = verdicts.count .exhausted := Nat.zero_add _
  have unknown : stop.unknown = verdicts.count .unknown := Nat.zero_add _
  have busy : stop.busy = verdicts.count .busy := Nat.zero_add _
  have cooldown : stop.cooldown = verdicts.count .cooldown := Nat.zero_add _
  have candidates : stop.candidates = pass.pool.profileIds.length - 1 := rfl
  have total : stop.candidates = stop.exhausted + stop.unknown + stop.busy + stop.cooldown := by
    rw [exhausted, unknown, busy, cooldown, count_verdicts, passed.length_verdicts,
      checked.length_candidates]
    exact candidates
  obtain ⟨none, all, some, rest⟩ := SelectionStop.outcome_iff total
  rw [exhausted, unknown, busy] at none all
  rw [busy] at some rest
  rw [unknown] at rest
  have nobody : ∀ verdict, verdicts.count verdict = 0 ↔ ∀ id ∈ pass.candidates,
      ¬pass.Tells log id verdict := by
    intro verdict
    rw [← not_iff_not, ← ne_eq, ← Nat.pos_iff_ne_zero, ← counted verdict]
    simp
  have one : ∀ id ∈ pass.candidates, ∃ verdict, ∀ other, pass.Tells log id other ↔ other = verdict :=
    fun id hid => tells_of_forall₂ each hid
  refine ⟨candidates, total, ⟨verdicts, each, exhausted, unknown, busy, cooldown⟩, ?_, ?_, ?_, ?_⟩
  · rw [none, nobody, nobody, nobody]
    constructor
    · rintro ⟨he, hu, hb⟩ id hid
      obtain ⟨verdict, h⟩ := one id hid
      cases verdict with
      | cooldown => exact (h .cooldown).2 rfl
      | exhausted => exact absurd ((h _).2 rfl) (he id hid)
      | unknown => exact absurd ((h _).2 rfl) (hu id hid)
      | busy => exact absurd ((h _).2 rfl) (hb id hid)
    · intro h
      exact ⟨fun id hid tells => tells.1 (h id hid), fun id hid tells => tells.1 (h id hid),
        fun id hid tells => tells.1 (h id hid)⟩
  · rw [all, nobody, nobody, ← counted]
    constructor
    · rintro ⟨⟨id, hid, tells⟩, hu, hb⟩
      refine ⟨⟨id, hid, tells.1⟩, fun other hother hc => ?_⟩
      obtain ⟨verdict, h⟩ := one other hother
      cases verdict with
      | cooldown => exact absurd ((h _).2 rfl) hc
      | exhausted => exact ((h .exhausted).2 rfl).2
      | unknown => exact absurd ((h _).2 rfl) (hu other hother)
      | busy => exact absurd ((h _).2 rfl) (hb other hother)
    · rintro ⟨⟨id, hid, hc⟩, h⟩
      -- a candidate with another verdict would have two
      have apart : ∀ verdict, verdict ≠ .cooldown → verdict ≠ .exhausted →
          ∀ other ∈ pass.candidates, ¬pass.Tells log other verdict := by
        intro verdict hcooldown hexhausted other hother tells
        obtain ⟨verdict', hone⟩ := one other hother
        have eligible : other ∉ pass.cooldownProfileIds := by
          intro hin
          exact hcooldown (((hone _).1 tells).trans ((hone .cooldown).1 hin).symm)
        have exhausts : pass.Tells log other .exhausted := ⟨eligible, h other hother eligible⟩
        exact hexhausted (((hone _).1 tells).trans ((hone .exhausted).1 exhausts).symm)
      exact ⟨⟨id, hid, hc, h id hid hc⟩, apart .unknown (by decide) (by decide),
        apart .busy (by decide) (by decide)⟩
  · rw [some, ← counted]
    exact Iff.rfl
  · rw [rest, nobody, ← counted]
    refine and_congr_left fun _ => ?_
    rw [not_exists]
    exact forall_congr' fun id => not_and.symm

theorem Pass.Probed.runtimeInvariant (h : pass.Probed id log (.error .runtimeInvariant)) :
    ∃ cached candidate, (candidate.profile.id ≠ id ∨ candidate.profile.provider ≠ pass.pool.provider) ∧
      log = uncached id cached (.ok (.ready candidate)) := by
  cases h with
  | mismatched _ candidate hne => exact ⟨_, candidate, hne, rfl⟩

/-- Over valid definitions a checked pass finds its source, and visits nobody twice: the only broken
invariant that a run can report is a reservation that holds another profile. A run that stops without
a handoff accounts for every candidate. -/
theorem selectOnce_stops (valid : pass.definitions.validate = .ok ())
    {r : Except (SelectionError ε) SelectionOutcome}
    (run : Trace (selectOnce pass : SelectionM ρ ε _).run log r) :
    (pass.Checked → ∃ sourceIndex, pass.pool.profileIds.findIdx? (· = pass.source.id) = some sourceIndex ∧
      (pass.source.id :: candidateOrder pass.pool.profileIds sourceIndex).Nodup) ∧
    (r = .error .runtimeInvariant → (¬pass.Checked ∧ log = []) ∨
      ∃ before id cached candidate,
        (candidate.profile.id ≠ id ∨ candidate.profile.provider ≠ pass.pool.provider) ∧
        log = before ++ uncached id cached (.ok (.ready candidate))) ∧
    ∀ outcome stop, r = .ok outcome → outcome.stop = some stop → pass.Accounts log outcome stop := by
  rw [Definitions.validate_iff] at valid
  refine ⟨fun checked => ?_, ?_⟩
  · obtain ⟨sourceIndex, hindex, horder⟩ := checked.order
    refine ⟨sourceIndex, hindex, ?_⟩
    rw [horder]
    exact checked.nodup_candidates valid
  obtain ⟨e, rfl, rfl⟩ | ⟨unchecked, rfl, rfl⟩ | ⟨checked, verdicts, passed, rfl⟩ |
    ⟨checked, skipped, id, rest, before, last, verdicts, -, rfl, -, ended⟩ := selectOnce_cases valid run
  · simp
  · simp [unchecked]
  · refine ⟨by simp, ?_⟩
    rintro _ stop ⟨⟩ hstop
    rw [SelectionStop.stop_outcome] at hstop
    obtain rfl := Option.some.inj hstop
    exact checked.accounts valid passed
  · obtain ⟨e, rfl, probed⟩ | ⟨notice, rfl, -⟩ := ended.probed
    · refine ⟨?_, by simp⟩
      rintro ⟨⟩
      obtain ⟨cached, candidate, hne, rfl⟩ := probed.runtimeInvariant
      exact Or.inr ⟨before, id, cached, candidate, hne, rfl⟩
    · refine ⟨by simp, ?_⟩
      rintro _ stop ⟨⟩ hstop
      cases hstop

/-- A runtime that finds the candidate of the sample in use. -/
def busyReply : Unit → (call : SelectionCall ℕ) → call.Reply ℕ × Unit
  | _, .cachedUsage _ => (.ok none, ())
  | _, .reserveAndRevalidate _ => (.ok .busy, ())
  | _, .handoff _ => (.ok 2, ())

def busyRun : SelectionLog ℕ ℕ × Except (SelectionError ℕ) SelectionOutcome :=
  (selectOnce samplePass).run.record busyReply ()

def busyStop : SelectionStop := { samplePass.firstStop with busy := 1 }

theorem selectOnce_stops_sample : samplePass.Accounts busyRun.1 (.busy busyStop) busyStop := by
  have ended : busyRun.2 = .ok (.busy busyStop) := by decide +kernel
  exact (selectOnce_stops (by decide +kernel) (trace_record busyReply _ ())).2.2 _ _ ended rfl

end Calcifer.Routing
