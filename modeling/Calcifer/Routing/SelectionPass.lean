import Calcifer.Routing.Authorization
import Calcifer.Routing.Selection

/-!
# What a pass does

`Pass.traverse_trace` cuts a run of the loop into the candidates that were passed over, each with its
verdict, and the one that ended it, if one did. From it come the two laws of a selection: whom it hands
off to, and what it stops for.
-/

namespace Calcifer.Routing

open Checks Lists Usage Program

variable {ρ ε : Type} {pass : Pass} {id : String} {log : SelectionLog ρ ε}

/-! ## Passing over candidates -/

/-- Why a candidate was passed over. -/
inductive Verdict where
  | cooldown
  | exhausted
  | unknown
  | busy
deriving DecidableEq, Repr

/-- A candidate that was passed over, with what it was asked. -/
inductive Pass.Judged (pass : Pass) (id : String) : SelectionLog ρ ε → Verdict → Prop
  | cooldown (h : id ∈ pass.cooldownProfileIds) : Judged pass id [] .cooldown
  | exhausted {log : SelectionLog ρ ε} (h : id ∉ pass.cooldownProfileIds)
      (probed : pass.Probed id log (.ok .exhausted)) : Judged pass id log .exhausted
  | unknown {log : SelectionLog ρ ε} (h : id ∉ pass.cooldownProfileIds)
      (probed : pass.Probed id log (.ok .unknown)) : Judged pass id log .unknown
  | busy {log : SelectionLog ρ ε} (h : id ∉ pass.cooldownProfileIds)
      (probed : pass.Probed id log (.ok .busy)) : Judged pass id log .busy

/-- Candidates that were passed over one after the other. -/
inductive Pass.Passed (pass : Pass) : List String → SelectionLog ρ ε → List Verdict → Prop
  | nil : Passed pass [] [] []
  | cons {id : String} {ids : List String} {log logs : SelectionLog ρ ε} {verdict : Verdict}
      {verdicts : List Verdict} (judged : pass.Judged id log verdict) (rest : Passed pass ids logs verdicts) :
      Passed pass (id :: ids) (log ++ logs) (verdict :: verdicts)

/-- The candidate that ended a pass, be it by an error or by a handoff. -/
structure Pass.Ended (pass : Pass) (id : String) (log : SelectionLog ρ ε)
    (r : Except (SelectionError ε) SelectionOutcome) : Prop where
  eligible : id ∉ pass.cooldownProfileIds
  probed : (∃ e, r = .error e ∧ pass.Probed id log (.error e)) ∨
    ∃ notice, r = .ok (.selected notice) ∧ pass.Probed id log (.ok (.selected notice))

/-- The counters after some verdicts. -/
def SelectionStop.add (stop : SelectionStop) (verdicts : List Verdict) : SelectionStop :=
  { stop with
    exhausted := stop.exhausted + verdicts.count .exhausted
    unknown := stop.unknown + verdicts.count .unknown
    busy := stop.busy + verdicts.count .busy
    cooldown := stop.cooldown + verdicts.count .cooldown }

theorem SelectionStop.add_add (stop : SelectionStop) (verdicts verdicts' : List Verdict) :
    (stop.add verdicts).add verdicts' = stop.add (verdicts ++ verdicts') := by
  simp only [SelectionStop.add, List.count_append, Nat.add_assoc]

/-- The loop passes over candidates until none is left or one of them ends it. -/
theorem Pass.traverse_trace {ids visited : List String} {stop : SelectionStop}
    {r : Except (SelectionError ε) SelectionOutcome}
    (run : Trace (pass.traverse ids visited stop : SelectionM ρ ε _).run log r) (nodup : ids.Nodup)
    (new : ∀ id ∈ ids, id ∉ visited) :
    (∃ verdicts, pass.Passed ids log verdicts ∧ r = .ok (stop.add verdicts).outcome) ∨
    ∃ skipped id rest before last verdicts, ids = skipped ++ id :: rest ∧ log = before ++ last ∧
      pass.Passed skipped before verdicts ∧ pass.Ended id last r := by
  induction ids generalizing visited stop log with
  | nil =>
    obtain ⟨rfl, rfl⟩ := trace_ok.1 run
    exact Or.inl ⟨[], .nil, rfl⟩
  | cons id ids ih =>
    rw [List.nodup_cons] at nodup
    have rest : ∀ {log₁ log₂ : SelectionLog ρ ε} {verdict : Verdict},
        pass.Judged id log₁ verdict →
        Trace (pass.traverse ids (id :: visited) (stop.add [verdict]) : SelectionM ρ ε _).run log₂ r →
        (∃ verdicts, pass.Passed (id :: ids) (log₁ ++ log₂) verdicts ∧
          r = .ok (stop.add verdicts).outcome) ∨
        ∃ skipped id' rest before last verdicts, id :: ids = skipped ++ id' :: rest ∧
          log₁ ++ log₂ = before ++ last ∧ pass.Passed skipped before verdicts ∧
          pass.Ended id' last r := by
      intro log₁ log₂ verdict judged run
      have hnew : ∀ other ∈ ids, other ∉ id :: visited := by
        intro other hother h
        obtain rfl | h := List.mem_cons.1 h
        · exact nodup.1 hother
        · exact new other (List.mem_cons_of_mem id hother) h
      obtain ⟨verdicts, passed, rfl⟩ | ⟨skipped, id', tail, before, last, verdicts, rfl, rfl, passed, ended⟩
        := ih run nodup.2 hnew
      · refine Or.inl ⟨verdict :: verdicts, .cons judged passed, ?_⟩
        rw [SelectionStop.add_add, List.singleton_append]
      · exact Or.inr ⟨id :: skipped, id', tail, log₁ ++ before, last, verdict :: verdicts, rfl,
          (List.append_assoc _ _ _).symm, .cons judged passed, ended⟩
    have hid : id ∉ visited := new id List.mem_cons_self
    rw [Pass.traverse, if_neg hid] at run
    by_cases hc : id ∈ pass.cooldownProfileIds
    · rw [if_pos hc] at run
      exact rest (.cooldown hc) run
    rw [if_neg hc] at run
    obtain ⟨e, rfl, h⟩ | ⟨before, last, probe, rfl, h, run₁⟩ := trace_bindExcept.1 run
    · exact Or.inr ⟨[], id, ids, [], log, [], rfl, rfl, .nil, hc,
        Or.inl ⟨e, rfl, Pass.probe_trace h⟩⟩
    have probed := Pass.probe_trace h
    cases probe with
    | exhausted => exact rest (.exhausted hc probed) run₁
    | unknown => exact rest (.unknown hc probed) run₁
    | busy => exact rest (.busy hc probed) run₁
    | selected notice =>
      obtain ⟨rfl, rfl⟩ := trace_ok.1 run₁
      rw [List.append_nil]
      exact Or.inr ⟨[], id, ids, [], before, [], rfl, rfl, .nil, hc, Or.inr ⟨notice, rfl, probed⟩⟩

/-! ## The candidates -/

/-- What `selectOnce` checks before it begins. -/
structure Pass.Checked (pass : Pass) : Prop where
  current : pass.definitions.enabledPoolForSource pass.pool.id pass.source.id pass.source.provider =
    .ok pass.pool
  provider : pass.source.provider = pass.pool.provider
  trigger : pass.trigger.sourceProfileId = pass.source.id

/-- The other members of the pool in cyclic order after the source. -/
def Pass.candidates (pass : Pass) : List String :=
  after pass.pool.profileIds (pass.pool.profileIds.idxOf pass.source.id)

/-- The pool as it is stored. -/
theorem Pass.Checked.stored (h : pass.Checked) :
    ∃ stored ∈ pass.definitions.pools, stored.id = pass.pool.id ∧ stored.activation = .enabled ∧
      stored.profileIds = pass.pool.profileIds ∧ stored.trustDomainId = pass.pool.trustDomainId ∧
      pass.source.id ∈ pass.pool.profileIds := by
  obtain ⟨stored, domain, hstored, -, henabled, -, hmem, hpool⟩ := enabledPoolForSource_eq_ok h.current
  refine ⟨stored, List.mem_of_find?_eq_some hstored, ?_, henabled, ?_, ?_, ?_⟩
  · rw [hpool]
  · rw [hpool]
  · rw [hpool]
  · rwa [hpool]

theorem Pass.Checked.nodup (h : pass.Checked) (valid : pass.definitions.Valid) :
    pass.pool.profileIds.Nodup := by
  obtain ⟨stored, hstored, -, -, hids, -⟩ := h.stored
  exact hids ▸ (valid.pools stored hstored).nodup

theorem Pass.Checked.many (h : pass.Checked) (valid : pass.definitions.Valid) :
    2 ≤ pass.pool.profileIds.length := by
  obtain ⟨stored, hstored, -, -, hids, -⟩ := h.stored
  exact hids ▸ (valid.pools stored hstored).many

theorem Pass.Checked.length_candidates (h : pass.Checked) :
    pass.candidates.length = pass.pool.profileIds.length - 1 := by
  obtain ⟨-, -, -, -, -, -, hmem⟩ := h.stored
  exact length_after (List.idxOf_lt_length_iff.2 hmem)

/-- The source and the candidates are distinct. -/
theorem Pass.Checked.nodup_candidates (h : pass.Checked) (valid : pass.definitions.Valid) :
    (pass.source.id :: pass.candidates).Nodup := by
  obtain ⟨-, -, -, -, -, -, hmem⟩ := h.stored
  have hlt := List.idxOf_lt_length_iff.2 hmem
  have hnodup := nodup_cons_after hlt (h.nodup valid)
  rwa [List.getElem_idxOf hlt] at hnodup

/-- The loop of a checked pass goes through the candidates. -/
theorem Pass.Checked.order (h : pass.Checked) :
    ∃ sourceIndex, pass.pool.profileIds.findIdx? (· = pass.source.id) = some sourceIndex ∧
      candidateOrder pass.pool.profileIds sourceIndex = pass.candidates := by
  obtain ⟨-, -, -, -, -, -, hmem⟩ := h.stored
  have hlt := List.idxOf_lt_length_iff.2 hmem
  refine ⟨pass.pool.profileIds.idxOf pass.source.id, ?_, filterMap_mod_eq_after hlt⟩
  rw [List.findIdx?_eq_some_iff_findIdx_eq]
  refine ⟨hlt, ?_⟩
  rw [List.idxOf]
  exact congrArg (List.findIdx · pass.pool.profileIds) (funext fun id => (beq_eq_decide id _).symm)

/-- A selection is refused before its first call, or it is the loop over the candidates. -/
theorem selectOnce_trace {r : Except (SelectionError ε) SelectionOutcome}
    (run : Trace (selectOnce pass : SelectionM ρ ε _).run log r) :
    (∃ e, log = [] ∧ r = .error (.policy e)) ∨
    (¬pass.Checked ∧ log = [] ∧ r = .error .runtimeInvariant) ∨
    (pass.Checked ∧
      Trace (pass.traverse pass.candidates [pass.source.id] pass.firstStop : SelectionM ρ ε _).run log r) := by
  unfold selectOnce at run
  obtain ⟨e, -, rfl, rfl⟩ | ⟨current, hcurrent, run₁⟩ := trace_callPolicy run
  · exact Or.inl ⟨e, rfl, rfl⟩
  refine Or.inr ?_
  by_cases hc : current ≠ pass.pool ∨ pass.source.provider ≠ pass.pool.provider ∨
      pass.trigger.sourceProfileId ≠ pass.source.id
  · rw [if_pos hc] at run₁
    obtain ⟨rfl, rfl⟩ := trace_throw.1 run₁
    refine Or.inl ⟨?_, rfl, rfl⟩
    rintro ⟨h, hprovider, htrigger⟩
    rw [hcurrent] at h
    cases h
    simp [hprovider, htrigger] at hc
  · rw [if_neg hc] at run₁
    simp only [not_or, Decidable.not_not] at hc
    obtain ⟨rfl, hprovider, htrigger⟩ := hc
    have checked : pass.Checked := ⟨hcurrent, hprovider, htrigger⟩
    obtain ⟨sourceIndex, hindex, horder⟩ := checked.order
    rw [hindex] at run₁
    refine Or.inr ⟨checked, ?_⟩
    rw [← horder]
    exact run₁

/-- A selection over valid definitions is refused before its first call, or it passes over all
candidates, or one of them ends it. -/
theorem selectOnce_cases (valid : pass.definitions.Valid) {r : Except (SelectionError ε) SelectionOutcome}
    (run : Trace (selectOnce pass : SelectionM ρ ε _).run log r) :
    (∃ e, log = [] ∧ r = .error (.policy e)) ∨
    (¬pass.Checked ∧ log = [] ∧ r = .error .runtimeInvariant) ∨
    (pass.Checked ∧ ∃ verdicts, pass.Passed pass.candidates log verdicts ∧
      r = .ok (pass.firstStop.add verdicts).outcome) ∨
    pass.Checked ∧ ∃ skipped id rest before last verdicts, pass.candidates = skipped ++ id :: rest ∧
      log = before ++ last ∧ pass.Passed skipped before verdicts ∧ pass.Ended id last r := by
  obtain refused | unchecked | ⟨checked, run₁⟩ := selectOnce_trace run
  · exact Or.inl refused
  · exact Or.inr (Or.inl unchecked)
  have nodup := List.nodup_cons.1 (checked.nodup_candidates valid)
  have new : ∀ id ∈ pass.candidates, id ∉ [pass.source.id] := by
    intro id hid h
    rw [List.mem_singleton.1 h] at hid
    exact nodup.1 hid
  obtain passed | ended := Pass.traverse_trace run₁ nodup.2 new
  · exact Or.inr (Or.inr (Or.inl ⟨checked, passed⟩))
  · exact Or.inr (Or.inr (Or.inr ⟨checked, ended⟩))

/-! ## Handoffs -/

/-- The profile that a call asks about. -/
def SelectionCall.asks : SelectionCall ρ → Option String
  | .cachedUsage id | .reserveAndRevalidate id => some id
  | .handoff _ => none

def SelectionCall.reserves : SelectionCall ρ → Option String
  | .reserveAndRevalidate id => some id
  | _ => none

def SelectionCall.handsOff : SelectionCall ρ → Option (HandoffSelection ρ)
  | .handoff selection => some selection
  | _ => none

/-- The profiles that were reserved. -/
def reservedIds (log : SelectionLog ρ ε) : List String := log.filterMap fun entry => entry.1.reserves

def handoffs (log : SelectionLog ρ ε) : List (HandoffSelection ρ) :=
  log.filterMap fun entry => entry.1.handsOff

/-- The candidate is not to be handed off to: it is in cooldown, the cache knows it as exhausted, or
its reservation did not come with a usage that allows it. -/
def Pass.Skips (pass : Pass) (log : SelectionLog ρ ε) (id : String) : Prop :=
  id ∈ pass.cooldownProfileIds ∨
  (∃ view, isFreshAuthoritativeExhaustion view = true ∧
    ⟨.cachedUsage id, (.ok (some view) : Except ε (Option UsageView))⟩ ∈ log) ∨
  ∃ result : ReservationResult ρ,
    ⟨.reserveAndRevalidate id, (.ok result : Except ε (ReservationResult ρ))⟩ ∈ log ∧
      ∀ candidate, result = .ready candidate → pass.accepts candidate.usage = false

/-- The target is not in cooldown, the cache does not know it as exhausted, and it is held by a
reservation that came with a usage that allows the handoff. -/
structure Pass.Chooses (pass : Pass) (log : SelectionLog ρ ε) (selection : HandoffSelection ρ) :
    Prop where
  eligible : selection.target.id ∉ pass.cooldownProfileIds
  cached : ∃ cached : Option UsageView, cached.any isFreshAuthoritativeExhaustion = false ∧
    ⟨.cachedUsage selection.target.id, (.ok cached : Except ε (Option UsageView))⟩ ∈ log
  reserved : ∃ candidate : ReservedCandidate ρ, candidate.profile = selection.target ∧
    candidate.reservation = selection.reservation ∧ pass.accepts candidate.usage = true ∧
      ⟨.reserveAndRevalidate selection.target.id,
        (.ok (.ready candidate) : Except ε (ReservationResult ρ))⟩ ∈ log

theorem Pass.Probed.asks {r : Except (SelectionError ε) Probe} (h : pass.Probed id log r) :
    ∀ entry ∈ log, ∀ other, entry.1.asks = some other → other = id := by
  intro entry hentry other hother
  cases h <;>
    simp only [uncached, List.mem_append, List.mem_cons, List.not_mem_nil, or_false] at hentry <;>
    grind [SelectionCall.asks]

theorem Pass.Probed.reserved {r : Except (SelectionError ε) Probe} (h : pass.Probed id log r) :
    (reservedIds log).Sublist [id] := by
  cases h <;> simp [reservedIds, uncached, SelectionCall.reserves]

theorem Pass.Judged.handoffs {verdict : Verdict} (h : pass.Judged id log verdict) :
    handoffs log = [] := by
  cases h with
  | cooldown => rfl
  | exhausted _ probed => cases probed <;> rfl
  | unknown _ probed => cases probed <;> rfl
  | busy _ probed =>
    cases probed
    rfl

theorem Pass.Judged.asks {verdict : Verdict} (h : pass.Judged id log verdict) :
    ∀ entry ∈ log, ∀ other, entry.1.asks = some other → other = id := by
  cases h with
  | cooldown => simp
  | exhausted _ probed | unknown _ probed | busy _ probed => exact probed.asks

theorem Pass.Judged.reserved {verdict : Verdict} (h : pass.Judged id log verdict) :
    (reservedIds log).Sublist [id] := by
  cases h with
  | cooldown => simp [reservedIds]
  | exhausted _ probed | unknown _ probed | busy _ probed => exact probed.reserved

/-- A candidate that was passed over is one to skip. -/
theorem Pass.Judged.skips {verdict : Verdict} (h : pass.Judged id log verdict) : pass.Skips log id := by
  cases h with
  | cooldown h => exact Or.inl h
  | exhausted _ probed =>
    cases probed with
    | cached view h => exact Or.inr (Or.inl ⟨view, h, List.mem_singleton.2 rfl⟩)
    | exhausted h candidate no =>
      refine Or.inr (Or.inr ⟨.ready candidate, by simp [uncached], ?_⟩)
      rintro _ ⟨⟩
      exact no
  | unknown _ probed =>
    cases probed with
    | unknown h => exact Or.inr (Or.inr ⟨.unknown, by simp [uncached], by simp⟩)
    | undecided h candidate no =>
      refine Or.inr (Or.inr ⟨.ready candidate, by simp [uncached], ?_⟩)
      rintro _ ⟨⟩
      exact no
  | busy _ probed =>
    cases probed with
    | busy h => exact Or.inr (Or.inr ⟨.busy, by simp [uncached], by simp⟩)

theorem Pass.Skips.mono {log' : SelectionLog ρ ε} (h : pass.Skips log id) (sub : log ⊆ log') :
    pass.Skips log' id := by
  obtain h | ⟨view, hx, h⟩ | ⟨result, h, no⟩ := h
  · exact Or.inl h
  · exact Or.inr (Or.inl ⟨view, hx, sub h⟩)
  · exact Or.inr (Or.inr ⟨result, sub h, no⟩)

variable {ids : List String} {verdicts : List Verdict}

theorem Pass.Passed.handoffs (h : pass.Passed ids log verdicts) : handoffs log = [] := by
  induction h with
  | nil => rfl
  | cons judged _ ih =>
    rw [Routing.handoffs, List.filterMap_append]
    exact List.append_eq_nil_iff.2 ⟨judged.handoffs, ih⟩

theorem Pass.Passed.asks (h : pass.Passed ids log verdicts) :
    ∀ entry ∈ log, ∀ other, entry.1.asks = some other → other ∈ ids := by
  induction h with
  | nil => simp
  | cons judged _ ih =>
    intro entry hentry other hother
    obtain hentry | hentry := List.mem_append.1 hentry
    · rw [judged.asks entry hentry other hother]
      exact List.mem_cons_self
    · exact List.mem_cons_of_mem _ (ih entry hentry other hother)

theorem Pass.Passed.reserved (h : pass.Passed ids log verdicts) : (reservedIds log).Sublist ids := by
  induction h with
  | nil => exact List.Sublist.refl []
  | cons judged _ ih =>
    rw [reservedIds, List.filterMap_append]
    exact judged.reserved.append ih

theorem Pass.Passed.skips (h : pass.Passed ids log verdicts) : ∀ id ∈ ids, pass.Skips log id := by
  induction h with
  | nil => simp
  | cons judged _ ih =>
    refine List.forall_mem_cons.2 ⟨judged.skips.mono (List.subset_append_left _ _), ?_⟩
    exact fun id hid => (ih id hid).mono (List.subset_append_right _ _)

theorem handoffs_append (log log' : SelectionLog ρ ε) :
    handoffs (log ++ log') = handoffs log ++ handoffs log' := List.filterMap_append

theorem mem_handoffs {selection : HandoffSelection ρ} :
    selection ∈ handoffs log ↔ ∃ reply : Except ε ℕ, ⟨.handoff selection, reply⟩ ∈ log := by
  rw [handoffs, List.mem_filterMap]
  constructor
  · rintro ⟨⟨call, reply⟩, hmem, h⟩
    cases call with
    | handoff other =>
      obtain rfl := Option.some.inj h
      exact ⟨reply, hmem⟩
    | cachedUsage | reserveAndRevalidate => cases h
  · rintro ⟨reply, hmem⟩
    exact ⟨_, hmem, rfl⟩

theorem handoffs_uncached {cached : Option UsageView} {reply : Except ε (ReservationResult ρ)} :
    handoffs (uncached id cached reply) = [] := rfl

/-- A probe makes a handoff as its last call, and only of a candidate that fits. -/
theorem Pass.Probed.handoff {r : Except (SelectionError ε) Probe} (h : pass.Probed id log r)
    {selection : HandoffSelection ρ} {reply : Except ε ℕ} (hmem : ⟨.handoff selection, reply⟩ ∈ log) :
    ∃ cached candidate authorization, cached.any isFreshAuthoritativeExhaustion = false ∧
      pass.Fits id candidate authorization ∧ selection = pass.selection authorization candidate ∧
      log = uncached id cached (.ok (.ready candidate)) ++ [⟨.handoff selection, reply⟩] ∧
      ∀ e, reply = .error e → r = .error (.runtime e) := by
  have hin := mem_handoffs.2 ⟨_, hmem⟩
  cases h with
  | @failed cached h candidate authorization fits e =>
    obtain hmem | hmem := List.mem_append.1 hmem
    · cases mem_handoffs.2 ⟨_, hmem⟩
    cases List.mem_singleton.1 hmem
    refine ⟨cached, candidate, authorization, h, fits, rfl, rfl, ?_⟩
    rintro _ ⟨⟩
    rfl
  | @handed cached h candidate authorization fits generation =>
    obtain hmem | hmem := List.mem_append.1 hmem
    · cases mem_handoffs.2 ⟨_, hmem⟩
    cases List.mem_singleton.1 hmem
    exact ⟨cached, candidate, authorization, h, fits, rfl, rfl, by simp⟩
  | denied | unread | cached | unreserved | busy | unknown | mismatched | exhausted | undecided =>
    cases hin

/-- A handoff that ends a run: it goes to the first candidate that is not to be skipped, and to a
member of the source's pool and trust domain. -/
structure Pass.HandsOff (pass : Pass) (log : SelectionLog ρ ε)
    (r : Except (SelectionError ε) SelectionOutcome) (selection : HandoffSelection ρ)
    (reply : Except ε ℕ) : Prop where
  first : ∃ skipped rest, pass.candidates = skipped ++ selection.target.id :: rest ∧
    (∀ id ∈ skipped, pass.Skips log id) ∧
    ∀ entry ∈ log, ∀ id, entry.1.asks = some id → id ∈ skipped ++ [selection.target.id]
  chosen : pass.Chooses log selection
  last : ∃ before, log = before ++ [⟨.handoff selection, reply⟩]
  failed : ∀ e, reply = .error e → r = .error (.runtime e)
  source : selection.source = pass.source
  other : selection.target.id ≠ pass.source.id
  pool : ∃ pool ∈ pass.definitions.pools, pool.id = selection.poolId ∧ pool.activation = .enabled ∧
    pool.trustDomainId = selection.authorization.trustDomainId ∧
    pass.source.id ∈ pool.profileIds ∧ selection.target.id ∈ pool.profileIds
  domain : ∃ domain ∈ pass.definitions.trustDomains, domain.id = selection.authorization.trustDomainId ∧
    pass.source.id ∈ domain.profileIds ∧ selection.target.id ∈ domain.profileIds

theorem Pass.Ended.reserved {r : Except (SelectionError ε) SelectionOutcome} (h : pass.Ended id log r) :
    (reservedIds log).Sublist [id] := by
  obtain ⟨e, -, probed⟩ | ⟨notice, -, probed⟩ := h.probed
  · exact probed.reserved
  · exact probed.reserved

theorem Pass.Probed.length_handoffs {r : Except (SelectionError ε) Probe} (h : pass.Probed id log r) :
    (handoffs log).length ≤ 1 := by
  cases h <;> simp [handoffs, uncached, SelectionCall.handsOff]

theorem Pass.Ended.length_handoffs {r : Except (SelectionError ε) SelectionOutcome}
    (h : pass.Ended id log r) : (handoffs log).length ≤ 1 := by
  obtain ⟨e, -, probed⟩ | ⟨notice, -, probed⟩ := h.probed
  · exact probed.length_handoffs
  · exact probed.length_handoffs

/-- The candidate that ended a pass by a handoff. -/
theorem Pass.Ended.handoff {r : Except (SelectionError ε) SelectionOutcome} (h : pass.Ended id log r)
    {selection : HandoffSelection ρ} {reply : Except ε ℕ} (hmem : ⟨.handoff selection, reply⟩ ∈ log) :
    ∃ cached candidate authorization, cached.any isFreshAuthoritativeExhaustion = false ∧
      pass.Fits id candidate authorization ∧ selection = pass.selection authorization candidate ∧
      log = uncached id cached (.ok (.ready candidate)) ++ [⟨.handoff selection, reply⟩] ∧
      ∀ e, reply = .error e → r = .error (.runtime e) := by
  obtain ⟨e, rfl, probed⟩ | ⟨notice, rfl, probed⟩ := h.probed
  · obtain ⟨cached, candidate, authorization, hx, fits, hs, hlog, failed⟩ := probed.handoff hmem
    refine ⟨cached, candidate, authorization, hx, fits, hs, hlog, fun e' he' => ?_⟩
    cases failed e' he'
    rfl
  · obtain ⟨cached, candidate, authorization, hx, fits, hs, hlog, failed⟩ := probed.handoff hmem
    refine ⟨cached, candidate, authorization, hx, fits, hs, hlog, fun e' he' => ?_⟩
    cases failed e' he'

/-- What a loop over the candidates hands off to. -/
theorem Pass.Checked.handsOff (checked : pass.Checked) (valid : pass.definitions.Valid)
    {skipped rest : List String} {before last : SelectionLog ρ ε} {verdicts : List Verdict}
    {r : Except (SelectionError ε) SelectionOutcome}
    (candidates : pass.candidates = skipped ++ id :: rest)
    (passed : pass.Passed skipped before verdicts) (ended : pass.Ended id last r)
    {selection : HandoffSelection ρ} {reply : Except ε ℕ}
    (hmem : ⟨.handoff selection, reply⟩ ∈ last) : pass.HandsOff (before ++ last) r selection reply := by
  obtain ⟨cached, candidate, authorization, hx, fits, rfl, rfl, failed⟩ := ended.handoff hmem
  obtain ⟨stored, hstored, hid, henabled, hids, hdomain, hsource⟩ := checked.stored
  obtain ⟨hauthorization, domain, hdomainMem, hdomainId, -, hne, hin, hout⟩ :=
    valid.authorizeHandoff_eq_ok.1 fits.authorized
  have htrust : authorization.trustDomainId = pass.pool.trustDomainId := by rw [hauthorization]
  have same : (pass.selection authorization candidate).target.id = id := fits.same
  have target : id ∈ pass.pool.profileIds := by
    apply mem_of_mem_after (l := pass.pool.profileIds)
    rw [← Pass.candidates, candidates]
    exact List.mem_append_right _ List.mem_cons_self
  have asked : ∀ entry ∈ uncached id cached (.ok (.ready candidate)) ++
      [⟨.handoff (pass.selection authorization candidate), reply⟩],
      ∀ other, entry.1.asks = some other → other = id := by
    obtain ⟨e, -, probed⟩ | ⟨notice, -, probed⟩ := ended.probed
    · exact probed.asks
    · exact probed.asks
  refine ⟨⟨skipped, rest, ?_, ?_, ?_⟩, ⟨?_, ⟨cached, hx, ?_⟩, candidate, rfl, rfl, fits.accepts, ?_⟩,
    ⟨before ++ uncached id cached (.ok (.ready candidate)), (List.append_assoc _ _ _).symm⟩, failed, rfl,
    ?_, ⟨stored, hstored, hid, henabled, ?_, ?_, ?_⟩, domain, hdomainMem, hdomainId.trans htrust.symm,
    hin, ?_⟩
  · rw [same]
    exact candidates
  · exact fun other hother => (passed.skips other hother).mono (List.subset_append_left _ _)
  · intro entry hentry other hother
    rw [same]
    obtain hentry | hentry := List.mem_append.1 hentry
    · exact List.mem_append_left _ (passed.asks entry hentry other hother)
    · rw [asked entry hentry other hother]
      exact List.mem_append_right _ List.mem_cons_self
  · rw [same]
    exact ended.eligible
  · rw [same]
    simp [uncached]
  · rw [same]
    simp [uncached]
  · rw [same]
    exact hne.symm
  · exact hdomain.trans htrust.symm
  · rwa [hids]
  · rwa [same, hids]
  · rwa [same]

/-- A selection over valid definitions hands off at most once, and reserves nobody twice. A handoff
ends it, whether it succeeds or not, and goes to the first candidate that is not to be skipped. -/
theorem selectOnce_handoff (valid : pass.definitions.validate = .ok ())
    {r : Except (SelectionError ε) SelectionOutcome}
    (run : Trace (selectOnce pass : SelectionM ρ ε _).run log r) :
    (handoffs log).length ≤ 1 ∧ (reservedIds log).Nodup ∧
      ∀ selection reply, ⟨.handoff selection, reply⟩ ∈ log → pass.HandsOff log r selection reply := by
  rw [Definitions.validate_iff] at valid
  obtain ⟨e, rfl, -⟩ | ⟨-, rfl, -⟩ | ⟨checked, verdicts, passed, -⟩ |
    ⟨checked, skipped, id, rest, before, last, verdicts, candidates, rfl, passed, ended⟩ :=
    selectOnce_cases valid run
  · simp [handoffs, reservedIds]
  · simp [handoffs, reservedIds]
  · refine ⟨?_, passed.reserved.nodup (List.nodup_cons.1 (checked.nodup_candidates valid)).2, ?_⟩
    · rw [passed.handoffs]
      exact Nat.zero_le 1
    · intro selection reply hmem
      have hin := mem_handoffs.2 ⟨_, hmem⟩
      rw [passed.handoffs] at hin
      cases hin
  · refine ⟨?_, ?_, ?_⟩
    · rw [handoffs_append, passed.handoffs, List.nil_append]
      exact ended.length_handoffs
    · have sub : (reservedIds (before ++ last)).Sublist (skipped ++ id :: rest) := by
        rw [reservedIds, List.filterMap_append]
        exact passed.reserved.append (ended.reserved.trans (by simp))
      exact sub.nodup (candidates ▸ (List.nodup_cons.1 (checked.nodup_candidates valid)).2)
    · intro selection reply hmem
      obtain hmem | hmem := List.mem_append.1 hmem
      · have hin := mem_handoffs.2 ⟨_, hmem⟩
        rw [passed.handoffs] at hin
        cases hin
      · exact checked.handsOff valid candidates passed ended hmem

/-- A source that is exhausted, and one candidate. -/
def samplePass : Pass where
  definitions := ({} : Definitions).run sampleRequests
  pool := ⟨samplePool.id, samplePool.aliasName, samplePool.trustDomainId, "work", .codex,
    samplePool.profileIds⟩
  source := ⟨"22222222-2222-4222-8222-222222222222", "second", .codex, 0⟩
  trigger := ⟨"22222222-2222-4222-8222-222222222222", .authoritativeExhaustion, 100⟩
  cooldownProfileIds := ["22222222-2222-4222-8222-222222222222"]

def sampleView : UsageView where
  availability := .available
  freshness := .fresh
  observedAt := 110
  source := .idleRead
  codexVersion := none
  adapterVersion := "sample"
  compatibility := .unverified
  usage := none
  nextRefreshAt := 170

/-- A runtime with that usage of the candidate, whose handoffs fail. -/
def sampleReply : Unit → (call : SelectionCall ℕ) → call.Reply ℕ × Unit
  | _, .cachedUsage _ => (.ok none, ())
  | _, .reserveAndRevalidate id => (.ok (.ready ⟨⟨id, "first", .codex, 0⟩, sampleView, 1⟩), ())
  | _, .handoff _ => (.error 7, ())

/-- The calls of the sample, and how it ends. -/
def sampleRun : SelectionLog ℕ ℕ × Except (SelectionError ℕ) SelectionOutcome :=
  (selectOnce samplePass).run.record sampleReply ()

def sampleSelection : HandoffSelection ℕ where
  source := samplePass.source
  target := ⟨"11111111-1111-4111-8111-111111111111", "first", .codex, 0⟩
  authorization := ⟨samplePool.trustDomainId⟩
  poolId := samplePool.id
  reason := .authoritativeExhaustion
  triggerObservedAt := 100
  reservation := 1

theorem selectOnce_handoff_sample :
    ∃ reply, samplePass.HandsOff sampleRun.1 (.error (.runtime 7)) sampleSelection reply := by
  have handed : sampleSelection ∈ handoffs sampleRun.1 := by decide +kernel
  obtain ⟨reply, h⟩ := mem_handoffs.1 handed
  have ended : sampleRun.2 = .error (.runtime 7) := by decide +kernel
  rw [← ended]
  exact ⟨reply, (selectOnce_handoff (by decide +kernel) (trace_record sampleReply _ ())).2.2 _ _ h⟩

end Calcifer.Routing
