import Calcifer.Usage.Observations

/-!
# What a classification depends on

`classify` goes through the snapshots of a usage in the order of their limit ids and returns at the
first that settles it. A usage in which one snapshot settles it as exhausted and another as unknown is
therefore classified by its limit ids; every other usage is classified alike in any order.
-/

namespace Calcifer

/-- A recognized type of exhaustion was reached. -/
def RateLimitSnapshot.reached (snapshot : RateLimitSnapshot) : Bool :=
  snapshot.rateLimitReachedType.any Usage.isExplicitExhaustion

/-- A type of exhaustion that is not recognized was reached, or an individual limit was and no type is
given. -/
def RateLimitSnapshot.withheld (snapshot : RateLimitSnapshot) : Bool :=
  match snapshot.rateLimitReachedType with
  | some reachedType => ¬Usage.isExplicitExhaustion reachedType
  | none => snapshot.individualLimit.any fun limit => limit.remainingPercent = 0

def RateLimitSnapshot.windows (snapshot : RateLimitSnapshot) : List RateLimitWindow :=
  [snapshot.primary, snapshot.secondary].filterMap id

/-- A snapshot without the names of its limit. -/
def RateLimitSnapshot.unnamed (snapshot : RateLimitSnapshot) : RateLimitSnapshot :=
  { snapshot with limitId := none, limitName := none }

namespace Usage

/-- The snapshots of a usage in the order in which they are gone through. -/
def snapshots (usage : CodexUsage) : List RateLimitSnapshot :=
  usage.rateLimits.toList ++ (bucketsById usage).map Prod.snd

/-- One usage is the other with its snapshots in other places, under other limit ids. -/
structure Reordered (usage usage' : CodexUsage) : Prop where
  topLevel : usage'.rateLimits.isSome = usage.rateLimits.isSome
  permuted : ((snapshots usage').map (·.unnamed)).Perm ((snapshots usage).map (·.unnamed))
  limitIds : (usage.rateLimitsByLimitId.map Prod.fst).Nodup →
    (usage'.rateLimitsByLimitId.map Prod.fst).Nodup
  resetCredits : usage'.resetCredits = usage.resetCredits

/-- Snapshots that settle the classification in two ways. -/
def Mixed (usage : CodexUsage) : Prop :=
  (∃ snapshot ∈ snapshots usage, snapshot.reached) ∧ ∃ snapshot ∈ snapshots usage, snapshot.withheld

/-- Every window that is given has room, and nothing was reached. -/
def Roomy (usage : CodexUsage) : Prop :=
  (∃ snapshot ∈ snapshots usage, snapshot.windows ≠ []) ∧ ∀ snapshot ∈ snapshots usage,
    (∀ window ∈ snapshot.windows, window.usedPercent < 100) ∧ snapshot.rateLimitReachedType = none ∧
      ∀ limit ∈ snapshot.individualLimit, limit.remainingPercent ≠ 0

variable {usage usage' : CodexUsage} {snapshot : RateLimitSnapshot} {l l' : List RateLimitSnapshot}

/-! ## Going through the snapshots -/

/-- What one turn of the loop does. -/
theorem classifySnapshots_cons (sawWindow sawFull : Bool) :
    classifySnapshots sawWindow sawFull (snapshot :: l) =
      if snapshot.reached then .exhausted
      else if snapshot.withheld then .unknown
      else classifySnapshots (sawWindow || snapshot.windows ≠ [])
        (sawFull || snapshot.windows.any fun window => 100 ≤ window.usedPercent) l := by
  cases h : snapshot.rateLimitReachedType with
  | none => simp [classifySnapshots, RateLimitSnapshot.reached, RateLimitSnapshot.withheld,
      RateLimitSnapshot.windows, h]
  | some reachedType =>
    by_cases recognized : isExplicitExhaustion reachedType = true
    · simp [classifySnapshots, RateLimitSnapshot.reached, h, recognized]
    · simp [classifySnapshots, RateLimitSnapshot.reached, RateLimitSnapshot.withheld, h, recognized]

/-- Without two ways to settle it, the order of the snapshots does not matter. -/
theorem classifySnapshots_eq (sawWindow sawFull : Bool)
    (h : ¬(l.any (·.reached) ∧ l.any (·.withheld))) :
    classifySnapshots sawWindow sawFull l =
      if l.any (·.reached) then .exhausted
      else if l.any (·.withheld) then .unknown
      else if (sawWindow || l.any fun snapshot => snapshot.windows ≠ []) ∧
          ¬(sawFull || l.any fun snapshot => snapshot.windows.any fun window =>
            100 ≤ window.usedPercent) then .available
      else .unknown := by
  induction l generalizing sawWindow sawFull with
  | nil => simp [classifySnapshots]
  | cons snapshot l ih =>
    rw [classifySnapshots_cons]
    simp only [List.any_cons, Bool.or_eq_true] at h ⊢
    by_cases reached : snapshot.reached = true
    · rw [if_pos reached, if_pos (Or.inl reached)]
    by_cases withheld : snapshot.withheld = true
    · have hl : ¬(snapshot.reached = true ∨ l.any (·.reached) = true) := fun hr => h ⟨hr, Or.inl withheld⟩
      rw [if_neg reached, if_pos withheld, if_neg hl, if_pos (Or.inl withheld)]
    · rw [if_neg reached, if_neg withheld, ih _ _ fun hl => h ⟨Or.inr hl.1, Or.inr hl.2⟩]
      simp only [reached, withheld, false_or, Bool.false_eq_true, Bool.or_eq_true, or_assoc]

/-- A usage is available exactly when it is roomy, whatever the order. -/
theorem classifySnapshots_available (sawWindow sawFull : Bool) :
    classifySnapshots sawWindow sawFull l = .available ↔
      (sawWindow ∨ ∃ snapshot ∈ l, snapshot.windows ≠ []) ∧ sawFull = false ∧
        ∀ snapshot ∈ l, (∀ window ∈ snapshot.windows, window.usedPercent < 100) ∧
          snapshot.reached = false ∧ snapshot.withheld = false := by
  induction l generalizing sawWindow sawFull with
  | nil => cases sawWindow <;> cases sawFull <;> simp [classifySnapshots]
  | cons snapshot l ih =>
    rw [classifySnapshots_cons]
    by_cases reached : snapshot.reached = true
    · simp [reached]
    by_cases withheld : snapshot.withheld = true
    · simp [reached, withheld]
    rw [if_neg reached, if_neg withheld, ih]
    have hfull : (sawFull || snapshot.windows.any fun window => 100 ≤ window.usedPercent) = false ↔
        sawFull = false ∧ ∀ window ∈ snapshot.windows, window.usedPercent < 100 := by
      simp
    rw [hfull]
    simp only [List.exists_mem_cons_iff, List.forall_mem_cons, Bool.or_eq_true, decide_eq_true_eq,
      Bool.not_eq_true] at reached withheld ⊢
    simp only [reached, withheld, and_true]
    tauto

theorem classify_available_iff : classify usage = .available ↔ Roomy usage := by
  have open_iff : ∀ snapshot : RateLimitSnapshot,
      snapshot.reached = false ∧ snapshot.withheld = false ↔ snapshot.rateLimitReachedType = none ∧
        ∀ limit ∈ snapshot.individualLimit, limit.remainingPercent ≠ 0 := by
    intro snapshot
    cases h : snapshot.rateLimitReachedType with
    | none =>
      cases limit : snapshot.individualLimit <;>
        simp [RateLimitSnapshot.reached, RateLimitSnapshot.withheld, h, limit]
    | some reachedType => simp [RateLimitSnapshot.reached, RateLimitSnapshot.withheld, h]
  rw [classify, ← snapshots, classifySnapshots_available]
  simp only [open_iff, Roomy, Bool.false_eq_true, false_or, true_and]

theorem classifySnapshots_ne_unsupported (sawWindow sawFull : Bool) :
    classifySnapshots sawWindow sawFull l ≠ .unsupported := by
  induction l generalizing sawWindow sawFull with
  | nil =>
    rw [classifySnapshots]
    split_ifs <;> simp
  | cons snapshot l ih =>
    rw [classifySnapshots_cons]
    split_ifs
    · simp
    · simp
    · exact ih _ _

theorem classify_ne_unsupported (usage : CodexUsage) : classify usage ≠ .unsupported :=
  classifySnapshots_ne_unsupported false false

/-! ## Other orders -/

theorem Reordered.any_eq (h : Reordered usage usage') {p : RateLimitSnapshot → Bool}
    (hp : ∀ snapshot : RateLimitSnapshot, p snapshot.unnamed = p snapshot) :
    (snapshots usage').any p = (snapshots usage).any p := by
  have unnamed : ∀ l : List RateLimitSnapshot, l.any p = (l.map (·.unnamed)).any p := by
    intro l
    rw [List.any_map]
    exact (congrArg l.any (funext hp)).symm
  rw [unnamed (snapshots usage'), unnamed (snapshots usage), h.permuted.any_eq]

theorem not_mixed_iff : ¬Mixed usage ↔
    ¬((snapshots usage).any (·.reached) ∧ (snapshots usage).any (·.withheld)) := by
  simp only [Mixed, List.any_eq_true]

/-- A usage that is not mixed is classified alike in any order. -/
theorem Reordered.classify_eq (h : Reordered usage usage') (pure : ¬Mixed usage) :
    classify usage' = classify usage := by
  have reached := h.any_eq (p := (·.reached)) fun _ => rfl
  have withheld := h.any_eq (p := (·.withheld)) fun _ => rfl
  have windows := h.any_eq (p := fun snapshot => snapshot.windows ≠ []) fun _ => rfl
  have full := h.any_eq (p := fun snapshot => snapshot.windows.any fun window =>
    100 ≤ window.usedPercent) fun _ => rfl
  rw [not_mixed_iff] at pure
  rw [classify, classify, ← snapshots, ← snapshots, classifySnapshots_eq _ _ pure,
    classifySnapshots_eq _ _ (by rwa [reached, withheld]), reached, withheld, windows, full]

/-- Other snapshots under the sorted limit ids of a usage. -/
theorem snapshots_zip (usage' : CodexUsage) {rest : List RateLimitSnapshot} (length : rest.length = (bucketsById usage).length)
    (h : usage'.rateLimitsByLimitId = ((bucketsById usage).map Prod.fst).zip rest) :
    snapshots usage' = usage'.rateLimits.toList ++ rest ∧
      usage'.rateLimitsByLimitId.map Prod.fst = (bucketsById usage).map Prod.fst := by
  have hfst : usage'.rateLimitsByLimitId.map Prod.fst = (bucketsById usage).map Prod.fst := by
    rw [h, List.map_fst_zip (by simp [length])]
  have sorted : usage'.rateLimitsByLimitId.Pairwise fun a b => a.1 ≤ b.1 := by
    rw [← List.pairwise_map (f := Prod.fst) (R := (· ≤ ·)), hfst, List.pairwise_map]
    exact List.pairwise_insertionSort (fun a b : String × RateLimitSnapshot => a.1 ≤ b.1) _
  have hbuckets : bucketsById usage' = usage'.rateLimitsByLimitId :=
    List.Pairwise.insertionSort_eq sorted
  refine ⟨?_, hfst⟩
  rw [snapshots, hbuckets, h, List.map_snd_zip (by simp [length])]

/-- The snapshots of a usage can be put in any order, under the same limit ids. -/
theorem exists_reordered (h : l.Perm (snapshots usage)) :
    ∃ usage', Reordered usage usage' ∧ snapshots usage' = l := by
  have hids : ((bucketsById usage).map Prod.fst).Perm (usage.rateLimitsByLimitId.map Prod.fst) :=
    (List.perm_insertionSort _ _).map _
  have hlength : l.length = usage.rateLimits.toList.length + (bucketsById usage).length := by
    rw [h.length_eq, snapshots, List.length_append, List.length_map]
  have build : ∀ usage' : CodexUsage, usage'.rateLimits.isSome = usage.rateLimits.isSome →
      usage'.resetCredits = usage.resetCredits → snapshots usage' = l →
      usage'.rateLimitsByLimitId.map Prod.fst = (bucketsById usage).map Prod.fst →
        Reordered usage usage' := by
    intro usage' top credits hl hfst
    refine ⟨top, by rw [hl]; exact h.map _, fun nodup => ?_, credits⟩
    rw [hfst]
    exact hids.nodup_iff.2 nodup
  cases top : usage.rateLimits with
  | none =>
    rw [top, Option.toList_none, List.length_nil, Nat.zero_add] at hlength
    let usage' := { usage with rateLimitsByLimitId := ((bucketsById usage).map Prod.fst).zip l }
    obtain ⟨hl, hfst⟩ := snapshots_zip usage' hlength rfl
    have hl : snapshots usage' = l := by rw [hl, show usage'.rateLimits = none from top]; rfl
    exact ⟨usage', build usage' rfl rfl hl hfst, hl⟩
  | some first =>
    rw [top, Option.toList_some, List.length_singleton] at hlength
    cases l with
    | nil => simp at hlength; omega
    | cons first rest =>
      let usage' := { usage with
        rateLimits := some first
        rateLimitsByLimitId := ((bucketsById usage).map Prod.fst).zip rest }
      rw [List.length_cons] at hlength
      obtain ⟨hl, hfst⟩ := snapshots_zip usage' (by omega) rfl
      exact ⟨usage', build usage' (by rw [top]; rfl) rfl hl hfst, hl⟩

/-- A mixed usage is classified otherwise in another order. -/
theorem Mixed.exists_other (h : Mixed usage) :
    ∃ usage', Reordered usage usage' ∧ classify usage' ≠ classify usage := by
  have first : ∀ snapshot ∈ snapshots usage, ∃ usage' rest, Reordered usage usage' ∧
      classify usage' = classifySnapshots false false (snapshot :: rest) := by
    intro snapshot hmem
    obtain ⟨usage', reordered, hl⟩ := exists_reordered (List.perm_cons_erase hmem).symm
    exact ⟨usage', _, reordered, by rw [classify, ← snapshots, hl]⟩
  obtain ⟨⟨snapshot, hmem, reached⟩, other, hother, withheld⟩ := h
  by_cases exhausted : classify usage = .exhausted
  · obtain ⟨usage', rest, reordered, hclassify⟩ := first other hother
    refine ⟨usage', reordered, ?_⟩
    have not_reached : other.reached = false := by
      cases h : other.rateLimitReachedType <;>
        simp_all [RateLimitSnapshot.reached, RateLimitSnapshot.withheld]
    rw [hclassify, classifySnapshots_cons, not_reached, withheld, exhausted]
    simp
  · obtain ⟨usage', rest, reordered, hclassify⟩ := first snapshot hmem
    refine ⟨usage', reordered, ?_⟩
    rw [hclassify, classifySnapshots_cons, if_pos reached]
    exact Ne.symm exhausted

/-! ## The law -/

/-- A usage is classified alike under any limit ids, and as available exactly when it is roomy, if and
only if its snapshots do not settle it in two ways. -/
theorem classify_orderFree_iff (usage : CodexUsage) :
    ((∀ usage', Reordered usage usage' → classify usage' = classify usage) ∧
      (classify usage = .available ↔ Roomy usage)) ↔ ¬Mixed usage := by
  constructor
  · rintro ⟨orderFree, -⟩ mixed
    obtain ⟨usage', reordered, hne⟩ := mixed.exists_other
    exact hne (orderFree usage' reordered)
  · intro pure
    exact ⟨fun usage' reordered => reordered.classify_eq pure, classify_available_iff⟩

/-- A bucket without any windows. -/
def sampleBucket (rateLimitReachedType : Option String) (remainingPercent : ℕ) : RateLimitSnapshot where
  limitId := none
  limitName := none
  planType := none
  rateLimitReachedType
  primary := none
  secondary := none
  credits := none
  individualLimit := some ⟨"100", "100", remainingPercent, 1900000000⟩

/-- Two buckets, of which one has reached its limit and the other its individual limit. -/
def sampleMixed (reached withheld : String) : CodexUsage where
  rateLimits := some (sampleBucket none 80)
  rateLimitsByLimitId := [(reached, sampleBucket (some "rate_limit_reached") 80),
    (withheld, sampleBucket none 0)]
  resetCredits := none

/-- Renaming the two buckets changes the classification. -/
theorem classify_not_orderFree :
    ¬∀ usage usage', Reordered usage usage' → classify usage' = classify usage := by
  intro h
  have reordered : Reordered (sampleMixed "b" "a") (sampleMixed "a" "b") := by
    refine ⟨rfl, ?_, fun _ => by decide, rfl⟩
    decide +kernel
  exact absurd (h _ _ reordered) (by decide +kernel)

end Usage

end Calcifer
