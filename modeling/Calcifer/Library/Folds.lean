import Calcifer.Library.Checks

/-!
# Checking loops with a state

A loop in `Except ε` that collects what it has seen. `foldlM_collect` is the rule for a loop whose state
is the list of the entries before, and `foldlM_zipIdx_eq_ok` the one for a loop whose state is any
function of them. A loop that compares every entry with the one before it is a chain
(`isChain_iff_previous`), and one that has a single way to fail fails in it (`forEach_eq_error`).
-/

namespace Checks

variable {ε α σ : Type}

/-- A loop that maps its entries, each of which may fail. -/
theorem mapM_eq_ok {f : α → Except ε σ} {l : List α} {s : List σ} :
    l.mapM f = .ok s ↔ List.Forall₂ (fun a b => f a = .ok b) l s := by
  induction l generalizing s with
  | nil => rw [List.mapM_nil, pure_eq_ok, List.forall₂_nil_left_iff, eq_comm]
  | cons a l ih =>
    simp only [List.mapM_cons, bind_eq_ok, ih, pure_eq_ok, List.forall₂_cons_left_iff]
    constructor
    · rintro ⟨b, hb, bs, hbs, rfl⟩
      exact ⟨b, bs, hb, hbs, rfl⟩
    · rintro ⟨b, bs, hb, hbs, rfl⟩
      exact ⟨b, hb, bs, hbs, rfl⟩

/-- A loop that collects its entries, each of which has to be as wanted and new. -/
theorem foldlM_collect {f : List α → α → Except ε (List α)} {P : α → Prop}
    (step : ∀ seen a s, f seen a = .ok s ↔ P a ∧ a ∉ seen ∧ s = a :: seen) {l seen s : List α} :
    l.foldlM f seen = .ok s ↔
      (∀ a ∈ l, P a) ∧ l.Nodup ∧ (∀ a ∈ l, a ∉ seen) ∧ s = l.reverse ++ seen := by
  induction l generalizing seen with
  | nil =>
    rw [List.foldlM_nil, pure_eq_ok]
    simp [eq_comm]
  | cons a l ih =>
    rw [List.foldlM_cons, bind_eq_ok, List.nodup_cons]
    constructor
    · rintro ⟨s₁, ha, hl⟩
      obtain ⟨hP, hnew, rfl⟩ := (step _ _ _).1 ha
      obtain ⟨hPs, hnodup, hnews, rfl⟩ := ih.1 hl
      refine ⟨List.forall_mem_cons.2 ⟨hP, hPs⟩, ⟨?_, hnodup⟩,
        List.forall_mem_cons.2 ⟨hnew, fun b hb hs => hnews b hb (List.mem_cons_of_mem a hs)⟩, ?_⟩
      · exact fun h => hnews a h List.mem_cons_self
      · simp
    · rintro ⟨hPs, ⟨ha, hnodup⟩, hnews, rfl⟩
      obtain ⟨hP, hPs⟩ := List.forall_mem_cons.1 hPs
      obtain ⟨hnew, hnews⟩ := List.forall_mem_cons.1 hnews
      refine ⟨a :: seen, (step _ _ _).2 ⟨hP, hnew, rfl⟩, ih.2 ⟨hPs, hnodup, fun b hb hs => ?_, ?_⟩⟩
      · obtain rfl | hs := List.mem_cons.1 hs
        · exact ha hb
        · exact hnews b hb hs
      · simp

/-- A loop over the entries with their places, whose state tells of the entries before. -/
theorem foldlM_zipIdx_eq_ok {f : σ → α × ℕ → Except ε σ} {state : List α → σ}
    {Q : List α → α → Prop}
    (step : ∀ before a s, f (state before) (a, before.length) = .ok s ↔
      Q before a ∧ s = state (before ++ [a])) {before l : List α} {s : σ} :
    (l.zipIdx before.length).foldlM f (state before) = .ok s ↔
      (∀ i a, l[i]? = some a → Q (before ++ l.take i) a) ∧ s = state (before ++ l) := by
  induction l generalizing before with
  | nil =>
    rw [List.zipIdx_nil, List.foldlM_nil, pure_eq_ok]
    simp [eq_comm]
  | cons a l ih =>
    have hl := @ih (before ++ [a])
    rw [List.length_append, List.length_singleton] at hl
    rw [List.zipIdx_cons, List.foldlM_cons, bind_eq_ok]
    constructor
    · rintro ⟨s₁, ha, hrest⟩
      obtain ⟨hQ, rfl⟩ := (step _ _ _).1 ha
      obtain ⟨hQs, rfl⟩ := hl.1 hrest
      refine ⟨fun i b hb => ?_, by simp⟩
      cases i with
      | zero =>
        obtain rfl : a = b := by simpa using hb
        simpa using hQ
      | succ i =>
        have := hQs i b (by simpa using hb)
        simpa using this
    · rintro ⟨hQs, rfl⟩
      refine ⟨_, (step _ _ _).2 ⟨by simpa using hQs 0 a rfl, rfl⟩, hl.2 ⟨fun i b hb => ?_, by simp⟩⟩
      have := hQs (i + 1) b (by simpa using hb)
      simpa using this

/-- Comparing every entry with the one before it. -/
theorem isChain_iff_previous {R : α → α → Prop} [DecidableRel R] {l : List α} :
    l.IsChain R ↔ ∀ i a, l[i]? = some a →
      ¬(0 < i ∧ (l[i - 1]?).any (fun previous => ¬R previous a) = true) := by
  rw [List.isChain_iff_getElem]
  constructor
  · rintro chain i a ha ⟨hpos, h⟩
    obtain ⟨hi, rfl⟩ := List.getElem?_eq_some_iff.1 ha
    obtain ⟨i, rfl⟩ := Nat.exists_eq_add_of_le' hpos
    rw [Nat.add_sub_cancel, List.getElem?_eq_getElem (Nat.lt_of_succ_lt hi)] at h
    exact absurd (chain i hi) (by simpa using h)
  · intro h i hi
    have hprevious := h (i + 1) _ (List.getElem?_eq_getElem hi)
    rw [Nat.add_sub_cancel, List.getElem?_eq_getElem (Nat.lt_of_succ_lt hi)] at hprevious
    simpa using hprevious

theorem forEachFrom_eq_error {f : ℕ → α → Except ε Unit} {e : ε}
    (only : ∀ i a, f i a = .ok () ∨ f i a = .error e) {n : ℕ} {l : List α} :
    forEachFrom n l f = .ok () ∨ forEachFrom n l f = .error e := by
  induction l generalizing n with
  | nil => exact Or.inl rfl
  | cons a l ih =>
    obtain h | h := only n a
    · rw [forEachFrom, h]
      exact ih
    · rw [forEachFrom, h]
      exact Or.inr rfl

/-- A loop whose checks all reject with the same error. -/
theorem forEach_eq_error {f : ℕ → α → Except ε Unit} {e : ε}
    (only : ∀ i a, f i a = .ok () ∨ f i a = .error e) {l : List α} (h : forEach l f ≠ .ok ()) :
    forEach l f = .error e :=
  (forEachFrom_eq_error only).resolve_left h

end Checks
