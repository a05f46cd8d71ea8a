import Mathlib

/-!
# Lists that are changed in place or grow

`updateFirst` rewrites the first entry that satisfies a test, and `Grows R l l'` says that `l'` keeps
every entry of `l` in its place, up to `R`, and adds entries only at the end. `binarySearch` looks for
an entry of a sorted list by halving it, and `after` lists the other entries of a ring.
-/

namespace Lists

variable {α : Type}

/-! ## Updating the first match -/

/-- Rewrite the first entry that satisfies `p`. -/
def updateFirst (p : α → Bool) (f : α → α) : List α → List α
  | [] => []
  | a :: l => if p a then f a :: l else a :: updateFirst p f l

section updateFirst

variable {p : α → Bool} {f : α → α} {l : List α}

@[simp] theorem length_updateFirst : (updateFirst p f l).length = l.length := by
  induction l with
  | nil => rfl
  | cons a l ih =>
    rw [updateFirst]
    split_ifs <;> simp [ih]

theorem updateFirst_of_find?_none (h : l.find? p = none) : updateFirst p f l = l := by
  induction l with
  | nil => rfl
  | cons a l ih =>
    rw [List.find?_cons] at h
    cases hp : p a with
    | true => simp [hp] at h
    | false =>
      simp only [hp] at h
      simp [updateFirst, hp, ih h]

/-- Rewriting an entry to itself changes nothing. -/
theorem updateFirst_eq_self (h : ∀ a, l.find? p = some a → f a = a) : updateFirst p f l = l := by
  induction l with
  | nil => rfl
  | cons a l ih =>
    rw [updateFirst]
    cases hp : p a with
    | true =>
      rw [h a (by simp [hp])]
      rfl
    | false =>
      rw [ih fun b hb => h b (by simpa [hp] using hb)]
      rfl

/-- Splitting at the entry that is rewritten. -/
theorem exists_split_of_find? {a : α} (h : l.find? p = some a) :
    ∃ l₁ l₂, l = l₁ ++ a :: l₂ ∧ p a ∧ (∀ b ∈ l₁, p b = false) ∧
      ∀ g : α → α, updateFirst p g l = l₁ ++ g a :: l₂ := by
  induction l with
  | nil => simp at h
  | cons b l ih =>
    rw [List.find?_cons] at h
    cases hp : p b with
    | true =>
      simp only [hp, Option.some.injEq] at h
      subst h
      exact ⟨[], l, rfl, hp, by simp, fun g => by simp [updateFirst, hp]⟩
    | false =>
      simp only [hp] at h
      obtain ⟨l₁, l₂, rfl, ha, hl, hu⟩ := ih h
      refine ⟨b :: l₁, l₂, rfl, ha, ?_, fun g => by simp [updateFirst, hp, hu]⟩
      rintro c (_ | ⟨_, hc⟩)
      · exact hp
      · exact hl c hc

theorem map_updateFirst {γ : Type} {g : α → γ} (h : ∀ a, g (f a) = g a) :
    (updateFirst p f l).map g = l.map g := by
  induction l with
  | nil => rfl
  | cons a l ih =>
    rw [updateFirst]
    split_ifs <;> simp [h, ih]

theorem flatMap_updateFirst {γ : Type} {g : α → List γ} (h : ∀ a, g (f a) = g a) :
    (updateFirst p f l).flatMap g = l.flatMap g := by
  rw [List.flatMap_def, List.flatMap_def, map_updateFirst h]

/-- An entry of the updated list is an old entry, or the rewritten one. -/
theorem mem_updateFirst {b : α} (h : b ∈ updateFirst p f l) :
    b ∈ l ∨ ∃ a, l.find? p = some a ∧ b = f a := by
  cases hf : l.find? p with
  | none => exact Or.inl (by rwa [updateFirst_of_find?_none hf] at h)
  | some a =>
    obtain ⟨l₁, l₂, rfl, -, -, hu⟩ := exists_split_of_find? hf
    rw [hu, List.mem_append, List.mem_cons] at h
    rcases h with h | rfl | h
    · exact Or.inl (by simp [h])
    · exact Or.inr ⟨a, rfl, rfl⟩
    · exact Or.inl (by simp [h])

/-- A list and its update are related entry by entry. -/
theorem forall₂_updateFirst {R : α → α → Prop} (refl : ∀ a, R a a)
    (h : ∀ a, l.find? p = some a → R a (f a)) : List.Forall₂ R l (updateFirst p f l) := by
  cases hf : l.find? p with
  | none =>
    rw [updateFirst_of_find?_none hf]
    exact List.forall₂_same.2 fun a _ => refl a
  | some a =>
    obtain ⟨l₁, l₂, rfl, -, -, hu⟩ := exists_split_of_find? hf
    rw [hu]
    have same : ∀ l : List α, List.Forall₂ R l l := fun l => List.forall₂_same.2 fun a _ => refl a
    exact List.rel_append (same l₁) (List.Forall₂.cons (h a hf) (same l₂))

/-- Finding by a test the rewriting does not affect gives the old entry, rewritten if it is the one. -/
theorem find?_updateFirst_self (hp : ∀ a, p (f a) = p a) :
    (updateFirst p f l).find? p = (l.find? p).map f := by
  induction l with
  | nil => rfl
  | cons a l ih =>
    rw [updateFirst]
    cases h : p a with
    | true => simp [h, hp]
    | false => simp [h, ih]

theorem find?_updateFirst_of_disjoint {q : α → Bool} (hq : ∀ a, p a → q a = false)
    (hf : ∀ a, q (f a) = q a) : (updateFirst p f l).find? q = l.find? q := by
  induction l with
  | nil => rfl
  | cons a l ih =>
    rw [updateFirst]
    cases h : p a with
    | true =>
      have ha := hq a h
      simp [ha, hf]
    | false =>
      simp only [Bool.false_eq_true, ↓reduceIte, List.find?_cons, ih]

/-- Finding by a test the rewritten entry fails before and after. -/
theorem find?_updateFirst_of_not {q : α → Bool} {a : α} (ha : l.find? p = some a)
    (hq : q a = false) (hf : q (f a) = false) : (updateFirst p f l).find? q = l.find? q := by
  obtain ⟨l₁, l₂, rfl, -, -, hu⟩ := exists_split_of_find? ha
  rw [hu, List.find?_append, List.find?_append]
  simp [hq, hf]

/-- An entry that is found by a test the rewriting does not affect is found again, rewritten or
not. -/
theorem find?_updateFirst_cases {q : α → Bool} {a : α} (hf : ∀ a, q (f a) = q a)
    (ha : l.find? q = some a) : (updateFirst p f l).find? q = some a ∨
      (updateFirst p f l).find? q = some (f a) := by
  induction l with
  | nil => cases ha
  | cons b l ih =>
    rw [updateFirst]
    cases hq : q b with
    | true =>
      obtain rfl : b = a := by simpa [hq] using ha
      split_ifs <;> simp [hq, hf]
    | false =>
      have ha' : l.find? q = some a := by simpa [hq] using ha
      split_ifs
      · exact Or.inl (by simpa [hf, hq] using ha')
      · simpa [hq] using ih ha'

/-- Extending one part of a concatenation without repetitions by a new value keeps it so. -/
theorem nodup_flatMap_updateFirst {γ : Type} {F : α → List γ} {a : α} {x : γ}
    (ha : l.find? p = some a) (hF : F (f a) = F a ++ [x]) (hl : (l.flatMap F).Nodup)
    (hx : x ∉ l.flatMap F) : ((updateFirst p f l).flatMap F).Nodup := by
  obtain ⟨l₁, l₂, rfl, -, -, hu⟩ := exists_split_of_find? ha
  have hperm : List.Perm ((l₁ ++ f a :: l₂).flatMap F) (x :: (l₁ ++ a :: l₂).flatMap F) := by
    simp only [List.flatMap_append, List.flatMap_cons, hF]
    rw [List.append_assoc, List.singleton_append, ← List.append_assoc, ← List.append_assoc]
    exact List.perm_middle
  rw [hu, hperm.nodup_iff]
  exact List.nodup_cons.2 ⟨hx, hl⟩

end updateFirst

/-! ## Comparing entries with the earlier ones -/

section

variable {l : List α}

/-- Comparing every entry with the entries before it is comparing every pair. -/
theorem forall_take_iff_pairwise {R : α → α → Prop} :
    (∀ i a, l[i]? = some a → ∀ b ∈ l.take i, R b a) ↔ l.Pairwise R := by
  rw [List.pairwise_iff_getElem]
  constructor
  · intro h i j hi hj hij
    refine h j l[j] (List.getElem?_eq_getElem hj) _ ?_
    exact List.mem_take_iff_getElem.2 ⟨i, by omega, rfl⟩
  · intro h i a ha b hb
    obtain ⟨hi, rfl⟩ := List.getElem?_eq_some_iff.1 ha
    obtain ⟨j, hj, rfl⟩ := List.mem_take_iff_getElem.1 hb
    exact h j i (by omega) hi (by omega)

/-- What is left out of the first entries comes after each of them, and there are as many as were asked for. -/
theorem take_complete {R : α → α → Prop} {n : ℕ} {a : α} (sorted : l.Pairwise R) (ha : a ∈ l)
    (out : a ∉ l.take n) : (l.take n).length = n ∧ ∀ b ∈ l.take n, R b a := by
  rw [← List.take_append_drop n l] at sorted ha
  have behind : a ∈ l.drop n := (List.mem_append.1 ha).resolve_left out
  refine ⟨?_, fun b hb => (List.pairwise_append.1 sorted).2.2 b hb a behind⟩
  have some_left := List.length_pos_of_mem behind
  rw [List.length_drop] at some_left
  rw [List.length_take]
  omega

theorem pairwise_ne_iff_nodup_map {β : Type} {f : α → β} :
    (l.Pairwise fun b a => ¬ f b = f a) ↔ (l.map f).Nodup := by
  rw [List.Nodup, List.pairwise_map]

/-- An entry is found under its key when keys are not repeated. -/
theorem find?_of_nodup_map {β : Type} [DecidableEq β] {f : α → β} {a : α}
    (h : (l.map f).Nodup) (ha : a ∈ l) : l.find? (fun b => f b = f a) = some a := by
  cases hf : l.find? fun b => f b = f a with
  | none => exact absurd (decide_eq_true rfl) (List.find?_eq_none.1 hf a ha)
  | some b =>
    have hb : f b = f a := by simpa using List.find?_some hf
    rw [List.inj_on_of_nodup_map h (List.mem_of_find?_eq_some hf) ha hb]

/-- Erasing a key that is not repeated erases every entry with it. -/
theorem ne_of_mem_eraseP {β : Type} [DecidableEq β] {f : α → β} {k : β} {b : α}
    (h : (l.map f).Nodup) (hb : b ∈ l.eraseP fun a => f a = k) : f b ≠ k := by
  induction l with
  | nil => simp at hb
  | cons a l ih =>
    rw [List.map_cons, List.nodup_cons] at h
    by_cases ha : f a = k
    · rw [List.eraseP_cons_of_pos (by simpa using ha)] at hb
      rintro rfl
      exact h.1 (List.mem_map.2 ⟨b, hb, ha.symm⟩)
    · rw [List.eraseP_cons_of_neg (by simpa using ha)] at hb
      obtain rfl | hb := List.mem_cons.1 hb
      · exact ha
      · exact ih h.2 hb

/-- A strictly decreasing list of positive numbers is no longer than its bound. -/
theorem length_le_of_decreasing {l : List ℕ} (decreasing : l.Pairwise (· > ·))
    (pos : ∀ a ∈ l, 1 ≤ a) {n : ℕ} (bounded : ∀ a ∈ l, a ≤ n) : l.length ≤ n := by
  induction l generalizing n with
  | nil => exact Nat.zero_le n
  | cons a l ih =>
    rw [List.pairwise_cons] at decreasing
    have ha := pos a (by simp)
    have hn := bounded a (by simp)
    have hl : l.length ≤ a - 1 := by
      refine ih decreasing.2 (fun b hb => pos b (by simp [hb])) fun b hb => ?_
      have := decreasing.1 b hb
      omega
    rw [List.length_cons]
    omega

end

/-! ## Growth -/

/-- Every entry of `l` stays in its place in `l'`, changed at most as `R` allows. -/
def Grows (R : α → α → Prop) (l l' : List α) : Prop :=
  ∀ (i : ℕ) (a : α), l[i]? = some a → ∃ b, l'[i]? = some b ∧ R a b

section Grows

variable {R S : α → α → Prop} {l l' l'' : List α}

theorem Grows.refl (refl : ∀ a, R a a) (l : List α) : Grows R l l :=
  fun _ a ha => ⟨a, ha, refl a⟩

theorem Grows.trans (trans : ∀ a b c, R a b → R b c → R a c) (h : Grows R l l')
    (h' : Grows R l' l'') : Grows R l l'' := by
  intro i a ha
  obtain ⟨b, hb, hab⟩ := h i a ha
  obtain ⟨c, hc, hbc⟩ := h' i b hb
  exact ⟨c, hc, trans a b c hab hbc⟩

theorem Grows.append (refl : ∀ a, R a a) (l added : List α) : Grows R l (l ++ added) := by
  intro i a ha
  refine ⟨a, ?_, refl a⟩
  rw [List.getElem?_append_left (List.getElem?_eq_some_iff.1 ha).1, ha]

theorem Grows.updateFirst {p : α → Bool} {f : α → α} (refl : ∀ a, R a a)
    (h : ∀ a, l.find? p = some a → R a (f a)) : Grows R l (updateFirst p f l) := by
  intro i a ha
  have hr := forall₂_updateFirst refl h
  obtain ⟨hi, rfl⟩ := List.getElem?_eq_some_iff.1 ha
  have hi' : i < (Lists.updateFirst p f l).length := hr.length_eq ▸ hi
  exact ⟨_, List.getElem?_eq_getElem hi', hr.get hi hi'⟩

end Grows

/-! ## Binary search -/

section binarySearch

variable [LinearOrder α] {a : α} {l : List α}

/-- Look for `a` in a sorted list, which is halved so many times at most. -/
def searchWithin (a : α) : ℕ → List α → Bool
  | 0, _ => false
  | fuel + 1, l =>
    match l[l.length / 2]? with
    | none => false
    | some b =>
      if b < a then searchWithin a fuel (l.drop (l.length / 2 + 1))
      else if a < b then searchWithin a fuel (l.take (l.length / 2))
      else true

/-- Look for `a` in a sorted list. -/
def binarySearch (l : List α) (a : α) : Bool := searchWithin a l.length l

theorem searchWithin_iff {fuel : ℕ} (sorted : l.Pairwise (· < ·)) (enough : l.length ≤ fuel) :
    searchWithin a fuel l = true ↔ a ∈ l := by
  induction fuel generalizing l with
  | zero =>
    obtain rfl : l = [] := List.length_eq_zero_iff.1 (Nat.le_zero.1 enough)
    simp [searchWithin]
  | succ fuel ih =>
    by_cases hl : l = []
    · simp [searchWithin, hl]
    have hpos : 0 < l.length := List.length_pos_iff.2 hl
    have hmid : l.length / 2 < l.length := by omega
    -- the middle entry with what stands before and after it
    have hsplit : l.take (l.length / 2) ++ l[l.length / 2] :: l.drop (l.length / 2 + 1) = l := by
      rw [List.cons_getElem_drop_succ, List.take_append_drop]
    have hsorted := hsplit ▸ sorted
    rw [List.pairwise_append, List.pairwise_cons] at hsorted
    obtain ⟨hbefore, ⟨hgt, hafter⟩, hlt⟩ := hsorted
    have hmem : a ∈ l ↔ a ∈ l.take (l.length / 2) ∨ a = l[l.length / 2] ∨
        a ∈ l.drop (l.length / 2 + 1) := by
      rw [← List.mem_cons, ← List.mem_append, hsplit]
    rw [hmem, searchWithin, List.getElem?_eq_getElem hmid]
    show (if l[l.length / 2] < a then _ else _) = true ↔ _
    split_ifs with hless hmore
    · rw [ih hafter (by rw [List.length_drop]; omega)]
      refine ⟨fun h => Or.inr (Or.inr h), ?_⟩
      rintro (h | h | h)
      · exact absurd (hlt a h _ List.mem_cons_self) (not_lt_of_gt hless)
      · exact absurd h (ne_of_gt hless)
      · exact h
    · rw [ih hbefore (by rw [List.length_take]; omega)]
      refine ⟨Or.inl, ?_⟩
      rintro (h | h | h)
      · exact h
      · exact absurd h (ne_of_lt hmore)
      · exact absurd (hgt a h) (not_lt_of_gt hmore)
    · simp [le_antisymm (not_lt.1 hless) (not_lt.1 hmore)]

/-- Binary search in a sorted list finds exactly its entries. -/
theorem binarySearch_iff (sorted : l.Pairwise (· < ·)) : binarySearch l a = true ↔ a ∈ l :=
  searchWithin_iff sorted le_rfl

end binarySearch

/-! ## Rings -/

section ring

variable {l : List α} {i : ℕ}

/-- The entries of a ring that come after the one at `i`, once around. -/
def after (l : List α) (i : ℕ) : List α := l.drop (i + 1) ++ l.take i

theorem filterMap_range'_getElem? {k n : ℕ} (h : k + n ≤ l.length) :
    (List.range' k n).filterMap (fun j => l[j]?) = (l.drop k).take n := by
  induction n generalizing k with
  | zero => simp
  | succ n ih =>
    have hk : k < l.length := by omega
    rw [List.range'_succ, List.filterMap_cons, List.getElem?_eq_getElem hk, ih (by omega),
      List.drop_eq_getElem_cons hk, List.take_succ_cons]

/-- Counting on from an entry modulo the length goes around the ring. -/
theorem filterMap_mod_eq_after (hi : i < l.length) :
    (List.range' 1 (l.length - 1)).filterMap (fun offset => l[(i + offset) % l.length]?) =
      after l i := by
  have hrange : List.range' 1 (l.length - 1) =
      (List.range' (i + 1) (l.length - 1 - i)).map (· - i) ++
        (List.range' 0 i).map (· + (l.length - i)) := by
    have hsum : (fun j => j + (l.length - i)) = fun j => l.length - i + j :=
      funext fun j => Nat.add_comm j _
    rw [List.map_sub_range' (by omega), hsum, List.map_add_range',
      show i + 1 - i = 1 by omega, show l.length - i + 0 = 1 + (l.length - 1 - i) by omega,
      List.range'_append_1]
    congr 1
    omega
  rw [hrange, List.filterMap_append, List.filterMap_map, List.filterMap_map, after]
  congr 1
  · rw [List.filterMap_congr (g := fun j => l[j]?), filterMap_range'_getElem? (by omega)]
    · exact List.take_of_length_le (by rw [List.length_drop]; omega)
    · intro j hj
      rw [List.mem_range'_1] at hj
      show l[(i + (j - i)) % l.length]? = l[j]?
      rw [Nat.add_sub_cancel' (by omega), Nat.mod_eq_of_lt (by omega)]
  · rw [List.filterMap_congr (g := fun j => l[j]?), filterMap_range'_getElem? (by omega),
      List.drop_zero]
    intro j hj
    rw [List.mem_range'_1] at hj
    show l[(i + (j + (l.length - i))) % l.length]? = l[j]?
    rw [show i + (j + (l.length - i)) = j + l.length by omega, Nat.add_mod_right,
      Nat.mod_eq_of_lt (by omega)]

@[simp] theorem length_after (hi : i < l.length) : (after l i).length = l.length - 1 := by
  rw [after, List.length_append, List.length_drop, List.length_take]
  omega

theorem nodup_cons_after (hi : i < l.length) (h : l.Nodup) : (l[i] :: after l i).Nodup := by
  have hperm : (l[i] :: after l i).Perm l := by
    have hsplit : l.take i ++ l[i] :: l.drop (i + 1) = l := by
      rw [List.cons_getElem_drop_succ, List.take_append_drop]
    have hmiddle : (l[i] :: (l.take i ++ l.drop (i + 1))).Perm l := by
      conv_rhs => rw [← hsplit]
      exact List.perm_middle.symm
    exact (List.Perm.cons _ List.perm_append_comm).trans hmiddle
  exact hperm.nodup_iff.2 h

theorem mem_of_mem_after {a : α} (h : a ∈ after l i) : a ∈ l := by
  rw [after, List.mem_append] at h
  exact h.elim List.mem_of_mem_drop List.mem_of_mem_take

end ring

/-! ## What holds where an entry is added -/

section

variable {P : List α → α → Prop} {l l' : List α}

/-- Every entry stands in a relation to the entries before it. -/
def Each (P : List α → α → Prop) (l : List α) : Prop := ∀ before a after, l = before ++ a :: after → P before a

theorem Each.nil : Each P ([] : List α) := by
  intro before a after h
  cases before <;> cases h

theorem each_append : Each P (l ++ l') ↔ Each P l ∧ Each (fun before a => P (l ++ before) a) l' := by
  constructor
  · intro h
    refine ⟨fun before a after same => h before a (after ++ l') ?_, fun before a after same => ?_⟩
    · rw [same, List.append_assoc]
      rfl
    · refine h (l ++ before) a after ?_
      rw [same, List.append_assoc]
  · rintro ⟨first, second⟩ before a after same
    rcases List.append_eq_append_iff.1 same with ⟨extra, rfl, rest⟩ | ⟨extra, rfl, rest⟩
    · exact second extra a after rest
    · cases extra with
      | nil => simpa using second [] a after rest.symm
      | cons b extra =>
        obtain ⟨rfl, -⟩ := List.cons.inj rest
        exact first before a extra rfl

theorem each_concat {a : α} : Each P (l ++ [a]) ↔ Each P l ∧ P l a := by
  rw [each_append]
  refine and_congr_right fun _ => ⟨fun h => ?_, fun h before b after same => ?_⟩
  · simpa using h [] a [] rfl
  · cases before with
    | nil =>
      obtain ⟨rfl, -⟩ := List.cons.inj same
      rw [List.append_nil]
      exact h
    | cons c before => cases before <;> cases same

theorem Each.imp {Q : List α → α → Prop} (h : Each P l) (imp : ∀ before a, P before a → Q before a) :
    Each Q l := fun before a after same => imp before a (h before a after same)

end

end Lists
