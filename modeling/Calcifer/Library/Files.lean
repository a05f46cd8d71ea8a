import Calcifer.Library.Program

/-!
# Files with atomic renames

A file tree as a map from paths to nodes, and the calls of a program on it. Renames and removals are
atomic, a write that fails may leave anything behind, and a process can crash between any two calls.
The world also keeps the renames that were made, newest first, and the locks that the process under
way holds, which its end releases. Whether a call that could succeed may fail all the same is a
parameter of the surroundings, so that one program can be shown safe under every fault and
successful without one.

`Attempt` is a program that can stop with an error, and `Safely` its weakest precondition, with one
rule for every call.
-/

namespace Files

abbrev Path : Type := List String

/-- The calls on files with nodes in `N` and locks in `L`. -/
inductive FileOp (N L : Type) where
  | stat (path : Path)
  | read (path : Path)
  | list (path : Path)
  | create (path : Path) (node : N)
  | write (path : Path) (node : N)
  | rename (source target : Path)
  | remove (path : Path)
  | sync
  | acquire (lock : L)
  | release (lock : L)

variable {N L : Type}

/-- What a call answers when it succeeds. -/
def FileOp.Result : FileOp N L → Type
  | .stat _ => Option N
  | .read _ => N
  | .list _ => List String
  | _ => Unit

/-- A call that fails answers nothing. -/
def FileOp.Reply (op : FileOp N L) : Type := Option op.Result

/-- The files, the renames so far and the locks of the process under way. -/
structure FileWorld (N L : Type) where
  at' : Path → Option N
  renames : List (Path × Path)
  locks : L → Bool

/-- Change what is at a path. -/
def FileWorld.set (w : FileWorld N L) (path : Path) (node : Option N) : FileWorld N L :=
  { w with at' := fun q => if q = path then node else w.at' q }

/-- Move what is at a path and below it. -/
def FileWorld.move (w : FileWorld N L) (source target : Path) : FileWorld N L :=
  { w with
    at' := fun q =>
      if target <+: q then w.at' (source ++ q.drop target.length)
      else if source <+: q then none
      else w.at' q
    renames := (source, target) :: w.renames }

def FileWorld.lock [DecidableEq L] (w : FileWorld N L) (lock : L) (held : Bool) : FileWorld N L :=
  { w with locks := fun l => if l = lock then held else w.locks l }

section

variable (w : FileWorld N L) (path source target q : Path) (node : Option N)

@[simp] theorem set_at : (w.set path node).at' q = if q = path then node else w.at' q := rfl

@[simp] theorem set_renames : (w.set path node).renames = w.renames := rfl

@[simp] theorem set_locks : (w.set path node).locks = w.locks := rfl

@[simp] theorem move_at : (w.move source target).at' q =
    if target <+: q then w.at' (source ++ q.drop target.length)
    else if source <+: q then none
    else w.at' q := rfl

@[simp] theorem move_renames : (w.move source target).renames = (source, target) :: w.renames := rfl

@[simp] theorem move_locks : (w.move source target).locks = w.locks := rfl

@[simp] theorem lock_at [DecidableEq L] (l : L) (held : Bool) : (w.lock l held).at' = w.at' := rfl

@[simp] theorem lock_renames [DecidableEq L] (l : L) (held : Bool) :
    (w.lock l held).renames = w.renames := rfl

end

/-! ## Calls -/

section

variable [DecidableEq L]

/-- What a call that succeeds can answer and do. The names in a directory come in any order, and
only what has nothing below it can be removed. -/
inductive Succeeds (w : FileWorld N L) : (op : FileOp N L) → op.Result → FileWorld N L → Prop
  | stat (path : Path) : Succeeds w (.stat path) (w.at' path) w
  | read (path : Path) (node : N) (h : w.at' path = some node) : Succeeds w (.read path) node w
  | list (path : Path) (names : List String) (hn : names.Nodup)
      (h : ∀ name, name ∈ names ↔ (w.at' (path ++ [name])).isSome) : Succeeds w (.list path) names w
  | create (path : Path) (node : N) (h : w.at' path = none) :
      Succeeds w (.create path node) () (w.set path (some node))
  | write (path : Path) (node : N) (h : (w.at' path).isSome) :
      Succeeds w (.write path node) () (w.set path (some node))
  | rename (source target : Path) (h : (w.at' source).isSome) (hn : ¬ source <+: target) :
      Succeeds w (.rename source target) () (w.move source target)
  | remove (path : Path) (h : (w.at' path).isSome) (hn : ∀ name, w.at' (path ++ [name]) = none) :
      Succeeds w (.remove path) () (w.set path none)
  | sync : Succeeds w .sync () w
  | acquire (lock : L) (h : w.locks lock = false) : Succeeds w (.acquire lock) () (w.lock lock true)
  | release (lock : L) : Succeeds w (.release lock) () (w.lock lock false)

/-- What a call that fails can do: only a write leaves a trace. -/
inductive Fails (w : FileWorld N L) : FileOp N L → FileWorld N L → Prop
  | untouched (op : FileOp N L) : Fails w op w
  | torn (path : Path) (node torn : N) (h : (w.at' path).isSome) :
      Fails w (.write path node) (w.set path (some torn))

/-- A call succeeds, or it fails because it has to or because there are faults. -/
inductive Performs (faults : Prop) (w : FileWorld N L) :
    (op : FileOp N L) → op.Reply → FileWorld N L → Prop
  | ok {op : FileOp N L} {a : op.Result} {w' : FileWorld N L} (h : Succeeds w op a w') :
      Performs faults w op (some a) w'
  | fault {op : FileOp N L} {w' : FileWorld N L} (hf : faults) (h : Fails w op w') :
      Performs faults w op none w'
  | refused {op : FileOp N L} (h : ∀ a w', ¬ Succeeds w op a w') : Performs faults w op none w

/-- The files as the surroundings of programs, with what other processes do. -/
def surroundings (faults : Prop) (env : FileWorld N L → FileWorld N L → Prop) :
    Program.Surroundings (FileOp N L) FileOp.Reply (FileWorld N L) where
  Exec := Performs faults
  Env := env
  Exit w := { w with locks := fun _ => false }

end

/-! ## Attempts -/

/-- A program on files. -/
abbrev FileProgram (N L : Type) : Type → Type :=
  Program (FileOp N L) (FileOp.Reply (N := N) (L := L))

/-- A program on files that can end with an error. -/
abbrev Attempt (N L ε : Type) : Type → Type := ExceptT ε (FileProgram N L)

variable {ε α β : Type}

/-- A call whose failure ends the attempt with `e`. -/
def attempt (op : FileOp N L) (e : ε) : Attempt N L ε op.Result :=
  ExceptT.mk (.call op fun r => .done (match r with
    | some a => .ok a
    | none => .error e))

/-- An attempt whose outcome does not matter. -/
def ignore (x : Attempt N L ε α) : Attempt N L ε Unit :=
  ExceptT.mk (x.run >>= fun _ => .done (.ok ()))

/-- An attempt that is followed by another one when it fails. -/
def onError (x : Attempt N L ε α) (cleanup : Attempt N L ε β) : Attempt N L ε α :=
  ExceptT.mk (x.run >>= fun r => match r with
    | .ok a => .done (.ok a)
    | .error e => cleanup.run >>= fun _ => .done (.error e))

/-- A check that needs no call. -/
def check (x : Except ε α) : Attempt N L ε α := ExceptT.mk (.done x)

/-! ## The rules -/

section

variable [DecidableEq L] {faults : Prop} {env : FileWorld N L → FileWorld N L → Prop}
  {I : FileWorld N L → Prop} {Q : α → FileWorld N L → Prop} {E : ε → FileWorld N L → Prop}
  {w : FileWorld N L}

/-- What an attempt has to end with: `Q` when it succeeds and `E` when it does not. -/
def Ends (Q : α → FileWorld N L → Prop) (E : ε → FileWorld N L → Prop) (r : Except ε α)
    (w : FileWorld N L) : Prop :=
  match r with
  | .ok a => Q a w
  | .error e => E e w

/-- The attempt keeps `I` at every call and ends with `Q` or `E`. -/
def Safely (faults : Prop) (env : FileWorld N L → FileWorld N L → Prop) (I : FileWorld N L → Prop)
    (x : Attempt N L ε α) (Q : α → FileWorld N L → Prop) (E : ε → FileWorld N L → Prop)
    (w : FileWorld N L) : Prop :=
  Program.Safe (surroundings faults env) I x.run (Ends Q E) w

theorem Safely.pure {a : α} (h : Q a w) :
    Safely faults env I (pure a : Attempt N L ε α) Q E w := h

theorem Safely.throw {e : ε} (h : E e w) :
    Safely faults env I (throw e : Attempt N L ε α) Q E w := h

theorem Safely.check {x : Except ε α} (h : Ends Q E x w) :
    Safely faults env I (check x : Attempt N L ε α) Q E w := h

theorem Safely.mono {x : Attempt N L ε α} {Q' : α → FileWorld N L → Prop}
    {E' : ε → FileWorld N L → Prop} (h : Safely faults env I x Q E w)
    (hQ : ∀ a w, Q a w → Q' a w) (hE : ∀ e w, E e w → E' e w) :
    Safely faults env I x Q' E' w := by
  refine Program.Safe.mono h fun r w hr => ?_
  cases r with
  | ok a => exact hQ a w hr
  | error e => exact hE e w hr

/-- A weaker invariant is kept as well. -/
theorem Safely.weaken {x : Attempt N L ε α} {I' : FileWorld N L → Prop}
    (h : Safely faults env I x Q E w) (hI : ∀ w, I w → I' w) : Safely faults env I' x Q E w :=
  Program.Safe.weaken h hI

/-- Sequencing. -/
theorem Safely.bind {x : Attempt N L ε α} {f : α → Attempt N L ε β}
    {Q : β → FileWorld N L → Prop}
    (h : Safely faults env I x (fun a w => Safely faults env I (f a) Q E w) E w) :
    Safely faults env I (x >>= f) Q E w := by
  refine Program.Safe.bindExcept (Program.Safe.mono h fun r w hr => ?_)
  cases r with
  | ok a => exact hr
  | error e => exact hr

theorem Safely.ignore {x : Attempt N L ε α} {Q : Unit → FileWorld N L → Prop}
    (h : Safely faults env I x (fun _ w => Q () w) (fun _ w => Q () w) w) :
    Safely faults env I (ignore x) Q E w := by
  refine Program.Safe.bind (Program.Safe.mono h fun r w hr => ?_)
  cases r with
  | ok a => exact hr
  | error e => exact hr

theorem Safely.onError {x : Attempt N L ε α} {cleanup : Attempt N L ε β}
    (h : Safely faults env I x Q
      (fun e w => Safely faults env I cleanup (fun _ w => E e w) (fun _ w => E e w) w) w) :
    Safely faults env I (onError x cleanup) Q E w := by
  refine Program.Safe.bind (Program.Safe.mono h fun r w hr => ?_)
  cases r with
  | ok a => exact hr
  | error e =>
    refine Program.Safe.bind (Program.Safe.mono hr fun r w hr => ?_)
    cases r with
    | ok a => exact hr
    | error e' => exact hr

/-- A call may rely on what other processes keep. -/
theorem Safely.call {op : FileOp N L} {e : ε} {Q : op.Result → FileWorld N L → Prop}
    (A : FileWorld N L → Prop) (stable : ∀ w w', A w → env w w' → A w') (hA : A w)
    (ok : ∀ w₁, A w₁ → ∀ a w₂, Succeeds w₁ op a w₂ → I w₂ ∧ Q a w₂)
    (fault : faults → ∀ w₁, A w₁ → ∀ w₂, Fails w₁ op w₂ → I w₂ ∧ E e w₂)
    (refused : ∀ w₁, A w₁ → (∀ a w₂, ¬ Succeeds w₁ op a w₂) → I w₁ ∧ E e w₁) :
    Safely faults env I (attempt op e) Q E w := by
  refine Program.Safe.call A stable hA ?_
  intro w₁ hA r w₂ exec
  cases exec with
  | ok h => exact ok w₁ hA _ w₂ h
  | fault hf h => exact fault hf w₁ hA w₂ h
  | refused h => exact refused _ hA h

/-! ## Calls without other processes -/

/-- No other process moves. -/
def alone (_ _ : FileWorld N L) : Prop := False

/-- What an attempt does by itself it also does where `I` keeps other processes away. -/
theorem Safely.undisturbed {x : Attempt N L ε α} (h : Safely faults alone I x Q E w) (hI : I w)
    (quiet : ∀ w w', I w → ¬ env w w') : Safely faults env I x Q E w := by
  have general : ∀ (p : FileProgram N L (Except ε α)) (w : FileWorld N L), I w →
      Program.Safe (surroundings faults alone) I p (Ends Q E) w →
        Program.Safe (surroundings faults env) I p (Ends Q E) w := by
    intro p
    induction p with
    | done a => exact fun _ _ h => h
    | call op next ih =>
      intro w hI h w₁ star r w₂ exec
      -- nothing can move before the call
      obtain rfl | ⟨w', step, -⟩ := star.cases_head
      · obtain ⟨hI₂, hnext⟩ := h w .refl r w₂ exec
        exact ⟨hI₂, ih r w₂ hI₂ hnext⟩
      · exact absurd step (quiet w w' hI)
  exact general x.run w hI h

/-- A call of a process that is alone. -/
theorem Safely.step {op : FileOp N L} {e : ε} {Q : op.Result → FileWorld N L → Prop}
    (ok : ∀ a w₂, Succeeds w op a w₂ → I w₂ ∧ Q a w₂)
    (fault : faults → ∀ w₂, Fails w op w₂ → I w₂ ∧ E e w₂)
    (refused : (∀ a w₂, ¬ Succeeds w op a w₂) → I w ∧ E e w) :
    Safely faults alone I (attempt op e) Q E w := by
  refine Safely.call (· = w) (fun _ _ _ => False.elim) rfl ?_ ?_ ?_
  · rintro _ rfl
    exact ok
  · rintro hf _ rfl
    exact fault hf
  · rintro _ rfl
    exact refused

/-- A call that changes nothing when it fails. -/
theorem Safely.clean {op : FileOp N L} {e : ε} {Q : op.Result → FileWorld N L → Prop}
    (hop : ∀ path node, op ≠ .write path node) (hI : I w)
    (ok : ∀ a w₂, Succeeds w op a w₂ → I w₂ ∧ Q a w₂)
    (failed : faults ∨ (∀ a w₂, ¬ Succeeds w op a w₂) → E e w) :
    Safely faults alone I (attempt op e) Q E w := by
  refine Safely.step ok ?_ fun h => ⟨hI, failed (.inr h)⟩
  intro hf w₂ h
  cases h with
  | untouched => exact ⟨hI, failed (.inl hf)⟩
  | torn path node torn _ => exact absurd rfl (hop path node)

variable {path source target : Path} {node : N} {lock : L} {e : ε}

theorem Safely.stat {Q : Option N → FileWorld N L → Prop} (hI : I w) (ok : Q (w.at' path) w)
    (failed : faults → E e w) : Safely faults alone I (attempt (.stat path) e) Q E w := by
  refine Safely.clean (by simp) hI ?_ ?_
  · rintro a w₂ ⟨⟩
    exact ⟨hI, ok⟩
  · rintro (hf | h)
    · exact failed hf
    · exact absurd (.stat path) (h _ _)

theorem Safely.read {Q : N → FileWorld N L → Prop} (hI : I w)
    (ok : ∀ node, w.at' path = some node → Q node w) (failed : faults ∨ w.at' path = none → E e w) :
    Safely faults alone I (attempt (.read path) e) Q E w := by
  refine Safely.clean (by simp) hI ?_ ?_
  · rintro a w₂ ⟨⟩
    exact ⟨hI, ok a ‹_›⟩
  · rintro (hf | h)
    · exact failed (.inl hf)
    · refine failed (.inr (Option.eq_none_iff_forall_ne_some.2 fun node hn => ?_))
      exact h node w (.read path node hn)

/-- The names that are in a directory. -/
def Lists (w : FileWorld N L) (path : Path) (names : List String) : Prop :=
  names.Nodup ∧ ∀ name, name ∈ names ↔ (w.at' (path ++ [name])).isSome

theorem Safely.list {Q : List String → FileWorld N L → Prop} (hI : I w)
    (ok : ∀ names, Lists w path names → Q names w)
    (failed : faults ∨ (∀ names, ¬ Lists w path names) → E e w) :
    Safely faults alone I (attempt (.list path) e) Q E w := by
  refine Safely.clean (by simp) hI ?_ ?_
  · rintro a w₂ ⟨⟩
    exact ⟨hI, ok a ⟨‹_›, ‹_›⟩⟩
  · rintro (hf | h)
    · exact failed (.inl hf)
    · exact failed (.inr fun names hn => h names w (.list path names hn.1 hn.2))

theorem Safely.create {Q : Unit → FileWorld N L → Prop} (hI : I w)
    (ok : w.at' path = none → I (w.set path (some node)) ∧ Q () (w.set path (some node)))
    (failed : faults ∨ (w.at' path).isSome → E e w) :
    Safely faults alone I (attempt (.create path node) e) Q E w := by
  refine Safely.clean (by simp) hI ?_ ?_
  · rintro a w₂ ⟨⟩
    exact ok ‹_›
  · rintro (hf | h)
    · exact failed (.inl hf)
    · refine failed (.inr (Option.isSome_iff_ne_none.2 fun hn => ?_))
      exact h () _ (.create path node hn)

theorem Safely.write {Q : Unit → FileWorld N L → Prop} (hI : I w)
    (ok : (w.at' path).isSome → I (w.set path (some node)) ∧ Q () (w.set path (some node)))
    (torn : faults → (w.at' path).isSome → ∀ torn, I (w.set path (some torn)) ∧
      E e (w.set path (some torn)))
    (failed : faults ∨ w.at' path = none → E e w) :
    Safely faults alone I (attempt (.write path node) e) Q E w := by
  refine Safely.step ?_ ?_ ?_
  · rintro a w₂ ⟨⟩
    exact ok ‹_›
  · intro hf w₂ h
    cases h with
    | untouched => exact ⟨hI, failed (.inl hf)⟩
    | torn _ _ t h => exact torn hf h t
  · intro h
    refine ⟨hI, failed (.inr (Option.not_isSome_iff_eq_none.1 fun hn => ?_))⟩
    exact h () _ (.write path node hn)

theorem Safely.rename {Q : Unit → FileWorld N L → Prop} (hI : I w)
    (ok : (w.at' source).isSome → I (w.move source target) ∧ Q () (w.move source target))
    (failed : faults ∨ w.at' source = none ∨ source <+: target → E e w) :
    Safely faults alone I (attempt (.rename source target) e) Q E w := by
  refine Safely.clean (by simp) hI ?_ ?_
  · rintro a w₂ ⟨⟩
    exact ok ‹_›
  · rintro (hf | h)
    · exact failed (.inl hf)
    · refine failed (.inr ?_)
      by_contra hn
      rw [not_or] at hn
      exact h () _ (.rename source target (Option.isSome_iff_ne_none.2 hn.1) hn.2)

theorem Safely.remove {Q : Unit → FileWorld N L → Prop} (hI : I w)
    (ok : (w.at' path).isSome → (∀ name, w.at' (path ++ [name]) = none) →
      I (w.set path none) ∧ Q () (w.set path none))
    (failed : faults ∨ w.at' path = none ∨ (∃ name, (w.at' (path ++ [name])).isSome) → E e w) :
    Safely faults alone I (attempt (.remove path) e) Q E w := by
  refine Safely.clean (by simp) hI ?_ ?_
  · rintro a w₂ ⟨⟩
    exact ok ‹_› ‹_›
  · rintro (hf | h)
    · exact failed (.inl hf)
    · refine failed (.inr ?_)
      by_contra hn
      rw [not_or, not_exists] at hn
      refine h () _ (.remove path (Option.isSome_iff_ne_none.2 hn.1) fun name => ?_)
      exact Option.not_isSome_iff_eq_none.1 (hn.2 name)

theorem Safely.sync {Q : Unit → FileWorld N L → Prop} (hI : I w) (ok : Q () w)
    (failed : faults → E e w) : Safely faults alone I (attempt .sync e) Q E w := by
  refine Safely.clean (by simp) hI ?_ ?_
  · rintro a w₂ ⟨⟩
    exact ⟨hI, ok⟩
  · rintro (hf | h)
    · exact failed hf
    · exact absurd .sync (h () w)

/-! ## Attempts that only look -/

/-- The attempt leaves the files as they are. -/
def ReadOnly (x : Attempt N L ε α) : Prop :=
  ∀ (faults : Prop) (I : FileWorld N L → Prop) (w : FileWorld N L), I w →
    Safely faults alone I x (fun _ w' => w' = w) (fun _ w' => w' = w) w

theorem ReadOnly.safely {x : Attempt N L ε α} (h : ReadOnly x) (hI : I w) (ok : ∀ a, Q a w)
    (failed : ∀ e, E e w) : Safely faults alone I x Q E w := by
  refine Safely.mono (h faults I w hI) ?_ ?_
  · rintro a _ rfl
    exact ok a
  · rintro e _ rfl
    exact failed e

theorem ReadOnly.pure (a : α) : ReadOnly (pure a : Attempt N L ε α) :=
  fun _ _ _ _ => Safely.pure rfl

theorem ReadOnly.throw (e : ε) : ReadOnly (throw e : Attempt N L ε α) :=
  fun _ _ _ _ => Safely.throw rfl

theorem ReadOnly.check (x : Except ε α) : ReadOnly (check x : Attempt N L ε α) := by
  intro faults I w _
  cases x with
  | ok a => exact Safely.check rfl
  | error e => exact Safely.check rfl

theorem ReadOnly.bind {x : Attempt N L ε α} {f : α → Attempt N L ε β} (hx : ReadOnly x)
    (hf : ∀ a, ReadOnly (f a)) : ReadOnly (x >>= f) :=
  fun faults I w hI => Safely.bind (hx.safely hI (fun a => hf a faults I w hI) fun _ => rfl)

theorem ReadOnly.stat (path : Path) (e : ε) : ReadOnly (attempt (N := N) (L := L) (.stat path) e) :=
  fun _ _ _ hI => Safely.stat hI rfl fun _ => rfl

theorem ReadOnly.read (path : Path) (e : ε) : ReadOnly (attempt (N := N) (L := L) (.read path) e) :=
  fun _ _ _ hI => Safely.read hI (fun _ _ => rfl) fun _ => rfl

theorem ReadOnly.list (path : Path) (e : ε) : ReadOnly (attempt (N := N) (L := L) (.list path) e) :=
  fun _ _ _ hI => Safely.list hI (fun _ _ => rfl) fun _ => rfl

theorem ReadOnly.sync (e : ε) : ReadOnly (attempt (N := N) (L := L) .sync e) :=
  fun _ _ _ hI => Safely.sync hI rfl fun _ => rfl

end

end Files
