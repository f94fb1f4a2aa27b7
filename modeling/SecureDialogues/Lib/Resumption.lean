import SecureDialogues.Lib.Effect
import SecureDialogues.Lib.Run

/-!
# Programs as trees of atomic steps

A program with state, exceptions and termination, given by its atomic steps: either it is over, or
it makes a step and goes on with the outcome of the step. Run in one go it is an `Eff`; in a pool
of threads its steps come between those of other programs. A discipline says what a program may do
next, judged by notes that it takes of its own steps: the rules of `Obeys` check it along the
program text, and its soundness carries it to every run and to every interleaving.
-/

namespace SecureDialogues.Effect

/-- A program over the atomic steps `A` with their results. -/
inductive Prog (A : Type) (R : A → Type) (ε α : Type) where
  | done (r : Except (Fault ε) α)
  | act (a : A) (next : Except (Fault ε) (R a) → Prog A R ε α)

namespace Prog

variable {A : Type} {R : A → Type} {ε σ α β : Type}

/-- Sequencing: the second part starts if the first one returned. -/
def bind : Prog A R ε α → (α → Prog A R ε β) → Prog A R ε β
  | done (.ok a), f => f a
  | done (.error e), _ => done (.error e)
  | act a next, f => act a fun r => (next r).bind f

instance : Monad (Prog A R ε) where
  pure a := done (.ok a)
  bind := bind

/-- One atomic step. -/
def atom (a : A) : Prog A R ε (R a) := act a done

/-- `throw e`. -/
def raise (e : ε) : Prog A R ε α := done (.error (.thrown e))

/-- `std::abort` and `std::terminate`. -/
def terminate : Prog A R ε α := done (.error .terminated)

/-- A computation that does not look at the state. -/
def lift : Except ε α → Prog A R ε α
  | .ok a => done (.ok a)
  | .error e => raise e

/-- `try m catch (e) handler(e)`. -/
def catching : Prog A R ε α → (ε → Prog A R ε α) → Prog A R ε α
  | done (.error (.thrown e)), handler => handler e
  | done r, _ => done r
  | act a next, handler => act a fun r => (next r).catching handler

/-- The body of a `noexcept` function. -/
def noexcept : Prog A R ε α → Prog A R ε α
  | done (.error (.thrown _)) => terminate
  | done r => done r
  | act a next => act a fun r => (next r).noexcept

@[simp] theorem lift_ok_bind (a : α) (f : α → Prog A R ε β) : (lift (.ok a) >>= f) = f a := rfl

@[simp] theorem lift_error_bind (e : ε) (f : α → Prog A R ε β) :
    (lift (.error e) >>= f) = raise e := rfl

/-! ## Uninterrupted runs -/

section Run

variable (exec : (a : A) → Eff σ ε (R a))

/-- The program run in one go. -/
def run : Prog A R ε α → Eff σ ε α
  | done r => fun s => (r, s)
  | act a next => fun s => (next (exec a s).1).run (exec a s).2

/-- The atomic steps of an uninterrupted run, each with the state in which it is made. -/
def visits : Prog A R ε α → σ → List (σ × A)
  | done _, _ => []
  | act a next, s => (s, a) :: (next (exec a s).1).visits (exec a s).2

@[simp] theorem run_pure (a : α) : (pure a : Prog A R ε α).run exec = pure a := rfl

@[simp] theorem run_atom (a : A) : (atom a : Prog A R ε (R a)).run exec = exec a := rfl

@[simp] theorem run_raise (e : ε) :
    (raise e : Prog A R ε α).run exec = (Eff.raise e : Eff σ ε α) := rfl

@[simp] theorem run_terminate :
    (terminate : Prog A R ε α).run exec = (Eff.terminate : Eff σ ε α) := rfl

@[simp] theorem run_lift (r : Except ε α) :
    (lift r : Prog A R ε α).run exec = Eff.readsOr fun _ => r := by
  cases r <;> rfl

@[simp] theorem run_bind (m : Prog A R ε α) (f : α → Prog A R ε β) :
    (m >>= f).run exec = m.run exec >>= fun a => (f a).run exec := by
  show (m.bind f).run exec = _
  induction m with
  | done r => cases r <;> rfl
  | act a next ih =>
    funext s
    exact congrFun (ih (exec a s).1) (exec a s).2

@[simp] theorem run_catching (m : Prog A R ε α) (handler : ε → Prog A R ε α) :
    (m.catching handler).run exec =
      Eff.catching (m.run exec) fun e => (handler e).run exec := by
  induction m with
  | done r => rcases r with (e | _) | a <;> rfl
  | act a next ih =>
    funext s
    exact congrFun (ih (exec a s).1) (exec a s).2

@[simp] theorem run_noexcept (m : Prog A R ε α) :
    m.noexcept.run exec = Eff.noexcept (m.run exec) := by
  induction m with
  | done r => rcases r with (e | _) | a <;> rfl
  | act a next ih =>
    funext s
    exact congrFun (ih (exec a s).1) (exec a s).2

@[simp] theorem run_ite (c : Prop) [Decidable c] (m m' : Prog A R ε α) :
    (if c then m else m').run exec = if c then m.run exec else m'.run exec := by
  split <;> rfl

@[simp] theorem visits_pure (a : α) (s : σ) : (pure a : Prog A R ε α).visits exec s = [] := rfl

@[simp] theorem visits_raise (e : ε) (s : σ) :
    (raise e : Prog A R ε α).visits exec s = [] := rfl

theorem visits_atom (a : A) (s : σ) : (atom a : Prog A R ε (R a)).visits exec s = [(s, a)] := rfl

theorem visits_bind (m : Prog A R ε α) (f : α → Prog A R ε β) (s : σ) :
    (m >>= f).visits exec s = m.visits exec s ++ match m.run exec s with
      | (.ok a, s') => (f a).visits exec s'
      | (.error _, _) => [] := by
  show (m.bind f).visits exec s = _
  induction m generalizing s with
  | done r => cases r <;> rfl
  | act a next ih =>
    show (s, a) :: ((next (exec a s).1).bind f).visits exec (exec a s).2 = _
    rw [ih]
    rfl

/-- The handler goes on where an exception has left the body. -/
theorem visits_catching (m : Prog A R ε α) (handler : ε → Prog A R ε α) (s : σ) :
    (m.catching handler).visits exec s = m.visits exec s ++ match m.run exec s with
      | (.error (.thrown e), s') => (handler e).visits exec s'
      | _ => [] := by
  induction m generalizing s with
  | done r => rcases r with (e | _) | a <;> rfl
  | act a next ih =>
    show (s, a) :: ((next (exec a s).1).catching handler).visits exec (exec a s).2 = _
    rw [ih]
    rfl

@[simp] theorem visits_noexcept (m : Prog A R ε α) (s : σ) :
    m.noexcept.visits exec s = m.visits exec s := by
  induction m generalizing s with
  | done r => rcases r with (e | _) | a <;> rfl
  | act a next ih =>
    show (s, a) :: (next (exec a s).1).noexcept.visits exec (exec a s).2 = _
    rw [ih]
    rfl

/-- A fold over the steps of a run keeps what each of the steps keeps. -/
theorem visits_foldl {β : Type} {f : β → σ × A → β} {J : σ → β → Prop} (m : Prog A R ε α) {s : σ}
    {b : β} (start : J s b) (keeps : ∀ visit ∈ m.visits exec s, ∀ b, J visit.1 b →
      J (exec visit.2 visit.1).2 (f b visit)) :
    J (m.run exec s).2 ((m.visits exec s).foldl f b) := by
  induction m generalizing s b with
  | done r => exact start
  | act a next ih =>
    apply ih
    · exact keeps (s, a) List.mem_cons_self b start
    · intro visit later
      exact keeps visit (List.mem_cons_of_mem _ later)

/-- What no atomic step changes, no run changes. -/
theorem run_leaves {τ : Type} {part : σ → τ} (leaves : ∀ a, Eff.Leaves part (exec a))
    (m : Prog A R ε α) : Eff.Leaves part (m.run exec) := by
  induction m with
  | done r => exact fun _ => rfl
  | act a next ih =>
    intro s
    exact (ih _ _).trans (leaves a s)

end Run

/-! ## Disciplines -/

/-- What a program may do, judged by its notes: the step it may make, the outcomes that the step
can have, and the notes afterwards. -/
structure Discipline (A : Type) (R : A → Type) (ε γ : Type) where
  guard : γ → A → Prop
  possible : γ → (a : A) → Except (Fault ε) (R a) → Prop
  note : γ → (a : A) → Except (Fault ε) (R a) → γ

section Obeys

variable {γ : Type} (D : Discipline A R ε γ)

/-- From the notes `g` on, the program keeps the discipline, and ends with an outcome and notes
that satisfy `Q`. -/
def Obeys : γ → Prog A R ε α → (Except (Fault ε) α → γ → Prop) → Prop
  | g, done r, Q => Q r g
  | g, act a next, Q =>
    D.guard g a ∧ ∀ r, D.possible g a r → Obeys (D.note g a r) (next r) Q

variable {D} {g : γ} {m : Prog A R ε α} {Q P : Except (Fault ε) α → γ → Prop}

theorem Obeys.mono (obeys : Obeys D g m Q) (weaker : ∀ r g, Q r g → P r g) : Obeys D g m P := by
  induction m generalizing g with
  | done r => exact weaker r g obeys
  | act a next ih =>
    refine ⟨obeys.1, ?_⟩
    intro r possible
    exact ih r (obeys.2 r possible)

theorem Obeys.pure {a : α} (post : Q (.ok a) g) : Obeys D g (Pure.pure a) Q := post

theorem Obeys.raise {e : ε} (post : Q (.error (.thrown e)) g) : Obeys D g (Prog.raise e) Q := post

theorem Obeys.terminate (post : Q (.error .terminated) g) : Obeys D g Prog.terminate Q := post

theorem Obeys.lift {r : Except ε α} (returned : ∀ a, r = .ok a → Q (.ok a) g)
    (raised : ∀ e, r = .error e → Q (.error (.thrown e)) g) : Obeys D g (Prog.lift r) Q := by
  cases r with
  | ok a => exact returned a rfl
  | error e => exact raised e rfl

theorem Obeys.atom {a : A} {Q : Except (Fault ε) (R a) → γ → Prop} (allowed : D.guard g a)
    (post : ∀ r, D.possible g a r → Q r (D.note g a r)) : Obeys D g (Prog.atom a) Q :=
  ⟨allowed, post⟩

/-- The rule of sequencing. -/
theorem Obeys.bind {f : α → Prog A R ε β} {P : Except (Fault ε) β → γ → Prop}
    (first : Obeys D g m Q) (rest : ∀ a g', Q (.ok a) g' → Obeys D g' (f a) P)
    (fault : ∀ e g', Q (.error e) g' → P (.error e) g') : Obeys D g (m >>= f) P := by
  show Obeys D g (m.bind f) P
  induction m generalizing g with
  | done r =>
    cases r with
    | ok a => exact rest a g first
    | error e => exact fault e g first
  | act a next ih =>
    refine ⟨first.1, ?_⟩
    intro r possible
    exact ih r (first.2 r possible)

/-- The rule of `try` and `catch`. -/
theorem Obeys.catching {handler : ε → Prog A R ε α} (body : Obeys D g m Q)
    (recover : ∀ e g', Q (.error (.thrown e)) g' → Obeys D g' (handler e) P)
    (returned : ∀ a g', Q (.ok a) g' → P (.ok a) g')
    (terminated : ∀ g', Q (.error .terminated) g' → P (.error .terminated) g') :
    Obeys D g (m.catching handler) P := by
  induction m generalizing g with
  | done r =>
    rcases r with (e | _) | a
    · exact recover e g body
    · exact terminated g body
    · exact returned a g body
  | act a next ih =>
    refine ⟨body.1, ?_⟩
    intro r possible
    exact ih r (body.2 r possible)

/-- The rule of `noexcept`: only the outcome changes. -/
theorem Obeys.noexcept {Q : γ → Prop} (body : Obeys D g m fun _ g' => Q g') :
    Obeys D g m.noexcept fun _ g' => Q g' := by
  induction m generalizing g with
  | done r => rcases r with (e | _) | a <;> exact body
  | act a next ih =>
    refine ⟨body.1, ?_⟩
    intro r possible
    exact ih r (body.2 r possible)

/-- The rule of a single step that is followed by more. -/
theorem Obeys.step {a : A} {f : R a → Prog A R ε β} {P : Except (Fault ε) β → γ → Prop}
    (allowed : D.guard g a)
    (rest : ∀ x, D.possible g a (.ok x) → Obeys D (D.note g a (.ok x)) (f x) P)
    (fault : ∀ e, D.possible g a (.error e) → P (.error e) (D.note g a (.error e))) :
    Obeys D g (Prog.atom a >>= f) P := by
  refine ⟨allowed, ?_⟩
  intro r possible
  cases r with
  | ok x => exact rest x possible
  | error e => exact fault e possible

/-- The rule of a step that leaves the notes as they are. -/
theorem Obeys.silentStep {a : A} {f : R a → Prog A R ε β} {P : Except (Fault ε) β → γ → Prop}
    (allowed : D.guard g a) (silent : ∀ r, D.note g a r = g)
    (rest : ∀ x, D.possible g a (.ok x) → Obeys D g (f x) P) (fault : ∀ e, P (.error e) g) :
    Obeys D g (Prog.atom a >>= f) P := by
  apply Obeys.step allowed
  · intro x possible
    rw [silent]
    exact rest x possible
  · intro e _
    rw [silent]
    exact fault e

theorem Obeys.silentAtom {a : A} (allowed : D.guard g a) (silent : ∀ r, D.note g a r = g) :
    Obeys D g (Prog.atom a) fun _ g' => g' = g := by
  apply Obeys.atom allowed
  intro r _
  exact silent r

/-- The rule of sequencing after a part that leaves the notes as they are. -/
theorem Obeys.silentBind {f : α → Prog A R ε β} {P : Except (Fault ε) β → γ → Prop}
    (first : Obeys D g m fun _ g' => g' = g) (rest : ∀ a, Obeys D g (f a) P)
    (fault : ∀ e, P (.error e) g) : Obeys D g (m >>= f) P := by
  apply first.bind
  · rintro a g' rfl
    exact rest a
  · rintro e g' rfl
    exact fault e

/-- The rule of sequencing after a part that may leave any notes. -/
theorem Obeys.andThen {f : α → Prog A R ε β} (first : Obeys D g m fun _ _ => True)
    (rest : ∀ a g', Obeys D g' (f a) fun _ _ => True) : Obeys D g (m >>= f) fun _ _ => True := by
  apply first.bind
  · intro a g' _
    exact rest a g'
  · intro e g' _
    trivial

/-- The rule of a body that may leave any notes and of the handler of its exceptions. -/
theorem Obeys.attempt {handler : ε → Prog A R ε α} (body : Obeys D g m fun _ _ => True)
    (recover : ∀ e g', Obeys D g' (handler e) fun _ _ => True) :
    Obeys D g (m.catching handler) fun _ _ => True := by
  apply body.catching
  · intro e g' _
    exact recover e g'
  · intro a g' _
    trivial
  · intro g' _
    trivial

/-- An uninterrupted run whose steps keep the notes true ends with true notes. -/
theorem Obeys.run {exec : (a : A) → Eff σ ε (R a)} {I : γ → σ → Prop}
    (keeps : ∀ g a s, I g s → D.guard g a →
      D.possible g a (exec a s).1 ∧ I (D.note g a (exec a s).1) (exec a s).2)
    (obeys : Obeys D g m Q) {s : σ} (holds : I g s) :
    ∃ g', I g' (m.run exec s).2 ∧ Q (m.run exec s).1 g' := by
  induction m generalizing g s with
  | done r => exact ⟨g, holds, obeys⟩
  | act a next ih =>
    obtain ⟨possible, kept⟩ := keeps g a s holds obeys.1
    exact ih _ (obeys.2 _ possible) kept

/-- In an uninterrupted run whose steps keep the notes true, every step is a permitted one. -/
theorem Obeys.visits {exec : (a : A) → Eff σ ε (R a)} {I : γ → σ → Prop}
    (keeps : ∀ g a s, I g s → D.guard g a →
      D.possible g a (exec a s).1 ∧ I (D.note g a (exec a s).1) (exec a s).2)
    (obeys : Obeys D g m Q) {s : σ} (holds : I g s) :
    ∀ visit ∈ m.visits exec s, ∃ g', I g' visit.1 ∧ D.guard g' visit.2 := by
  induction m generalizing g s with
  | done r =>
    intro visit member
    cases member
  | act a next ih =>
    obtain ⟨possible, kept⟩ := keeps g a s holds obeys.1
    intro visit member
    rcases List.mem_cons.mp member with rfl | later
    · exact ⟨g, holds, obeys.1⟩
    · exact ih _ (obeys.2 _ possible) kept visit later

end Obeys

end Prog

/-! ## Threads -/

/-- A thread: what is left of its program, its notes, and the outside world it runs in. -/
structure Thread (A : Type) (R : A → Type) (ε γ E : Type) where
  env : E
  rest : Prog A R ε Unit
  notes : γ

/-- The shared state and the threads that were started. -/
structure Pool (A : Type) (R : A → Type) (ε γ E σ : Type) where
  state : σ
  threads : List (Thread A R ε γ E)

/-- What the scheduler does next. -/
inductive Schedule (E J : Type) where
  | start (env : E) (job : J)
  | advance (i : Nat)

namespace Pool

variable {A : Type} {R : A → Type} {ε γ E σ J : Type} (D : Prog.Discipline A R ε γ)
  (exec : E → (a : A) → Eff σ ε (R a)) (program : E → J → Prog A R ε Unit) (blank : γ)

/-- Some thread has terminated the process. -/
def isTerminated (pool : Pool A R ε γ E σ) : Bool :=
  pool.threads.any fun thread =>
    match thread.rest with
    | .done (.error .terminated) => true
    | _ => false

/-- One atomic step of a thread. -/
def advance (pool : Pool A R ε γ E σ) (i : Nat) : Pool A R ε γ E σ :=
  match pool.threads[i]? with
  | some ⟨env, .act a next, notes⟩ =>
    let (r, s) := exec env a pool.state
    { state := s, threads := pool.threads.set i ⟨env, next r, D.note notes a r⟩ }
  | _ => pool

/-- A step of the pool; a process that has been terminated makes none. -/
def step (pool : Pool A R ε γ E σ) (next : Schedule E J) : Pool A R ε γ E σ :=
  if pool.isTerminated then pool
  else
    match next with
    | .start env job =>
      { pool with threads := pool.threads ++ [⟨env, program env job, blank⟩] }
    | .advance i => pool.advance D exec i

/-- The atomic step that is made next, with the notes of the thread that makes it. -/
def upcoming (pool : Pool A R ε γ E σ) (next : Schedule E J) : Option (γ × A) :=
  if pool.isTerminated then none
  else
    match next with
    | .start _ _ => none
    | .advance i =>
      match pool.threads[i]? with
      | some ⟨_, .act a _, notes⟩ => some (notes, a)
      | _ => none

/-- All threads keep the discipline. -/
def IsDisciplined (pool : Pool A R ε γ E σ) : Prop :=
  ∀ thread ∈ pool.threads, Prog.Obeys D thread.notes thread.rest fun _ _ => True

/-- A step of the pool starts a thread, or makes an atomic step, or does nothing. -/
theorem step_cases (pool : Pool A R ε γ E σ) (next : Schedule E J) :
    (∃ env job, pool.step D exec program blank next =
      { pool with threads := pool.threads ++ [⟨env, program env job, blank⟩] }) ∨
    (∃ i env a rest notes, pool.upcoming next = some (notes, a) ∧
      pool.threads[i]? = some ⟨env, .act a rest, notes⟩ ∧
      pool.step D exec program blank next =
        { state := (exec env a pool.state).2
          threads := pool.threads.set i
            ⟨env, rest (exec env a pool.state).1, D.note notes a (exec env a pool.state).1⟩ }) ∨
    pool.step D exec program blank next = pool := by
  unfold step upcoming
  cases ended : pool.isTerminated with
  | true => exact .inr (.inr rfl)
  | false =>
    cases next with
    | start env job => exact .inl ⟨env, job, rfl⟩
    | advance i =>
      refine .inr ?_
      simp only [Bool.false_eq_true, if_false, advance]
      rcases turn : pool.threads[i]? with _ | ⟨env, _ | ⟨a, rest⟩, notes⟩
      · exact .inr rfl
      · exact .inr rfl
      · exact .inl ⟨i, env, a, rest, notes, rfl, turn, rfl⟩

variable {D exec program blank} {pool : Pool A R ε γ E σ}

/-- Threads that are started disciplined stay so, whatever the others do to the state. -/
theorem IsDisciplined.step
    (jobs : ∀ env job, Prog.Obeys D blank (program env job) fun _ _ => True)
    (possible : ∀ env notes a s, D.possible notes a (exec env a s).1)
    (disciplined : pool.IsDisciplined D) (next : Schedule E J) :
    (pool.step D exec program blank next).IsDisciplined D := by
  rcases step_cases D exec program blank pool next with
    ⟨env, job, started⟩ | ⟨i, env, a, rest, notes, -, turn, made⟩ | idle
  · rw [started]
    intro thread member
    rcases List.mem_append.mp member with old | new
    · exact disciplined thread old
    · rw [List.mem_singleton.mp new]
      exact jobs env job
  · rw [made]
    intro thread member
    rcases List.mem_or_eq_of_mem_set member with old | rfl
    · exact disciplined thread old
    · exact (disciplined _ (List.mem_of_getElem? turn)).2 _ (possible env notes a pool.state)
  · rw [idle]
    exact disciplined

/-- What every permitted atomic step does to the state, a step of the pool does. -/
theorem IsDisciplined.state_step {rel : σ → σ → Prop} [Std.Refl rel]
    (disciplined : pool.IsDisciplined D) {next : Schedule E J}
    (made : ∀ env notes a, pool.upcoming next = some (notes, a) → D.guard notes a →
      rel pool.state (exec env a pool.state).2) :
    rel pool.state (pool.step D exec program blank next).state := by
  rcases step_cases D exec program blank pool next with
    ⟨env, job, started⟩ | ⟨i, env, a, rest, notes, upcoming, turn, moved⟩ | idle
  · rw [started]
    exact refl_of rel _
  · rw [moved]
    apply made env notes a upcoming
    exact (disciplined _ (List.mem_of_getElem? turn)).1
  · rw [idle]
    exact refl_of rel _

end Pool

end SecureDialogues.Effect
