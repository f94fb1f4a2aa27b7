import Mathlib.Tactic

/-!
# Programs with state, exceptions and termination

A program reads and writes a state, and ends by returning a value, by throwing an exception,
or by terminating the whole process (`std::terminate`, a failed `assert`). A thrown exception
keeps the state written so far and can be caught; termination cannot. The library gives the
sequencing equations and the rules of a two-part specification (`Does`): a preorder that relates
the first and the last state whatever the outcome, and a postcondition on outcome and state.
-/

namespace SecureDialogues.Effect

/-- The two ways of not returning. -/
inductive Fault (ε : Type) where
  | thrown (e : ε)
  | terminated
  deriving DecidableEq, Repr

/-- A program over states `σ` with exceptions `ε` that returns an `α`. -/
def Eff (σ ε α : Type) : Type := σ → Except (Fault ε) α × σ

/-- A computation without state that returns has returned in each of its parts. -/
theorem except_bind_eq_ok {ε α β : Type} {x : Except ε α} {f : α → Except ε β} {b : β} :
    (x >>= f) = .ok b ↔ ∃ a, x = .ok a ∧ f a = .ok b := by
  constructor
  · intro returned
    cases x with
    | ok a => exact ⟨a, rfl, returned⟩
    | error e => cases returned
  · rintro ⟨a, rfl, returned⟩
    exact returned

namespace Eff

variable {σ ε α β : Type}

/-- Return without touching the state. -/
def ret (a : α) : Eff σ ε α := fun s => (.ok a, s)

/-- Sequencing: the second part runs only if the first one returned. -/
def andThen (m : Eff σ ε α) (f : α → Eff σ ε β) : Eff σ ε β := fun s =>
  match m s with
  | (.ok a, s') => f a s'
  | (.error e, s') => (.error e, s')

instance : Monad (Eff σ ε) where
  pure := ret
  bind := andThen

/-- A value computed from the current state. -/
def reads (f : σ → α) : Eff σ ε α := fun s => (.ok (f s), s)

/-- A state update. -/
def update (f : σ → σ) : Eff σ ε Unit := fun s => (.ok (), f s)

/-- `throw e`. -/
def raise (e : ε) : Eff σ ε α := fun s => (.error (.thrown e), s)

/-- `std::abort` and `std::terminate`. -/
def terminate : Eff σ ε α := fun s => (.error .terminated, s)

/-- A value computed from the current state that may be an exception instead. -/
def readsOr (f : σ → Except ε α) : Eff σ ε α := fun s =>
  match f s with
  | .ok a => (.ok a, s)
  | .error e => (.error (.thrown e), s)

/-- `try m catch (e) handler(e)`: the handler starts from the state `m` left behind. -/
def catching (m : Eff σ ε α) (handler : ε → Eff σ ε α) : Eff σ ε α := fun s =>
  match m s with
  | (.error (.thrown e), s') => handler e s'
  | r => r

/-- The body of a `noexcept` function: an exception that leaves it terminates the process. -/
def noexcept (m : Eff σ ε α) : Eff σ ε α := fun s =>
  match m s with
  | (.error (.thrown _), s') => (.error .terminated, s')
  | r => r

@[simp] theorem pure_apply (a : α) (s : σ) : (pure a : Eff σ ε α) s = (.ok a, s) := rfl

theorem bind_apply (m : Eff σ ε α) (f : α → Eff σ ε β) (s : σ) :
    (m >>= f) s = match m s with
      | (.ok a, s') => f a s'
      | (.error e, s') => (.error e, s') := rfl

/-- The inversion of a sequence by the outcome of its first part. -/
theorem bind_ok {m : Eff σ ε α} {s s' : σ} {a : α} (first : m s = (.ok a, s'))
    (f : α → Eff σ ε β) : (m >>= f) s = f a s' := by
  rw [bind_apply, first]

theorem bind_error {m : Eff σ ε α} {s s' : σ} {e : Fault ε} (first : m s = (.error e, s'))
    (f : α → Eff σ ε β) : (m >>= f) s = (.error e, s') := by
  rw [bind_apply, first]

/-- A sequence that returns has returned in each of its parts. -/
theorem bind_eq_ok {m : Eff σ ε α} {f : α → Eff σ ε β} {s s' : σ} {b : β} :
    (m >>= f) s = (.ok b, s') ↔ ∃ a s₁, m s = (.ok a, s₁) ∧ f a s₁ = (.ok b, s') := by
  rw [bind_apply]
  constructor
  · intro returned
    split at returned
    · rename_i a s₁ first
      exact ⟨a, s₁, first, returned⟩
    · cases returned
  · rintro ⟨a, s₁, first, second⟩
    rw [first]
    exact second

@[simp] theorem reads_bind (g : σ → α) (f : α → Eff σ ε β) (s : σ) :
    (reads g >>= f) s = f (g s) s := rfl

@[simp] theorem update_bind (g : σ → σ) (f : Unit → Eff σ ε β) (s : σ) :
    (update g >>= f) s = f () (g s) := rfl

@[simp] theorem raise_bind (e : ε) (f : α → Eff σ ε β) (s : σ) :
    (raise e >>= f) s = (.error (.thrown e), s) := rfl

@[simp] theorem pure_bind (a : α) (f : α → Eff σ ε β) (s : σ) :
    ((pure a : Eff σ ε α) >>= f) s = f a s := rfl

@[simp] theorem update_apply (g : σ → σ) (s : σ) :
    (update g : Eff σ ε Unit) s = (.ok (), g s) := rfl

theorem readsOr_ok {g : σ → Except ε α} {s : σ} {a : α} (found : g s = .ok a) :
    readsOr g s = (.ok a, s) := by
  simp [readsOr, found]

theorem readsOr_error {g : σ → Except ε α} {s : σ} {e : ε} (missing : g s = .error e) :
    readsOr g s = (.error (.thrown e), s) := by
  simp [readsOr, missing]

theorem readsOr_eq_ok {g : σ → Except ε α} {s s' : σ} {a : α} :
    readsOr g s = (.ok a, s') ↔ g s = .ok a ∧ s = s' := by
  rw [readsOr]
  cases g s <;> simp

theorem eq_ok_of_readsOr {g : σ → Except ε α} {s : σ} {a : α}
    (returned : (readsOr g s).1 = .ok a) : g s = .ok a :=
  (readsOr_eq_ok.mp (Prod.ext returned rfl)).1

@[simp] theorem readsOr_bind (g : σ → Except ε α) (f : α → Eff σ ε β) (s : σ) :
    (readsOr g >>= f) s = match g s with
      | .ok a => f a s
      | .error e => (.error (.thrown e), s) := by
  rw [bind_apply, readsOr]
  cases g s <;> rfl

theorem bind_assoc (m : Eff σ ε α) (f : α → Eff σ ε β) {γ : Type} (g : β → Eff σ ε γ) (s : σ) :
    ((m >>= f) >>= g) s = (m >>= fun a => f a >>= g) s := by
  simp only [bind_apply]
  rcases m s with ⟨a | a, s'⟩ <;> rfl

/-- What is caught depends on the outcome only. -/
theorem catching_congr {m m' : Eff σ ε α} {s s' : σ} (same : m s = m' s')
    (handler : ε → Eff σ ε α) : catching m handler s = catching m' handler s' := by
  rw [catching, catching, same]

/-- A body that returns is not recovered from. -/
theorem catching_ok {m : Eff σ ε α} {s s' : σ} {a : α} (returned : m s = (.ok a, s'))
    (handler : ε → Eff σ ε α) : catching m handler s = (.ok a, s') := by
  rw [catching, returned]

theorem catching_thrown {m : Eff σ ε α} {s s' : σ} {e : ε} (thrown : m s = (.error (.thrown e), s'))
    (handler : ε → Eff σ ε α) : catching m handler s = handler e s' := by
  rw [catching, thrown]

/-- A `noexcept` body leaves the state its statements left. -/
@[simp] theorem noexcept_state (m : Eff σ ε α) (s : σ) : (noexcept m s).2 = (m s).2 := by
  unfold noexcept
  split
  · rename_i e s' outcome
    rw [outcome]
  · rfl

/-- A `noexcept` body that returns has returned itself; any fault of it is a termination. -/
theorem noexcept_outcome (m : Eff σ ε α) (s : σ) :
    (∃ a, (m s).1 = .ok a ∧ (noexcept m s).1 = .ok a) ∨
      (∃ e, (m s).1 = .error e) ∧ (noexcept m s).1 = .error .terminated := by
  unfold noexcept
  rcases m s with ⟨(e | _) | a, s'⟩
  · exact .inr ⟨⟨_, rfl⟩, rfl⟩
  · exact .inr ⟨⟨_, rfl⟩, rfl⟩
  · exact .inl ⟨a, rfl, rfl⟩

theorem noexcept_congr {m m' : Eff σ ε α} {s s' : σ} (same : m s = m' s') :
    noexcept m s = noexcept m' s' := by
  rw [noexcept, noexcept, same]

/-! ## What a program leaves alone -/

section Leaves

/-- The program does not change this part of the state, whatever its outcome. -/
def Leaves {τ : Type} (part : σ → τ) (m : Eff σ ε α) : Prop := ∀ s, part (m s).2 = part s

variable {τ : Type} {part : σ → τ}

theorem Leaves.reads (f : σ → α) : Leaves part (Eff.reads f : Eff σ ε α) := fun _ => rfl

theorem Leaves.raise (e : ε) : Leaves part (Eff.raise e : Eff σ ε α) := fun _ => rfl

theorem Leaves.pure (a : α) : Leaves part (Pure.pure a : Eff σ ε α) := fun _ => rfl

theorem Leaves.readsOr (f : σ → Except ε α) : Leaves part (Eff.readsOr f) := by
  intro s
  rw [Eff.readsOr]
  cases f s <;> rfl

theorem Leaves.update {f : σ → σ} (same : ∀ s, part (f s) = part s) :
    Leaves part (Eff.update f : Eff σ ε Unit) := same

theorem Leaves.bind {m : Eff σ ε α} {f : α → Eff σ ε β} (first : Leaves part m)
    (rest : ∀ a, Leaves part (f a)) : Leaves part (m >>= f) := by
  intro s
  have same := first s
  rw [bind_apply]
  rcases outcome : m s with ⟨e | a, s'⟩ <;> rw [outcome] at same
  · exact same
  · exact (rest a s').trans same

end Leaves

/-! ## What a program does

`Does R m s Q`: the state that `m` leaves when it starts in `s` is related to `s` by the preorder
`R`, and `Q` holds of the outcome and that state. -/

section Does

/-- The two-part specification of one execution. -/
def Does (R : σ → σ → Prop) (m : Eff σ ε α) (s : σ) (Q : Except (Fault ε) α → σ → Prop) : Prop :=
  R s (m s).2 ∧ Q (m s).1 (m s).2

variable {R : σ → σ → Prop} {m : Eff σ ε α} {s : σ} {Q : Except (Fault ε) α → σ → Prop}

theorem Does.mono {P : Except (Fault ε) α → σ → Prop} (does : Does R m s Q)
    (weaker : ∀ r s', R s s' → Q r s' → P r s') : Does R m s P :=
  ⟨does.1, weaker _ _ does.1 does.2⟩

/-- Only the execution at hand matters. -/
theorem Does.congr {m' : Eff σ ε α} (does : Does R m s Q) (same : m' s = m s) :
    Does R m' s Q := by
  rw [Does, same]
  exact does

theorem Does.update {g : σ → σ} {Q : Except (Fault ε) Unit → σ → Prop} (step : R s (g s))
    (post : Q (.ok ()) (g s)) : Does R (Eff.update g) s Q := ⟨step, post⟩

variable [Std.Refl R]

theorem Does.pure {a : α} (post : Q (.ok a) s) : Does R (Pure.pure a) s Q :=
  ⟨refl_of R s, post⟩

omit [Std.Refl R]

variable [IsTrans σ R]

/-- The rule of sequencing: the second part starts where the first one returned, and a fault of
the first part is one of the whole. -/
theorem Does.bind {f : α → Eff σ ε β} {P : Except (Fault ε) β → σ → Prop} (first : Does R m s Q)
    (rest : ∀ a s', R s s' → Q (.ok a) s' → Does R (f a) s' P)
    (fault : ∀ e s', R s s' → Q (.error e) s' → P (.error e) s') : Does R (m >>= f) s P := by
  rw [Does, bind_apply]
  obtain ⟨moved, post⟩ := first
  rcases outcome : m s with ⟨e | a, s'⟩ <;> rw [outcome] at moved post
  · exact ⟨moved, fault e s' moved post⟩
  · obtain ⟨moved', post'⟩ := rest a s' moved post
    exact ⟨trans_of R moved moved', post'⟩

/-- The rule of `try` and `catch`. -/
theorem Does.catching {handler : ε → Eff σ ε α} {P : Except (Fault ε) α → σ → Prop}
    (body : Does R m s Q)
    (recover : ∀ e s', R s s' → Q (.error (.thrown e)) s' → Does R (handler e) s' P)
    (returned : ∀ a s', R s s' → Q (.ok a) s' → P (.ok a) s')
    (terminated : ∀ s', R s s' → Q (.error .terminated) s' → P (.error .terminated) s') :
    Does R (Eff.catching m handler) s P := by
  obtain ⟨moved, post⟩ := body
  rw [Does, Eff.catching]
  rcases outcome : m s with ⟨(e | _) | a, s'⟩ <;> rw [outcome] at moved post
  · obtain ⟨moved', post'⟩ := recover e s' moved post
    exact ⟨trans_of R moved moved', post'⟩
  · exact ⟨moved, terminated s' moved post⟩
  · exact ⟨moved, returned a s' moved post⟩

omit [IsTrans σ R]

/-- The rule of `noexcept`: only the outcome changes. -/
theorem Does.noexcept (body : Does R m s fun _ _ => True) :
    Does R (Eff.noexcept m) s fun _ _ => True := by
  rw [Does, noexcept_state]
  exact ⟨body.1, trivial⟩

end Does

end Eff

end SecureDialogues.Effect
