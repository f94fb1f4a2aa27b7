import SecureDialogues.Lib.Effect

/-!
# What a program costs

A potential of the state, and how far a program can raise it: at most so much whatever happens, and
at most so much if it throws. The second bound is what a handler starts from. A program that never
throws leaves the second bound of what comes before it as it is.
-/

namespace SecureDialogues.Effect.Eff

variable {σ ε α β : Type}

/-! ## Programs that do not throw -/

/-- No exception leaves the program. -/
def Quiet (m : Eff σ ε α) : Prop := ∀ s e, (m s).1 ≠ .error (.thrown e)

theorem Quiet.pure (a : α) : Quiet (Pure.pure a : Eff σ ε α) := by
  intro s e thrown
  cases thrown

theorem Quiet.update (f : σ → σ) : Quiet (Eff.update f : Eff σ ε Unit) := by
  intro s e thrown
  cases thrown

theorem Quiet.bind {m : Eff σ ε α} {f : α → Eff σ ε β} (first : Quiet m)
    (rest : ∀ a, Quiet (f a)) : Quiet (m >>= f) := by
  intro s e
  rw [bind_apply]
  rcases outcome : m s with ⟨(e' | _) | a, s'⟩
  · exact absurd (congrArg Prod.fst outcome) (first s e')
  · simp
  · exact rest a s' e

/-- Only values with a property are returned. -/
def Returns (m : Eff σ ε α) (Q : α → Prop) : Prop := ∀ s a s', m s = (.ok a, s') → Q a

/-! ## Costs -/

/-- The program raises the potential by `most` at most, and by `thrown` if it throws. -/
structure Costs (potential : σ → Nat) (most thrown : Nat) (m : Eff σ ε α) : Prop where
  bounded : ∀ s, potential (m s).2 ≤ potential s + most
  onThrow : ∀ s e, (m s).1 = .error (.thrown e) → potential (m s).2 ≤ potential s + thrown

variable {potential : σ → Nat} {most thrown most' thrown' : Nat} {m : Eff σ ε α}

theorem Costs.mono (costs : Costs potential most thrown m) (more : most ≤ most')
    (moreThrown : thrown ≤ thrown') : Costs potential most' thrown' m where
  bounded s := (costs.bounded s).trans (by omega)
  onThrow s e threw := (costs.onThrow s e threw).trans (by omega)

theorem Costs.of_leaves (leaves : Leaves potential m) : Costs potential most thrown m where
  bounded s := (leaves s).le.trans (Nat.le_add_right _ _)
  onThrow s _ _ := (leaves s).le.trans (Nat.le_add_right _ _)

theorem Costs.of_bounded (bounded : ∀ s, potential (m s).2 ≤ potential s + most) :
    Costs potential most most m where
  bounded := bounded
  onThrow s _ _ := bounded s

theorem Costs.update {f : σ → σ} (raised : ∀ s, potential (f s) ≤ potential s + most) :
    Costs potential most 0 (Eff.update f : Eff σ ε Unit) where
  bounded := raised
  onThrow s e threw := by cases threw

/-- The rule of sequencing, with what is known of the values in between. -/
theorem Costs.bind_of {Q : α → Prop} {f : α → Eff σ ε β} (first : Costs potential most thrown m)
    (returns : Returns m Q) (rest : ∀ a, Q a → Costs potential most' thrown' (f a)) :
    Costs potential (most + most') (max thrown (most + thrown')) (m >>= f) := by
  constructor
  · intro s
    have before := first.bounded s
    rw [bind_apply]
    rcases outcome : m s with ⟨e | a, s'⟩ <;> rw [outcome] at before
    · exact before.trans (by omega)
    · have later := (rest a (returns s a s' outcome)).bounded s'
      simp only at before ⊢
      omega
  · intro s e threw
    have before := first.bounded s
    have early := first.onThrow s
    rw [bind_apply] at threw ⊢
    rcases outcome : m s with ⟨e' | a, s'⟩ <;> rw [outcome] at before early threw
    · have raised := early e (by simpa using threw)
      simp only at raised ⊢
      omega
    · have later := (rest a (returns s a s' outcome)).onThrow s' e threw
      simp only at before ⊢
      omega

theorem Costs.bind {f : α → Eff σ ε β} (first : Costs potential most thrown m)
    (rest : ∀ a, Costs potential most' thrown' (f a)) :
    Costs potential (most + most') (max thrown (most + thrown')) (m >>= f) := by
  apply first.bind_of (Q := fun _ => True)
  · intro s a s' _
    trivial
  · intro a _
    exact rest a

/-- After a part that costs nothing. -/
theorem Costs.after_of {Q : α → Prop} {f : α → Eff σ ε β} (first : Leaves potential m)
    (returns : Returns m Q) (rest : ∀ a, Q a → Costs potential most thrown (f a)) :
    Costs potential most thrown (m >>= f) := by
  have nothing : Costs potential 0 0 m := .of_leaves first
  exact (nothing.bind_of returns rest).mono (by omega) (by omega)

theorem Costs.after {f : α → Eff σ ε β} (first : Leaves potential m)
    (rest : ∀ a, Costs potential most thrown (f a)) : Costs potential most thrown (m >>= f) := by
  have nothing : Costs potential 0 0 m := .of_leaves first
  exact (nothing.bind rest).mono (by omega) (by omega)

/-- Before a part that costs nothing and does not throw. -/
theorem Costs.before {f : α → Eff σ ε β} (first : Costs potential most thrown m)
    (free : ∀ a, Leaves potential (f a)) (quiet : ∀ a, Quiet (f a)) :
    Costs potential most thrown (m >>= f) := by
  have nothing : ∀ a, Costs potential 0 0 (f a) := fun a => .of_leaves (free a)
  constructor
  · exact (first.bind nothing).bounded
  · intro s e threw
    have early := first.onThrow s
    rw [bind_apply] at threw ⊢
    rcases outcome : m s with ⟨e' | a, s'⟩ <;> rw [outcome] at early threw
    · exact early e (by simpa using threw)
    · exact absurd threw (quiet a s' e)

/-- The rule of `try` and `catch`: the handler pays from what the exception had cost. -/
theorem Costs.catching {handler : ε → Eff σ ε α} (body : Costs potential most thrown m)
    (recover : ∀ e, Costs potential most' thrown' (handler e)) :
    Costs potential (max most (thrown + most')) (thrown + thrown') (Eff.catching m handler) := by
  constructor
  · intro s
    have whole := body.bounded s
    have early := body.onThrow s
    rw [Eff.catching]
    rcases outcome : m s with ⟨(e | _) | a, s'⟩ <;> rw [outcome] at whole early
    · have raised := early e rfl
      have later := (recover e).bounded s'
      simp only at raised ⊢
      omega
    · simp only at whole ⊢
      omega
    · simp only at whole ⊢
      omega
  · intro s e threw
    have early := body.onThrow s
    rw [Eff.catching] at threw ⊢
    rcases outcome : m s with ⟨(e' | _) | a, s'⟩ <;> rw [outcome] at early threw
    · have raised := early e' rfl
      have later := (recover e').onThrow s' e threw
      simp only at raised ⊢
      omega
    · cases threw
    · cases threw

/-- A handler that does nothing. -/
theorem Costs.catching_pure {a : α} (body : Costs potential most thrown m)
    (early : thrown ≤ most) :
    Costs potential most thrown (Eff.catching m fun _ => Pure.pure a) := by
  have nothing : ∀ _ : ε, Costs potential 0 0 (Pure.pure a : Eff σ ε α) :=
    fun _ => .of_leaves (.pure a)
  exact (body.catching nothing).mono (by omega) (by omega)

/-- The rule of `noexcept`: nothing is thrown. -/
theorem Costs.noexcept (body : Costs potential most thrown m) :
    Costs potential most 0 (Eff.noexcept m) := by
  constructor
  · intro s
    rw [noexcept_state]
    exact body.bounded s
  · intro s e threw
    unfold Eff.noexcept at threw
    split at threw
    · cases threw
    · rename_i other
      rcases outcome : m s with ⟨(e' | _) | a, s'⟩
      · exact absurd outcome (other e' s')
      · rw [outcome] at threw
        cases threw
      · rw [outcome] at threw
        cases threw

end SecureDialogues.Effect.Eff
