import SecureDialogues.Lib.Resumption

/-!
# What the threads of a pool rely on

The notes of a thread may speak of the shared state: what it has read there and found out. They stay
true if every step that the discipline permits leaves true what the other threads have noted; in
return a thread may rely on its own notes between its steps. Notes are taken for the proof only, so
a pool runs the same way whatever its threads note.
-/

namespace SecureDialogues.Effect

variable {A : Type} {R : A → Type} {ε γ δ E σ J : Type}

namespace Prog

/-- What the steps of a pool guarantee: over the worlds `W` and under the invariant `I`, a thread
whose notes are true by `K` makes a step that the discipline permits. -/
structure Pact (D : Discipline A R ε γ) (exec : E → (a : A) → Eff σ ε (R a)) (W : E → Prop)
    (I : σ → Prop) (K : γ → σ → Prop) : Prop where
  /-- Its outcome is possible, the invariant is kept and the new notes are true. -/
  own : ∀ env notes a s, W env → I s → K notes s → D.guard notes a →
    D.possible notes a (exec env a s).1 ∧ I (exec env a s).2 ∧
      K (D.note notes a (exec env a s).1) (exec env a s).2
  /-- The notes of the other threads stay true. -/
  stable : ∀ env notes a s, W env → I s → K notes s → D.guard notes a →
    ∀ others, K others s → K others (exec env a s).2

section Grows

variable {D : Discipline A R ε γ} {α β : Type} {notes : γ} {m : Prog A R ε α} [Preorder γ]

/-- Where no step forgets anything, a program ends with at least the notes it started with. -/
theorem Obeys.grows {Q : Except (Fault ε) α → γ → Prop}
    (monotone : ∀ notes a r, D.possible notes a r → notes ≤ D.note notes a r)
    (obeys : Obeys D notes m Q) : Obeys D notes m fun r notes' => Q r notes' ∧ notes ≤ notes' := by
  induction m generalizing notes with
  | done r => exact ⟨obeys, le_refl notes⟩
  | act a next ih =>
    refine ⟨obeys.1, ?_⟩
    intro r possible
    apply (ih r (obeys.2 r possible)).mono
    rintro outcome notes' ⟨post, later⟩
    exact ⟨post, (monotone notes a r possible).trans later⟩

/-- The rule of sequencing after a part of which only this is known. -/
theorem Obeys.thenGrown {f : α → Prog A R ε β}
    (monotone : ∀ notes a r, D.possible notes a r → notes ≤ D.note notes a r)
    (first : Obeys D notes m fun _ _ => True)
    (rest : ∀ a notes', notes ≤ notes' → Obeys D notes' (f a) fun _ _ => True) :
    Obeys D notes (m >>= f) fun _ _ => True := by
  apply (first.grows monotone).bind
  · rintro a notes' ⟨-, later⟩
    exact rest a notes' later
  · intro e notes' _
    trivial

end Grows

/-- The discipline of a program that takes no notes. -/
def Discipline.silent : Discipline A R ε Unit where
  guard _ _ := True
  possible _ _ _ := True
  note _ _ _ := ()

end Prog

namespace Pool

section Sound

variable {D : Prog.Discipline A R ε γ} {exec : E → (a : A) → Eff σ ε (R a)}
  {program : E → J → Prog A R ε Unit} {blank : γ} {W : E → Prop} {I : σ → Prop} {K : γ → σ → Prop}

variable (D W I K) in
/-- The invariant holds, the threads keep the discipline, and their notes are true. -/
structure IsSound (pool : Pool A R ε γ E σ) : Prop where
  invariant : I pool.state
  worlds : ∀ thread ∈ pool.threads, W thread.env
  notes : ∀ thread ∈ pool.threads, K thread.notes pool.state
  disciplined : pool.IsDisciplined D

variable {pool : Pool A R ε γ E σ}

/-- Soundness is kept in every interleaving. -/
theorem IsSound.step (pact : Prog.Pact D exec W I K) (blankTrue : ∀ s, I s → K blank s)
    {next : Schedule E J}
    (started : ∀ env job, next = .start env job →
      W env ∧ Prog.Obeys D blank (program env job) fun _ _ => True)
    (sound : pool.IsSound D W I K) : (pool.step D exec program blank next).IsSound D W I K := by
  unfold Pool.step
  split
  · exact sound
  cases next with
  | start env job =>
    obtain ⟨world, obeys⟩ := started env job rfl
    refine ⟨sound.invariant, ?_, ?_, ?_⟩ <;> intro thread member <;>
      rcases List.mem_append.mp member with old | new
    · exact sound.worlds thread old
    · rw [List.mem_singleton.mp new]
      exact world
    · exact sound.notes thread old
    · rw [List.mem_singleton.mp new]
      exact blankTrue _ sound.invariant
    · exact sound.disciplined thread old
    · rw [List.mem_singleton.mp new]
      exact obeys
  | advance i =>
    simp only [advance]
    rcases turn : pool.threads[i]? with _ | ⟨env, _ | ⟨a, rest⟩, notes⟩
    · exact sound
    · exact sound
    have member := List.mem_of_getElem? turn
    have allowed := sound.disciplined _ member
    have world : W env := sound.worlds _ member
    have truth : K notes pool.state := sound.notes _ member
    obtain ⟨possible, invariant, noted⟩ :=
      pact.own env notes a pool.state world sound.invariant truth allowed.1
    refine ⟨invariant, ?_, ?_, ?_⟩ <;> intro thread present <;>
      rcases List.mem_or_eq_of_mem_set present with old | rfl
    · exact sound.worlds thread old
    · exact world
    · exact pact.stable env notes a pool.state world sound.invariant truth allowed.1 _
        (sound.notes thread old)
    · exact noted
    · exact sound.disciplined thread old
    · exact allowed.2 _ possible

/-- The step that is made next is a permitted one, by a thread whose notes are true. -/
theorem IsSound.upcoming (sound : pool.IsSound D W I K) {next : Schedule E J} {notes : γ} {a : A}
    (coming : pool.upcoming next = some (notes, a)) : D.guard notes a ∧ K notes pool.state := by
  unfold Pool.upcoming at coming
  split at coming
  · cases coming
  cases next with
  | start env job => cases coming
  | advance i =>
    rcases turn : pool.threads[i]? with _ | ⟨env, _ | ⟨b, rest⟩, noted⟩ <;>
      simp only [turn] at coming <;> cases coming
    have member := List.mem_of_getElem? turn
    exact ⟨(sound.disciplined _ member).1, sound.notes _ member⟩

end Sound

/-! ## The run without the notes -/

section Forget

/-- The pool without the notes of its threads. -/
def forget (pool : Pool A R ε γ E σ) : Pool A R ε Unit E σ where
  state := pool.state
  threads := pool.threads.map fun thread => ⟨thread.env, thread.rest, ()⟩

variable (D : Prog.Discipline A R ε γ) (exec : E → (a : A) → Eff σ ε (R a))
  (program : E → J → Prog A R ε Unit) (blank : γ) (pool : Pool A R ε γ E σ)

@[simp] theorem state_forget : pool.forget.state = pool.state := rfl

@[simp] theorem isTerminated_forget : pool.forget.isTerminated = pool.isTerminated := by
  simp only [isTerminated, forget, List.any_map, Function.comp_def]

theorem getElem?_forget (i : Nat) : pool.forget.threads[i]? =
    pool.threads[i]?.map fun thread => ⟨thread.env, thread.rest, ()⟩ := by
  simp only [forget, List.getElem?_map]

/-- What is made next does not depend on the notes. -/
theorem upcoming_forget (next : Schedule E J) :
    pool.forget.upcoming next = (pool.upcoming next).map fun made => ((), made.2) := by
  unfold upcoming
  rw [isTerminated_forget]
  split
  · rfl
  · cases next with
    | start env job => rfl
    | advance i =>
      simp only [getElem?_forget]
      rcases pool.threads[i]? with _ | ⟨env, _ | ⟨a, rest⟩, notes⟩ <;> rfl

theorem forget_step (next : Schedule E J) : (pool.step D exec program blank next).forget =
    pool.forget.step Prog.Discipline.silent exec program () next := by
  unfold step
  rw [isTerminated_forget]
  split
  · rfl
  · cases next with
    | start env job => simp [forget]
    | advance i =>
      simp only [advance, getElem?_forget]
      rcases pool.threads[i]? with _ | ⟨env, _ | ⟨a, rest⟩, notes⟩
      · rfl
      · rfl
      · simp [forget, List.map_set, Prog.Discipline.silent]

/-- The run does not depend on the notes. -/
theorem forget_after (turns : List (Schedule E J)) :
    (Run.after (step D exec program blank) pool turns).forget =
      Run.after (step Prog.Discipline.silent exec program ()) pool.forget turns := by
  induction turns generalizing pool with
  | nil => rfl
  | cons next rest ih =>
    have later := ih (pool.step D exec program blank next)
    rw [forget_step] at later
    exact later

variable (D' : Prog.Discipline A R ε δ) (blank' : δ) {pool}

/-- Two pools that differ in their notes go through the same states, and make the same steps. -/
theorem after_eq_of_forget {pool' : Pool A R ε δ E σ} (same : pool.forget = pool'.forget)
    (turns : List (Schedule E J)) :
    (Run.after (step D exec program blank) pool turns).state =
        (Run.after (step D' exec program blank') pool' turns).state ∧
      ∀ next : Schedule E J,
        ((Run.after (step D exec program blank) pool turns).upcoming next).map Prod.snd =
          ((Run.after (step D' exec program blank') pool' turns).upcoming next).map Prod.snd := by
  have both : (Run.after (step D exec program blank) pool turns).forget =
      (Run.after (step D' exec program blank') pool' turns).forget := by
    rw [forget_after, forget_after, same]
  refine ⟨congrArg Pool.state both, ?_⟩
  intro next
  have coming := congrArg (fun bare => (bare.upcoming next).map Prod.snd) both
  simp only [upcoming_forget, Option.map_map] at coming
  exact coming

end Forget

end Pool

end SecureDialogues.Effect
