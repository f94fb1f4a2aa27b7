import Mathlib.Tactic

/-!
# Runs of a deterministic system

A system is a step function over its states and inputs. A property of the steps of a run holds
`Along` the run; an invariant that the steps of a certain kind preserve holds in every state of a
run made of such steps, and gives what it implies at every step. What happens in a run can be
counted from the last time that something else happened.
-/

namespace SecureDialogues.Run

variable {σ ι : Type} (step : σ → ι → σ)

/-- The state after a sequence of inputs. -/
def after (s : σ) (inputs : List ι) : σ := inputs.foldl step s

/-- `P` holds of every input and the state it comes in. -/
def Along (P : σ → ι → Prop) : σ → List ι → Prop
  | _, [] => True
  | s, input :: rest => P s input ∧ Along P (step s input) rest

instance decidableAlong (P : σ → ι → Prop) [∀ s input, Decidable (P s input)] :
    (s : σ) → (inputs : List ι) → Decidable (Along step P s inputs)
  | _, [] => isTrue trivial
  | s, input :: rest =>
    have := decidableAlong P (step s input) rest
    inferInstanceAs (Decidable (P s input ∧ Along step P (step s input) rest))

variable {step}

@[simp] theorem after_append (s : σ) (before inputs : List ι) :
    after step s (before ++ inputs) = after step (after step s before) inputs :=
  List.foldl_append

@[simp] theorem along_nil (P : σ → ι → Prop) (s : σ) : Along step P s [] := trivial

@[simp] theorem along_cons (P : σ → ι → Prop) (s : σ) (input : ι) (rest : List ι) :
    Along step P s (input :: rest) ↔ P s input ∧ Along step P (step s input) rest := Iff.rfl

theorem Along.mono {P Q : σ → ι → Prop} (weaker : ∀ s input, P s input → Q s input) {s : σ}
    {inputs : List ι} (along : Along step P s inputs) : Along step Q s inputs := by
  induction inputs generalizing s with
  | nil => trivial
  | cons input rest ih => exact ⟨weaker _ _ along.1, ih along.2⟩

theorem Along.and {P Q : σ → ι → Prop} {s : σ} {inputs : List ι} (first : Along step P s inputs)
    (second : Along step Q s inputs) : Along step (fun s input => P s input ∧ Q s input) s inputs := by
  induction inputs generalizing s with
  | nil => trivial
  | cons input rest ih => exact ⟨⟨first.1, second.1⟩, ih first.2 second.2⟩

theorem along_append (P : σ → ι → Prop) (s : σ) (before inputs : List ι) :
    Along step P s (before ++ inputs) ↔
      Along step P s before ∧ Along step P (after step s before) inputs := by
  induction before generalizing s with
  | nil => simp [after]
  | cons input rest ih =>
    rw [List.cons_append, along_cons, along_cons, ih, and_assoc]
    rfl

theorem along_of_forall {P : σ → ι → Prop} (always : ∀ s input, P s input) (s : σ)
    (inputs : List ι) : Along step P s inputs := by
  induction inputs generalizing s with
  | nil => trivial
  | cons input rest ih => exact ⟨always s input, ih _⟩

/-- What holds at every turn of the run holds along it. -/
theorem along_of_before {P : σ → ι → Prop} {s : σ} {inputs : List ι}
    (turns : ∀ before input rest, inputs = before ++ input :: rest → P (after step s before) input) :
    Along step P s inputs := by
  induction inputs generalizing s with
  | nil => trivial
  | cons input rest ih =>
    refine ⟨turns [] input rest rfl, ?_⟩
    apply ih
    rintro before later suffix rfl
    exact turns (input :: before) later suffix rfl

theorem along_of_mem {P : ι → Prop} {inputs : List ι} (all : ∀ input ∈ inputs, P input) (s : σ) :
    Along step (fun _ => P) s inputs := by
  induction inputs generalizing s with
  | nil => trivial
  | cons input rest ih =>
    refine ⟨all input List.mem_cons_self, ?_⟩
    apply ih
    intro later member
    exact all later (List.mem_cons_of_mem _ member)

/-- An invariant that steps of the kind `C` preserve holds after a run of such steps. -/
theorem invariant_after {I : σ → Prop} {C : σ → ι → Prop}
    (preserved : ∀ s input, I s → C s input → I (step s input)) {s : σ} (start : I s)
    {inputs : List ι} (kind : Along step C s inputs) : I (after step s inputs) := by
  induction inputs generalizing s with
  | nil => exact start
  | cons input rest ih => exact ih (preserved _ _ start kind.1) kind.2

/-- What an invariant gives at every step of a run of steps of the kind `C`. -/
theorem along_of_invariant {I : σ → Prop} {C P : σ → ι → Prop}
    (preserved : ∀ s input, I s → C s input → I (step s input))
    (implies : ∀ s input, I s → C s input → P s input) {s : σ} (start : I s) {inputs : List ι}
    (kind : Along step C s inputs) : Along step P s inputs := by
  induction inputs generalizing s with
  | nil => trivial
  | cons input rest ih =>
    exact ⟨implies _ _ start kind.1, ih (preserved _ _ start kind.1) kind.2⟩

/-- If under an invariant `I` the condition `C` is what makes a step keep `W`, then a run that
starts with `W` has it after every step exactly if all its steps meet the condition. -/
theorem along_iff_along {I W : σ → Prop} {C : σ → ι → Prop}
    (preserved : ∀ s input, I s → I (step s input))
    (exact : ∀ s input, I s → W s → (W (step s input) ↔ C s input)) {s : σ} (invariant : I s)
    (start : W s) (inputs : List ι) :
    Along step (fun s input => W (step s input)) s inputs ↔ Along step C s inputs := by
  induction inputs generalizing s with
  | nil => rfl
  | cons input rest ih =>
    rw [along_cons, along_cons, exact s input invariant start]
    apply and_congr_right
    intro condition
    apply ih (preserved s input invariant)
    exact (exact s input invariant start).mpr condition

/-- The same for the runs made of steps of a kind. -/
theorem along_iff_along_of {I W : σ → Prop} {K C : σ → ι → Prop}
    (preserved : ∀ s input, I s → K s input → I (step s input))
    (exact : ∀ s input, I s → K s input → W s → (W (step s input) ↔ C s input)) {s : σ}
    (invariant : I s) (start : W s) {inputs : List ι} (kind : Along step K s inputs) :
    Along step (fun s input => W (step s input)) s inputs ↔ Along step C s inputs := by
  induction inputs generalizing s with
  | nil => rfl
  | cons input rest ih =>
    obtain ⟨first, later⟩ := kind
    rw [along_cons, along_cons, exact s input invariant first start]
    apply and_congr_right
    intro condition
    apply ih (preserved s input invariant first) _ later
    exact (exact s input invariant first start).mpr condition

/-! ## What has happened -/

variable (step) in
/-- Somewhere in the run `P` holds of an input and the state it comes in. -/
def Happens (P : σ → ι → Prop) (s : σ) (inputs : List ι) : Prop :=
  ∃ before input later, inputs = before ++ input :: later ∧ P (after step s before) input

theorem Happens.concat {P : σ → ι → Prop} {s : σ} {inputs : List ι}
    (happens : Happens step P s inputs) (input : ι) : Happens step P s (inputs ++ [input]) := by
  obtain ⟨before, occurring, later, rfl, holds⟩ := happens
  exact ⟨before, occurring, later ++ [input], by simp, holds⟩

theorem happens_concat {P : σ → ι → Prop} {s : σ} {inputs : List ι} {input : ι}
    (holds : P (after step s inputs) input) : Happens step P s (inputs ++ [input]) :=
  ⟨inputs, input, [], rfl, holds⟩

/-- An invariant of the run so far and the state it has led to. -/
theorem history_after {I : List ι → σ → Prop} {C : σ → ι → Prop} {s : σ} (start : I [] s)
    (preserved : ∀ inputs input, I inputs (after step s inputs) → C (after step s inputs) input →
      I (inputs ++ [input]) (step (after step s inputs) input))
    {inputs : List ι} (kind : Along step C s inputs) : I inputs (after step s inputs) := by
  induction inputs using List.reverseRecOn with
  | nil => exact start
  | append_singleton before input ih =>
    obtain ⟨first, last⟩ := (along_append C s before [input]).mp kind
    rw [after_append]
    exact preserved before input (ih first) last.1

/-! ## Counting -/

variable (step) in
/-- The inputs of a run, each with the state it comes in. -/
def steps : σ → List ι → List (σ × ι)
  | _, [] => []
  | s, input :: rest => (s, input) :: steps (step s input) rest

theorem steps_append (s : σ) (before inputs : List ι) :
    steps step s (before ++ inputs) =
      steps step s before ++ steps step (after step s before) inputs := by
  induction before generalizing s with
  | nil => rfl
  | cons input rest ih => simp [steps, after, ih]

section

variable (R P : σ → ι → Prop) [∀ s input, Decidable (R s input)]
  [∀ s input, Decidable (P s input)]

variable (step) in
/-- How often `P` has held since `R` last held, or since the start of the run. -/
def countSince (s : σ) (inputs : List ι) : Nat :=
  ((steps step s inputs).reverse.takeWhile fun moment => ¬ R moment.1 moment.2).countP fun moment =>
    P moment.1 moment.2

theorem countSince_concat (s : σ) (inputs : List ι) (input : ι) :
    countSince step R P s (inputs ++ [input]) =
      if R (after step s inputs) input then 0
      else countSince step R P s inputs + if P (after step s inputs) input then 1 else 0 := by
  rw [countSince, steps_append, List.reverse_append]
  by_cases restarts : R (after step s inputs) input
  · simp [steps, restarts]
  · simp [steps, restarts, countSince, List.countP_cons]

end

section

variable {α : Type} (f : σ → ι → Option α)

variable (step) in
/-- What the last step of the run that has a value has. -/
def latest (s : σ) (inputs : List ι) : Option α :=
  (steps step s inputs).reverse.findSome? fun moment => f moment.1 moment.2

theorem latest_concat (s : σ) (inputs : List ι) (input : ι) :
    latest step f s (inputs ++ [input]) =
      (f (after step s inputs) input).or (latest step f s inputs) := by
  simp [latest, steps_append, steps, List.findSome?_cons]
  cases f (after step s inputs) input <;> rfl

end

end SecureDialogues.Run
